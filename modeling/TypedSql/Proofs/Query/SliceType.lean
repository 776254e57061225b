import TypedSql.Query.Signature
import TypedSql.Script.TypeReader

/-!
Types of list parameters. The suffixes of a declared type are read one after the other: the first
makes an array of the type of one element, if that type is no union, and the second, which stands
there at most once, a union of this array and null.
-/

namespace TypedSql

namespace Script

def nullType : TypeSyntax :=
  .operand "null".toList

/-- Whether a type is one operand, with no bar around it. -/
def TypeSyntax.isOperand : TypeSyntax → Bool
  | union _ _ => false
  | _ => true

/-- The type that an index gives, where every value of the type has one. -/
def TypeSyntax.element? : TypeSyntax → Option TypeSyntax
  | array element => some element
  | _ => none

variable {state : TypeState} {type element : TypeSyntax} {text : List Char}

/-- Empty brackets after a type make an array of it. -/
theorem bracketed_empty {part : TypePart} (h : part.type? = some type) :
    part.bracketed "[]".toList = some (.closed (.array type)) := by
  cases part with
  | empty => cases h
  | name text =>
      rw [TypePart.type?] at h
      split at h
      · cases h
      · next hname =>
          obtain rfl := Option.some.inj h
          rw [TypePart.bracketed, if_neg hname]
          rfl
  | closed type =>
      obtain rfl := Option.some.inj h
      rfl

theorem step_arraySuffix (hclosers : state.closers = []) (h : state.part.type? = some type) :
    "[]".toList.foldlM TypeState.step state =
      some ⟨state.union, .closed (.array type), [], []⟩ := by
  obtain ⟨union, part, inside, closers⟩ := state
  obtain rfl : closers = [] := hclosers
  have hsteps : "[]".toList.foldlM TypeState.step ⟨union, part, inside, []⟩ =
      (part.bracketed "[]".toList).map fun part => ⟨union, part, [], []⟩ := by
    change ((part.bracketed "[]".toList).map fun part => TypeState.mk union part [] []) >>= some = _
    exact bind_pure _
  rw [hsteps, bracketed_empty h]
  rfl

/-- The reading of a type that is one operand leaves no members before it. -/
theorem exists_state (h : readType? text = some element) (hoperand : element.isOperand = true) :
    ∃ state : TypeState, text.foldlM TypeState.step {} = some state ∧ state.union = none ∧
      state.closers = [] ∧ state.part.type? = some element := by
  obtain ⟨⟨union, part, inside, closers⟩, hstate, htype⟩ := Option.bind_eq_some_iff.mp h
  rw [TypeState.type?] at htype
  split at htype
  · next hclosers =>
      obtain ⟨member, hmember, hjoined⟩ := Option.map_eq_some_iff.mp htype
      cases union with
      | none =>
          obtain rfl : member = element := hjoined
          exact ⟨_, hstate, rfl, hclosers, hmember⟩
      | some union =>
          rw [← hjoined] at hoperand
          cases hoperand
  · cases htype

/-- The suffix of an array takes in a type that is one operand. -/
theorem foldlM_arraySuffix (h : readType? text = some element)
    (hoperand : element.isOperand = true) :
    (text ++ "[]".toList).foldlM TypeState.step {} =
      some ⟨none, .closed (.array element), [], []⟩ := by
  obtain ⟨state, hstate, hunion, hclosers, htype⟩ := exists_state h hoperand
  rw [List.foldlM_append, hstate, ← hunion]
  exact step_arraySuffix hclosers htype

theorem readType?_arraySuffix (h : readType? text = some element)
    (hoperand : element.isOperand = true) :
    readType? (text ++ "[]".toList) = some (.array element) := by
  rw [readType?, foldlM_arraySuffix h hoperand]
  rfl

theorem readType?_arraySuffix_orNull (h : readType? text = some element)
    (hoperand : element.isOperand = true) :
    readType? (text ++ "[]".toList ++ " | null".toList) =
      some (.union (.array element) nullType) := by
  rw [readType?, List.foldlM_append, foldlM_arraySuffix h hoperand]
  rfl

end Script

namespace Query

open Script

/-- Whether a parameter may be null: by itself, or by the schema's declaration of its column. -/
def allowsNull (catalog : Catalog) (column : Column) : Bool :=
  !column.notNull || (catalog.declaration? column).any fun declared => !declared.notNull

/-- Of two reasons for null, the second adds it only where the first did not. -/
theorem orNull_append (first second : Bool) :
    TypeTable.orNull (!first) ++ TypeTable.orNull (first && second) =
      TypeTable.orNull (!first || second) := by
  cases first with
  | false => apply String.append_empty
  | true => apply String.empty_append

theorem type_paramField (catalog : Catalog) (types : TypeTable) (param : Param) :
    (paramField catalog types param).type =
      types.scalar param.column.sqlType ++ (if param.column.isSlice then "[]" else "") ++
        TypeTable.orNull (allowsNull catalog param.column) := by
  rw [paramField, TypeTable.column]
  dsimp only
  rw [String.append_assoc]
  congr 1
  apply orNull_append

theorem isOperand_builtIn {sqlType codeType : String}
    (h : (sqlType, codeType) ∈ TypeTable.builtIn) :
    ∃ element, readType? codeType.toList = some element ∧ element.isOperand = true := by
  have hall : ∀ entry ∈ TypeTable.builtIn,
      ((readType? entry.2.toList).any TypeSyntax.isOperand) = true := by decide +kernel
  obtain ⟨element, helement, hoperand⟩ := (Option.any_eq_true ..).mp (hall _ h)
  exact ⟨element, helement, hoperand⟩

/-- The type of a list parameter is an array of the whole type of one element, or the union of that
array with null where the column or its declaration allows null, if the type of one element is an
operand, as every built-in type is. Then elements may be taken exactly where null is not allowed. -/
theorem sliceTypes_read :
    (∀ sqlType codeType, (sqlType, codeType) ∈ TypeTable.builtIn →
      ∃ element, readType? codeType.toList = some element ∧ element.isOperand = true) ∧
    ∀ (catalog : Catalog) (overrides : List TypeOverride) (query : Query) (i : Nat) (param : Param)
      (element : TypeSyntax),
      query.params[i]? = some param → param.column.isSlice = true →
      readType? ((TypeTable.ofOverrides overrides).scalar param.column.sqlType).toList =
        some element →
      element.isOperand = true →
      ∃ declaration field type,
        query.paramsType? catalog (TypeTable.ofOverrides overrides) = some declaration ∧
        declaration.fields[i]? = some field ∧ field.name = param.column.property ∧
        readType? field.type.toList = some type ∧
        type = (if allowsNull catalog param.column then .union (.array element) nullType
          else .array element) ∧
        type.element? = (if allowsNull catalog param.column then none else some element) := by
  refine ⟨fun _ _ => isOperand_builtIn, ?_⟩
  intro catalog overrides query i param element hparam hslice helement hoperand
  have hne : query.params ≠ [] := by
    intro hnil
    simp [hnil] at hparam
  let types := TypeTable.ofOverrides overrides
  have hfield : (query.params.map (paramField catalog types))[i]? =
      some (paramField catalog types param) := by
    rw [List.getElem?_map, hparam, Option.map_some]
  have htype := type_paramField catalog types param
  rw [if_pos hslice] at htype
  cases hnull : allowsNull catalog param.column with
  | false =>
      refine ⟨_, _, .array element, if_neg hne, hfield, rfl, ?_, rfl, rfl⟩
      rw [htype, hnull, String.toList_append, String.toList_append]
      simpa [TypeTable.orNull] using readType?_arraySuffix helement hoperand
  | true =>
      refine ⟨_, _, .union (.array element) nullType, if_neg hne, hfield, rfl, ?_, rfl, rfl⟩
      rw [htype, hnull, String.toList_append, String.toList_append]
      exact readType?_arraySuffix_orNull helement hoperand

def songGenres : Catalog where
  schemas := [{ tables := [⟨⟨"song"⟩, [{ name := "genre", sqlType := "genre" }]⟩] }]

def someGenre : Column where
  name := "genre"
  sqlType := "Genre"
  notNull := true
  isSlice := true
  table := some ⟨"song"⟩

def songsOfGenres : Query where
  name := "SongsOfGenres"
  command := .many
  text := "SELECT 1 FROM song WHERE year = ?1 AND genre IN (/*SLICE:genres*/?)"
  params := [⟨1, { name := "year", sqlType := "INTEGER", notNull := true }⟩,
    ⟨2, someGenre⟩]

theorem sliceTypes_read_songsOfGenres :
    (∃ element, readType? "ArrayBuffer".toList = some element ∧ element.isOperand = true) ∧
    ∃ declaration field type,
      songsOfGenres.paramsType? songGenres (TypeTable.ofOverrides
        [⟨"genre", "Map<string, 'pop' | 'jazz'>"⟩]) = some declaration ∧
      declaration.fields[1]? = some field ∧ readType? field.type.toList = some type ∧
      type = .union (.array (.operand "Map<string, 'pop' | 'jazz'>".toList)) nullType := by
  obtain ⟨declaration, field, type, hdeclaration, hfield, -, htype, hunion, -⟩ :=
    sliceTypes_read.2 songGenres [⟨"genre", "Map<string, 'pop' | 'jazz'>"⟩] songsOfGenres 1 _
      (.operand "Map<string, 'pop' | 'jazz'>".toList) rfl rfl (by decide +kernel) rfl
  refine ⟨sliceTypes_read.1 "BLOB" "ArrayBuffer" (by decide), declaration, field, type,
    hdeclaration, hfield, htype, ?_⟩
  rw [hunion]
  decide +kernel

/-- A list parameter that may be null by itself is no array. -/
def songsById : Query where
  name := "SongsById"
  command := .many
  text := "SELECT 1 FROM song WHERE id IN (/*SLICE:ids*/?)"
  params := [⟨1, { name := "ids", sqlType := "INTEGER", isSlice := true }⟩]

theorem sliceTypes_songsById :
    ¬ ∀ (catalog : Catalog) (overrides : List TypeOverride) (query : Query),
      ∀ param ∈ query.params, param.column.isSlice = true →
        ∃ element, readType? ((TypeTable.ofOverrides overrides).scalar
            param.column.sqlType).toList = some element ∧
          readType? (paramField catalog (TypeTable.ofOverrides overrides) param).type.toList =
            some (.array element) := by
  intro h
  obtain ⟨element, helement, htype⟩ := h {} [] songsById _ (List.mem_cons_self ..) rfl
  have hnumber : readType? ((TypeTable.ofOverrides []).scalar "INTEGER").toList =
      some (.operand "number".toList) := by decide +kernel
  obtain rfl := Option.some.inj (hnumber.symm.trans helement)
  revert htype
  decide +kernel

end Query

end TypedSql
