import Mathlib.Data.List.Basic
import TypedSql.Proofs.Script.Items
import TypedSql.Script.ModelsReader

/-!
The file of model types, read back. Its types are lines, and a line is read for what it is by its
first characters alone: a property's line is indented, so it never looks like the line that closes a
type, whatever its name and its type hold. Only line ends in them, or a colon in a name, would break
this.
-/

namespace TypedSql.Script

def unlines (lines : List (List Char)) : List Char :=
  lines.flatMap (· ++ ['\n'])

/-- Lines are read back, with the empty piece behind the last line end. -/
theorem splitOn_unlines {lines : List (List Char)} (h : ∀ line ∈ lines, '\n' ∉ line) :
    (unlines lines).splitOn '\n' = lines ++ [[]] := by
  induction lines with
  | nil => rfl
  | cons line rest ih =>
      rw [List.forall_mem_cons] at h
      have hlines : unlines (line :: rest) = line ++ '\n' :: unlines rest := by
        rw [unlines, List.flatMap_cons, List.append_assoc]
        rfl
      rw [hlines, List.splitOn_append_cons_self_of_not_mem h.1, ih h.2, List.cons_append]

theorem before?_append (text back : List Char) : before? back (text ++ back) = some text := by
  rw [before?, List.reverse_append, Text.after?_append, Option.map_some, List.reverse_reverse]

def Field.line (field : Field) : List Char :=
  [' ', ' '] ++ (field.name.toList ++ ([':', ' '] ++ (field.type.toList ++ [';'])))

def openingLine (name : String) : List Char :=
  ("export type " ++ name ++ " = \x7b").toList

/-- The lines of a type: the one that opens it, one for every property, the one that closes it, and
an empty line. -/
def TypeDeclaration.lines (declaration : TypeDeclaration) : List (List Char) :=
  openingLine declaration.name :: declaration.fields.map Field.line ++ [['\x7d', ';'], []]

section Reading

theorem openingLine_eq (name : String) :
    openingLine name = "export type ".toList ++ (name.toList ++ " = \x7b".toList) := by
  rw [openingLine, String.toList_append, String.toList_append, List.append_assoc]

theorem openingLine_ne_nil (name : String) : openingLine name ≠ [] := by
  simp [openingLine]

theorem readOpening?_openingLine (name : String) : readOpening? (openingLine name) = some name := by
  rw [openingLine_eq]
  unfold readOpening?
  simp only [Text.after?_append, Option.bind_eq_bind, Option.bind_some, before?_append]
  exact congrArg some String.ofList_toList

/-- A name ends at the first colon, and a type before the last semicolon. -/
theorem readField?_line {field : Field} (h : ':' ∉ field.name.toList) :
    readField? field.line = some field := by
  have hname : ∀ c ∈ field.name.toList, (c != ':') = true := by
    intro c hc
    rw [bne_iff_ne]
    rintro rfl
    exact h hc
  have hline : Text.after? [' ', ' '] field.line =
      some (field.name.toList ++ ([':', ' '] ++ (field.type.toList ++ [';']))) :=
    Text.after?_append _ _
  rw [readField?, hline]
  simp only [Option.bind_eq_bind, Option.bind_some, List.takeWhile_append_of_pos hname,
    List.dropWhile_append_of_pos hname]
  simp [Text.after?, before?_append]

theorem readFields?_append {fields : List Field} (h : ∀ field ∈ fields, ':' ∉ field.name.toList)
    (rest : List (List Char)) :
    readFields? (fields.map Field.line ++ ['\x7d', ';'] :: rest) = some (fields, rest) := by
  induction fields with
  | nil =>
      rw [List.map_nil, List.nil_append, readFields?]
      exact if_pos rfl
  | cons field fields ih =>
      rw [List.forall_mem_cons] at h
      -- The indentation keeps the line apart from the one that closes the type.
      have hindent : field.line ≠ ['\x7d', ';'] := by
        intro hline
        cases hline
      rw [List.map_cons, List.cons_append, readFields?, if_neg hindent, readField?_line h.1,
        ih h.2]
      rfl

theorem readTypes?_cons {declaration : TypeDeclaration} (hexported : declaration.exported = true)
    (h : ∀ field ∈ declaration.fields, ':' ∉ field.name.toList) (rest : List (List Char)) :
    readTypes? (declaration.lines ++ rest) = (readTypes? rest).map (declaration :: ·) := by
  have hlines : declaration.lines ++ rest = openingLine declaration.name ::
      (declaration.fields.map Field.line ++ ['\x7d', ';'] :: [] :: rest) := by
    simp [TypeDeclaration.lines]
  have hfields : readFields? (declaration.fields.map Field.line ++ ['\x7d', ';'] :: [] :: rest) =
      some (declaration.fields, [] :: rest) := readFields?_append h ([] :: rest)
  rw [hlines, readTypes?, readOpening?_openingLine]
  · dsimp only
    split
    · next fields more hfound =>
        rw [hfields] at hfound
        obtain ⟨rfl, hrest⟩ := Prod.mk.inj (Option.some.inj hfound)
        rw [(List.cons.inj hrest).2, ← hexported]
    · next hother => exact absurd hfields (hother _ _)
  · intro hopening
    exact absurd hopening (openingLine_ne_nil declaration.name)

theorem readTypes?_lines {declarations : List TypeDeclaration}
    (hexported : ∀ declaration ∈ declarations, declaration.exported = true)
    (h : ∀ declaration ∈ declarations, ∀ field ∈ declaration.fields, ':' ∉ field.name.toList) :
    readTypes? (declarations.flatMap TypeDeclaration.lines ++ [[]]) = some declarations := by
  induction declarations with
  | nil => simp [readTypes?]
  | cons declaration rest ih =>
      rw [List.forall_mem_cons] at hexported h
      rw [List.flatMap_cons, List.append_assoc, readTypes?_cons hexported.1 h.1,
        ih hexported.2 h.2, Option.map_some]

end Reading

section Writing

theorem toList_item_text {declaration : TypeDeclaration} (hexported : declaration.exported = true) :
    declaration.item.text.toList = unlines declaration.lines := by
  have hfields : (String.join (declaration.fields.map fun field =>
      "  " ++ field.name ++ ": " ++ field.type ++ ";\n")).toList =
      unlines (declaration.fields.map Field.line) := by
    simp [unlines, Field.line, String.toList_join, List.flatMap_map]
  rw [TypeDeclaration.item, Item.text, hexported, Item.exportText, if_pos rfl]
  simp only [String.toList_append, hfields, TypeDeclaration.lines, openingLine]
  simp [unlines]

/-- The file is its banner, an empty line, and the lines of its types. -/
theorem toList_modelsText (catalog : Catalog) (types : TypeTable) (banner : String) :
    (modelsText catalog types banner).toList = banner.toList ++ ['\n'] ++
      unlines ((models catalog types).flatMap TypeDeclaration.lines) := by
  have hexported : ∀ declaration ∈ models catalog types, declaration.exported = true := by
    intro declaration hmem
    obtain ⟨table, -, rfl⟩ := List.mem_map.mp hmem
    rfl
  have hitems : (String.join ((modelItems catalog types).map Item.text)).toList =
      unlines ((models catalog types).flatMap TypeDeclaration.lines) := by
    rw [String.toList_join, modelItems, List.map_map, List.flatMap_map, unlines, List.flatMap_assoc]
    apply List.flatMap_congr
    intro declaration hmem
    exact toList_item_text (hexported declaration hmem)
  rw [modelsText_eq, fileText, String.toList_append, String.toList_append, hitems]
  rfl

end Writing

/-- The names and types that a file of model types is made of have no line ends, and the names of
properties no colons. -/
structure Legible (catalog : Catalog) (types : TypeTable) : Prop where
  names : ∀ table ∈ catalog.tables, '\n' ∉ table.rel.modelName.toList
  properties : ∀ table ∈ catalog.tables, ∀ column ∈ table.columns,
    '\n' ∉ column.property.toList ∧ ':' ∉ column.property.toList
  types : ∀ table ∈ catalog.tables, ∀ column ∈ table.columns,
    '\n' ∉ (types.column column).toList

section RoundTrip

variable {catalog : Catalog} {types : TypeTable}

theorem Legible.newline_notMem_line (h : Legible catalog types) {table : Table}
    (htable : table ∈ catalog.tables) {column : Column} (hcolumn : column ∈ table.columns) :
    '\n' ∉ (modelField types column).line := by
  have hname := (h.properties table htable column hcolumn).1
  have htype := h.types table htable column hcolumn
  simp [Field.line, modelField, hname, htype]

theorem Legible.newline_notMem (h : Legible catalog types) :
    ∀ line ∈ (models catalog types).flatMap TypeDeclaration.lines, '\n' ∉ line := by
  intro line hline
  obtain ⟨declaration, hdeclaration, hline⟩ := List.mem_flatMap.mp hline
  obtain ⟨table, htable, rfl⟩ := List.mem_map.mp hdeclaration
  rcases List.mem_cons.mp hline with rfl | hline
  · have hname := h.names table htable
    simp [openingLine, model, hname]
  rcases List.mem_append.mp hline with hline | hline
  · rw [model, List.map_map] at hline
    obtain ⟨column, hcolumn, rfl⟩ := List.mem_map.mp hline
    exact h.newline_notMem_line htable hcolumn
  · rcases List.mem_pair.mp hline with rfl | rfl
    · decide
    · exact List.not_mem_nil

theorem Legible.readModels?_modelsText (h : Legible catalog types) (banner : String) :
    readModels? banner (modelsText catalog types banner) = some (models catalog types) := by
  have htypes : readTypes? ((models catalog types).flatMap TypeDeclaration.lines ++ [[]]) =
      some (models catalog types) := by
    apply readTypes?_lines
    · intro declaration hdeclaration
      obtain ⟨table, -, rfl⟩ := List.mem_map.mp hdeclaration
      rfl
    · intro declaration hdeclaration field hfield
      obtain ⟨table, htable, rfl⟩ := List.mem_map.mp hdeclaration
      obtain ⟨column, hcolumn, rfl⟩ := List.mem_map.mp hfield
      exact (h.properties table htable column hcolumn).2
  rw [readModels?, toList_modelsText, Text.after?_append, Option.bind_eq_bind, Option.bind_some,
    splitOn_unlines h.newline_notMem, htypes]

end RoundTrip

/-- The types are read back from a file of legible names and types: one for every table of every
schema, in order, with a property for every column, in order. So two such files with one banner are
the same file only if they declare the same types. -/
theorem modelsText_readBack (catalog : Catalog) (types : TypeTable) (banner : String)
    (h : Legible catalog types) :
    readModels? banner (modelsText catalog types banner) =
      some (catalog.schemas.flatMap fun schema => schema.tables.map fun table =>
        ⟨table.rel.modelName, true, table.columns.map fun column =>
          ⟨column.property, types.column column⟩⟩) ∧
    ∀ (other : Catalog) (otherTypes : TypeTable), Legible other otherTypes →
      (modelsText other otherTypes banner = modelsText catalog types banner ↔
        models other otherTypes = models catalog types) := by
  have hread := h.readModels?_modelsText banner
  refine ⟨?_, ?_⟩
  · rw [hread, models, Catalog.tables, List.map_flatMap]
    rfl
  · intro other otherTypes hother
    constructor
    · intro hfiles
      rw [← Option.some_inj, ← hread, ← hother.readModels?_modelsText banner, hfiles]
    · intro hmodels
      rw [modelsText, modelsText, hmodels]

/-- Two schemas, a table without columns, and a type that looks like the end of a type. -/
def albums : Catalog where
  schemas := [
    { tables := [⟨⟨"album"⟩, [{ name := "cover_art", sqlType := "IMAGE", notNull := true },
      { name := "year", sqlType := "INTEGER" }]⟩, ⟨⟨"label"⟩, []⟩] },
    { tables := [⟨⟨"old_album"⟩, [{ name := "tags", sqlType := "JSON", isSlice := true }]⟩] }]

def albumTypes : TypeTable :=
  .ofOverrides [⟨"IMAGE", "\x7b url: string \x7d;"⟩]

theorem modelsText_readBack_albums :
    Legible albums albumTypes ∧
      readModels? "// types\n" (modelsText albums albumTypes "// types\n") =
        some [⟨"Album", true, [⟨"coverArt", "\x7b url: string \x7d;"⟩, ⟨"year", "number | null"⟩]⟩,
          ⟨"Label", true, []⟩, ⟨"OldAlbum", true, [⟨"tags", "string[] | null"⟩]⟩] := by
  have hlegible : Legible albums albumTypes :=
    ⟨by decide +kernel, by decide +kernel, by decide +kernel⟩
  refine ⟨hlegible, (modelsText_readBack albums albumTypes "// types\n" hlegible).1.trans ?_⟩
  decide +kernel

end TypedSql.Script
