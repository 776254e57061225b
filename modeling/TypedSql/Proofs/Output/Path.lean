import Mathlib.Data.List.DropRight
import TypedSql.Output.Path

/-!
Pieces of paths. A plain file name is a name and maybe pieces that mean nothing. The pieces of a
name in a directory are those of the directory and then those of the name, but slashes may lie
between, so that one empty piece of the directory is lost. The path of the directory itself does
not depend on the name: it has the first pieces of the directory as it was given.
-/

namespace TypedSql.Path

def split (path : String) : List (List Char) :=
  path.toList.splitOn '/'

/-- The pieces of a directory that stand before the pieces of a name in it. -/
def piecesBefore (directory : String) : List (List Char) :=
  if directory = "" then []
  else if directory.toList.getLast? = some '/' then (split directory).dropLast
  else split directory

def parent (path : String) : String :=
  (parents path).head?.getD ""

/-- The path of a directory without pieces at its end that mean nothing. -/
def trimmed (directory : String) : String :=
  match piecesBefore directory with
  | [] => ""
  | first :: rest => ofPieces first (rest.rdropWhile isIdle)

/-- A path that has the first pieces of a directory, or none at all. -/
def IsPart (directory path : String) : Prop :=
  path = "" ∨ path = "/" ∨ split path <+: split directory

variable {path directory name : String} {piece first : List Char}
  {rest before : List (List Char)}

theorem component?_eq_none : component? piece = none ↔ isIdle piece = true := by
  rw [component?]
  split
  · next hidle => simp [hidle]
  · next hidle => split <;> simp [hidle]

theorem component?_eq_normal {text : List Char} (h : component? piece = some (.normal text)) :
    text = piece ∧ isIdle piece = false ∧ piece ≠ ['.', '.'] := by
  rw [component?] at h
  split at h
  · cases h
  · next hidle =>
      split at h
      · cases h
      · next hdots =>
          obtain rfl : piece = text := Component.normal.inj (Option.some.inj h)
          exact ⟨rfl, Bool.eq_false_iff.mpr hidle, hdots⟩

theorem component?_cases (piece : List Char) :
    isIdle piece = true ∨ piece = ['.', '.'] ∨ component? piece = some (.normal piece) := by
  rw [component?]
  by_cases hidle : isIdle piece = true
  · exact Or.inl hidle
  · by_cases hdots : piece = ['.', '.']
    · exact Or.inr (Or.inl hdots)
    · rw [if_neg hidle, if_neg hdots]
      exact Or.inr (Or.inr rfl)

/-- A plain name is one piece that leads into a directory, and pieces that mean nothing. -/
theorem split_of_isPlainName (h : isPlainName name = true) :
    ∃ base rest, split name = base :: rest ∧ component? base = some (.normal base) ∧
      ∀ piece ∈ rest, isIdle piece = true := by
  rw [isPlainName, components] at h
  split at h
  · next text hcomponents =>
      cases hsplit : split name with
      | nil => exact absurd hsplit (List.splitOn_ne_nil _ _)
      | cons base rest =>
          rw [split] at hsplit
          rw [hsplit] at hcomponents
          dsimp only at hcomponents
          by_cases hempty : base = []
          · by_cases hrest : rest = [] <;> simp [hempty, hrest] at hcomponents
          · by_cases hdot : base = ['.']
            · simp [hdot] at hcomponents
            · rw [if_neg hempty, if_neg hdot] at hcomponents
              cases hbase : component? base with
              | none =>
                  have hidle := component?_eq_none.mp hbase
                  simp [isIdle, hempty, hdot] at hidle
              | some component =>
                  rw [hbase] at hcomponents
                  obtain ⟨rfl, hrest⟩ := List.cons.inj hcomponents
                  obtain ⟨rfl, -⟩ := component?_eq_normal hbase
                  refine ⟨_, rest, rfl, hbase, ?_⟩
                  intro piece hpiece
                  exact component?_eq_none.mp (List.filterMap_eq_nil_iff.mp hrest piece hpiece)
  · cases h

theorem slash_notMem_of_mem_split (h : piece ∈ split path) : '/' ∉ piece := by
  have hpieces : ∀ text : List Char, ∀ piece ∈ text.splitOn '/', '/' ∉ piece := by
    intro text
    induction text with
    | nil => simp
    | cons c text ih =>
        rw [List.splitOn_cons_eq_if_modifyHead]
        split
        · simpa using ih
        · next hc =>
            cases hsplit : text.splitOn '/' with
            | nil => simp
            | cons head tail =>
                rw [hsplit] at ih
                obtain ⟨hhead, htail⟩ := List.forall_mem_cons.mp ih
                refine List.forall_mem_cons.mpr ⟨?_, htail⟩
                intro hmem
                rcases List.mem_cons.mp hmem with rfl | hmem
                · simp at hc
                · exact hhead hmem
  exact hpieces _ piece h

/-- A path is one piece exactly if it has no slash. -/
theorem slash_notMem_iff : '/' ∉ path.toList ↔ split path = [path.toList] := by
  constructor
  · exact List.splitOn_eq_singleton
  · intro h
    exact slash_notMem_of_mem_split (h ▸ List.mem_singleton_self _)

theorem eq_of_split_eq_singleton (h : split path = [piece]) : piece = path.toList := by
  have htext : ['/'].intercalate (split path) = path.toList := List.intercalate_splitOn '/'
  rw [← htext, h]
  simp [List.intercalate]

theorem split_join (directory name : String) :
    split (join directory name) = piecesBefore directory ++ split name := by
  rw [join, piecesBefore]
  split
  · rfl
  · split
    · next hlast =>
        obtain ⟨front, hfront⟩ := List.getLast?_eq_some_iff.mp hlast
        have hdirectory : split directory = front.splitOn '/' ++ [[]] := by
          rw [split, hfront, List.splitOn_append_cons_self, List.splitOn_nil]
        rw [hdirectory, List.dropLast_concat, split, String.toList_append, hfront,
          List.append_assoc]
        exact List.splitOn_append_cons_self ..
    · rw [split, String.toList_append, String.toList_append, List.append_assoc]
      exact List.splitOn_append_cons_self ..

/-- Of the pieces of a directory at most an empty one at the end is lost. -/
theorem split_eq_piecesBefore (directory : String) :
    split directory = piecesBefore directory ∨
      split directory = piecesBefore directory ++ [[]] := by
  rw [piecesBefore]
  split
  · next hempty =>
      right
      rw [hempty]
      rfl
  · split
    · next hlast =>
        right
        obtain ⟨front, hfront⟩ := List.getLast?_eq_some_iff.mp hlast
        rw [split, hfront, List.splitOn_append_cons_self, List.splitOn_nil, List.dropLast_concat]
    · left
      rfl

theorem piecesBefore_prefix (directory : String) : piecesBefore directory <+: split directory := by
  rcases split_eq_piecesBefore directory with heq | heq
  · exact heq ▸ List.prefix_refl _
  · rw [heq]
    exact List.prefix_append ..

theorem parentsOf_append (h : ∀ piece ∈ before, isIdle piece = true) :
    parentsOf first (before ++ rest) = parentsOf first rest := by
  induction before with
  | nil => rfl
  | cons piece before ih =>
      obtain ⟨hpiece, hbefore⟩ := List.forall_mem_cons.mp h
      rw [List.cons_append, parentsOf, if_pos hpiece]
      exact ih hbefore

/-- The directory of a plain name is the same for all names. -/
theorem parent_join (h : isPlainName name = true) :
    parent (join directory name) = trimmed directory := by
  obtain ⟨base, rest, hname, hbase, hrest⟩ := split_of_isPlainName h
  obtain ⟨-, hidle, -⟩ := component?_eq_normal hbase
  have hreverse : ∀ piece ∈ rest.reverse, isIdle piece = true := by simpa using hrest
  have hsplit := split_join directory name
  rw [hname, split] at hsplit
  rw [parent, parents, hsplit, trimmed]
  cases piecesBefore directory with
  | nil =>
      have hne : base ≠ [] := by
        rintro rfl
        cases hidle
      rw [List.nil_append]
      dsimp only
      rw [← List.append_nil rest.reverse, parentsOf_append hreverse, parentsOf, if_neg hne]
      rfl
  | cons first front =>
      rw [List.cons_append]
      dsimp only
      rw [List.reverse_append, List.reverse_cons, List.append_assoc,
        parentsOf_append hreverse, List.singleton_append, parentsOf, if_neg (by simp [hidle])]
      rfl

theorem mem_parentsOf (h : path ∈ parentsOf first before) :
    path = "" ∨ ∃ kept, kept <+: before.reverse ∧ path = ofPieces first kept := by
  induction before with
  | nil =>
      rw [parentsOf] at h
      split at h
      · cases h
      · exact Or.inl (List.mem_singleton.mp h)
  | cons piece before ih =>
      have hprefix : before.reverse <+: (piece :: before).reverse := by simp
      have hrest (h : path ∈ parentsOf first before) : path = "" ∨
          ∃ kept, kept <+: (piece :: before).reverse ∧ path = ofPieces first kept := by
        rcases ih h with hempty | ⟨kept, hkept, hpath⟩
        · exact Or.inl hempty
        · exact Or.inr ⟨kept, hkept.trans hprefix, hpath⟩
      rw [parentsOf] at h
      split at h
      · exact hrest h
      · rcases List.mem_cons.mp h with rfl | h
        · have hkept : (before.dropWhile isIdle).reverse <+: before.reverse :=
            List.reverse_prefix.mpr (List.dropWhile_suffix isIdle)
          exact Or.inr ⟨_, hkept.trans hprefix, rfl⟩
        · exact hrest h

/-- The text of first pieces of a directory is a part of it. -/
theorem isPart_ofPieces (h : first :: rest <+: split directory) :
    IsPart directory (ofPieces first rest) := by
  rw [ofPieces]
  split
  · exact Or.inr (Or.inl rfl)
  · have hsplit : split (String.ofList (['/'].intercalate (first :: rest))) = first :: rest := by
      rw [split, String.toList_ofList]
      apply List.splitOn_intercalate
      · intro piece hpiece
        exact slash_notMem_of_mem_split (h.subset hpiece)
      · exact List.cons_ne_nil _ _
    exact Or.inr (Or.inr (by rwa [hsplit]))

theorem isPart_of_mem_parents (h : path ∈ parents directory) : IsPart directory path := by
  rw [parents] at h
  cases hsplit : directory.toList.splitOn '/' with
  | nil => exact absurd hsplit (List.splitOn_ne_nil _ _)
  | cons first rest =>
      rw [hsplit] at h
      rcases mem_parentsOf h with hempty | ⟨kept, hkept, rfl⟩
      · exact Or.inl hempty
      · apply isPart_ofPieces
        rw [split, hsplit]
        rw [List.reverse_reverse] at hkept
        exact (List.prefix_cons_inj first).mpr hkept

/-- What lies around a part of a directory is a part of it. -/
theorem IsPart.of_mem_parents {inner : String} (hpart : IsPart directory inner)
    (h : path ∈ parents inner) : IsPart directory path := by
  rcases hpart with rfl | rfl | hprefix
  · have hnone : parents "" = [] := by decide
    rw [hnone] at h
    cases h
  · have hnone : parents "/" = [] := by decide
    rw [hnone] at h
    cases h
  · rcases isPart_of_mem_parents h with hempty | hroot | hinner
    · exact Or.inl hempty
    · exact Or.inr (Or.inl hroot)
    · exact Or.inr (Or.inr (hinner.trans hprefix))

theorem isPart_trimmed (directory : String) : IsPart directory (trimmed directory) := by
  rw [trimmed]
  have hprefix := piecesBefore_prefix directory
  cases hbefore : piecesBefore directory with
  | nil => exact Or.inl rfl
  | cons first rest =>
      rw [hbefore] at hprefix
      apply isPart_ofPieces
      exact ((List.prefix_cons_inj first).mpr (List.rdropWhile_prefix _ _)).trans hprefix

end TypedSql.Path
