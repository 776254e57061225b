import Mathlib.Data.List.Infix
import TypedSql.Output.FileTree
import TypedSql.Proofs.Output.Path
import TypedSql.Proofs.Traversal

/-!
Paths in a tree of files. The pieces of a path lead from the root to a location, one step after the
other. A path made of a directory and a plain name leads to an entry of this directory, whatever
the tree is, and where it is read or written it is the entry of that very name. Steps that were
possible remain so while directories stay directories and nothing is removed.
-/

namespace TypedSql.FileTree

open Traversal (bind_eq_ok)

open TypedSql.Path (split isIdle component? isPlainName piecesBefore)

/-- The directory that a path leads to. The empty path leads to the root. -/
def directory? (tree : FileTree) (path : String) : Option Location :=
  match (split path).foldlM tree.step [] with
  | .ok location => if tree.node? location = some .directory then some location else none
  | .error _ => none

/-- A name for an entry of a directory that the system takes: it has no slash, and neither the name
nor the whole path is too long. -/
def Takes (directory name : String) : Prop :=
  '/' ∉ name.toList ∧ checkName name.toList = .ok () ∧
    ∃ parts, pieces (Path.join directory name) = .ok parts

/-- Directories stay directories, and nothing is removed. -/
structure Keeps (tree tree' : FileTree) : Prop where
  directory : ∀ location, tree.node? location = some .directory →
    tree'.node? location = some .directory
  node : ∀ location, (tree.node? location).isSome → (tree'.node? location).isSome

variable {tree tree' : FileTree} {path directory name : String} {location next : Location}
  {place : Place} {piece base : List Char} {front rest blank parts : List (List Char)}
  {node : Node} {contents : Bytes}

section Steps

theorem step_idle (h : isIdle piece = true) : tree.step location piece = .ok next ↔
    tree.node? location = some .directory ∧ next = location := by
  have hpiece : piece = [] ∨ piece = ['.'] := by simpa [isIdle] using h
  rw [step, if_pos hpiece]
  split
  · next hnode => simp [hnode]
  · next hnode => simp [not_not.mp hnode, eq_comm]

theorem step_parent : tree.step location ['.', '.'] = .ok next ↔
    tree.node? location = some .directory ∧ next = location.dropLast := by
  have hpiece : ¬(['.', '.'] = ([] : List Char) ∨ ['.', '.'] = ['.']) := by decide
  rw [step, if_neg hpiece, if_pos rfl]
  split
  · next hnode => simp [hnode]
  · next hnode => simp [not_not.mp hnode, eq_comm]

/-- A name leads to an entry that exists. -/
theorem step_entry (h : component? piece = some (.normal piece)) :
    tree.step location piece = .ok next ↔ tree.node? location = some .directory ∧
      checkName piece = .ok () ∧ next = location ++ [String.ofList piece] ∧
      (tree.node? next).isSome := by
  obtain ⟨-, hidle, hdots⟩ := Path.component?_eq_normal h
  have hpiece : ¬(piece = [] ∨ piece = ['.']) := by simpa [isIdle] using hidle
  rw [step, if_neg hpiece, if_neg hdots]
  split
  · next hnode => simp [hnode]
  · next hnode =>
      rw [not_not.mp hnode]
      cases hname : checkName piece with
      | error error => simp
      | ok value =>
          dsimp only
          split
          · next hsome =>
              constructor
              · intro hnext
                obtain rfl := Except.ok.inj hnext
                exact ⟨rfl, rfl, rfl, hsome⟩
              · rintro ⟨-, -, rfl, -⟩
                rfl
          · next hnone =>
              constructor
              · intro hnext
                cases hnext
              · rintro ⟨-, -, rfl, hsome⟩
                exact absurd hsome hnone

theorem foldlM_append_eq_ok :
    (front ++ rest).foldlM tree.step location = .ok next ↔
      ∃ middle, front.foldlM tree.step location = .ok middle ∧
        rest.foldlM tree.step middle = .ok next := by
  rw [List.foldlM_append]
  exact bind_eq_ok

theorem foldlM_cons_eq_ok :
    (piece :: rest).foldlM tree.step location = .ok next ↔
      ∃ middle, tree.step location piece = .ok middle ∧
        rest.foldlM tree.step middle = .ok next := by
  rw [List.foldlM_cons]
  exact bind_eq_ok

/-- Pieces that mean nothing can follow a directory. -/
theorem foldlM_idle (h : ∀ piece ∈ rest, isIdle piece = true) :
    rest.foldlM tree.step location = .ok next ↔
      next = location ∧ (rest = [] ∨ tree.node? location = some .directory) := by
  induction rest with
  | nil =>
      constructor
      · intro hnext
        exact ⟨(Except.ok.inj hnext).symm, Or.inl rfl⟩
      · rintro ⟨rfl, -⟩
        rfl
  | cons piece rest ih =>
      obtain ⟨hpiece, hrest⟩ := List.forall_mem_cons.mp h
      rw [foldlM_cons_eq_ok]
      constructor
      · rintro ⟨middle, hstep, hfold⟩
        obtain ⟨hdirectory, rfl⟩ := (step_idle hpiece).mp hstep
        obtain ⟨rfl, -⟩ := (ih hrest).mp hfold
        exact ⟨rfl, Or.inr hdirectory⟩
      · rintro ⟨rfl, hnil | hdirectory⟩
        · cases hnil
        · exact ⟨next, (step_idle hpiece).mpr ⟨hdirectory, rfl⟩,
            (ih hrest).mpr ⟨rfl, Or.inr hdirectory⟩⟩

end Steps

section Kept

theorem Keeps.refl (tree : FileTree) : Keeps tree tree :=
  ⟨fun _ h => h, fun _ h => h⟩

theorem Keeps.trans {last : FileTree} (h : Keeps tree tree') (h' : Keeps tree' last) :
    Keeps tree last :=
  ⟨fun location hd => h'.directory location (h.directory location hd),
    fun location hn => h'.node location (h.node location hn)⟩

theorem Keeps.step (h : Keeps tree tree') (hstep : tree.step location piece = .ok next) :
    tree'.step location piece = .ok next := by
  rcases Path.component?_cases piece with hidle | rfl | hnormal
  · obtain ⟨hdirectory, hnext⟩ := (step_idle hidle).mp hstep
    exact (step_idle hidle).mpr ⟨h.directory _ hdirectory, hnext⟩
  · obtain ⟨hdirectory, hnext⟩ := step_parent.mp hstep
    exact step_parent.mpr ⟨h.directory _ hdirectory, hnext⟩
  · obtain ⟨hdirectory, hname, hnext, hsome⟩ := (step_entry hnormal).mp hstep
    exact (step_entry hnormal).mpr ⟨h.directory _ hdirectory, hname, hnext, h.node _ hsome⟩

theorem Keeps.foldlM (h : Keeps tree tree') (hfold : rest.foldlM tree.step location = .ok next) :
    rest.foldlM tree'.step location = .ok next := by
  induction rest generalizing location with
  | nil => exact hfold
  | cons piece rest ih =>
      obtain ⟨middle, hstep, hrest⟩ := foldlM_cons_eq_ok.mp hfold
      exact foldlM_cons_eq_ok.mpr ⟨middle, h.step hstep, ih hrest⟩

/-- A node may be put where there was none, and a file where there was no directory. -/
theorem keeps_insert (hlocation : location ≠ [])
    (h : node = .directory ∨ tree.node? location ≠ some .directory) :
    Keeps tree (tree.insert location node) := by
  constructor
  · intro other hother
    rw [node?_insert tree other node hlocation]
    split
    · next heq =>
        rcases h with hnode | hne
        · rw [hnode]
        · rw [← heq] at hne
          exact absurd hother hne
    · exact hother
  · intro other hother
    rw [node?_insert tree other node hlocation]
    split
    · rfl
    · exact hother

/-- Putting the node that is there already changes nothing. -/
theorem insert_self (hlocation : location ≠ []) (h : tree.node? location = some node) :
    tree.insert location node = tree := by
  have hentries : ∀ entries : List (Location × Node), entries.lookup location = some node →
      putEntry location node entries = entries := by
    intro entries
    induction entries with
    | nil =>
        intro hlookup
        cases hlookup
    | cons entry rest ih =>
        intro hlookup
        obtain ⟨place, found⟩ := entry
        rw [putEntry]
        by_cases hplace : place = location
        · subst hplace
          rw [if_pos rfl]
          rw [List.lookup_cons_self] at hlookup
          rw [Option.some.inj hlookup]
        · rw [if_neg hplace, ih]
          rw [List.lookup_cons] at hlookup
          simpa [beq_eq_false_iff_ne.mpr (Ne.symm hplace)] using hlookup
  rw [node?, if_neg hlocation] at h
  rw [insert, hentries _ h]

end Kept

section Paths

theorem pieces_eq_ok (h : pieces path = .ok parts) : parts = split path := by
  rw [pieces] at h
  split at h
  · cases h
  · split at h
    · cases h
    · split at h
      · cases h
      · exact (Except.ok.inj h).symm

theorem follow_eq_ok : tree.follow path = .ok location ↔
    ∃ parts, pieces path = .ok parts ∧ parts.foldlM tree.step [] = .ok location :=
  bind_eq_ok

theorem Keeps.follow (h : Keeps tree tree') (hfollow : tree.follow path = .ok location) :
    tree'.follow path = .ok location := by
  obtain ⟨parts, hparts, hfold⟩ := follow_eq_ok.mp hfollow
  exact follow_eq_ok.mpr ⟨parts, hparts, h.foldlM hfold⟩

theorem isDirectory_iff : tree.isDirectory path = true ↔
    ∃ location, tree.follow path = .ok location ∧ tree.node? location = some .directory := by
  rw [isDirectory]
  split
  · next found hfound =>
      rw [hfound, beq_iff_eq]
      constructor
      · intro h
        exact ⟨found, rfl, h⟩
      · rintro ⟨location, hsame, h⟩
        obtain rfl := Except.ok.inj hsame
        exact h
  · next error hfailed =>
      rw [hfailed]
      constructor
      · intro h
        cases h
      · rintro ⟨location, hsame, -⟩
        cases hsame

theorem Keeps.isDirectory (h : Keeps tree tree') (hdirectory : tree.isDirectory path = true) :
    tree'.isDirectory path = true := by
  obtain ⟨location, hfollow, hnode⟩ := isDirectory_iff.mp hdirectory
  exact isDirectory_iff.mpr ⟨location, h.follow hfollow, h.directory _ hnode⟩

theorem directory?_eq_some : tree.directory? path = some location ↔
    (split path).foldlM tree.step [] = .ok location ∧ tree.node? location = some .directory := by
  rw [directory?]
  split
  · next found hfound =>
      rw [hfound, Option.ite_none_right_eq_some]
      constructor
      · rintro ⟨h, hsame⟩
        obtain rfl := Option.some.inj hsame
        exact ⟨rfl, h⟩
      · rintro ⟨hsame, h⟩
        obtain rfl := Except.ok.inj hsame
        exact ⟨h, rfl⟩
  · next error hfailed =>
      rw [hfailed]
      constructor
      · intro h
        cases h
      · rintro ⟨hsame, -⟩
        cases hsame

theorem Keeps.directory? (h : Keeps tree tree')
    (hdirectory : tree.directory? path = some location) :
    tree'.directory? path = some location := by
  obtain ⟨hfold, hnode⟩ := directory?_eq_some.mp hdirectory
  exact directory?_eq_some.mpr ⟨h.foldlM hfold, h.directory _ hnode⟩

/-- The pieces of a directory before a name lead to it as all its pieces do. -/
theorem directory?_eq_some_iff_piecesBefore : tree.directory? directory = some location ↔
    (piecesBefore directory).foldlM tree.step [] = .ok location ∧
      tree.node? location = some .directory := by
  rw [directory?_eq_some]
  rcases Path.split_eq_piecesBefore directory with hsplit | hsplit
  · rw [hsplit]
  · rw [hsplit, foldlM_append_eq_ok]
    constructor
    · rintro ⟨⟨middle, hfold, hidle⟩, hnode⟩
      obtain ⟨rfl, -⟩ := (foldlM_idle (by simp [isIdle])).mp hidle
      exact ⟨hfold, hnode⟩
    · rintro ⟨hfold, hnode⟩
      exact ⟨⟨location, hfold, (foldlM_idle (by simp [isIdle])).mpr ⟨rfl, Or.inr hnode⟩⟩, hnode⟩

/-- A plain name in a directory leads to an entry of it, and to a directory if it has a slash. -/
theorem foldlM_join (hname : split name = base :: rest)
    (hbase : component? base = some (.normal base)) (hrest : ∀ piece ∈ rest, isIdle piece = true) :
    (split (Path.join directory name)).foldlM tree.step [] = .ok location ↔
      ∃ around, tree.directory? directory = some around ∧ checkName base = .ok () ∧
        location = around ++ [String.ofList base] ∧ (tree.node? location).isSome ∧
        (rest = [] ∨ tree.node? location = some .directory) := by
  rw [Path.split_join, hname, foldlM_append_eq_ok]
  constructor
  · rintro ⟨around, hfront, htail⟩
    obtain ⟨middle, hstep, hfold⟩ := foldlM_cons_eq_ok.mp htail
    obtain ⟨rfl, hlast⟩ := (foldlM_idle hrest).mp hfold
    obtain ⟨hnode, hcheck, hnext, hsome⟩ := (step_entry hbase).mp hstep
    exact ⟨around, directory?_eq_some_iff_piecesBefore.mpr ⟨hfront, hnode⟩, hcheck, hnext, hsome,
      hlast⟩
  · rintro ⟨around, haround, hcheck, hnext, hsome, hlast⟩
    obtain ⟨hfront, hnode⟩ := directory?_eq_some_iff_piecesBefore.mp haround
    refine ⟨around, hfront, foldlM_cons_eq_ok.mpr ⟨location, ?_, ?_⟩⟩
    · exact (step_entry hbase).mpr ⟨hnode, hcheck, hnext, hsome⟩
    · exact (foldlM_idle hrest).mpr ⟨rfl, hlast⟩

/-- No plain name leads outside of its directory. -/
theorem follow_join (hplain : isPlainName name = true)
    (h : tree.follow (Path.join directory name) = .ok location) :
    ∃ around base, tree.directory? directory = some around ∧ location = around ++ [base] := by
  obtain ⟨base, rest, hname, hbase, hrest⟩ := Path.split_of_isPlainName hplain
  obtain ⟨parts, hparts, hfold⟩ := follow_eq_ok.mp h
  rw [pieces_eq_ok hparts] at hfold
  obtain ⟨around, haround, -, hlocation, -⟩ := (foldlM_join hname hbase hrest).mp hfold
  exact ⟨around, _, haround, hlocation⟩

end Paths

section Reading

theorem read_eq_ok : tree.read path = .ok contents ↔
    ∃ location, tree.follow path = .ok location ∧ tree.node? location = some (.file contents) := by
  rw [read, bind_eq_ok]
  constructor
  · rintro ⟨location, hfollow, hnode⟩
    refine ⟨location, hfollow, ?_⟩
    split at hnode
    · next found hfound =>
        obtain rfl : found = contents := Except.ok.inj hnode
        exact hfound
    · cases hnode
    · cases hnode
  · rintro ⟨location, hfollow, hnode⟩
    refine ⟨location, hfollow, ?_⟩
    rw [hnode]
    rfl

/-- A plain name can be read exactly if it is taken and a file of this name is in the directory. -/
theorem read_join (hplain : isPlainName name = true) :
    tree.read (Path.join directory name) = .ok contents ↔
      Takes directory name ∧ ∃ around, tree.directory? directory = some around ∧
        tree.node? (around ++ [name]) = some (.file contents) := by
  obtain ⟨base, rest, hname, hbase, hrest⟩ := Path.split_of_isPlainName hplain
  rw [read_eq_ok]
  constructor
  · rintro ⟨location, hfollow, hnode⟩
    obtain ⟨parts, hparts, hfold⟩ := follow_eq_ok.mp hfollow
    rw [pieces_eq_ok hparts] at hfold
    obtain ⟨around, haround, hcheck, rfl, -, hlast⟩ := (foldlM_join hname hbase hrest).mp hfold
    rcases hlast with rfl | hdirectory
    · obtain rfl := Path.eq_of_split_eq_singleton hname
      rw [String.ofList_toList] at hnode
      exact ⟨⟨Path.slash_notMem_iff.mpr hname, hcheck, parts, hparts⟩, around, haround, hnode⟩
    · rw [hnode] at hdirectory
      cases hdirectory
  · rintro ⟨⟨hslash, hcheck, parts, hparts⟩, around, haround, hnode⟩
    have hsingle := Path.slash_notMem_iff.mp hslash
    rw [hname] at hsingle
    obtain ⟨rfl, rfl⟩ := List.cons.inj hsingle
    refine ⟨around ++ [name], follow_eq_ok.mpr ⟨parts, hparts, ?_⟩, hnode⟩
    rw [pieces_eq_ok hparts, foldlM_join hname hbase hrest]
    refine ⟨around, haround, hcheck, by rw [String.ofList_toList], ?_, Or.inl rfl⟩
    rw [hnode]
    rfl

end Reading

section Places

/-- Pieces are all empty, or they have a last one that is not, with empty ones after it. -/
theorem exists_last (parts : List (List Char)) : (∀ piece ∈ parts, piece = []) ∨
    ∃ front last blank, parts = front ++ last :: blank ∧ last ≠ [] ∧
      ∀ piece ∈ blank, piece = [] := by
  induction parts with
  | nil => simp
  | cons piece parts ih =>
      rcases ih with hblank | ⟨front, last, blank, rfl, hlast, hblank⟩
      · by_cases hpiece : piece = []
        · exact Or.inl (List.forall_mem_cons.mpr ⟨hpiece, hblank⟩)
        · exact Or.inr ⟨[], piece, parts, rfl, hpiece, hblank⟩
      · exact Or.inr ⟨piece :: front, last, blank, rfl, hlast, hblank⟩

theorem place_blank (hparts : pieces path = .ok parts) (h : ∀ piece ∈ parts, piece = []) :
    tree.place path = .ok ⟨[], ['.'], true⟩ := by
  have hdrop : parts.reverse.dropWhile (· == []) = [] := by
    apply List.dropWhile_eq_nil_iff.mpr
    intro piece hpiece
    rw [h piece (List.mem_reverse.mp hpiece)]
    rfl
  refine bind_eq_ok.mpr ⟨parts, hparts, ?_⟩
  rw [hdrop]
  rfl

theorem place_entry (hparts : pieces path = .ok (front ++ base :: blank)) (hbase : base ≠ [])
    (hblank : ∀ piece ∈ blank, piece = []) :
    tree.place path = .ok place ↔ ∃ parent, front.foldlM tree.step [] = .ok parent ∧
      tree.node? parent = some .directory ∧ place = ⟨parent, base, !blank.isEmpty⟩ := by
  have hdrop : (front ++ base :: blank).reverse.dropWhile (· == []) = base :: front.reverse := by
    have hreverse : ∀ piece ∈ blank.reverse, (piece == []) = true := by simpa using hblank
    rw [List.reverse_append, List.reverse_cons, List.append_assoc,
      List.dropWhile_append_of_pos hreverse, List.singleton_append,
      List.dropWhile_cons_of_neg (by simpa using hbase)]
  have htrailing : ((front ++ base :: blank).getLast? == some []) = !blank.isEmpty := by
    cases blank with
    | nil => simpa using hbase
    | cons piece blank =>
        have hlast := List.getLast?_eq_some_getLast (List.cons_ne_nil piece blank)
        rw [hblank _ (List.getLast_mem _)] at hlast
        rw [List.getLast?_append, List.getLast?_cons_cons, hlast]
        rfl
  simp only [FileTree.place, hparts, bind, Except.bind, hdrop, htrailing, List.reverse_reverse]
  cases front.foldlM tree.step [] with
  | error error => simp
  | ok parent =>
      by_cases hnode : tree.node? parent = some .directory
      · simp [hnode, pure, Except.pure, eq_comm]
      · simp [hnode, throw, throwThe, MonadExceptOf.throw]

end Places

section Changes

/-- A check that stops an operation lets it go on where it does not apply. -/
theorem unless_eq_ok {α : Type} {refused : Prop} [Decidable refused] {error : SystemError}
    {go : PUnit → Except SystemError α} {a : α} :
    (if refused then throw error >>= go else go ⟨⟩) = .ok a ↔ ¬refused ∧ go ⟨⟩ = .ok a := by
  split
  · next h =>
      constructor
      · intro hthrow
        cases hthrow
      · rintro ⟨hnot, -⟩
        exact absurd h hnot
  · next h => simp [h]

theorem write_eq_ok : tree.write path contents = .ok tree' ↔ ∃ place, tree.place path = .ok place ∧
    isDots place.name = false ∧ place.trailing = false ∧ checkName place.name = .ok () ∧
    tree.node? place.location ≠ some .directory ∧
    tree' = tree.insert place.location (.file contents) := by
  rw [write, bind_eq_ok]
  apply exists_congr
  intro place
  apply and_congr_right
  intro _
  simp only [unless_eq_ok, bind_eq_ok]
  constructor
  · rintro ⟨hname, _, hcheck, hnode, htree⟩
    obtain ⟨hdots, htrailing⟩ := not_or.mp hname
    exact ⟨Bool.eq_false_iff.mpr hdots, Bool.eq_false_iff.mpr htrailing, hcheck, hnode,
      (Except.ok.inj htree).symm⟩
  · rintro ⟨hdots, htrailing, hcheck, hnode, rfl⟩
    exact ⟨by simp [hdots, htrailing], (), hcheck, hnode, rfl⟩

theorem makeDirectory_eq_ok : tree.makeDirectory path = .ok tree' ↔
    ∃ place, tree.place path = .ok place ∧ isDots place.name = false ∧
      checkName place.name = .ok () ∧ tree.node? place.location = none ∧
      tree' = tree.insert place.location .directory := by
  rw [makeDirectory, bind_eq_ok]
  apply exists_congr
  intro place
  apply and_congr_right
  intro _
  simp only [unless_eq_ok, bind_eq_ok]
  constructor
  · rintro ⟨hdots, _, hcheck, hnode, htree⟩
    exact ⟨Bool.eq_false_iff.mpr hdots, hcheck, Option.not_isSome_iff_eq_none.mp hnode,
      (Except.ok.inj htree).symm⟩
  · rintro ⟨hdots, hcheck, hnode, rfl⟩
    exact ⟨by simp [hdots], (), hcheck, by simp [hnode], rfl⟩

theorem Place.location_ne_nil (place : Place) : place.location ≠ [] :=
  List.concat_ne_nil _ _

/-- A plain name can be written exactly if it is taken, and its directory is there and has no
directory of this name. -/
theorem write_join (hplain : isPlainName name = true) :
    tree.write (Path.join directory name) contents = .ok tree' ↔
      Takes directory name ∧ ∃ around, tree.directory? directory = some around ∧
        tree.node? (around ++ [name]) ≠ some .directory ∧
        tree' = tree.insert (around ++ [name]) (.file contents) := by
  obtain ⟨base, rest, hname, hbase, hrest⟩ := Path.split_of_isPlainName hplain
  obtain ⟨-, hidle, hparent⟩ := Path.component?_eq_normal hbase
  have hjoin := Path.split_join directory name
  rw [hname] at hjoin
  rw [write_eq_ok]
  constructor
  · rintro ⟨place, hplace, hdots, htrailing, hcheck, hnode, htree⟩
    obtain ⟨parts, hparts, -⟩ := bind_eq_ok.mp hplace
    rcases exists_last parts with hblank | ⟨front, last, blank, rfl, hlast, hblank⟩
    · obtain rfl := Except.ok.inj ((place_blank hparts hblank).symm.trans hplace)
      cases htrailing
    · obtain ⟨around, hfront, haround, rfl⟩ := (place_entry hparts hlast hblank).mp hplace
      obtain rfl : blank = [] := by simpa using htrailing
      have hsame := (pieces_eq_ok hparts).trans hjoin
      -- The last piece is no idle one, so nothing comes after the name.
      obtain rfl : rest = [] := by
        rcases List.eq_nil_or_concat rest with hnil | ⟨inner, piece, hconcat⟩
        · exact hnil
        · rw [hconcat, List.concat_eq_append, ← List.cons_append, ← List.append_assoc] at hsame
          obtain ⟨-, hpieces⟩ := List.append_inj' hsame rfl
          obtain rfl : last = piece := (List.cons.inj hpieces).1
          have hpiece := hrest last (by simp [hconcat])
          obtain rfl : last = ['.'] := by simpa [isIdle, hlast] using hpiece
          cases hdots
      obtain ⟨rfl, hbases⟩ := List.append_inj' hsame rfl
      obtain rfl : last = base := (List.cons.inj hbases).1
      obtain rfl := Path.eq_of_split_eq_singleton hname
      rw [Place.location, String.ofList_toList] at hnode htree
      exact ⟨⟨Path.slash_notMem_iff.mpr hname, hcheck, _, hparts⟩, around,
        directory?_eq_some_iff_piecesBefore.mpr ⟨hfront, haround⟩, hnode, htree⟩
  · rintro ⟨⟨hslash, hcheck, parts, hparts⟩, around, haround, hnode, htree⟩
    have hsingle := Path.slash_notMem_iff.mp hslash
    rw [hname] at hsingle
    obtain ⟨rfl, rfl⟩ := List.cons.inj hsingle
    obtain rfl := (pieces_eq_ok hparts).trans hjoin
    have hne : name.toList ≠ [] := by
      intro hempty
      rw [hempty] at hidle
      cases hidle
    -- A plain name is neither a dot nor two.
    have hdots : isDots name.toList = false := by
      simp [isIdle] at hidle
      simp [isDots, hidle, hparent]
    obtain ⟨hfront, hdirectory⟩ := directory?_eq_some_iff_piecesBefore.mp haround
    refine ⟨⟨around, name.toList, false⟩, ?_, hdots, rfl, hcheck, ?_, ?_⟩
    · exact (place_entry hparts hne (by simp)).mpr ⟨around, hfront, hdirectory, rfl⟩
    · rwa [Place.location, String.ofList_toList]
    · rwa [Place.location, String.ofList_toList]

/-- A new directory is where its path then leads. -/
theorem makeDirectory_spec (h : tree.makeDirectory path = .ok tree') :
    ∃ location, location ≠ [] ∧ tree.node? location = none ∧
      tree' = tree.insert location .directory ∧ tree'.follow path = .ok location := by
  obtain ⟨place, hplace, hdots, hcheck, hnode, htree⟩ := makeDirectory_eq_ok.mp h
  obtain ⟨parts, hparts, -⟩ := bind_eq_ok.mp hplace
  rcases exists_last parts with hblank | ⟨front, last, blank, rfl, hlast, hblank⟩
  · obtain rfl := Except.ok.inj ((place_blank hparts hblank).symm.trans hplace)
    cases hdots
  · obtain ⟨parent, hfront, hparent, rfl⟩ := (place_entry hparts hlast hblank).mp hplace
    let place : Place := ⟨parent, last, !blank.isEmpty⟩
    have hkeeps : Keeps tree tree' := by
      rw [htree]
      exact keeps_insert place.location_ne_nil (Or.inl rfl)
    have hnew : tree'.node? place.location = some .directory := by
      rw [htree, node?_insert tree _ _ place.location_ne_nil, if_pos rfl]
    have hnormal : component? last = some (.normal last) := by
      simp [isDots] at hdots
      simp [component?, isIdle, hlast, hdots]
    refine ⟨place.location, place.location_ne_nil, hnode, htree, ?_⟩
    refine follow_eq_ok.mpr ⟨_, hparts, foldlM_append_eq_ok.mpr ⟨parent, hkeeps.foldlM hfront, ?_⟩⟩
    refine foldlM_cons_eq_ok.mpr ⟨place.location, ?_, ?_⟩
    · refine (step_entry hnormal).mpr ⟨hkeeps.directory _ hparent, hcheck, rfl, ?_⟩
      rw [hnew]
      rfl
    · refine (foldlM_idle ?_).mpr ⟨rfl, Or.inr hnew⟩
      intro piece hpiece
      rw [hblank piece hpiece]
      rfl

/-- What is a directory already cannot be made one. -/
theorem makeDirectory_of_isDirectory (h : tree.isDirectory path = true) :
    tree.makeDirectory path = .error .alreadyExists := by
  obtain ⟨location, hfollow, hnode⟩ := isDirectory_iff.mp h
  obtain ⟨parts, hparts, hfold⟩ := follow_eq_ok.mp hfollow
  rcases exists_last parts with hblank | ⟨front, last, blank, rfl, hlast, hblank⟩
  · rw [makeDirectory, place_blank hparts hblank]
    rfl
  · obtain ⟨parent, hfront, htail⟩ := foldlM_append_eq_ok.mp hfold
    obtain ⟨middle, hstep, -⟩ := foldlM_cons_eq_ok.mp htail
    have hplace (hparent : tree.node? parent = some .directory) :=
      (place_entry hparts hlast hblank).mpr ⟨parent, hfront, hparent, rfl⟩
    rcases Path.component?_cases last with hidle | rfl | hnormal
    · obtain ⟨hparent, -⟩ := (step_idle hidle).mp hstep
      obtain rfl : last = ['.'] := by simpa [isIdle, hlast] using hidle
      rw [makeDirectory, hplace hparent]
      rfl
    · obtain ⟨hparent, -⟩ := step_parent.mp hstep
      rw [makeDirectory, hplace hparent]
      rfl
    · obtain ⟨hparent, hcheck, rfl, hsome⟩ := (step_entry hnormal).mp hstep
      simp only [makeDirectory, hplace hparent, bind, Except.bind, hcheck, Place.location, hsome]
      split <;> rfl

end Changes

end TypedSql.FileTree
