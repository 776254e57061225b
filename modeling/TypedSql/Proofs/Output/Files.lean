import Mathlib.Data.List.Nodup
import TypedSql.Output.Files
import TypedSql.Proofs.Output.Directories

/-!
Generated files in a directory of a tree. Writing creates the directory, at the first file, and then
puts one file after the other into it; what a failing file leaves behind is at most directories. If
the names differ, no file is lost under a later one, so that all are in place afterwards, and then
neither checking nor writing them again changes anything.
-/

namespace TypedSql.Output

open FileTree (fileSystem AddsDirectories Keeps Settled Takes)
open TypedSql.Path (isPlainName split)

/-- What handling files in memory gives, and the tree after it. -/
def handled (mode : OutputMode) (directory : String) (files : List GeneratedFile)
    (tree : FileTree) : Except Failure Unit × FileTree :=
  (handleFiles fileSystem mode directory files).run tree

def handledFile (mode : OutputMode) (directory : String) (file : GeneratedFile)
    (tree : FileTree) : Except Failure Unit × FileTree :=
  (handleFile fileSystem mode directory file).run tree

/-- A file has a plain name that the system takes, and stands under it in the directory. -/
def InPlace (tree : FileTree) (directory : String) (file : GeneratedFile) : Prop :=
  isPlainName file.name = true ∧ Takes directory file.name ∧
    ∃ around, tree.directory? directory = some around ∧
      tree.node? (around ++ [file.name]) = some (.file file.bytes)

inductive Misplaced (tree : FileTree) (directory : String) (file : GeneratedFile) : Failure → Prop
  | name (h : isPlainName file.name = false) :
      Misplaced tree directory file ⟨.notPlainName file.name, []⟩
  | missing (h : isPlainName file.name = true) (error : SystemError)
      (hread : tree.read (Path.join directory file.name) = .error error) :
      Misplaced tree directory file
        (systemFailure (.readOutput (Path.join directory file.name)) error)
  | different (h : isPlainName file.name = true) (existing : Bytes)
      (hread : tree.read (Path.join directory file.name) = .ok existing)
      (hne : existing ≠ file.bytes) :
      Misplaced tree directory file
        ⟨.outputDiffers (Path.join directory file.name) (Sha256.hexDigest existing) file.digest, []⟩

def put (around : Location) (tree : FileTree) (file : GeneratedFile) : FileTree :=
  tree.insert (around ++ [file.name]) (.file file.bytes)

/-- A file can be put into the directory at a location: its name is a plain one that the system
takes, and no directory has this name. -/
def Fits (tree : FileTree) (directory : String) (around : Location) (file : GeneratedFile) : Prop :=
  isPlainName file.name = true ∧ Takes directory file.name ∧
    tree.node? (around ++ [file.name]) ≠ some .directory

/-- The directory is there or can be created, and every file can be put into it. -/
def Writable (tree : FileTree) (directory : String) (files : List GeneratedFile) : Prop :=
  ∃ made around,
    (fileSystem.createDirectories (Path.trimmed directory)).run tree = (.ok (), made) ∧
    made.directory? directory = some around ∧ ∀ file ∈ files, Fits made directory around file

/-- The later tree has new directories on the path of the given one, then the files in it, one after
the other, and is otherwise the same. -/
def Wrote (directory : String) (files : List GeneratedFile) (tree tree' : FileTree) : Prop :=
  ∃ made around, AddsDirectories directory tree made ∧ Keeps made tree' ∧
    (files = [] ∨ tree'.directory? directory = some around) ∧
    tree' = files.foldl (put around) made

/-- Every change is a new directory where first pieces of the given path lead, or a file of the list
directly in the directory. -/
def ChangesOnly (directory : String) (files : List GeneratedFile) (tree tree' : FileTree) : Prop :=
  ∀ location, tree'.node? location = tree.node? location ∨
    (tree.node? location = none ∧ tree'.node? location = some .directory ∧
      ∃ front, front <+: split directory ∧ front.foldlM tree'.step [] = .ok location) ∨
    ∃ around file, file ∈ files ∧ tree'.directory? directory = some around ∧
      location = around ++ [file.name] ∧ tree'.node? location = some (.file file.bytes)

variable {mode : OutputMode} {directory : String} {file : GeneratedFile}
  {files : List GeneratedFile} {tree tree' : FileTree} {around : Location} {failure : Failure}

section Runs

theorem handled_cons (mode : OutputMode) (directory : String) (file : GeneratedFile)
    (files : List GeneratedFile) (tree : FileTree) :
    handled mode directory (file :: files) tree =
      match handledFile mode directory file tree with
      | (.error failure, tree') => (.error failure, tree')
      | (.ok (), tree') => handled mode directory files tree' := by
  rw [handled, handleFiles, FileTree.run_bind, handledFile]
  cases (handleFile fileSystem mode directory file).run tree with
  | mk result middle => cases result <;> rfl

theorem handled_cons_ok : handled mode directory (file :: files) tree = (.ok (), tree') ↔
    ∃ middle, handledFile mode directory file tree = (.ok (), middle) ∧
      handled mode directory files middle = (.ok (), tree') := by
  rw [handled_cons]
  cases handledFile mode directory file tree with
  | mk result middle =>
      cases result with
      | error failure => simp
      | ok value => simp

/-- A failing run succeeds up to some file and fails there. -/
theorem exists_failing (h : handled mode directory files tree = (.error failure, tree')) :
    ∃ done failing later middle, files = done ++ failing :: later ∧
      handled mode directory done tree = (.ok (), middle) ∧
      handledFile mode directory failing middle = (.error failure, tree') := by
  induction files generalizing tree with
  | nil => cases (Prod.mk.inj h).1
  | cons file files ih =>
      rw [handled_cons] at h
      cases hfile : handledFile mode directory file tree with
      | mk result middle =>
          rw [hfile] at h
          cases result with
          | error failure' =>
              obtain ⟨hfailure, rfl⟩ := Prod.mk.inj h
              obtain rfl := Except.error.inj hfailure
              exact ⟨[], file, files, tree, rfl, rfl, hfile⟩
          | ok value =>
              obtain ⟨done, failing, later, last, rfl, hdone, hfailing⟩ := ih h
              exact ⟨file :: done, failing, later, last, rfl,
                handled_cons_ok.mpr ⟨middle, hfile, hdone⟩, hfailing⟩

end Runs

section Checking

theorem path_eq (hplain : isPlainName file.name = true) :
    path directory file = .ok (Path.join directory file.name) :=
  if_pos hplain

theorem handledFile_name (hplain : isPlainName file.name = false) :
    handledFile mode directory file tree = (.error ⟨.notPlainName file.name, []⟩, tree) := by
  have hpath : path directory file = .error ⟨.notPlainName file.name, []⟩ :=
    if_neg (by simp [hplain])
  rw [handledFile, handleFile, hpath]
  rfl

theorem run_checkFile (path : String) (file : GeneratedFile) (tree : FileTree) :
    (checkFile fileSystem path file).run tree =
      match tree.read path with
      | .error error => (.error (systemFailure (.readOutput path) error), tree)
      | .ok existing =>
        if existing = file.bytes then (.ok (), tree)
        else (.error
          ⟨.outputDiffers path (Sha256.hexDigest existing) file.digest, []⟩, tree) := by
  rw [checkFile, FileTree.run_bind]
  change StateT.run (match tree.read path with | .error error => _ | .ok existing => _) tree = _
  cases tree.read path with
  | error error => rfl
  | ok existing =>
      dsimp only
      split <;> rfl

theorem inPlace_iff_read : InPlace tree directory file ↔ isPlainName file.name = true ∧
    tree.read (Path.join directory file.name) = .ok file.bytes :=
  and_congr_right fun hplain => (FileTree.read_join hplain).symm

/-- An accepted name leads to an entry of the directory, if it leads anywhere. -/
theorem follow_path {path : String} {location : Location}
    (hpath : Output.path directory file = .ok path) (hfollow : tree.follow path = .ok location) :
    ∃ around base, tree.directory? directory = some around ∧ location = around ++ [base] := by
  rw [Output.path] at hpath
  split at hpath
  · next hplain =>
      obtain rfl := Except.ok.inj hpath
      exact FileTree.follow_join hplain hfollow
  · cases hpath

/-- One file is checked: it is in place, or there is a reason why not, and the tree is as before. -/
theorem handledFile_check (tree : FileTree) (directory : String) (file : GeneratedFile) :
    (handledFile .check directory file tree = (.ok (), tree) ∧ InPlace tree directory file) ∨
      ∃ failure, handledFile .check directory file tree = (.error failure, tree) ∧
        Misplaced tree directory file failure ∧ ¬ InPlace tree directory file := by
  rw [inPlace_iff_read]
  cases hplain : isPlainName file.name with
  | false => exact Or.inr ⟨_, handledFile_name hplain, .name hplain, by simp⟩
  | true =>
      have hrun := run_checkFile (Path.join directory file.name) file tree
      rw [handledFile, handleFile, path_eq hplain]
      dsimp only
      rw [hrun]
      cases hread : tree.read (Path.join directory file.name) with
      | error error => exact Or.inr ⟨_, rfl, .missing hplain error hread, by simp⟩
      | ok existing =>
          dsimp only
          split
          · next hsame => exact Or.inl ⟨rfl, rfl, by rw [hsame]⟩
          · next hne =>
              exact Or.inr ⟨_, rfl, .different hplain existing hread hne, by simpa using hne⟩

/-- A check leaves the tree alone and stops at the first file that is not in place. -/
theorem handled_check (tree : FileTree) (directory : String) (files : List GeneratedFile) :
    (handled .check directory files tree = (.ok (), tree) ∧
      ∀ file ∈ files, InPlace tree directory file) ∨
    ∃ failure done failing later, handled .check directory files tree = (.error failure, tree) ∧
      files = done ++ failing :: later ∧ (∀ file ∈ done, InPlace tree directory file) ∧
      ¬ InPlace tree directory failing ∧ Misplaced tree directory failing failure := by
  induction files with
  | nil => exact Or.inl ⟨rfl, by simp⟩
  | cons file files ih =>
      rw [handled_cons]
      rcases handledFile_check tree directory file with
        ⟨hrun, hplace⟩ | ⟨failure, hrun, hreason, hplace⟩
      · rw [hrun]
        rcases ih with ⟨hrest, hfiles⟩ |
          ⟨failure, done, failing, later, hrest, rfl, hdone, hfailing, hreason⟩
        · exact Or.inl ⟨hrest, List.forall_mem_cons.mpr ⟨hplace, hfiles⟩⟩
        · exact Or.inr ⟨failure, file :: done, failing, later, hrest, rfl,
            List.forall_mem_cons.mpr ⟨hplace, hdone⟩, hfailing, hreason⟩
      · rw [hrun]
        exact Or.inr ⟨failure, [], file, files, rfl, rfl, by simp, hplace, hreason⟩

end Checking

section Writing

theorem run_writeFile (path : String) (file : GeneratedFile) (tree : FileTree) :
    (writeFile fileSystem path file).run tree =
      match (fileSystem.createDirectories (Path.parent path)).run tree with
      | (.error error, made) =>
        (.error (systemFailure (.createDirectory (Path.parent path)) error), made)
      | (.ok (), made) =>
        match made.write path file.bytes with
        | .error error => (.error (systemFailure (.writeOutput path) error), made)
        | .ok made' => (.ok (), made') := by
  rw [writeFile, FileTree.run_bind, ← Path.parent]
  cases (fileSystem.createDirectories (Path.parent path)).run tree with
  | mk result made =>
      cases result with
      | error error => rfl
      | ok value =>
          dsimp only
          rw [FileTree.run_bind, FileTree.run_write]
          cases made.write path file.bytes with
          | error error => rfl
          | ok made' => rfl

theorem node?_put (around location : Location) (tree : FileTree) (file : GeneratedFile) :
    (put around tree file).node? location =
      if location = around ++ [file.name] then some (.file file.bytes) else tree.node? location :=
  FileTree.node?_insert tree location _ (List.concat_ne_nil _ _)

theorem Fits.keeps (h : Fits tree directory around file) : Keeps tree (put around tree file) :=
  FileTree.keeps_insert (List.concat_ne_nil _ _) (Or.inr h.2.2)

/-- One file does not stand in the way of another one. -/
theorem Fits.put_iff {other : GeneratedFile} (h : Fits tree directory around file) :
    Fits (put around tree file) directory around other ↔ Fits tree directory around other := by
  refine and_congr_right fun _ => and_congr_right fun _ => ?_
  rw [node?_put]
  split
  · next hsame =>
      rw [hsame]
      exact iff_of_true (by simp) h.2.2
  · rfl

theorem keeps_foldl_put (h : ∀ file ∈ files, Fits tree directory around file) :
    Keeps tree (files.foldl (put around) tree) := by
  induction files generalizing tree with
  | nil => exact .refl _
  | cons file files ih =>
      obtain ⟨hfile, hfiles⟩ := List.forall_mem_cons.mp h
      exact hfile.keeps.trans (ih fun other hother => hfile.put_iff.mpr (hfiles other hother))

theorem handledFile_write (hplain : isPlainName file.name = true) (tree : FileTree) :
    handledFile .write directory file tree =
      match (fileSystem.createDirectories (Path.trimmed directory)).run tree with
      | (.error error, made) =>
        (.error (systemFailure (.createDirectory (Path.trimmed directory)) error), made)
      | (.ok (), made) =>
        match made.write (Path.join directory file.name) file.bytes with
        | .error error =>
          (.error (systemFailure (.writeOutput (Path.join directory file.name)) error), made)
        | .ok made' => (.ok (), made') := by
  rw [handledFile, handleFile, path_eq hplain]
  dsimp only
  rw [run_writeFile, Path.parent_join hplain]
  rfl

/-- The step where it succeeds: the directory is created, and the file is put into it. -/
theorem handledFile_write_ok : handledFile .write directory file tree = (.ok (), tree') ↔
    ∃ made around,
      (fileSystem.createDirectories (Path.trimmed directory)).run tree = (.ok (), made) ∧
      made.directory? directory = some around ∧ Fits made directory around file ∧
      tree' = put around made file := by
  cases hplain : isPlainName file.name with
  | false =>
      rw [handledFile_name hplain]
      constructor
      · intro h
        cases (Prod.mk.inj h).1
      · rintro ⟨made, around, -, -, ⟨hplain', -⟩, -⟩
        rw [hplain] at hplain'
        cases hplain'
  | true =>
      rw [handledFile_write hplain]
      constructor
      · intro h
        split at h
        · cases (Prod.mk.inj h).1
        · next made hmade =>
            split at h
            · cases (Prod.mk.inj h).1
            · next written hwritten =>
                obtain ⟨-, rfl⟩ := Prod.mk.inj h
                obtain ⟨htakes, around, haround, hnode, htree⟩ :=
                  (FileTree.write_join hplain).mp hwritten
                exact ⟨made, around, hmade, haround, ⟨hplain, htakes, hnode⟩, htree⟩
      · rintro ⟨made, around, hmade, haround, ⟨-, htakes, hnode⟩, htree⟩
        have hwrite : made.write (Path.join directory file.name) file.bytes = .ok tree' :=
          (FileTree.write_join hplain).mpr ⟨htakes, around, haround, hnode, htree⟩
        rw [hmade]
        dsimp only
        rw [hwrite]

/-- The step where it fails: at most directories are new, and none if the directory is there. -/
theorem handledFile_write_error
    (h : handledFile .write directory file tree = (.error failure, tree')) :
    AddsDirectories directory tree tree' ∧
      (Settled tree (Path.trimmed directory) → tree' = tree) := by
  cases hplain : isPlainName file.name with
  | false =>
      rw [handledFile_name hplain] at h
      obtain ⟨-, rfl⟩ := Prod.mk.inj h
      exact ⟨.refl _ _, fun _ => rfl⟩
  | true =>
      have hadds := FileTree.addsDirectories_createDirectories (Path.isPart_trimmed directory) tree
      have hsettled (hthere : Settled tree (Path.trimmed directory)) :=
        FileTree.run_createDirectories_settled hthere
      rw [handledFile_write hplain] at h
      cases hmade : (fileSystem.createDirectories (Path.trimmed directory)).run tree with
      | mk result made =>
          rw [hmade] at h hadds hsettled
          obtain rfl : made = tree' := by
            split at h
            · next heq =>
                obtain ⟨-, rfl⟩ := Prod.mk.inj heq
                exact (Prod.mk.inj h).2
            · next heq =>
                obtain ⟨-, rfl⟩ := Prod.mk.inj heq
                split at h
                · exact (Prod.mk.inj h).2
                · cases (Prod.mk.inj h).1
          exact ⟨hadds, fun hthere => (Prod.mk.inj (hsettled hthere)).2⟩

/-- The run where the directory is there: all files fit, and one after the other is put into it. -/
theorem handled_write_settled (hsettled : Settled tree (Path.trimmed directory))
    (haround : tree.directory? directory = some around) :
    handled .write directory files tree = (.ok (), tree') ↔
      (∀ file ∈ files, Fits tree directory around file) ∧
        tree' = files.foldl (put around) tree := by
  induction files generalizing tree with
  | nil =>
      constructor
      · intro h
        exact ⟨by simp, (Prod.mk.inj h).2.symm⟩
      · rintro ⟨-, rfl⟩
        rfl
  | cons file files ih =>
      have hrun := FileTree.run_createDirectories_settled hsettled
      have hrest (hfile : Fits tree directory around file) :=
        ih (hfile.keeps.settled hsettled) (hfile.keeps.directory? haround)
      rw [handled_cons_ok, List.forall_mem_cons]
      constructor
      · rintro ⟨middle, hstep, hfiles⟩
        obtain ⟨made, around', hmade, haround', hfile, rfl⟩ := handledFile_write_ok.mp hstep
        obtain rfl : tree = made := (Prod.mk.inj (hrun.symm.trans hmade)).2
        obtain rfl : around' = around := Option.some.inj (haround'.symm.trans haround)
        obtain ⟨hfits, htree⟩ := (hrest hfile).mp hfiles
        exact ⟨⟨hfile, fun other hother => hfile.put_iff.mp (hfits other hother)⟩, htree⟩
      · rintro ⟨⟨hfile, hfits⟩, htree⟩
        refine ⟨put around tree file, ?_, ?_⟩
        · exact handledFile_write_ok.mpr ⟨tree, around, hrun, haround, hfile, rfl⟩
        · exact (hrest hfile).mpr
            ⟨fun other hother => hfile.put_iff.mpr (hfits other hother), htree⟩

/-- The run from any tree: it goes on as if the directory had been there. -/
theorem handled_write_ok (hne : files ≠ []) :
    handled .write directory files tree = (.ok (), tree') ↔ ∃ made around,
      (fileSystem.createDirectories (Path.trimmed directory)).run tree = (.ok (), made) ∧
      made.directory? directory = some around ∧
      (∀ file ∈ files, Fits made directory around file) ∧
      tree' = files.foldl (put around) made := by
  obtain ⟨file, files, rfl⟩ := List.exists_cons_of_ne_nil hne
  have hsame {made : FileTree} (hmade :
      (fileSystem.createDirectories (Path.trimmed directory)).run tree = (.ok (), made)) :
      handled .write directory (file :: files) tree = (.ok (), tree') ↔
        handled .write directory (file :: files) made = (.ok (), tree') := by
    have hagain := FileTree.run_createDirectories_settled (FileTree.settled_createChain hmade)
    simp only [handled_cons_ok, handledFile_write_ok, hmade, hagain]
  constructor
  · intro h
    obtain ⟨middle, hstep, -⟩ := handled_cons_ok.mp h
    obtain ⟨made, around, hmade, haround, -, -⟩ := handledFile_write_ok.mp hstep
    have hsettled := FileTree.settled_createChain hmade
    obtain ⟨hfits, htree⟩ := (handled_write_settled hsettled haround).mp ((hsame hmade).mp h)
    exact ⟨made, around, hmade, haround, hfits, htree⟩
  · rintro ⟨made, around, hmade, haround, hfits, htree⟩
    have hsettled := FileTree.settled_createChain hmade
    exact (hsame hmade).mpr ((handled_write_settled hsettled haround).mpr ⟨hfits, htree⟩)

theorem handled_write_iff (directory : String) (files : List GeneratedFile) (tree : FileTree) :
    (handled .write directory files tree).1 = .ok () ↔
      files = [] ∨ Writable tree directory files := by
  by_cases hne : files = []
  · subst hne
    exact iff_of_true rfl (Or.inl rfl)
  · rw [or_iff_right hne]
    constructor
    · intro hok
      obtain ⟨made, around, hmade, haround, hfits, -⟩ :=
        (handled_write_ok hne).mp (Prod.ext hok rfl)
      exact ⟨made, around, hmade, haround, hfits⟩
    · rintro ⟨made, around, hmade, haround, hfits⟩
      rw [(handled_write_ok hne).mpr ⟨made, around, hmade, haround, hfits, rfl⟩]

theorem wrote_of_ok (h : handled .write directory files tree = (.ok (), tree')) :
    Wrote directory files tree tree' ∧
      (files ≠ [] → Settled tree' (Path.trimmed directory)) := by
  by_cases hne : files = []
  · subst hne
    obtain rfl : tree = tree' := (Prod.mk.inj h).2
    exact ⟨⟨tree, [], .refl _ _, .refl _, Or.inl rfl, rfl⟩, fun hne => absurd rfl hne⟩
  · obtain ⟨made, around, hmade, haround, hfits, rfl⟩ := (handled_write_ok hne).mp h
    have hadds := FileTree.addsDirectories_createDirectories (Path.isPart_trimmed directory) tree
    rw [hmade] at hadds
    have hkeeps := keeps_foldl_put hfits
    exact ⟨⟨made, around, hadds, hkeeps, Or.inr (hkeeps.directory? haround), rfl⟩,
      fun _ => hkeeps.settled (FileTree.settled_createChain hmade)⟩

/-- A failing file leaves the files before it, and directories if it is the first one. -/
theorem wrote_of_error (h : handled .write directory files tree = (.error failure, tree')) :
    ∃ done failing later middle, files = done ++ failing :: later ∧
      handled .write directory done tree = (.ok (), middle) ∧
      handledFile .write directory failing middle = (.error failure, tree') ∧
      (done ≠ [] → tree' = middle) ∧ Wrote directory done tree tree' := by
  obtain ⟨done, failing, later, middle, hfiles, hdone, hfailing⟩ := exists_failing h
  obtain ⟨hadds, hsame⟩ := handledFile_write_error hfailing
  obtain ⟨hwrote, hsettled⟩ := wrote_of_ok hdone
  refine ⟨done, failing, later, middle, hfiles, hdone, hfailing,
    fun hne => hsame (hsettled hne), ?_⟩
  by_cases hne : done = []
  · subst hne
    obtain rfl : tree = middle := (Prod.mk.inj hdone).2
    exact ⟨tree', [], hadds, .refl _, Or.inl rfl, rfl⟩
  · obtain rfl := hsame (hsettled hne)
    exact hwrote

/-- Files in a directory change nothing but the entries of their names. -/
theorem node?_foldl_put (around location : Location) (tree : FileTree)
    (files : List GeneratedFile) :
    (files.foldl (put around) tree).node? location = tree.node? location ∨
      ∃ file ∈ files, location = around ++ [file.name] ∧
        (files.foldl (put around) tree).node? location = some (.file file.bytes) := by
  induction files generalizing tree with
  | nil => exact Or.inl rfl
  | cons file files ih =>
      rw [List.foldl_cons]
      rcases ih (put around tree file) with hsame | ⟨other, hother, hlocation, hnode⟩
      · rw [hsame, node?_put]
        split
        · next hlocation => exact Or.inr ⟨file, List.mem_cons_self, hlocation, rfl⟩
        · exact Or.inl rfl
      · exact Or.inr ⟨other, List.mem_cons_of_mem _ hother, hlocation, hnode⟩

/-- Files of different names are all there in the end. -/
theorem node?_foldl_put_of_mem (hnames : (files.map GeneratedFile.name).Nodup)
    (hfile : file ∈ files) :
    (files.foldl (put around) tree).node? (around ++ [file.name]) = some (.file file.bytes) := by
  induction files generalizing tree with
  | nil => cases hfile
  | cons first files ih =>
      rw [List.map_cons, List.nodup_cons] at hnames
      obtain ⟨hfirst, hrest⟩ := hnames
      rw [List.foldl_cons]
      rcases List.mem_cons.mp hfile with rfl | hfile
      · rcases node?_foldl_put around (around ++ [file.name]) (put around tree file) files with
          hsame | ⟨other, hother, hlocation, -⟩
        · rw [hsame, node?_put, if_pos rfl]
        · have hname : file.name = other.name := by simpa using hlocation
          exact absurd (List.mem_map.mpr ⟨other, hother, hname.symm⟩) hfirst
      · exact ih hrest hfile

theorem ChangesOnly.subset {files' : List GeneratedFile}
    (h : ChangesOnly directory files tree tree') (hsub : files ⊆ files') :
    ChangesOnly directory files' tree tree' := by
  intro location
  rcases h location with hsame | hnew | ⟨around, file, hfile, hwritten⟩
  · exact Or.inl hsame
  · exact Or.inr (Or.inl hnew)
  · exact Or.inr (Or.inr ⟨around, file, hsub hfile, hwritten⟩)

theorem Wrote.changesOnly (h : Wrote directory files tree tree') :
    ChangesOnly directory files tree tree' := by
  intro location
  obtain ⟨made, around, hadds, hkeeps, haround, rfl⟩ := h
  rcases node?_foldl_put around location made files with hsame | ⟨file, hfile, hlocation, hnode⟩
  · rcases hadds location with hold | ⟨hnone, hnew, front, hprefix, hfront⟩
    · exact Or.inl (hsame.trans hold)
    · exact Or.inr (Or.inl ⟨hnone, hsame.trans hnew, front, hprefix, hkeeps.foldlM hfront⟩)
  · rcases haround with rfl | haround
    · cases hfile
    · exact Or.inr (Or.inr ⟨around, file, hfile, haround, hlocation, hnode⟩)

/-- Files that are in place can be written again, and the tree stays as it is. -/
theorem handled_write_inPlace (hsettled : files ≠ [] → Settled tree (Path.trimmed directory))
    (hplace : ∀ file ∈ files, InPlace tree directory file) :
    handled .write directory files tree = (.ok (), tree) := by
  induction files with
  | nil => rfl
  | cons file files ih =>
      obtain ⟨⟨hplain, htakes, around, haround, hnode⟩, hfiles⟩ := List.forall_mem_cons.mp hplace
      have hthere := hsettled (List.cons_ne_nil _ _)
      have hlocation : around ++ [file.name] ≠ [] := List.concat_ne_nil _ _
      refine handled_cons_ok.mpr ⟨tree, ?_, ih (fun _ => hthere) hfiles⟩
      refine handledFile_write_ok.mpr ⟨tree, around,
        FileTree.run_createDirectories_settled hthere, haround, ⟨hplain, htakes, ?_⟩, ?_⟩
      · rw [hnode]
        simp
      · exact (FileTree.insert_self hlocation hnode).symm

/-- Written files of different names are all in place. -/
theorem inPlace_of_handled_write (h : handled .write directory files tree = (.ok (), tree'))
    (hnames : (files.map GeneratedFile.name).Nodup) :
    ∀ file ∈ files, InPlace tree' directory file := by
  intro file hfile
  obtain ⟨made, around, -, haround, hfits, rfl⟩ :=
    (handled_write_ok (List.ne_nil_of_mem hfile)).mp h
  obtain ⟨hplain, htakes, -⟩ := hfits file hfile
  exact ⟨hplain, htakes, around, (keeps_foldl_put hfits).directory? haround,
    node?_foldl_put_of_mem hnames hfile⟩

end Writing

/-- Writing and checking agree and touch nothing else. A check leaves the tree alone; it succeeds
exactly if all files are in place, and otherwise reports the first one that is not. Writing adds
directories on the path of the directory and files of the list in the directory. It succeeds exactly
if the directory can be created and every file fits into it. If it fails at some file, it has
written the files before this one and no others, and if it succeeds and the names differ, then
checking and writing the same files again succeed and leave the tree alone. A name that is accepted
leads nowhere but to an entry of the directory. -/
theorem outputs_agree (directory : String) (tree : FileTree) (files : List GeneratedFile) :
    ((handled .check directory files tree).2 = tree ∧
      ((handled .check directory files tree).1 = .ok () ↔
        ∀ file ∈ files, InPlace tree directory file) ∧
      ∀ failure, (handled .check directory files tree).1 = .error failure →
        ∃ done failing later, files = done ++ failing :: later ∧
          (∀ file ∈ done, InPlace tree directory file) ∧ ¬ InPlace tree directory failing ∧
          Misplaced tree directory failing failure) ∧
    (∀ result tree', handled .write directory files tree = (result, tree') →
      ChangesOnly directory files tree tree' ∧
      (result = .ok () ↔ files = [] ∨ Writable tree directory files) ∧
      (result = .ok () → Wrote directory files tree tree') ∧
      (∀ failure, result = .error failure →
        ∃ done failing later middle, files = done ++ failing :: later ∧
          handled .write directory done tree = (.ok (), middle) ∧
          handledFile .write directory failing middle = (.error failure, tree') ∧
          (done ≠ [] → tree' = middle) ∧ Wrote directory done tree tree') ∧
      (result = .ok () → (files.map GeneratedFile.name).Nodup →
        handled .check directory files tree' = (.ok (), tree') ∧
        handled .write directory files tree' = (.ok (), tree'))) ∧
    ∀ file path location, Output.path directory file = .ok path →
      tree.follow path = .ok location →
        ∃ around base, tree.directory? directory = some around ∧ location = around ++ [base] := by
  refine ⟨?_, ?_, ?_⟩
  · rcases handled_check tree directory files with
      ⟨hrun, hfiles⟩ | ⟨failure, done, failing, later, hrun, rfl, hdone, hfailing, hreason⟩
    · rw [hrun]
      exact ⟨rfl, iff_of_true rfl hfiles, nofun⟩
    · rw [hrun]
      refine ⟨rfl, iff_of_false nofun ?_, ?_⟩
      · intro hfiles
        exact hfailing (hfiles failing (by simp))
      · rintro failure' hfailure
        obtain rfl := Except.error.inj hfailure
        exact ⟨done, failing, later, rfl, hdone, hfailing, hreason⟩
  · intro result tree' hrun
    have hwritable := handled_write_iff directory files tree
    rw [hrun] at hwritable
    cases result with
    | ok value =>
        obtain ⟨hwrote, hsettled⟩ := wrote_of_ok hrun
        refine ⟨hwrote.changesOnly, hwritable, fun _ => hwrote, nofun, ?_⟩
        intro _ hnames
        have hplace := inPlace_of_handled_write hrun hnames
        refine ⟨?_, handled_write_inPlace hsettled hplace⟩
        rcases handled_check tree' directory files with
          ⟨hcheck, -⟩ | ⟨failure, done, failing, later, -, hfiles, -, hfailing, -⟩
        · exact hcheck
        · exact absurd (hplace failing (by simp [hfiles])) hfailing
    | error failure =>
        obtain ⟨done, failing, later, middle, hfiles, hdone, hfailing, hsame, hwrote⟩ :=
          wrote_of_error hrun
        refine ⟨hwrote.changesOnly.subset (by simp [hfiles]), hwritable, nofun, ?_, nofun⟩
        rintro failure' hfailure
        obtain rfl := Except.error.inj hfailure
        exact ⟨done, failing, later, middle, hfiles, hdone, hfailing, hsame, hwrote⟩
  · intro file path location hpath hfollow
    exact follow_path hpath hfollow

def songFiles : List GeneratedFile :=
  [⟨"models.ts", "export type Song = \x7b\n  id: number;\n\x7d;\n"⟩,
    ⟨"querier.ts", "export \x7b\x7d;\n"⟩]

def songTree : FileTree :=
  ⟨[(["songs"], .directory), (["songs", "schema.sql"], .file (Utf8.encode "CREATE TABLE song;"))]⟩

theorem outputs_agree_songFiles :
    ∃ tree', handled .write "songs/../songs/gen" songFiles songTree = (.ok (), tree') ∧
      handled .check "songs/../songs/gen" songFiles tree' = (.ok (), tree') ∧
      handled .write "songs/../songs/gen" songFiles tree' = (.ok (), tree') := by
  have hok : (handled .write "songs/../songs/gen" songFiles songTree).1.isOk = true := by
    decide +kernel
  obtain ⟨-, hwritten, -⟩ := outputs_agree "songs/../songs/gen" songTree songFiles
  cases hwrite : handled .write "songs/../songs/gen" songFiles songTree with
  | mk result tree' =>
      rw [hwrite] at hok
      cases result with
      | error failure => cases hok
      | ok value =>
          obtain ⟨-, -, -, -, hagain⟩ := hwritten _ _ hwrite
          exact ⟨tree', rfl, hagain rfl (by decide)⟩

end TypedSql.Output
