import TypedSql.Output.FileSystem
import TypedSql.Proofs.Output.FileTree

/-!
Directories that are created around files. A run of the chain adds directories to the tree and does
nothing else, whether it succeeds or not; every new one is where first pieces of the directory's
path lead. These pieces are taken as they are written, so that a piece that two dots undo is created
as well. If the directory is there already, the tree stays as it is.
-/

namespace TypedSql.FileTree

open TypedSql.Path (split isIdle IsPart)

/-- The later tree has new directories and is otherwise the same. New directories are where first
pieces of the given path lead. -/
def AddsDirectories (directory : String) (tree tree' : FileTree) : Prop :=
  ∀ location, tree'.node? location = tree.node? location ∨
    tree.node? location = none ∧ tree'.node? location = some .directory ∧
      ∃ front, front <+: split directory ∧ front.foldlM tree'.step [] = .ok location

/-- The directory of a path is there, or is the working directory. -/
def Settled (tree : FileTree) (path : String) : Prop :=
  path = "" ∨ tree.isDirectory path = true

variable {tree tree' : FileTree} {path directory : String} {paths : List String}

theorem AddsDirectories.refl (directory : String) (tree : FileTree) :
    AddsDirectories directory tree tree :=
  fun _ => Or.inl rfl

theorem AddsDirectories.keeps (h : AddsDirectories directory tree tree') : Keeps tree tree' := by
  constructor
  · intro location hnode
    rcases h location with hsame | ⟨hnone, -⟩
    · rw [hsame, hnode]
    · rw [hnone] at hnode
      cases hnode
  · intro location hnode
    rcases h location with hsame | ⟨-, hnew, -⟩
    · rwa [hsame]
    · rw [hnew]
      rfl

theorem AddsDirectories.trans {last : FileTree} (h : AddsDirectories directory tree tree')
    (h' : AddsDirectories directory tree' last) : AddsDirectories directory tree last := by
  intro location
  rcases h' location with hsame' | ⟨hnone', hnew', hfront'⟩
  · rcases h location with hsame | ⟨hnone, hnew, front, hprefix, hfront⟩
    · exact Or.inl (hsame'.trans hsame)
    · exact Or.inr ⟨hnone, hsame'.trans hnew, front, hprefix, h'.keeps.foldlM hfront⟩
  · rcases h location with hsame | ⟨-, hnew, -⟩
    · exact Or.inr ⟨hsame.symm.trans hnone', hnew', hfront'⟩
    · rw [hnew] at hnone'
      cases hnone'

theorem Keeps.settled (h : Keeps tree tree') (hsettled : Settled tree path) :
    Settled tree' path :=
  hsettled.imp id h.isDirectory

theorem settled_of_makeDirectory (h : tree.makeDirectory path = .ok tree') :
    Settled tree' path := by
  obtain ⟨location, hlocation, -, rfl, hfollow⟩ := makeDirectory_spec h
  refine Or.inr (isDirectory_iff.mpr ⟨location, hfollow, ?_⟩)
  rw [node?_insert tree _ _ hlocation, if_pos rfl]

/-- A new directory is where first pieces lead if its path has these pieces. -/
theorem addsDirectories_of_makeDirectory (hpart : IsPart directory path)
    (h : tree.makeDirectory path = .ok tree') : AddsDirectories directory tree tree' := by
  obtain ⟨location, hlocation, hnone, rfl, hfollow⟩ := makeDirectory_spec h
  obtain ⟨parts, hparts, hfold⟩ := follow_eq_ok.mp hfollow
  intro other
  rw [node?_insert tree _ _ hlocation]
  by_cases hother : other = location
  · subst hother
    refine Or.inr ⟨hnone, if_pos rfl, ?_⟩
    rcases hpart with rfl | rfl | hprefix
    · cases hparts
    · obtain rfl : parts = [[], []] := pieces_eq_ok hparts
      have hidle : ∀ piece ∈ [[], []], isIdle piece = true := by decide
      exact absurd ((foldlM_idle hidle).mp hfold).1 hlocation
    · obtain rfl := pieces_eq_ok hparts
      exact ⟨_, hprefix, hfold⟩
  · exact Or.inl (if_neg hother)

def forgiven (tree : FileTree) (path : String) (error : SystemError) : Except SystemError Unit :=
  if tree.isDirectory path then .ok () else .error error

theorem run_bind {σ α β : Type} (action : StateM σ α) (next : α → StateM σ β) (state : σ) :
    (action >>= next).run state = (next (action.run state).1).run (action.run state).2 :=
  rfl

theorem run_makeDirectory (path : String) (tree : FileTree) :
    (fileSystem.makeDirectory path).run tree =
      match tree.makeDirectory path with
      | .ok made => (.ok (), made)
      | .error error => (.error error, tree) :=
  rfl

theorem run_write (path : String) (contents : Bytes) (tree : FileTree) :
    (fileSystem.write path contents).run tree =
      match tree.write path contents with
      | .ok tree' => (.ok (), tree')
      | .error error => (.error error, tree) :=
  rfl

theorem run_unlessDirectory (path : String) (error : SystemError) :
    (fileSystem.unlessDirectory path error).run tree = (tree.forgiven path error, tree) := by
  rw [forgiven]
  change (if tree.isDirectory path then _ else _ : StateM FileTree (Except SystemError Unit)).run
    tree = _
  split <;> rfl

/-- The first attempt, the directories around, and the second attempt. -/
theorem run_createChain_cons (hpath : path ≠ "") :
    (fileSystem.createChain (path :: paths)).run tree =
      match tree.makeDirectory path with
      | .ok made => (.ok (), made)
      | .error .notFound =>
        match (fileSystem.createChain paths).run tree with
        | (.error error, made) => (.error error, made)
        | (.ok (), made) =>
          match made.makeDirectory path with
          | .ok made' => (.ok (), made')
          | .error error => (made.forgiven path error, made)
      | .error error => (tree.forgiven path error, tree) := by
  rw [FileSystem.createChain, if_neg hpath, run_bind, run_makeDirectory]
  cases tree.makeDirectory path with
  | ok made => rfl
  | error error =>
      cases error with
      | notFound =>
          dsimp only
          rw [run_bind]
          cases (fileSystem.createChain paths).run tree with
          | mk result made =>
              cases result with
              | error error => rfl
              | ok value =>
                  dsimp only
                  rw [run_bind, run_makeDirectory]
                  cases made.makeDirectory path with
                  | ok made' => rfl
                  | error error => exact run_unlessDirectory path error
      | _ => exact run_unlessDirectory path _

theorem settled_of_forgiven {error : SystemError} (h : tree.forgiven path error = .ok ()) :
    Settled tree path := by
  rw [forgiven] at h
  split at h
  · next hdirectory => exact Or.inr hdirectory
  · cases h

theorem addsDirectories_createChain (hparts : ∀ path ∈ paths, IsPart directory path) :
    AddsDirectories directory tree ((fileSystem.createChain paths).run tree).2 := by
  induction paths generalizing tree with
  | nil => exact .refl _ _
  | cons path paths ih =>
      obtain ⟨hpart, hrest⟩ := List.forall_mem_cons.mp hparts
      by_cases hpath : path = ""
      · rw [FileSystem.createChain, if_pos hpath]
        exact .refl _ _
      · rw [run_createChain_cons hpath]
        cases hfirst : tree.makeDirectory path with
        | ok made => exact addsDirectories_of_makeDirectory hpart hfirst
        | error error =>
            cases error with
            | notFound =>
                have haround : AddsDirectories directory tree
                    ((fileSystem.createChain paths).run tree).2 := ih hrest
                dsimp only
                cases hchain : (fileSystem.createChain paths).run tree with
                | mk result made =>
                    rw [hchain] at haround
                    cases result with
                    | error error => exact haround
                    | ok value =>
                        dsimp only
                        cases hsecond : made.makeDirectory path with
                        | ok made' =>
                            exact haround.trans (addsDirectories_of_makeDirectory hpart hsecond)
                        | error error => exact haround
            | _ => exact .refl _ _

/-- Where the chain succeeds, its first directory is there. -/
theorem settled_createChain
    (h : (fileSystem.createChain (path :: paths)).run tree = (.ok (), tree')) :
    Settled tree' path := by
  by_cases hpath : path = ""
  · exact Or.inl hpath
  · rw [run_createChain_cons hpath] at h
    split at h
    · next made hmade =>
        obtain ⟨-, rfl⟩ := Prod.mk.inj h
        exact settled_of_makeDirectory hmade
    · split at h
      · cases h
      · split at h
        · next made hmade =>
            obtain ⟨-, rfl⟩ := Prod.mk.inj h
            exact settled_of_makeDirectory hmade
        · obtain ⟨hok, rfl⟩ := Prod.mk.inj h
          exact settled_of_forgiven hok
    · obtain ⟨hok, rfl⟩ := Prod.mk.inj h
      exact settled_of_forgiven hok

/-- Nothing is created around what is there. -/
theorem run_createDirectories_settled (h : Settled tree path) :
    (fileSystem.createDirectories path).run tree = (.ok (), tree) := by
  rw [FileSystem.createDirectories]
  by_cases hpath : path = ""
  · rw [FileSystem.createChain, if_pos hpath]
    rfl
  · have hdirectory := h.resolve_left hpath
    rw [run_createChain_cons hpath, makeDirectory_of_isDirectory hdirectory]
    dsimp only
    rw [forgiven, if_pos hdirectory]

/-- The directories around a part of a directory are parts of it. -/
theorem addsDirectories_createDirectories (h : IsPart directory path) (tree : FileTree) :
    AddsDirectories directory tree ((fileSystem.createDirectories path).run tree).2 := by
  apply addsDirectories_createChain
  intro inner hinner
  rcases List.mem_cons.mp hinner with rfl | hinner
  · exact h
  · exact h.of_mem_parents hinner

end TypedSql.FileTree
