import ActionForge.Project.Store
import ActionForge.Proofs.Project.FileTree

/-!
# Runs on file trees

A run of two steps is the run of the first and, if it succeeds, the run of the second on the tree that the
first leaves (`run_bind`). So what each step may change, a run of steps may change, however it ends: some
runs only read (`ReadsOnly`), others change files at some paths (`ChangesOnly`). A step that fails was
either refused by the operating system (`Refused`) or has a reason of its own.
-/

namespace ActionForge

variable {α β : Type} {tree mid after : FileTree}

/-- The operating system refused an operation. -/
def Refused (outcome : Except Failure α) : Prop :=
  ∃ activities fault, outcome = .error ⟨activities, .file fault⟩

/-- What succeeds was not refused. -/
theorem not_refused_of_isOk {outcome : Except Failure α} (h : outcome.isOk) : ¬ Refused outcome := by
  rintro ⟨activities, fault, rfl⟩
  cases h

namespace Run

/-- The second step runs on the tree that the first one leaves, unless the first one fails. -/
theorem run_bind (first : Run α) (next : α → Run β) (tree : FileTree) :
    (first >>= next).run tree =
      match first.run tree with
      | (.ok value, mid) => (next value).run mid
      | (.error failure, mid) => (.error failure, mid) := by
  -- The monad of states hands on the value with the tree.
  have hstate : ∀ {γ : Type} (state : StateM FileTree γ) (f : γ → StateM FileTree (Except Failure β)),
      (state >>= f) tree = f (state tree).1 (state tree).2 := fun _ _ => rfl
  rw [ExceptT.run_bind, hstate]
  rcases first.run tree with ⟨outcome, mid⟩
  cases outcome <;> rfl

/-- Behind a step that succeeds, the run goes on with its value. -/
theorem run_bind_of_ok {first : Run α} {next : α → Run β} {value : α}
    (h : first.run tree = (.ok value, mid)) : (first >>= next).run tree = (next value).run mid := by
  rw [run_bind, h]

/-- A step that fails ends the run. -/
theorem run_bind_of_error {first : Run α} {next : α → Run β} {failure : Failure}
    (h : first.run tree = (.error failure, mid)) : (first >>= next).run tree = (.error failure, mid) := by
  rw [run_bind, h]

/-- A run of two steps that succeeds, taken apart. -/
theorem exists_of_run_bind {first : Run α} {next : α → Run β} {result : β}
    (h : ((first >>= next).run tree).1 = .ok result) :
    ∃ value mid, first.run tree = (.ok value, mid) ∧ ((next value).run mid).1 = .ok result := by
  rw [run_bind] at h
  split at h
  · rename_i value mid hfirst
    exact ⟨value, mid, hfirst, h⟩
  · cases h

theorem run_isThere (path : String) (tree : FileTree) :
    (isThere path).run tree = (.ok (tree.isThere path), tree) := rfl

/-- A computation without files leaves the tree as it is. -/
theorem run_lift (outcome : Except Failure α) (tree : FileTree) :
    (lift outcome).run tree = (outcome, tree) := by
  cases outcome <;> rfl

theorem run_get (tree : FileTree) : (get : Run FileTree).run tree = (.ok tree, tree) := rfl

/-- Looking at the tree leaves it as it is, and a fault is told with what was being done. -/
theorem run_look (activity : Activity) (f : FileTree → Except FileFault α) (tree : FileTree) :
    (look activity f).run tree =
      ((f tree).mapError fun fault => (Cause.file fault).failure.during activity, tree) := by
  rw [look, run_bind_of_ok (run_get tree)]
  cases f tree <;> rfl

/-- A change is made as a whole, or not at all when it fails. -/
theorem run_change (activities : List Activity) (f : FileTree → Except FileFault FileTree)
    (tree : FileTree) : (change activities f).run tree =
      match f tree with
      | .ok after => (.ok (), after)
      | .error fault => (.error ⟨activities, .file fault⟩, tree) := by
  rw [change, run_bind_of_ok (run_get tree)]
  cases f tree <;> rfl

/-! ## Runs that only read -/

/-- Whatever a run comes to, it leaves the tree as it is. -/
def ReadsOnly (run : Run α) : Prop := ∀ tree, (run.run tree).2 = tree

/-- What is only read after a run leaves the tree as the run left it. -/
theorem snd_run_bind {first : Run α} {next : α → Run β} (h : ∀ value, ReadsOnly (next value))
    (tree : FileTree) : ((first >>= next).run tree).2 = (first.run tree).2 := by
  rw [run_bind]
  split
  · rename_i value mid hrun
    rw [hrun]
    exact h value mid
  · rename_i failure mid hrun
    rw [hrun]

namespace ReadsOnly

theorem pure (value : α) : ReadsOnly (Pure.pure value) := fun _ => rfl

theorem throw (failure : Failure) : ReadsOnly (throw failure : Run α) := fun _ => rfl

theorem isThere (path : String) : ReadsOnly (Run.isThere path) := fun _ => rfl

theorem lift (outcome : Except Failure α) : ReadsOnly (Run.lift outcome) := fun tree => by rw [run_lift]

theorem look (activity : Activity) (f : FileTree → Except FileFault α) : ReadsOnly (Run.look activity f) :=
  fun tree => by rw [run_look]

/-- Two steps that only read do so together. -/
theorem bind {first : Run α} {next : α → Run β} (h : ReadsOnly first) (h' : ∀ value, ReadsOnly (next value)) :
    ReadsOnly (first >>= next) := by
  intro tree
  rw [snd_run_bind h', h tree]

end ReadsOnly

/-! ## Runs that change files -/

/-- Whatever a run comes to, it changes no files but those at some paths. -/
def ChangesOnly (paths : List String) (run : Run α) : Prop :=
  ∀ tree, FileTree.ChangesOnly paths tree (run.run tree).2

/-- What only reads changes no file at any path. -/
theorem ReadsOnly.changesOnly {run : Run α} (h : ReadsOnly run) (paths : List String) :
    ChangesOnly paths run := by
  intro tree
  rw [h tree]
  exact .refl paths tree

namespace ChangesOnly

variable {paths paths' : List String}

/-- More paths may be named than those with changes. -/
theorem mono {run : Run α} (h : ChangesOnly paths run) (hpaths : ∀ path ∈ paths, path ∈ paths') :
    ChangesOnly paths' run :=
  fun tree => (h tree).mono hpaths

/-- Two steps that change files at some paths do so together. -/
theorem bind {first : Run α} {next : α → Run β} (h : ChangesOnly paths first)
    (h' : ∀ value, ChangesOnly paths (next value)) : ChangesOnly paths (first >>= next) := by
  intro tree
  have hfirst := h tree
  rw [run_bind]
  split
  · rename_i value mid hrun
    rw [hrun] at hfirst
    exact hfirst.trans (h' value mid)
  · rename_i failure mid hrun
    rw [hrun] at hfirst
    exact hfirst

/-- A change of the tree changes the files that the operation changes. -/
theorem change {activities : List Activity} {f : FileTree → Except FileFault FileTree}
    (h : ∀ tree after, f tree = .ok after → FileTree.ChangesOnly paths tree after) :
    ChangesOnly paths (Run.change activities f) := by
  intro tree
  rw [run_change]
  split
  · rename_i after hf
    exact h tree after hf
  · exact .refl paths tree

end ChangesOnly

end Run

end ActionForge
