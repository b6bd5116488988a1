import ContentSync.Proofs.KeptProperty

/-!
# An import pass is all or nothing

No operation of an import touches the saved tree: the node operations and a commit of the
version storage change the transient tree, and drawing an identifier changes the counter
(`RepoM.opsKeep_saved`). The saved tree therefore stays as it was while the entries of a pass are
imported, whatever they do and wherever they fail. A pass that fails then discards the transient
tree, going back to that saved tree, and one that succeeds saves its transient tree.

Main statement: `Importer.run_all_or_nothing`.
-/

namespace ContentSync

open Node RepoM

namespace RepoM

variable {s : Node}

/-- A run that ends with the saved tree it started with keeps every value of it. -/
theorem keeps_saved_of_final {α : Type} {x : RepoM α} (h : ∀ r, (final (x r)).saved = r.saved) :
    Keeps (·.saved = s) x :=
  fun r hr => (h r).trans hr

theorem keeps_saved_modifyNode (path : String) (g : Node → Node) :
    Keeps (·.saved = s) (modifyNode path g) :=
  keeps_saved_of_final fun r => by rw [final_modifyNode]

theorem keeps_saved_addNode (parent name ty : String) : Keeps (·.saved = s) (addNode parent name ty) :=
  keeps_saved_of_final fun r => by
    rcases final_addNode parent name ty r with h | ⟨_, h⟩ <;> rw [h]

theorem keeps_saved_removeNode (path : String) : Keeps (·.saved = s) (removeNode path) :=
  keeps_saved_of_final fun r => by
    rcases final_removeNode path r with h | ⟨_, _, _, h⟩ <;> rw [h]

theorem keeps_saved_moveNode (src dest : String) : Keeps (·.saved = s) (moveNode src dest) := by
  unfold moveNode
  dsimp only
  -- the checks only read the tree; the move removes the source and appends it elsewhere
  split
  · exact keeps_throw_bind _ _
  · split
    · exact keeps_throw_bind _ _
    · refine (keeps_nodeExists dest).bind fun _ => ?_
      split
      · exact keeps_throw_bind _ _
      · refine (keeps_nodeExists _).bind fun _ => ?_
        split
        · exact (keeps_requireNode src).bind fun _ => (keeps_saved_removeNode src).bind fun _ =>
            keeps_saved_modifyNode _ _
        · exact keeps_throw_bind _ _

theorem keeps_saved_commitVersionStorage (storage : Staged) :
    Keeps (·.saved = s) (commitVersionStorage storage) := by
  unfold commitVersionStorage
  refine keeps_get.bind_of_run fun _ r _ hr hget => ?_
  cases hget
  dsimp only
  -- adding the system node sets a state whose saved tree is the one read
  split
  · exact Keeps.bind (fun _ _ => hr) fun _ => keeps_saved_modifyNode _ _
  · exact keeps_saved_modifyNode _ _

/-- No operation of an import touches the saved tree. -/
theorem opsKeep_saved (s : Node) : OpsKeep (·.saved = s) where
  freshNumber := keeps_saved_of_final fun _ => rfl
  addNode := keeps_saved_addNode
  removeNode := keeps_saved_removeNode
  moveNode := keeps_saved_moveNode
  setProperty := fun path p => keeps_saved_modifyNode path (·.applyProperty p)
  removeProperty := fun path a => keeps_saved_modifyNode path (·.removeProperty a)
  setPrimaryType := fun path _ => keeps_saved_modifyNode path _
  setMixins := fun path _ => keeps_saved_modifyNode path _
  commit := fun _ _ _ s' _ _ _ => keeps_saved_commitVersionStorage s'

end RepoM

namespace Importer

/-- A pass over entries ends with a failure, having gone back to the saved tree it began with,
or with the merged result, having saved; the saved tree never changes in between. -/
theorem runEntries_all_or_nothing (imp : Importer) (f : WorkspaceFilter) :
    ∀ (entries : List ImportEntry) (p : Progress) (info : ImportInfo) (r : Repository),
      ∃ p' res r', imp.runEntries f entries p info r = .ok (p', res) r' ∧
        (∀ e, res = .error e → r'.root = r.saved ∧ r'.saved = r.saved) ∧
        (∀ info', res = .ok info' → r'.saved = r'.root)
  | [], p, info, r =>
    ⟨p, .ok info, { r with saved := r.root }, rfl, fun _ h => (by cases h), fun _ _ => rfl⟩
  | e :: es, p, info, r => by
    rw [runEntries]
    -- the entry's run cannot touch the saved tree, whether it succeeds or fails
    have hsaved : (final (imp.importSet f e.parent e.name e.artifacts r)).saved = r.saved :=
      (opsKeep_saved r.saved).importSet imp f _ _ _ r rfl
    cases hset : imp.importSet f e.parent e.name e.artifacts r with
    | ok result r₁ =>
      rw [hset, final_ok] at hsaved
      rw [bind_of_ok (attempt_of_ok hset)]
      obtain ⟨p', res, r', hrun, herr, hok⟩ :=
        runEntries_all_or_nothing imp f es (p.importInfo result) (info.merge result) r₁
      refine ⟨p', res, r', hrun, fun err h => ?_, hok⟩
      rw [← hsaved]
      exact herr err h
    | error err r₁ =>
      rw [hset, final_error] at hsaved
      rw [bind_of_ok (attempt_of_error hset)]
      exact ⟨_, .error err, { r₁ with root := r₁.saved }, rfl, fun _ _ => ⟨hsaved, hsaved⟩,
        fun _ h => by cases h⟩

/-- An import pass is all or nothing: it always answers, and when it fails the transient tree is
the saved tree as it was when the pass began, which is still the saved one (so a repository
without pending changes is left as it was); when it succeeds its transient tree is saved. -/
theorem run_all_or_nothing (imp : Importer) (f : WorkspaceFilter) (entries : List ImportEntry)
    (r : Repository) :
    ∃ p res r', imp.run f entries r = .ok (p, res) r' ∧
      (∀ e, res = .error e → r'.root = r.saved ∧ r'.saved = r.saved) ∧
      (∀ info, res = .ok info → r'.saved = r'.root) :=
  runEntries_all_or_nothing imp f entries _ _ r

end Importer

end ContentSync
