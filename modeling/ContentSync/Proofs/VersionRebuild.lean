import ContentSync.Proofs.HistoryLookup
import ContentSync.Proofs.ReadToEnd

/-!
# A version rebuild changes the tree once, at its end

Importing a version document reads it event by event into a staged copy of the version storage,
and only once the document has ended puts that copy in place, in one commit, when it differs
from the stored one. The fuel the reading is given never runs out before the reader reports the
end or a fault (`applyVersionEvents_fuel`), so the document is read to its end. Reading draws
identifiers for the histories it creates and changes nothing else
(`RepoM.keeps_applyVersionEvents`), and the commit cannot fail. So a rebuild that fails, wherever
in the document and for whatever reason, leaves the transient and the saved tree as they were,
and one that succeeds has changed the transient tree by that one commit at most.

Main statement: `version_rebuild_commits_once`.
-/

namespace ContentSync

open RepoM

/-- The trees of a repository, what a rebuild must leave alone until its commit. -/
def Repository.HasTrees (root saved : Node) (r : Repository) : Prop :=
  r.root = root ∧ r.saved = saved

namespace RepoM

variable {root saved : Node}

theorem keeps_trees_freshNumber : Keeps (Repository.HasTrees root saved) freshNumber :=
  fun _ hr => hr

/-- Reading a version document into a staged storage leaves the trees as they were, whether
the reading succeeds or fails. -/
theorem trees_applyVersionEvents (fuel : Nat) (reader : ElementReader)
    (stack : List VersionFrame) (seenRoot : Bool) (storage : Staged) (r : Repository) :
    (final (applyVersionEvents fuel reader stack seenRoot storage r)).HasTrees r.root r.saved :=
  keeps_applyVersionEvents keeps_trees_freshNumber fuel reader stack seenRoot storage r ⟨rfl, rfl⟩

end RepoM

/-- A rebuild of version histories changes the trees once, at its end. When it fails, wherever
in the document, the transient and the saved tree are as they were before. When it succeeds,
the saved tree is as it was, and the transient tree is as it was if the rebuild reports no
change, or else is the result of one commit of a staged storage made from a state with the
trees as they were. -/
theorem version_rebuild_commits_once (data : List UInt8) (r : Repository) :
    (∀ e r', importVersions data r = .error e r' → r'.root = r.root ∧ r'.saved = r.saved) ∧
      ∀ changed r', importVersions data r = .ok changed r' →
        r'.saved = r.saved ∧
          (changed = false ∧ r'.root = r.root ∨
            changed = true ∧ ∃ s r₁, r₁.HasTrees r.root r.saved ∧
              commitVersionStorage s r₁ = .ok () r') := by
  obtain ⟨s, hs, -⟩ := versionStorage_staged r
  have hread := trees_applyVersionEvents (2 * data.length + 2) (ElementReader.ofBytes data) []
    false s r
  unfold importVersions
  rw [bind_of_ok hs]
  cases happly : applyVersionEvents (2 * data.length + 2) (ElementReader.ofBytes data) [] false s r
    with
  | error e r₁ =>
    -- the reading failed: nothing was committed
    rw [happly, final_error] at hread
    rw [bind_of_error happly]
    refine ⟨fun e' r' h => ?_, fun _ _ h => by cases h⟩
    cases h
    exact hread
  | ok s' r₁ =>
    rw [happly, final_ok] at hread
    rw [bind_of_ok happly, bind_of_ok get_run]
    by_cases hsame : ((r₁.root.descendant? Known.versionStoragePath).any (·.same s'.build)) = true
    · -- the staged storage is the stored one: nothing to commit
      rw [if_pos hsame]
      refine ⟨fun _ _ h => (by cases h), fun changed r' h => ?_⟩
      cases h
      exact ⟨hread.2, .inl ⟨rfl, hread.1⟩⟩
    · -- one commit, which cannot fail
      rw [if_neg hsame]
      obtain ⟨root', hcommit⟩ := (commitVersionStorage_run s' r₁).imp fun _ h => h.1
      rw [bind_of_ok hcommit]
      refine ⟨fun _ _ h => (by cases h), fun changed r' h => ?_⟩
      cases h
      exact ⟨hread.2, .inr ⟨rfl, s', r₁, hread, hcommit⟩⟩

end ContentSync
