import ContentSync.Proofs.ImportFrame
import ContentSync.Proofs.RescueScratch
import ContentSync.Proofs.ReportMerge
import Mathlib.Data.List.Nodup

/-!
# Reconciling a folder

An existing folder imported from an artifact set made of a directory and hints loses the
children that the filter covers in replace mode and that the set does not hint at, save for
access control policies; a policy goes when the access control handling removes existing ones,
or, hinted at, when the handling is `clear`. A policy does not go alone, though: it is removed by
clearing every policy of the folder, with the mixin `rep:AccessControllable`. So the folder keeps
exactly the children that are not deleted, when no policy is deleted, and exactly the children
that are neither deleted nor policies otherwise (`FolderSync.reconciled`); the report marks
exactly the deleted children (`FolderSync.get?_report`).

The loop of `syncFolderChildren` is read one child at a time (`FolderSync.visit_eq`): after the
children `done`, the folder is `FolderSync.partway done todo`, and each step moves one child from
`todo` to `done` (`FolderSync.visit_run`).

Main statement: `FolderSync.acceptFolder_reconciles`.
-/

namespace ContentSync

open Node RepoM

/-- The node without its access control policies and without the mixin
`rep:AccessControllable`. -/
def Node.withoutPolicies (n : Node) : Node :=
  { n with
    children := n.children.filter fun c => !isAclNode c
    mixins := n.mixins.filter (· ≠ Known.repAccessControllable) }

theorem Node.keepsName_withoutPolicies : KeepsName Node.withoutPolicies := fun _ => rfl

theorem Node.SiblingsWellNamed.of_sublist {m n : Node} (h : n.SiblingsWellNamed)
    (hsub : List.Sublist m.children n.children) : m.SiblingsWellNamed :=
  ⟨(hsub.map _).nodup h.1, fun c hc => h.2 c (hsub.subset hc)⟩

namespace FolderSync

/-! ## The reconciliation loop, one child at a time -/

section Reconcile

variable (ac : AccessControlHandling) (f : WorkspaceFilter) (hints : List String) (path : String)

/-- The decision for one child of the folder at `path`, at `child.1`, a policy when `child.2`
holds, among the hinted paths `hints`. -/
def visit (child : String × Bool) (info : ImportInfo) : RepoM (ForInStep ImportInfo) := do
  let (q, isAcl) := child
  if !f.contains q || f.importMode q ≠ .replace then return .yield info
  if !hints.contains q then
    if isAcl then
      if ac.removesExisting then
        RepoM.clearAcl path
        return .yield (info.onDeleted q)
      return .yield info
    else
      RepoM.removeNode q
      return .yield (info.onDeleted q)
  else if ac = .clear && isAcl then
    RepoM.clearAcl path
    return .yield (info.onDeleted q)
  return .yield info

/-- Whether reconciling the folder at `path` deletes its child `c`: the filter covers the child
in replace mode, and either the child is not hinted at and is no policy or the handling removes
existing policies, or it is a hinted policy and the handling is `clear`. -/
def deletes (c : Node) : Bool :=
  let q := Path.join path c.name
  f.contains q && decide (f.importMode q = .replace) &&
    (!hints.contains q && (!isAclNode c || ac.removesExisting) ||
      hints.contains q && (decide (ac = .clear) && isAclNode c))

/-- Whether a policy among `cs` is deleted, which clears every policy of the folder. -/
def clearsAmong (cs : List Node) : Bool :=
  cs.any fun c => isAclNode c && deletes ac f hints path c

/-- Whether the child `c` stays, the policies being cleared when `clears` holds. -/
def stays (clears : Bool) (c : Node) : Bool :=
  if isAclNode c then !clears else !deletes ac f hints path c

/-- The mixins `ms` once the policies are cleared, when `clears` holds. -/
def mixinsAfter (clears : Bool) (ms : List String) : List String :=
  if clears then ms.filter (· ≠ Known.repAccessControllable) else ms

/-- The folder once its children `done` have been reconciled and `todo` are still to come:
the policies among `todo` are gone already when a deleted policy cleared them. -/
def partway (done todo : List Node) (n : Node) : Node :=
  let clears := clearsAmong ac f hints path done
  { n with
    children := done.filter (stays ac f hints path clears) ++
      todo.filter fun c => !(isAclNode c && clears)
    mixins := mixinsAfter clears n.mixins }

/-- The folder after reconciliation: it keeps the children that are not deleted, less every
policy when one of them is deleted, in which case it also loses the mixin
`rep:AccessControllable`; its type and properties stay. -/
def reconciled (n : Node) : Node :=
  let clears := clearsAmong ac f hints path n.children
  { n with
    children := n.children.filter (stays ac f hints path clears)
    mixins := mixinsAfter clears n.mixins }

/-- The report on the children `cs`: each deleted child is marked deleted. -/
def report (cs : List Node) : ImportInfo :=
  cs.foldl (fun info c =>
    if deletes ac f hints path c then info.onDeleted (Path.join path c.name) else info) .empty

/-- The paths that the hints of `set` name, below `parent`. -/
def hinted (parent : String) (set : ArtifactSet) : List String :=
  set.hints.map fun a => Path.join parent a.relativePath

theorem partway_nil (n : Node) : partway ac f hints path [] n.children n = n := by
  cases n
  simp [partway, clearsAmong, mixinsAfter]

theorem partway_eq_reconciled (n : Node) :
    partway ac f hints path n.children [] n = reconciled ac f hints path n := by
  simp [partway, reconciled]

end Reconcile

section Steps

variable (ac : AccessControlHandling) (f : WorkspaceFilter) (hints : List String) (path : String)

/-- The decision for one child, flattened: a deleted child is removed, or, when it is a policy,
every policy is cleared; any other child is left alone. -/
theorem visit_eq (c : Node) (info : ImportInfo) :
    visit ac f hints path (Path.join path c.name, isAclNode c) info =
      if deletes ac f hints path c then
        (if isAclNode c then RepoM.clearAcl path else RepoM.removeNode (Path.join path c.name)) >>=
          fun _ => pure (.yield (info.onDeleted (Path.join path c.name)))
      else pure (.yield info) := by
  unfold visit deletes
  dsimp only
  by_cases hin : f.contains (Path.join path c.name) = true <;>
    by_cases hmode : f.importMode (Path.join path c.name) = .replace <;>
    by_cases hh : Path.join path c.name ∈ hints <;>
    by_cases hacl : isAclNode c = true <;>
    simp [hin, hmode, hh, hacl]

theorem clearsAmong_append_singleton (done : List Node) (c : Node) :
    clearsAmong ac f hints path (done ++ [c]) =
      (clearsAmong ac f hints path done || (isAclNode c && deletes ac f hints path c)) := by
  simp [clearsAmong, List.any_append]

theorem report_append_singleton (done : List Node) (c : Node) :
    report ac f hints path (done ++ [c]) =
      if deletes ac f hints path c then (report ac f hints path done).onDeleted (Path.join path c.name)
      else report ac f hints path done := by
  rw [report, List.foldl_append]
  rfl

/-- The report marks deleted exactly the deleted children, at their paths. -/
theorem get?_report (cs : List Node) (p : String) :
    (report ac f hints path cs).get? p =
      if ∃ c ∈ cs, deletes ac f hints path c = true ∧ Path.join path c.name = p then some .deleted
      else none := by
  -- the fold is read from any report it starts with
  have key : ∀ (cs : List Node) (info : ImportInfo), (cs.foldl (fun info c =>
      if deletes ac f hints path c then info.onDeleted (Path.join path c.name) else info) info).get? p =
      if ∃ c ∈ cs, deletes ac f hints path c = true ∧ Path.join path c.name = p then some .deleted
      else info.get? p := by
    intro cs
    induction cs with
    | nil => intro info; simp
    | cons c cs ih =>
      intro info
      rw [List.foldl_cons, ih]
      by_cases hdel : deletes ac f hints path c = true
      · rw [if_pos hdel, ImportInfo.get?_onDeleted]
        by_cases hp : Path.join path c.name = p <;> simp [hdel, hp]
      · simp [hdel]
  rw [report, key]
  rfl

/-- A child that is not deleted changes nothing when its turn comes. -/
theorem partway_of_not_deletes {c : Node} (hc : deletes ac f hints path c = false)
    (done todo : List Node) :
    partway ac f hints path (done ++ [c]) todo = partway ac f hints path done (c :: todo) := by
  funext n
  have hcl : clearsAmong ac f hints path (done ++ [c]) = clearsAmong ac f hints path done := by
    rw [clearsAmong_append_singleton, hc, Bool.and_false, Bool.or_false]
  have hstays : stays ac f hints path (clearsAmong ac f hints path done) c =
      !(isAclNode c && clearsAmong ac f hints path done) := by
    unfold stays
    rw [hc]
    cases isAclNode c <;> rfl
  simp only [partway, hcl, List.filter_append, List.filter_cons, List.filter_nil, hstays,
    List.append_assoc]
  split <;> rfl

/-- Removing a deleted child that is no policy moves it to the reconciled ones. -/
theorem eraseChild_partway {done todo : List Node} {c : Node}
    (hnames : ((done ++ c :: todo).map (·.name)).Nodup) (hc : deletes ac f hints path c = true)
    (hacl : isAclNode c = false) (n : Node) :
    eraseChild c.name (partway ac f hints path done (c :: todo) n) =
      partway ac f hints path (done ++ [c]) todo n := by
  have hcl : clearsAmong ac f hints path (done ++ [c]) = clearsAmong ac f hints path done := by
    rw [clearsAmong_append_singleton, hacl, Bool.false_and, Bool.or_false]
  -- the names before `c` are other names
  have hbefore : ∀ d ∈ done.filter (stays ac f hints path (clearsAmong ac f hints path done)),
      ¬ decide (d.name = c.name) = true := by
    intro d hd hdc
    rw [List.map_append, List.map_cons, List.nodup_append] at hnames
    exact hnames.2.2 d.name (List.mem_map_of_mem (List.mem_of_mem_filter hd)) c.name
      List.mem_cons_self (of_decide_eq_true hdc)
  have hstays : stays ac f hints path (clearsAmong ac f hints path done) c = false := by
    rw [stays, hacl, hc]
    rfl
  simp only [eraseChild, partway, hcl]
  rw [List.eraseP_append_right _ hbefore, List.filter_cons, hacl, Bool.false_and, Bool.not_false,
    if_pos rfl, List.eraseP_cons_of_pos (by simp), List.filter_append, List.filter_cons, hstays,
    List.filter_nil]
  simp

/-- Clearing the policies when a deleted policy's turn comes moves it to the reconciled
children, with every policy after it. -/
theorem withoutPolicies_partway {done todo : List Node} {c : Node}
    (hc : deletes ac f hints path c = true) (hacl : isAclNode c = true) (n : Node) :
    withoutPolicies (partway ac f hints path done (c :: todo) n) =
      partway ac f hints path (done ++ [c]) todo n := by
  have hcl : clearsAmong ac f hints path (done ++ [c]) = true := by
    rw [clearsAmong_append_singleton, hacl, hc, Bool.true_and, Bool.or_true]
  have hstays : stays ac f hints path true c = false := by
    rw [stays, if_pos hacl]
    rfl
  -- once the policies are cleared, no policy stays and every other child stays as it would
  have hdone : (done.filter (stays ac f hints path (clearsAmong ac f hints path done))).filter
      (fun d => !isAclNode d) = done.filter (stays ac f hints path true) := by
    rw [List.filter_filter]
    refine List.filter_congr fun d _ => ?_
    unfold stays
    cases isAclNode d <;> simp
  have htodo : ((c :: todo).filter fun d => !(isAclNode d && clearsAmong ac f hints path done)).filter
      (fun d => !isAclNode d) = todo.filter fun d => !(isAclNode d && true) := by
    rw [List.filter_filter, List.filter_cons_of_neg (by simp [hacl])]
    refine List.filter_congr fun d _ => ?_
    cases isAclNode d <;> simp
  simp only [withoutPolicies, partway, hcl, mixinsAfter, if_true]
  rw [List.filter_append, hdone, htodo, List.filter_append, List.filter_singleton, hstays]
  congr 1
  · split <;> simp [List.filter_filter]
  · simp

theorem keepsName_partway (done todo : List Node) :
    KeepsName (partway ac f hints path done todo) := fun _ => rfl

/-- The children of the folder part way are among its children. -/
theorem children_partway_sublist (done todo : List Node) (n : Node) :
    List.Sublist (partway ac f hints path done todo n).children (done ++ todo) :=
  List.filter_sublist.append List.filter_sublist

end Steps

/-! ## Running the loop -/

section Run

variable {r : Repository} {path : String} {s : List String}

/-- Removing the children `cs` of the node at `path` one after another leaves it the children
with other names. -/
theorem forIn_removeNode_run (hs : Path.segments path = s) :
    ∀ (cs : List Node) (r : Repository) (m : Node), r.root.descendAlong s = some m →
      m.SiblingsWellNamed → List.Sublist cs m.children →
      (forIn (cs.map fun (c : Node) => Path.join path c.name) PUnit.unit fun p _ => do
          RepoM.removeNode p
          pure (ForInStep.yield PUnit.unit)) r =
        .ok PUnit.unit { r with
          root := r.root.updateAlong
            (withChildren (m.children.filter fun d => d.name ∉ cs.map (·.name))) s }
  | [], r, m, hm, _, _ => by
    rw [List.map_nil, List.forIn_nil, pure_run, updateAlong_eq_self hm (by cases m; simp [withChildren])]
  | c :: cs, r, m, hm, hwell, hsub => by
    have hc : c ∈ m.children := hsub.subset List.mem_cons_self
    have hvalid : Path.ValidName c.name := hwell.2 c hc
    have hrun : RepoM.removeNode (Path.join path c.name) r =
        .ok () { r with root := r.root.updateAlong (eraseChild c.name) s } :=
      removeNode_run (by rw [Path.segments_join_validName _ hvalid, hs]) hm
        (List.any_eq_true.mpr ⟨c, hc, by simp⟩)
    -- the node without `c` keeps the rest of `cs`, under other names
    have herase : (eraseChild c.name m).children = m.children.filter (·.name ≠ c.name) :=
      eraseP_name_eq_filter hwell.1 c.name
    have hm' : (r.root.updateAlong (eraseChild c.name) s).descendAlong s =
        some (eraseChild c.name m) := by
      rw [descendAlong_updateAlong_self (keepsName_eraseChild c.name), hm]
      rfl
    have hwell' : (eraseChild c.name m).SiblingsWellNamed :=
      SiblingsWellNamed.of_sublist hwell (by rw [herase]; exact List.filter_sublist)
    have hnames : ∀ d ∈ cs, d.name ≠ c.name := by
      have := (hsub.map (·.name)).nodup hwell.1
      rw [List.map_cons, List.nodup_cons] at this
      exact fun d hd hdc => this.1 (hdc ▸ List.mem_map_of_mem hd)
    have hsub' : List.Sublist cs (eraseChild c.name m).children := by
      have h := ((List.sublist_cons_self c cs).trans hsub).filter fun d => decide (d.name ≠ c.name)
      rwa [List.filter_eq_self.mpr fun d hd => by simpa using hnames d hd, ← herase] at h
    rw [List.map_cons, List.forIn_cons, bind_assoc, bind_of_ok hrun, pure_bind]
    show (forIn (cs.map fun (c : Node) => Path.join path c.name) PUnit.unit fun p _ => do
        RepoM.removeNode p
        pure (ForInStep.yield PUnit.unit)) { r with root := r.root.updateAlong (eraseChild c.name) s } = _
    -- dropping the names of `cs` after the name of `c` drops the names of `c :: cs`
    have hfilter : (eraseChild c.name m).children.filter (fun d => d.name ∉ cs.map (·.name)) =
        m.children.filter fun d => d.name ∉ (c :: cs).map (·.name) := by
      rw [herase, List.filter_filter]
      refine List.filter_congr fun d _ => ?_
      by_cases h : d.name = c.name <;> simp [h]
    have hcomp : withChildren ((eraseChild c.name m).children.filter
          (fun d => d.name ∉ cs.map (·.name))) ∘ eraseChild c.name =
        withChildren (m.children.filter fun d => d.name ∉ (c :: cs).map (·.name)) := by
      rw [hfilter]
      rfl
    rw [forIn_removeNode_run hs cs _ _ hm' hwell' hsub', updateAlong_updateAlong (keepsName_eraseChild _),
      hcomp]

/-- Clearing the policies of a node whose children are well named removes every policy, and
the mixin `rep:AccessControllable`. -/
theorem clearAcl_run {m : Node} (hs : Path.segments path = s) (hm : r.root.descendAlong s = some m)
    (hwell : m.SiblingsWellNamed) :
    RepoM.clearAcl path r = .ok () { r with root := r.root.updateAlong withoutPolicies s } := by
  -- among distinct names, a child is named like a policy exactly when it is one
  have hpolicies : (m.children.filter fun d => d.name ∉ (m.children.filter isAclNode).map (·.name)) =
      m.children.filter fun d => !isAclNode d := by
    refine List.filter_congr fun d hd => ?_
    cases hacl : isAclNode d
    · simp only [List.mem_map, List.mem_filter, not_exists, not_and, Bool.not_false,
        decide_eq_true_eq]
      rintro e ⟨he, heacl⟩ hname
      rw [List.inj_on_of_nodup_map hwell.1 he hd hname, hacl] at heacl
      cases heacl
    · simp only [List.mem_map, List.mem_filter, Bool.not_true, decide_eq_false_iff_not, not_not]
      exact ⟨d, ⟨hd, hacl⟩, rfl⟩
  have hloop := forIn_removeNode_run hs (m.children.filter isAclNode) r m hm hwell List.filter_sublist
  rw [hpolicies] at hloop
  have hat : (r.root.updateAlong (withChildren (m.children.filter fun d => !isAclNode d)) s).descendAlong s =
      some (withChildren (m.children.filter fun d => !isAclNode d) m) := by
    rw [descendAlong_updateAlong_self (keepsName_withChildren _), hm]
    rfl
  unfold RepoM.clearAcl
  rw [bind_of_ok (requireNode_run hs hm), bind_of_ok hloop]
  split
  · have hupd : r.root.updateAlong (withMixins (m.mixins.filter (· ≠ Known.repAccessControllable)) ∘
        withChildren (m.children.filter fun d => !isAclNode d)) s =
        r.root.updateAlong withoutPolicies s :=
      updateAlong_congr fun m' hm' => by
        rw [hm] at hm'
        cases hm'
        rfl
    rw [setMixins_run _ hs hat, updateAlong_updateAlong (keepsName_withChildren _), hupd]
  · rename_i hnone
    -- without the mixin, dropping it changes nothing
    have hmixins : m.mixins.filter (· ≠ Known.repAccessControllable) = m.mixins :=
      List.filter_eq_self.mpr fun x hx => by
        simp only [ne_eq, decide_eq_true_eq]
        rintro rfl
        exact hnone (List.elem_eq_true_of_mem hx)
    have hupd : r.root.updateAlong (withChildren (m.children.filter fun d => !isAclNode d)) s =
        r.root.updateAlong withoutPolicies s :=
      updateAlong_congr fun m' hm' => by
        rw [hm] at hm'
        cases hm'
        simp only [withChildren, withoutPolicies, hmixins]
    rw [pure_run, hupd]

variable (ac : AccessControlHandling) (f : WorkspaceFilter) (hints : List String) {F : Node}

/-- One turn of the loop moves a child from the children to come to the reconciled ones, and
marks it in the report when it is deleted. -/
theorem visit_run (hs : Path.segments path = s) (hF : r.root.descendAlong s = some F)
    (hwell : F.SiblingsWellNamed) {done todo : List Node} {c : Node}
    (hsplit : done ++ c :: todo = F.children) :
    visit ac f hints path (Path.join path c.name, isAclNode c) (report ac f hints path done)
        { r with root := r.root.updateAlong (partway ac f hints path done (c :: todo)) s } =
      .ok (.yield (report ac f hints path (done ++ [c])))
        { r with root := r.root.updateAlong (partway ac f hints path (done ++ [c]) todo) s } := by
  have hat : (r.root.updateAlong (partway ac f hints path done (c :: todo)) s).descendAlong s =
      some (partway ac f hints path done (c :: todo) F) := by
    rw [descendAlong_updateAlong_self (keepsName_partway ac f hints path _ _), hF]
    rfl
  have hnames : ((done ++ c :: todo).map (·.name)).Nodup := hsplit ▸ hwell.1
  have hwell' : (partway ac f hints path done (c :: todo) F).SiblingsWellNamed :=
    SiblingsWellNamed.of_sublist hwell (hsplit ▸ children_partway_sublist ac f hints path _ _ F)
  rw [visit_eq, report_append_singleton]
  cases hdel : deletes ac f hints path c with
  | false =>
    rw [if_neg Bool.false_ne_true, if_neg Bool.false_ne_true, partway_of_not_deletes ac f hints path hdel]
    rfl
  | true =>
    rw [if_pos rfl, if_pos rfl]
    cases hacl : isAclNode c with
    | false =>
      -- a deleted child that is no policy is still there, and is removed alone
      have hc : c ∈ (partway ac f hints path done (c :: todo) F).children := by
        simp [partway, hacl]
      have hvalid : Path.ValidName c.name :=
        hwell.2 c (hsplit ▸ List.mem_append_right done List.mem_cons_self)
      rw [if_neg Bool.false_ne_true, bind_of_ok (removeNode_run
        (by rw [Path.segments_join_validName _ hvalid, hs]) hat (List.any_eq_true.mpr ⟨c, hc, by simp⟩)),
        pure_run, updateAlong_updateAlong (keepsName_partway ac f hints path _ _),
        show eraseChild c.name ∘ partway ac f hints path done (c :: todo) =
          partway ac f hints path (done ++ [c]) todo from
          funext (eraseChild_partway ac f hints path hnames hdel hacl)]
    | true =>
      rw [if_pos rfl, bind_of_ok (clearAcl_run hs hat hwell'), pure_run,
        updateAlong_updateAlong (keepsName_partway ac f hints path _ _),
        show withoutPolicies ∘ partway ac f hints path done (c :: todo) =
          partway ac f hints path (done ++ [c]) todo from
          funext (withoutPolicies_partway ac f hints path hdel hacl)]

/-- The loop over the children still to come ends with every child reconciled. -/
theorem forIn_visit_run (hs : Path.segments path = s) (hF : r.root.descendAlong s = some F)
    (hwell : F.SiblingsWellNamed) :
    ∀ (todo done : List Node), done ++ todo = F.children →
      forIn (todo.map fun c => (Path.join path c.name, isAclNode c)) (report ac f hints path done)
          (visit ac f hints path)
          { r with root := r.root.updateAlong (partway ac f hints path done todo) s } =
        .ok (report ac f hints path F.children)
          { r with root := r.root.updateAlong (partway ac f hints path F.children []) s }
  | [], done, hsplit => by
    rw [List.append_nil] at hsplit
    subst hsplit
    rfl
  | c :: todo, done, hsplit => by
    rw [List.map_cons, List.forIn_cons, bind_of_ok (visit_run ac f hints hs hF hwell hsplit)]
    exact forIn_visit_run hs hF hwell todo (done ++ [c]) (by rw [List.append_assoc]; exact hsplit)

theorem syncFolderChildren_eq (ac : AccessControlHandling) (f : WorkspaceFilter)
    (parent path : String) (set : ArtifactSet) :
    syncFolderChildren ac f parent path set =
      (RepoM.requireNode path >>= fun folder =>
        forIn (folder.children.map fun c => (Path.join path c.name, isAclNode c)) ImportInfo.empty
          (visit ac f (hinted parent set) path) >>= fun info => pure info) :=
  rfl

/-- Reconciling a folder with well-named children leaves it reconciled, and reports the deleted
children. -/
theorem syncFolderChildren_run (hs : Path.segments path = s) (hF : r.root.descendAlong s = some F)
    (hwell : F.SiblingsWellNamed) (parent : String) (set : ArtifactSet) :
    syncFolderChildren ac f parent path set r =
      .ok (report ac f (hinted parent set) path F.children)
        { r with root := r.root.updateAlong (reconciled ac f (hinted parent set) path) s } := by
  have hloop := forIn_visit_run ac f (hinted parent set) hs hF hwell F.children [] rfl
  have hend : r.root.updateAlong (partway ac f (hinted parent set) path F.children []) s =
      r.root.updateAlong (reconciled ac f (hinted parent set) path) s :=
    updateAlong_congr fun m hm => by
      rw [hF] at hm
      cases hm
      exact partway_eq_reconciled ac f _ path _
  rw [updateAlong_eq_self hF (partway_nil ac f _ path F), hend] at hloop
  rw [syncFolderChildren_eq, bind_of_ok (requireNode_run hs hF)]
  exact (bind_of_ok hloop).trans rfl

end Run

/-! ## Importing an existing folder -/

/-- The first artifact of a type other than hints, in a set whose only data artifact is `d`. -/
theorem first?_of_data {set : ArtifactSet} {d : Artifact}
    (h : set.artifacts.filter (·.type ≠ .hint) = [d]) {t : ArtifactType} (ht : t ≠ .hint) :
    set.first? t = if d.type = t then some d else none := by
  -- an artifact of type `t` is no hint, so it is looked for among the data artifacts
  have hfind : set.artifacts.find? (·.type = t) =
      (set.artifacts.filter (·.type ≠ .hint)).find? (·.type = t) := by
    rw [List.find?_filter]
    congr 1
    funext a
    by_cases ha : a.type = t
    · simp [ha, ht]
    · simp [ha]
  rw [ArtifactSet.first?, hfind, h]
  by_cases hd : d.type = t <;> simp [hd]

/-- An existing folder imported from a directory and hints is reconciled: the handler succeeds,
the folder loses the children it deletes that are no policies, and every policy when it deletes
one; nothing else in the repository changes, and the report marks exactly the deleted children.
The folder's children must have distinct names without `/`, as children always do. -/
theorem acceptFolder_reconciles (folderType : String) (ac : AccessControlHandling)
    (f : WorkspaceFilter) (parent : String) (set : ArtifactSet) (d : Artifact) (r : Repository)
    (F : Node) (hdata : set.artifacts.filter (·.type ≠ .hint) = [d]) (hdir : d.type = .directory)
    (hname : d.relativePath ≠ "") (hF : r.root.descendant? (Path.join parent d.relativePath) = some F)
    (hwell : F.SiblingsWellNamed) :
    ∃ info, acceptFolder folderType ac f parent set r = .ok (some info) { r with
        root := r.root.updateAlong
          (reconciled ac f (hinted parent set) (Path.join parent d.relativePath))
          (Path.segments (Path.join parent d.relativePath)) } ∧
      ∀ p, info.get? p =
        if ∃ c ∈ F.children, deletes ac f (hinted parent set) (Path.join parent d.relativePath) c ∧
            Path.join (Path.join parent d.relativePath) c.name = p then some .deleted
        else none := by
  have hdirectory : set.directory? = some d := by
    rw [ArtifactSet.directory?, first?_of_data hdata (by decide), if_pos hdir]
  have hversions : set.versions? = none := by
    rw [ArtifactSet.versions?, first?_of_data hdata (by decide), if_neg (by rw [hdir]; decide)]
  have hsize : set.size = 1 := by
    rw [ArtifactSet.size, hdata]
    rfl
  have hempty : d.relativePath.isEmpty = false := String.isEmpty_eq_false_iff.mpr hname
  have hat : r.root.descendAlong (Path.segments (Path.join parent d.relativePath)) = some F := hF
  refine ⟨report ac f (hinted parent set) (Path.join parent d.relativePath) F.children, ?_,
    get?_report ac f _ _ F.children⟩
  unfold acceptFolder
  simp only [hdirectory, hversions, hsize, hempty]
  rw [if_neg (by decide), if_neg Bool.false_ne_true, bind_of_ok (nodeExists_run rfl), hat]
  simp only [Option.isSome_some, Bool.not_true, Bool.false_eq_true, if_false]
  rw [bind_of_ok (syncFolderChildren_run ac f rfl hat hwell _ _)]
  rfl

/-- The set for the folder `folder` of `aclTree`, hinting at its policy `b`. -/
def hintedFolderSet : ArtifactSet :=
  ⟨[Artifact.directory "folder", Artifact.hint "folder/b"]⟩

/-- Under `clear`, the folder of `aclTree` is reconciled: its policies go, the hinted one too. -/
theorem clear_reconciles_policy_folder :
    ∃ F info, aclTree.descendant? (Path.join "/content" "folder") = some F ∧
      acceptFolder "nt:folder" .clear (WorkspaceFilter.forRoot "/content") "/content"
          hintedFolderSet (Repository.ofRoot aclTree 0 creationMoment) =
        .ok (some info) { Repository.ofRoot aclTree 0 creationMoment with
          root := aclTree.updateAlong
            (reconciled .clear (WorkspaceFilter.forRoot "/content") (hinted "/content" hintedFolderSet)
              (Path.join "/content" "folder"))
            (Path.segments (Path.join "/content" "folder")) } ∧
      ∀ p, info.get? p =
        if ∃ c ∈ F.children, deletes .clear (WorkspaceFilter.forRoot "/content")
            (hinted "/content" hintedFolderSet) (Path.join "/content" "folder") c ∧
            Path.join (Path.join "/content" "folder") c.name = p then some .deleted
        else none := by
  obtain ⟨F, hF⟩ : ∃ F, aclTree.descendant? (Path.join "/content" "folder") = some F := ⟨_, rfl⟩
  obtain ⟨info, hrun, hinfo⟩ := acceptFolder_reconciles "nt:folder" .clear
    (WorkspaceFilter.forRoot "/content") "/content" hintedFolderSet (Artifact.directory "folder")
    (Repository.ofRoot aclTree 0 creationMoment) F rfl rfl (by decide) hF (by rw [Option.some_inj.mp (hF.symm.trans rfl)]; decide)
  exact ⟨F, info, hF, hrun, hinfo⟩

/-- Deleting one policy clears them all: under `overwrite`, the policy `b` that the set hints at
is not to be deleted, yet it goes with the policy `a`. -/
theorem overwrite_clears_hinted_policy :
    deletes .overwrite (WorkspaceFilter.forRoot "/content") (hinted "/content" hintedFolderSet)
        "/content/folder" (Node.empty "b" "rep:ACL") = false ∧
      (aclTree.descendAlong ["content", "folder", "b"]).isSome ∧
      ∃ info r', acceptFolder "nt:folder" .overwrite (WorkspaceFilter.forRoot "/content") "/content"
          hintedFolderSet (Repository.ofRoot aclTree 0 creationMoment) = .ok (some info) r' ∧
        r'.root.descendAlong ["content", "folder", "b"] = none := by
  -- the handler is evaluated by the kernel alone
  have hrun : EStateM.Result.rec (motive := fun _ => Bool)
      (fun a r' => a.isSome && (r'.root.descendAlong ["content", "folder", "b"]).isNone)
      (fun _ _ => false)
      (acceptFolder "nt:folder" .overwrite (WorkspaceFilter.forRoot "/content") "/content"
        hintedFolderSet (Repository.ofRoot aclTree 0 creationMoment)) = true := by decide +kernel
  refine ⟨by decide, by decide, ?_⟩
  generalize acceptFolder _ _ _ _ _ _ = res at hrun ⊢
  obtain ⟨_ | info, r'⟩ | ⟨e, r'⟩ := res
  · simp at hrun
  · simp only [Option.isSome_some, Bool.true_and, Option.isNone_iff_eq_none] at hrun
    exact ⟨info, r', rfl, hrun⟩
  · simp at hrun

end FolderSync
end ContentSync
