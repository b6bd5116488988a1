import ContentSync.Proofs.HistoryLookup

/-!
# A check-in appends a version after the last one

`checkin` finds the history of a node in a staged copy of the version storage, names the new
version after the number of versions there (`1.0`, `1.1`, …), fills it in, in place of the child
of that name or last, makes it the successor of the last version and commits the storage. When
the history is stored already, creating it changes nothing and draws no identifier
(`RepoM.ensureHistory_of_stored`), and the staged history is a copy of the stored one: the commit
puts back the stored history with the check-in applied to it.

When no child of the history has the new version's name, every child stays as it was but the last
version, which gains the new version's identifier at the end of its successors, and the new
version comes last, with the last version as its only predecessor (`VersionAppended`). The name
is free when the names are those check-ins give, but a history that was imported or edited may
hold a child of that name, and the check-in then rewrites that child in place
(`checkin_rewrites_child_of_its_name`).

Main statement: `checkin_appends_after_last_version`.
-/

namespace ContentSync

open Node RepoM

/-- The history stored for the identifier `id` in `tree`: the node reached from the version
storage through the buckets of `id`, then `id`. -/
def storedHistory? (tree : Node) (id : String) : Option Node :=
  (tree.descendant? Known.versionStoragePath).bind (·.descendAlong (Path.versionHistoryPath id))

namespace Node

/-- The versions among the children of a history, in order. -/
def versions (h : Node) : List Node :=
  h.children.filter (·.primaryType = Known.ntVersion)

/-- The text of the first value of `jcr:uuid`, by which versions refer to each other. -/
def uuidText? (n : Node) : Option String :=
  ((n.property? Known.uuid).bind Property.first?).map Value.text

/-- The texts of the values of a property; none for a missing one. -/
def propertyTexts (n : Node) (name : String) : List String :=
  ((n.property? name).map Property.valueTexts).getD []

end Node

/-- `H'` is the history `H` after a check-in of the version `v` behind its last version `L`:
the children of `H`, but `L` gains the new version's identifier at the end of its successors,
then the new version `w` named `v`, with `L` as its only predecessor and no successor. -/
def VersionAppended (H L H' : Node) (v : String) : Prop :=
  ∃ l₁ l₂ w u vid, H.children = l₁ ++ L :: l₂ ∧ L.uuidText? = some u ∧
    H'.children = l₁ ++ L.setProperty (Property.references Known.successors
      (L.propertyTexts Known.successors ++ [vid])) :: l₂ ++ [w] ∧
    w.name = v ∧ w.primaryType = Known.ntVersion ∧ w.uuidText? = some vid ∧
    w.property? Known.predecessors = some (Property.references Known.predecessors [u]) ∧
    w.property? Known.successors = some (Property.references Known.successors [])

/-! ## Staged copies of stored nodes -/

namespace Staged

mutual
/-- A staged copy builds back into the node it copies. -/
theorem build_ofNode : ∀ n : Node, (ofNode n).build = n
  | ⟨name, primaryType, mixins, properties, children⟩ => by
    rw [ofNode, build, buildAll_ofNodes children]
    rfl

theorem buildAll_ofNodes : ∀ ns : List Node, buildAll (ofNodes ns) = ns
  | [] => by rw [ofNodes, buildAll]
  | n :: ns => by rw [ofNodes, buildAll, build_ofNode n, buildAll_ofNodes ns]
end

theorem build_setProperty (s : Staged) (p : Property) :
    (s.setProperty p).build = s.build.setProperty p := by
  cases s
  rfl

@[simp] theorem property?_ofNode (n : Node) (a : String) :
    (ofNode n).property? a = n.property? a := by
  rw [property?, properties_ofNode]
  rfl

/-- Looking a node up name by name is walking along the names. -/
theorem lookup_eq_along? (names : List String) (s : Staged) :
    names.foldl (fun o name => o.bind (·.child? name)) (some s) = s.along? names := by
  induction names generalizing s with
  | nil => rfl
  | cons a rest ih =>
    rw [List.foldl_cons, Option.bind_some, along?_cons]
    cases s.child? a with
    | none => exact lookup_none rest
    | some c => exact ih c

/-- A node put at the end of a path where a node of its name stands is found there. -/
theorem along?_putAlong {h : Staged} :
    ∀ (names : List String) {s c : Staged}, names ≠ [] → s.along? names = some c →
      h.name = c.name → (s.putAlong names h).along? names = some h
  | [], _, _, hne, _, _ => absurd rfl hne
  | [a], s, c, _, hc, hname => by
    rw [along?_cons] at hc
    obtain ⟨d, hd, hdc⟩ := Option.bind_eq_some_iff.mp hc
    cases hdc
    rw [putAlong, along?_cons, child?_withChild_of_first hd (hname.trans (name_of_child? hd)),
      Option.bind_some, along?_nil]
  | a :: b :: rest, s, c, _, hc, hname => by
    rw [along?_cons] at hc
    obtain ⟨d, hd, hdc⟩ := Option.bind_eq_some_iff.mp hc
    show ((s.withChild a fun c => (c.putAlong (b :: rest) h, ())).1).along? (a :: b :: rest) =
      some h
    rw [along?_cons,
      child?_withChild_of_first hd ((name_putAlong d _ h).trans (name_of_child? hd)),
      Option.bind_some]
    exact along?_putAlong (b :: rest) (List.cons_ne_nil b rest) hdc hname

theorem versions_ofNode (H : Node) :
    (ofNode H).children.filter (·.primaryType = some Known.ntVersion) = H.versions.map ofNode := by
  rw [children_ofNode, List.filter_map, Node.versions]
  congr 1
  refine List.filter_congr fun c _ => ?_
  simp only [Function.comp_apply, primaryType_ofNode, Option.some.injEq]

/-- The history after a check-in on a copy of `H` under a name `v` no child has: the children of
`H`, the first one named like `L` changed by `f`, and the new version last. -/
theorem build_checkin_history {H L : Node} {l₁ l₂ : List Node} {v : String}
    (hsplit : H.children = l₁ ++ L :: l₂) (hfirst : ∀ d ∈ l₁, d.name ≠ L.name)
    (hfree : ∀ d ∈ H.children, d.name ≠ v) (w : Staged) (f : Staged → Staged) :
    (((ofNode H).withChild v fun _ => (w, ())).1.modifyChild L.name f).build.children =
      l₁ ++ (f (ofNode L)).build :: l₂ ++ [w.build] := by
  have hfree' : ∀ d ∈ (ofNode H).children, d.name ≠ v := by
    intro d hd
    rw [children_ofNode] at hd
    obtain ⟨c, hc, rfl⟩ := List.mem_map.mp hd
    rw [name_ofNode]
    exact hfree c hc
  have hfirst' : ∀ d ∈ l₁.map ofNode, d.name ≠ L.name := by
    intro d hd
    obtain ⟨c, hc, rfl⟩ := List.mem_map.mp hd
    rw [name_ofNode]
    exact hfirst c hc
  rw [children_build]
  show List.map build (modifyChild.go L.name f (withChild.go v (fun _ => (w, ()))
    (ofNode H).children).1) = _
  rw [withChild_go_of_forall_ne _ hfree', children_ofNode, hsplit, List.map_append, List.map_cons,
    List.append_assoc, List.cons_append, modifyChild_go_of_first f hfirst' (name_ofNode L)]
  -- the copied children build back into themselves
  have hcopy : build ∘ ofNode = id := funext build_ofNode
  simp only [List.map_append, List.map_cons, List.map_map, List.map_nil, hcopy, List.map_id,
    List.append_assoc, List.cons_append]

/-- A staged version with its identifier, predecessors and no successor builds into one. -/
theorem build_version {w : Staged} {vid : String} {preds : List String}
    (ht : w.primaryType = some Known.ntVersion) (hl : w.info.Links vid preds []) :
    w.build.primaryType = Known.ntVersion ∧ w.build.uuidText? = some vid ∧
      w.build.property? Known.predecessors =
        some (Property.references Known.predecessors preds) ∧
      w.build.property? Known.successors = some (Property.references Known.successors []) := by
  obtain ⟨hu, hp, hs⟩ := hl
  refine ⟨?_, ?_, ?_, ?_⟩
  · rw [primaryType_build, ht]
    rfl
  · rw [Node.uuidText?, Node.property?, properties_build,
      show findProperty? Known.uuid w.properties = _ from hu]
    rfl
  · rw [Node.property?, properties_build]
    exact hp
  · rw [Node.property?, properties_build]
    exact hs

end Staged

/-! ## Checking in on a stored history -/

namespace RepoM

open Staged

/-- Creating a history that is stored already leaves the staged storage as it is. -/
theorem descend_of_stored (node : Node) (id : String) (r : Repository) :
    ∀ (names : List String) {s h : Staged}, s.Settled → s.along? (names ++ [id]) = some h →
      ensureHistory.descend node id names s r = .ok (s, false) r
  | [], s, h, hset, hh => by
    rw [List.nil_append, along?_cons] at hh
    obtain ⟨c, hc, -⟩ := Option.bind_eq_some_iff.mp hh
    rw [ensureHistory.descend]
    dsimp only
    simp only [hc, Option.getD_some, (hset.child? hc).1, Bool.not_false, if_true,
      withChild_self hc]
    rfl
  | b :: rest, s, h, hset, hh => by
    rw [List.cons_append, along?_cons] at hh
    obtain ⟨d, hd, hrest⟩ := Option.bind_eq_some_iff.mp hh
    obtain ⟨hfresh, hdset⟩ := hset.child? hd
    rw [ensureHistory.descend]
    dsimp only
    rw [hd, Option.getD_some, info_typeIfFresh_of_settled hfresh,
      bind_of_ok (descend_of_stored node id r rest hdset hrest)]
    dsimp only
    rw [withChild_const_self hd]
    rfl

theorem ensureHistory_of_stored (node : Node) {id : String} {s h : Staged} (hset : s.Settled)
    (hh : s.along? (Path.versionHistoryPath id) = some h) (r : Repository) :
    ensureHistory s node id r = .ok (s, false) r := by
  unfold ensureHistory
  exact descend_of_stored node id r _ hset hh

theorem stagedIdentifier_eq_ok {s : Staged} {u : String} {r r' : Repository}
    (h : stagedIdentifier s r = .ok u r') :
    ((s.property? Known.uuid).bind Property.first?).map Value.text = some u ∧ r' = r := by
  unfold stagedIdentifier at h
  cases hx : (s.property? Known.uuid).bind Property.first? with
  | none =>
    rw [hx] at h
    cases h
  | some x =>
    rw [hx] at h
    cases h
    exact ⟨rfl, rfl⟩

/-- Committing a copy of the storage with a history put back at the place of the stored one
leaves the history put back where histories are looked up. -/
theorem storedHistory_commit {r r' : Repository} {st H : Node} {id : String} {h : Staged}
    (hHst : st.descendAlong (Path.versionHistoryPath id) = some H)
    (hcommit : commitVersionStorage ((ofNode st).putAlong (Path.versionHistoryPath id) h) r =
      .ok () r') (hname : h.name = H.name) :
    storedHistory? r'.root id = some h.build := by
  obtain ⟨root', hrun, hroot⟩ :=
    commitVersionStorage_run ((ofNode st).putAlong (Path.versionHistoryPath id) h) r
  rw [hrun] at hcommit
  cases hcommit
  obtain ⟨x, xs, hpath⟩ := exists_cons_versionHistoryPath id
  have hstaged : (ofNode st).along? (Path.versionHistoryPath id) = some (ofNode H) := by
    rw [along?_ofNode, hHst]
    rfl
  unfold storedHistory?
  dsimp only
  rw [hroot, Option.bind_some, hpath, descendAlong_rename_cons, ← hpath, descendAlong_build,
    along?_putAlong _ (by rw [hpath]; exact List.cons_ne_nil x xs) hstaged
      (hname.trans (name_ofNode H).symm)]
  rfl

/-- A successful check-in on a node whose history is stored, in a tree where no node has two
children of one name, names the new version after the versions of the history; when no child has
that name, the history it leaves is the stored one with the version appended. -/
theorem checkin_run_of_stored {r r' : Repository} {path v id : String} {H : Node}
    (hdist : Everywhere DistinctChildren r.root) (hrun : checkin path r = .ok v r')
    (hid : (r.root.descendant? path).bind Node.identifier? = some id)
    (hH : storedHistory? r.root id = some H) :
    ∃ L, H.versions.getLast? = some L ∧ v = versionName (H.versions.length - 1) ∧
      (H.child? v = none →
        ∃ H', storedHistory? r'.root id = some H' ∧ VersionAppended H L H' v) := by
  obtain ⟨st, hst, hHst⟩ := Option.bind_eq_some_iff.mp hH
  have hHd : DistinctChildren H := ((hdist.descendAlong hst).descendAlong hHst).self
  unfold checkin at hrun
  obtain ⟨n, r₀, hreq, hrest⟩ := bind_eq_ok.mp hrun
  obtain ⟨hn, rfl⟩ := (requireNode_eq_ok rfl).mp hreq
  clear hreq hrun
  have hid' : n.identifier? = some id := by
    unfold Node.descendant? at hid
    rwa [hn, Option.bind_some] at hid
  by_cases hv : n.isNodeType Known.mixVersionable = true
  case neg =>
    simp only [hv, Bool.not_false, if_true] at hrest
    obtain ⟨_, _, hthrow, _⟩ := bind_eq_ok.mp hrest
    cases hthrow
  simp only [hv, Bool.not_true, Bool.false_eq_true, if_false, hid'] at hrest
  rw [bind_of_ok (pure_run _)] at hrest
  -- the staged storage is a copy of the stored one, and the history is left as it is
  obtain ⟨s, hvs, -, hcopy, -⟩ := versionStorage_staged r₀
  rw [hcopy st hst] at hvs
  have hstaged : (ofNode st).along? (Path.versionHistoryPath id) = some (ofNode H) := by
    rw [along?_ofNode, hHst]
    rfl
  rw [bind_of_ok hvs, bind_of_ok (ensureHistory_of_stored n (settled_ofNode st) hstaged r₀)]
    at hrest
  have hname : ∀ j, toString "1." ++ toString j = versionName j := fun _ => rfl
  simp only [lookup_eq_along?, hstaged, Option.getD_some, versions_ofNode, List.getLast?_map,
    List.length_map, hname] at hrest
  cases hL : H.versions.getLast? with
  | none =>
    simp only [hL, Option.map_none] at hrest
    obtain ⟨_, _, hthrow, _⟩ := bind_eq_ok.mp hrest
    cases hthrow
  | some L =>
  -- the last version's identifier, then the new version, its frozen node and the commit
  simp only [hL, Option.map_some] at hrest
  rw [bind_of_ok (pure_run _)] at hrest
  obtain ⟨u, r₁, hu, hrest⟩ := bind_eq_ok.mp hrest
  obtain ⟨hu, hr₁⟩ := stagedIdentifier_eq_ok hu
  rw [hr₁] at hrest
  obtain ⟨v', hrv, hvn, hvt, -, hvl⟩ := initVersion_run [u]
    (((ofNode H).child? (versionName (H.versions.length - 1))).getD
      (blank (versionName (H.versions.length - 1)))) r₀
  rw [bind_of_ok hrv] at hrest
  obtain ⟨fr, r₂, -, hrest⟩ := bind_eq_ok.mp hrest
  rw [bind_of_ok (stagedIdentifier_run (s := (v'.withChild Known.frozenNode fun _ => (fr, ())).1)
    hvl.1 _)] at hrest
  obtain ⟨_, r₃, hcommit, hpure⟩ := bind_eq_ok.mp hrest
  cases hpure
  refine ⟨L, rfl, rfl, fun hfree => ?_⟩
  -- the new version is made from a blank node, and goes last
  rw [child?_ofNode, hfree, Option.map_none, Option.getD_none] at hvn
  have hfree' : ∀ d ∈ H.children, d.name ≠ versionName (H.versions.length - 1) := fun d hd hdn =>
    by simpa [hdn] using List.find?_eq_none.mp hfree d hd
  -- the last version is the first child of its name
  obtain ⟨l₁, l₂, hsplit⟩ := List.append_of_mem (List.mem_filter.mp (List.mem_of_getLast? hL)).1
  have hfirst : ∀ d ∈ l₁, d.name ≠ L.name := by
    have hnd : ((l₁ ++ L :: l₂).map Node.name).Nodup := hsplit ▸ hHd
    rw [List.map_append, List.map_cons, List.nodup_append] at hnd
    exact fun d hd => hnd.2.2 _ (List.mem_map_of_mem hd) _ List.mem_cons_self
  obtain ⟨hwt, hwu, hwp, hws⟩ :=
    build_version (w := (v'.withChild Known.frozenNode fun _ => (fr, ())).1) hvt hvl
  refine ⟨_, storedHistory_commit hHst hcommit (name_ofNode H), l₁, l₂, _, u, _, hsplit,
    by rwa [property?_ofNode] at hu, ?_, by rw [name_build]; exact hvn, hwt, hwu, hwp, hws⟩
  rw [name_ofNode L, build_checkin_history hsplit hfirst hfree', build_setProperty, build_ofNode,
    property?_ofNode]
  rfl

end RepoM

/-- A check-in appends a version after the last one. In every state a session reaches from a
tree where no node has two children of one name, whatever its operations (imports of version
histories and changes below the system node included): when `checkin` succeeds on a node whose
history is stored, it names the new version `1.(k-1)` after the `k` versions of the history, and
when no child of the history had that name, the history it leaves keeps every child but the last
version, which gains the new version's identifier at the end of its successors, and ends with
the new version, whose only predecessor is the last version. -/
theorem checkin_appends_after_last_version (tree : Node) (issued : Nat)
    (clock : Time.Timestamp) (htree : Everywhere DistinctChildren tree) (ops : List SessionOp)
    {path v id : String} {H : Node} {r' : Repository}
    (hrun : checkin path (SessionOp.runAll ops (Repository.ofRoot tree issued clock)) = .ok v r')
    (hid : ((SessionOp.runAll ops (Repository.ofRoot tree issued clock)).root.descendant?
      path).bind Node.identifier? = some id)
    (hH : storedHistory? (SessionOp.runAll ops (Repository.ofRoot tree issued clock)).root id =
      some H) :
    ∃ L, H.versions.getLast? = some L ∧ v = versionName (H.versions.length - 1) ∧
      (H.child? v = none →
        ∃ H', storedHistory? r'.root id = some H' ∧ VersionAppended H L H' v) :=
  checkin_run_of_stored (SessionOp.runAll_distinct ops ⟨htree, htree⟩).root hrun hid hH

/-- A new repository where `/a` was added and made versionable. -/
def versionedSession : Repository :=
  SessionOp.runAll [.addNode "/" "a" Known.ntUnstructured, .addMixin "/a" Known.mixVersionable]
    (Repository.ofRoot emptyRoot 0 creationMoment)

/-- The first check-in of `/a` appends `1.0` after the root version. -/
theorem first_checkin_appends_version :
    ∃ r' H, checkin "/a" versionedSession = .ok "1.0" r' ∧
      (versionedSession.root.descendant? "/a").bind Node.identifier? = some (identifierOf 1) ∧
      storedHistory? versionedSession.root (identifierOf 1) = some H ∧ H.child? "1.0" = none ∧
      ∃ L, H.versions.getLast? = some L ∧ "1.0" = versionName (H.versions.length - 1) ∧
        ∃ H', storedHistory? r'.root (identifierOf 1) = some H' ∧ VersionAppended H L H' "1.0" := by
  -- the runs are evaluated by the kernel alone
  have hcheck : (checkin "/a" versionedSession).casesOn (motive := fun _ => Bool)
      (fun v _ => v == "1.0") (fun _ _ => false) = true := by
    decide +kernel
  have hid : (versionedSession.root.descendant? "/a").bind Node.identifier? =
      some (identifierOf 1) := by
    decide +kernel
  have hstored : (storedHistory? versionedSession.root (identifierOf 1)).any
      (fun H => (H.child? "1.0").isNone) = true := by
    decide +kernel
  cases hrun : checkin "/a" versionedSession with
  | error e r' =>
    rw [hrun] at hcheck
    cases hcheck
  | ok v r' =>
    rw [hrun] at hcheck
    obtain rfl : v = "1.0" := beq_iff_eq.mp hcheck
    obtain ⟨H, hH, hfree⟩ := (Option.any_eq_true _ _).mp hstored
    have hfree : H.child? "1.0" = none := Option.isNone_iff_eq_none.mp hfree
    obtain ⟨L, hL, hname, happend⟩ := checkin_appends_after_last_version emptyRoot 0
      creationMoment (by decide) _ hrun hid hH
    exact ⟨r', H, rfl, hid, hH, hfree, L, hL, hname, happend hfree⟩

/-- The session of `versionedSession`, then a plain node `1.0` added to the history of `/a`. -/
def editedHistorySession : Repository :=
  SessionOp.runAll [.addNode "/" "a" Known.ntUnstructured, .addMixin "/a" Known.mixVersionable,
    .addNode ("/jcr:system/jcr:versionStorage/00/00/00/" ++ identifierOf 1) "1.0"
      Known.ntUnstructured]
    (Repository.ofRoot emptyRoot 0 creationMoment)

/-- A history holding a child under the name of the next version: the check-in names its version
`1.0`, a name the history had, and rewrites that plain child into a version. -/
theorem checkin_rewrites_child_of_its_name :
    ∃ r' H H', checkin "/a" editedHistorySession = .ok "1.0" r' ∧
      storedHistory? editedHistorySession.root (identifierOf 1) = some H ∧
      (H.child? "1.0").map (·.primaryType) = some Known.ntUnstructured ∧
      storedHistory? r'.root (identifierOf 1) = some H' ∧
      (H'.child? "1.0").map (·.primaryType) = some Known.ntVersion := by
  -- the runs are evaluated by the kernel alone
  have hcheck : (checkin "/a" editedHistorySession).casesOn (motive := fun _ => Bool)
      (fun v r' => v == "1.0" && (storedHistory? r'.root (identifierOf 1)).any fun H' =>
        (H'.child? "1.0").map (·.primaryType) == some Known.ntVersion)
      (fun _ _ => false) = true := by
    decide +kernel
  have hbefore : (storedHistory? editedHistorySession.root (identifierOf 1)).any (fun H =>
      (H.child? "1.0").map (·.primaryType) == some Known.ntUnstructured) = true := by
    decide +kernel
  cases hrun : checkin "/a" editedHistorySession with
  | error e r' =>
    rw [hrun] at hcheck
    cases hcheck
  | ok v r' =>
    rw [hrun] at hcheck
    obtain ⟨hv, hafter⟩ := Bool.and_eq_true_iff.mp hcheck
    obtain rfl : v = "1.0" := beq_iff_eq.mp hv
    obtain ⟨H, hH, hHt⟩ := (Option.any_eq_true _ _).mp hbefore
    obtain ⟨H', hH', hH't⟩ := (Option.any_eq_true _ _).mp hafter
    exact ⟨r', H, H', rfl, hH, beq_iff_eq.mp hHt, hH', beq_iff_eq.mp hH't⟩

end ContentSync
