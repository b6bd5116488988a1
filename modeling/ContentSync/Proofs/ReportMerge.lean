import ContentSync.ImportInfo
import Mathlib.Data.String.Basic
import Mathlib.Data.List.Sort

/-!
# Merging import reports

A report lists each path once, in ascending order, and carries the proof of it
(`ImportInfo.ascending`). So a report is known from its entries path by path
(`ImportInfo.eq_of_get?`), and the laws of merging are laws of one entry. The merged entry at a
path is the second report's entry, except that `modified` keeps an entry already there
(`ImportInfo.get?_merge`), and this rule is associative with the missing entry as its unit
(`mergeEntry_assoc`).

Main statements: `ImportInfo.get?_merge`, `ImportInfo.merge_assoc`, `ImportInfo.empty_merge`.
-/

namespace ContentSync

/-- The entry a path ends with when `new` is recorded over `old`: `modified` keeps an entry
already there, any other modification replaces it, and no entry leaves `old` as it was. -/
def mergeEntry (old new : Option Modification) : Option Modification :=
  if new = some .modified then old.or new else new.or old

@[simp] theorem mergeEntry_none (old : Option Modification) : mergeEntry old none = old := by
  simp [mergeEntry]

@[simp] theorem none_mergeEntry (new : Option Modification) : mergeEntry none new = new := by
  unfold mergeEntry
  split
  · rfl
  · exact Option.or_none

theorem mergeEntry_modified (old : Option Modification) :
    mergeEntry old (some .modified) = old.or (some .modified) := by
  simp [mergeEntry]

theorem mergeEntry_of_ne_modified (old : Option Modification) {m : Modification}
    (h : m ≠ .modified) : mergeEntry old (some m) = some m := by
  simp [mergeEntry, h]

theorem isSome_mergeEntry (old : Option Modification) (m : Modification) :
    (mergeEntry old (some m)).isSome := by
  by_cases h : m = .modified
  · subst h
    cases old <;> simp [mergeEntry_modified]
  · simp [mergeEntry_of_ne_modified old h]

/-- The rule in the words of a report: the old entry stays where nothing new is recorded or
where `modified` comes over an entry, and the new entry is taken everywhere else. -/
theorem mergeEntry_eq (old new : Option Modification) :
    mergeEntry old new =
      if new = none ∨ (new = some .modified ∧ old.isSome) then old else new := by
  rcases new with _ | m
  · simp
  · by_cases hm : m = .modified
    · subst hm
      cases old <;> simp [mergeEntry_modified]
    · simp [mergeEntry_of_ne_modified old hm, hm]

theorem mergeEntry_assoc (x y z : Option Modification) :
    mergeEntry (mergeEntry x y) z = mergeEntry x (mergeEntry y z) := by
  rcases z with _ | m
  · simp
  by_cases hm : m = .modified
  · subst hm
    -- `modified` keeps whatever the first two left; it is only taken where neither has one
    rcases y with _ | n
    · simp [mergeEntry_modified]
    · obtain ⟨v, hv⟩ := Option.isSome_iff_exists.mp (isSome_mergeEntry x n)
      rw [mergeEntry_modified, mergeEntry_modified, hv, Option.some_or, Option.some_or, hv]
  · rw [mergeEntry_of_ne_modified _ hm, mergeEntry_of_ne_modified _ hm,
      mergeEntry_of_ne_modified _ hm]

/-! ## Entries in ascending order -/

theorem find?_putEntry (path q : String) (m : Modification) :
    ∀ entries : List (String × Modification), (putEntry path m entries).find? (·.1 = q) =
      if path = q then some (path, m) else entries.find? (·.1 = q)
  | [] => by
    by_cases h : path = q <;> simp [putEntry, h]
  | (p, old) :: rest => by
    rw [putEntry]
    split
    · by_cases h : path = q <;> simp [h]
    · split
      · rename_i hp
        subst hp
        by_cases h : path = q <;> simp [h]
      · rename_i hp
        -- the entry at `p` stays in front, and it is not at `path`
        rw [List.find?_cons, List.find?_cons, find?_putEntry path q m rest]
        by_cases h : path = q
        · subst h
          simp [Ne.symm hp]
        · simp [h]

theorem find?_eq_none_of_lt {q : String} {es : List (String × Modification)}
    (h : ∀ y ∈ es, q < y.1) : es.find? (·.1 = q) = none := by
  rw [List.find?_eq_none]
  intro y hy
  simpa using ne_of_gt (h y hy)

theorem find?_addEntry (path q : String) (m : Modification) :
    ∀ {es : List (String × Modification)}, es.Pairwise (fun x y => x.1 < y.1) →
      (addEntry path m es).find? (·.1 = q) =
        if path = q then (es.find? (·.1 = q)).or (some (path, m)) else es.find? (·.1 = q)
  | [], _ => by
    by_cases h : path = q <;> simp [addEntry, h]
  | (p, old) :: rest, h => by
    obtain ⟨hp, hrest⟩ := List.pairwise_cons.mp h
    rw [addEntry]
    split
    · next hlt =>
      -- the path is new: every recorded path is above it
      by_cases hq : path = q
      · subst hq
        have hnone : ((p, old) :: rest).find? (·.1 = path) = none :=
          find?_eq_none_of_lt fun y hy => by
            rcases List.mem_cons.mp hy with rfl | hy
            · exact hlt
            · exact lt_trans hlt (hp y hy)
        simp only [List.find?_cons_of_pos, decide_true, if_true, hnone, Option.none_or]
      · simp [hq]
    · split
      · next heq =>
        subst heq
        by_cases hq : path = q <;> simp [hq]
      · next hne =>
        rw [List.find?_cons, List.find?_cons, find?_addEntry path q m hrest]
        by_cases hq : path = q
        · subst hq
          simp [Ne.symm hne]
        · simp [hq]

namespace ImportInfo

theorem merge_cons (a : ImportInfo) (p : String) (m : Modification)
    (rest : List (String × Modification)) (h : ((p, m) :: rest).Pairwise fun x y => x.1 < y.1) :
    a.merge ⟨(p, m) :: rest, h⟩ = (a.record p m).merge ⟨rest, h.of_cons⟩ := rfl

@[simp] theorem get?_empty (q : String) : empty.get? q = none := rfl

theorem get?_cons (p q : String) (m : Modification) (rest : List (String × Modification))
    (h : ((p, m) :: rest).Pairwise fun x y => x.1 < y.1) :
    (⟨(p, m) :: rest, h⟩ : ImportInfo).get? q =
      if p = q then some m else (⟨rest, h.of_cons⟩ : ImportInfo).get? q := by
  by_cases hpq : p = q <;> simp [get?, hpq]

/-- A deletion is read back at its path, and nowhere else. -/
theorem get?_onDeleted (info : ImportInfo) (p q : String) :
    (info.onDeleted p).get? q = if p = q then some .deleted else info.get? q := by
  show ((putEntry p .deleted info.entries).find? (·.1 = q)).map (·.2) = _
  rw [find?_putEntry]
  split <;> rfl

/-- Recording `m` at `p` changes the entry at `p` as merging does, and no other entry. -/
theorem get?_record (info : ImportInfo) (p q : String) (m : Modification) :
    (info.record p m).get? q = if p = q then mergeEntry (info.get? q) (some m) else info.get? q := by
  by_cases hm : m = .modified
  · subst hm
    show ((addEntry p .modified info.entries).find? (·.1 = q)).map (·.2) = _
    rw [find?_addEntry p q .modified info.ascending, mergeEntry_modified]
    by_cases hq : p = q
    · subst hq
      cases hf : info.entries.find? (·.1 = p) <;> simp [get?, hf]
    · simp [get?, hq]
  · have hput : (info.record p m).entries = putEntry p m info.entries := by
      cases m <;> first | rfl | exact absurd rfl hm
    show ((info.record p m).entries.find? (·.1 = q)).map (·.2) = _
    rw [hput, find?_putEntry, mergeEntry_of_ne_modified _ hm]
    split <;> rfl

/-- The entry of a merged report at a path is the rule `mergeEntry` applied to the entries of
the two reports there. -/
theorem get?_merge (a b : ImportInfo) (q : String) :
    (a.merge b).get? q = mergeEntry (a.get? q) (b.get? q) := by
  obtain ⟨es, hb⟩ := b
  -- the entries of `b` are recorded one after the other, each at a path the rest lacks
  induction es generalizing a with
  | nil => exact (mergeEntry_none (a.get? q)).symm
  | cons e rest ih =>
    obtain ⟨p, m⟩ := e
    rw [merge_cons, ih (a.record p m) hb.of_cons, get?_record, get?_cons]
    by_cases hq : p = q
    · subst hq
      have hnone : (⟨rest, hb.of_cons⟩ : ImportInfo).get? p = none := by
        simp [get?, find?_eq_none_of_lt (List.pairwise_cons.mp hb).1]
      simp [hnone]
    · simp [hq]

/-- An entry of a report is there exactly when it is read back. -/
theorem mem_iff_get? (info : ImportInfo) {x : String × Modification} :
    x ∈ info.entries ↔ info.get? x.1 = some x.2 := by
  have hkeys : (info.entries.map (·.1)).Nodup :=
    (List.pairwise_map.mpr info.ascending).nodup
  constructor
  · intro hx
    obtain ⟨y, hy⟩ : ∃ y, info.entries.find? (·.1 = x.1) = some y :=
      Option.isSome_iff_exists.mp (List.find?_isSome.mpr ⟨x, hx, by simp⟩)
    have hyx : y = x :=
      List.inj_on_of_nodup_map hkeys (List.mem_of_find?_eq_some hy) hx (by simpa using List.find?_some hy)
    simp [get?, hy, hyx]
  · intro hx
    obtain ⟨y, hy, hyx⟩ := Option.map_eq_some_iff.mp hx
    have hkey : y.1 = x.1 := by simpa using List.find?_some hy
    have : y = x := Prod.ext hkey hyx
    exact this ▸ List.mem_of_find?_eq_some hy

/-- Two reports with the same entry at every path are the same report. -/
theorem eq_of_get? {a b : ImportInfo} (h : ∀ q, a.get? q = b.get? q) : a = b := by
  have hnodup : ∀ c : ImportInfo, c.entries.Nodup := fun c =>
    (List.pairwise_map.mpr c.ascending).nodup.of_map _
  have hperm : a.entries.Perm b.entries :=
    (List.perm_ext_iff_of_nodup (hnodup a) (hnodup b)).mpr fun x => by
      rw [mem_iff_get? a, mem_iff_get? b, h]
  obtain ⟨as, ha⟩ := a
  obtain ⟨bs, hb⟩ := b
  rw [ImportInfo.mk.injEq]
  exact hperm.eq_of_pairwise (fun x y _ _ hxy hyx => absurd hyx (lt_asymm hxy)) ha hb

theorem merge_assoc (a b c : ImportInfo) : (a.merge b).merge c = a.merge (b.merge c) := by
  apply eq_of_get?
  intro q
  rw [get?_merge, get?_merge a b, get?_merge a, get?_merge b c, mergeEntry_assoc]

theorem merge_empty (a : ImportInfo) : a.merge empty = a := rfl

theorem empty_merge (a : ImportInfo) : empty.merge a = a :=
  eq_of_get? fun q => by rw [get?_merge, get?_empty, none_mergeEntry]

/-- Merging reports is associative with the empty report as unit on both sides, and at each
path the merged entry is the first report's where the second has none or marks the path
modified over an entry of the first, and the second report's everywhere else. -/
theorem merge_monoid_laws (a b c : ImportInfo) :
    (a.merge b).merge c = a.merge (b.merge c) ∧ a.merge empty = a ∧ empty.merge a = a ∧
      ∀ q, (a.merge b).get? q =
        if b.get? q = none ∨ (b.get? q = some .modified ∧ (a.get? q).isSome) then a.get? q
        else b.get? q :=
  ⟨merge_assoc a b c, merge_empty a, empty_merge a,
    fun q => (get?_merge a b q).trans (mergeEntry_eq _ _)⟩

/-- A creation modified later keeps its entry, and a deletion modified later keeps its own. -/
example :
    ((((empty.onCreated "/a").onReplaced "/c").merge ((empty.onModified "/a").onDeleted "/b")).merge
        ((empty.onModified "/b").onModified "/d")).entries =
      [("/a", .created), ("/b", .deleted), ("/c", .replaced), ("/d", .modified)] := by
  decide

end ImportInfo

end ContentSync
