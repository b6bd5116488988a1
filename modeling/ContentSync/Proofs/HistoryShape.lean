import ContentSync.Versioning
import Mathlib.Data.List.Nodup

/-!
# The shape of a version history

A version history holds its versions, named `jcr:rootVersion`, `1.0`, `1.1`, … in child order.
Each has an identifier, the one before it as its only predecessor and the one after it as its
only successor, and no two share an identifier. The history has one label node, whose
properties (but its own identifier) reference versions of the history.

The shape reads of each child its name, its type and its properties (`ChildInfo`), so that it
can be said alike of stored and staged trees. `VersionGraph` is the shape, and
`HistoryInvariant` adds what keeps it under the changes the repository makes: no child but a
version has a version's name, and the identifiers of the versions were drawn before a bound.
The changes are: creating a history with its root version (`HistoryInvariant.created`),
checking in a version (`HistoryInvariant.checkin`), binding a label (`HistoryInvariant.label`),
adding a child that is neither a version nor a label node (`HistoryInvariant.append`) and
changing a child other than by a check-in (`HistoryInvariant.replace`).

`StorageShape` is what the version storage asks of each of its nodes: a history sits at the
path of its name and keeps the invariant, and no other node has a version as a child.
-/

namespace ContentSync

/-! ## What a history reads of its children -/

/-- What the shape of a version history reads of one of its children. -/
structure ChildInfo where
  name : String
  type : String
  properties : List Property
deriving DecidableEq

/-- What a history reads of a child node. -/
def Node.info (n : Node) : ChildInfo := ⟨n.name, n.primaryType, n.properties⟩

/-- What a history reads of a staged child: a child without a type is built as
`nt:unstructured`. -/
def Staged.info (s : Staged) : ChildInfo :=
  ⟨s.name, s.primaryType.getD Known.ntUnstructured, s.properties⟩

/-- The name of the version checked in after `j` others besides the root version. -/
def versionName (j : Nat) : String := s!"1.{j}"

/-- The names a version can have. -/
def VersionLike (a : String) : Prop := a = Known.rootVersion ∨ ∃ j, a = versionName j

namespace ChildInfo

/-- The child has the identifier `u`, the predecessors `preds` and the successors `succs`. -/
def Links (c : ChildInfo) (u : String) (preds succs : List String) : Prop :=
  findProperty? Known.uuid c.properties = some (Property.ofString Known.uuid u) ∧
  findProperty? Known.predecessors c.properties =
    some (Property.references Known.predecessors preds) ∧
  findProperty? Known.successors c.properties = some (Property.references Known.successors succs)

/-- The child with `u` as its only successor. -/
def succeededBy (c : ChildInfo) (u : String) : ChildInfo :=
  { c with properties := setPropertyIn (Property.references Known.successors [u]) c.properties }

end ChildInfo

/-- The versions among the children, in order. -/
def versionsOf (cs : List ChildInfo) : List ChildInfo := cs.filter (·.type = Known.ntVersion)

/-- `Chain preds vs us`: the versions `vs`, in order, have the identifiers `us`; the first has
the predecessors `preds`, each later one the one before it, each one but the last has the next
one as its only successor, and the last has none. -/
inductive Chain : List String → List ChildInfo → List String → Prop
  | last {v : ChildInfo} {u : String} {preds : List String} :
      v.Links u preds [] → Chain preds [v] [u]
  | cons {v : ChildInfo} {u u' : String} {preds : List String} {vs : List ChildInfo}
      {us : List String} :
      v.Links u preds [u'] → Chain [u] vs (u' :: us) → Chain preds (v :: vs) (u :: u' :: us)

/-- The children `cs` of a version history, whose versions have the identifiers `us`: the
versions are `jcr:rootVersion`, `1.0`, `1.1`, … in order, linked one to the next, with distinct
identifiers, and there is one label node, each of whose properties but its identifier is a
reference to a version. -/
structure VersionGraph (cs : List ChildInfo) (us : List String) : Prop where
  names : (versionsOf cs).map (·.name) =
    Known.rootVersion :: (List.range (us.length - 1)).map versionName
  chain : Chain [] (versionsOf cs) us
  distinct : us.Nodup
  labels : ∃ l, cs.filter (·.name = Known.versionLabels) = [l] ∧
    ∀ q ∈ l.properties, q.name ≠ Known.uuid → ∃ u ∈ us, q = Property.single q.name (.reference u)

/-- The children of a history that the repository keeps well formed: their shape, no child but
a version with a version's name, and version identifiers among the first `N` drawn. -/
structure HistoryInvariant (N : Nat) (cs : List ChildInfo) : Prop where
  graph : ∃ us, VersionGraph cs us ∧ ∀ u ∈ us, ∃ k ≤ N, u = identifierOf k
  versionLike : ∀ c ∈ cs, VersionLike c.name → c.type = Known.ntVersion

/-! ## Names -/

theorem toList_versionName (j : Nat) :
    (versionName j).toList = '1' :: '.' :: Nat.toDigits 10 j := by
  simp [versionName, toString, Nat.repr]

theorem versionName_injective : Function.Injective versionName := by
  intro a b h
  have hd : Nat.toDigits 10 a = Nat.toDigits 10 b := by
    have := congrArg String.toList h
    rw [toList_versionName, toList_versionName] at this
    simpa using this
  rw [← Nat.ofDigitChars_ten_toDigits (n := a), hd, Nat.ofDigitChars_ten_toDigits]

theorem three_le_length_versionName (j : Nat) : 3 ≤ (versionName j).length := by
  have hne : Nat.toDigits 10 j ≠ [] := Nat.toDigits_ne_nil
  rw [← String.length_toList, toList_versionName]
  cases h : Nat.toDigits 10 j with
  | nil => exact absurd h hne
  | cons _ _ => simp

theorem versionName_ne_rootVersion (j : Nat) : versionName j ≠ Known.rootVersion := by
  intro h
  have := congrArg (·.toList.head?) h
  simp [toList_versionName, Known.rootVersion] at this

theorem not_versionLike_versionLabels : ¬ VersionLike Known.versionLabels := by
  rintro (h | ⟨j, h⟩)
  · exact absurd h (by decide)
  · have := congrArg (·.toList.head?) h
    simp [toList_versionName, Known.versionLabels] at this

/-- A name of two characters, such as a bucket's, is no version's name. -/
theorem not_versionLike_of_length_two {a : String} (ha : a.length = 2) : ¬ VersionLike a := by
  rintro (rfl | ⟨j, rfl⟩)
  · exact absurd ha (by decide)
  · have := three_le_length_versionName j
    omega

theorem ne_versionLabels_of_length_two {a : String} (ha : a.length = 2) :
    a ≠ Known.versionLabels := by
  rintro rfl
  exact absurd ha (by decide)

/-- The buckets of a history are names of two characters. -/
theorem length_of_mem_versionBuckets {id b : String} (hb : b ∈ Path.versionBuckets id) :
    b.length = 2 := by
  unfold Path.versionBuckets at hb
  split at hb <;> simp only [List.mem_cons, List.not_mem_nil, or_false] at hb <;>
    rcases hb with rfl | rfl | rfl <;> simp

/-- A history below the history of `x` is in the buckets `x x`, so its name is neither a
version's nor the label node's: a digit of a version number would be a dot. -/
theorem not_versionLike_of_nested {id x : String}
    (h : Path.versionBuckets id = Path.versionBuckets x ++ [x]) :
    ¬ VersionLike id ∧ id ≠ Known.versionLabels := by
  have hx : x.length = 2 :=
    length_of_mem_versionBuckets (h ▸ List.mem_append_right _ (List.mem_singleton_self x))
  -- the buckets of a name of two characters are that name
  have hbx : Path.versionBuckets x = [x] := by
    obtain ⟨a, b, hab⟩ : ∃ a b, x.toList = [a, b] := by
      rw [← String.length_toList] at hx
      match x.toList, hx with
      | [a, b], _ => exact ⟨a, b, rfl⟩
    unfold Path.versionBuckets
    simp only [hab]
    rw [← hab, String.ofList_toList]
  rw [hbx] at h
  -- so `id` has four or five characters, its first pair repeated
  obtain ⟨c₀, c₁, rest, hl, hrest⟩ :
      ∃ c₀ c₁ rest, id.toList = c₀ :: c₁ :: c₀ :: c₁ :: rest ∧ rest.length ≤ 1 := by
    unfold Path.versionBuckets at h
    split at h
    · simp at h
    · rename_i c₀ c₁ c₂ c₃ rest hnot heq
      simp only [List.cons_append, List.nil_append, List.cons.injEq, and_true] at h
      obtain ⟨h₁, h₂⟩ := h
      have h₃ := String.ofList_inj.mp (h₁.trans h₂.symm)
      simp only [List.cons.injEq, and_true] at h₃
      obtain ⟨rfl, rfl⟩ := h₃
      refine ⟨c₀, c₁, rest, heq, ?_⟩
      match rest, hnot with
      | [], _ => simp
      | [_], _ => simp
      | _ :: _ :: _, hnot => exact (hnot _ _ _ rfl).elim
    · simp at h
    · simp at h
  have hlen : id.length ≤ 5 := by
    rw [← String.length_toList, hl]
    simp only [List.length_cons]
    omega
  refine ⟨?_, fun heq => absurd (heq ▸ hlen) (by decide)⟩
  rintro (rfl | ⟨j, rfl⟩)
  · exact absurd hlen (by decide)
  · rw [toList_versionName] at hl
    simp only [List.cons.injEq] at hl
    obtain ⟨rfl, rfl, hdig⟩ := hl
    have hdot : '.' ∈ Nat.toDigits 10 j := by rw [hdig]; simp
    have hdigit := Nat.isDigit_of_mem_toDigits (by decide) (by decide) hdot
    exact absurd hdigit (by decide)

/-! ## Identifiers drawn one after another are distinct -/

theorem digitChar_injective_sixteen : ∀ a < 16, ∀ b < 16, Nat.digitChar a = Nat.digitChar b → a = b := by
  decide

theorem toDigits_of_lt {b d : Nat} (hd : d < b) : Nat.toDigits b d = [Nat.digitChar d] := by
  unfold Nat.toDigits
  simp [Nat.toDigitsCore, Nat.div_eq_of_lt hd, Nat.mod_eq_of_lt hd]

/-- The hex digits of a number of two digits or more: those of its sixteenths, then the last. -/
theorem toDigits_sixteen_of_le {k : Nat} (hk : 16 ≤ k) :
    Nat.toDigits 16 k = Nat.toDigits 16 (k / 16) ++ [Nat.digitChar (k % 16)] := by
  have h := Nat.toDigits_append_toDigits (by decide : 1 < 16) (Nat.div_pos hk (by decide))
    (Nat.mod_lt k (by decide : 16 > 0))
  rw [toDigits_of_lt (Nat.mod_lt k (by decide : 16 > 0)), Nat.div_add_mod] at h
  exact h.symm

theorem toDigits_sixteen_injective : Function.Injective (Nat.toDigits 16) := by
  intro a
  induction a using Nat.strongRecOn with
  | ind a ih =>
    intro b h
    have hmod := Nat.mod_lt a (by decide : 16 > 0)
    have hmod' := Nat.mod_lt b (by decide : 16 > 0)
    by_cases ha : 16 ≤ a <;> by_cases hb : 16 ≤ b
    · -- both have two digits or more: the last digits and the rest agree
      rw [toDigits_sixteen_of_le ha, toDigits_sixteen_of_le hb] at h
      obtain ⟨hrest, hlast⟩ := List.append_inj' h rfl
      have hq : a / 16 = b / 16 := ih (a / 16) (Nat.div_lt_self (by omega) (by decide)) hrest
      have hr : a % 16 = b % 16 :=
        digitChar_injective_sixteen _ hmod _ hmod' (List.singleton_inj.mp hlast)
      rw [← Nat.div_add_mod a 16, ← Nat.div_add_mod b 16, hq, hr]
    · -- one digit against two or more
      rw [toDigits_sixteen_of_le ha, toDigits_of_lt (by omega : b < 16)] at h
      have hlen := congrArg List.length h
      simp only [List.length_append, List.length_singleton] at hlen
      have hz : (Nat.toDigits 16 (a / 16)).length = 0 := by omega
      exact absurd (List.length_eq_zero_iff.mp hz) Nat.toDigits_ne_nil
    · rw [toDigits_of_lt (by omega : a < 16), toDigits_sixteen_of_le hb] at h
      have hlen := congrArg List.length h
      simp only [List.length_append, List.length_singleton] at hlen
      have hz : (Nat.toDigits 16 (b / 16)).length = 0 := by omega
      exact absurd (List.length_eq_zero_iff.mp hz) Nat.toDigits_ne_nil
    · rw [toDigits_of_lt (by omega : a < 16), toDigits_of_lt (by omega : b < 16)] at h
      exact digitChar_injective_sixteen a (by omega) b (by omega) (List.singleton_inj.mp h)

/-- The hex digits of a positive number do not start with a zero. -/
theorem head?_toDigits_sixteen {k : Nat} (hk : 0 < k) : (Nat.toDigits 16 k).head? ≠ some '0' := by
  induction k using Nat.strongRecOn with
  | ind k ih =>
    by_cases h16 : 16 ≤ k
    · have hne : Nat.toDigits 16 (k / 16) ≠ [] := Nat.toDigits_ne_nil
      rw [toDigits_sixteen_of_le h16, List.head?_append_of_ne_nil _ hne]
      exact ih (k / 16) (Nat.div_lt_self hk (by decide)) (Nat.div_pos h16 (by decide))
    · rw [toDigits_of_lt (by omega : k < 16)]
      intro h
      have h0 : k = 0 := by simpa using h
      omega

theorem dropWhile_zero_replicate (m : Nat) (l : List Char) :
    (List.replicate m '0' ++ l).dropWhile (· = '0') = l.dropWhile (· = '0') := by
  induction m with
  | zero => rfl
  | succ m ih => simp [List.replicate_succ, ih]

/-- Twelve hex digits with their leading zeros dropped: the digits of the number, none for
zero. -/
theorem dropWhile_hex12 (k : Nat) :
    (hex12 k).toList.dropWhile (· = '0') = if k = 0 then [] else Nat.toDigits 16 k := by
  simp only [hex12, String.toList_ofList, dropWhile_zero_replicate]
  split
  · subst k
    decide
  · rename_i hk
    cases hd : Nat.toDigits 16 k with
    | nil => exact absurd hd Nat.toDigits_ne_nil
    | cons c cs =>
      have hc : c ≠ '0' := by
        have := head?_toDigits_sixteen (Nat.pos_of_ne_zero hk)
        rw [hd] at this
        simpa using this
      simp [hc]

theorem identifierOf_injective : Function.Injective identifierOf := by
  intro a b h
  have hhex : (hex12 a).toList = (hex12 b).toList := by
    have := congrArg String.toList h
    unfold identifierOf at this
    rw [String.toList_append, String.toList_append] at this
    exact List.append_cancel_left this
  have hdrop := congrArg (List.dropWhile (· = '0')) hhex
  rw [dropWhile_hex12, dropWhile_hex12] at hdrop
  by_cases ha : a = 0 <;> by_cases hb : b = 0
  · rw [ha, hb]
  · rw [if_pos ha, if_neg hb] at hdrop
    exact absurd hdrop.symm Nat.toDigits_ne_nil
  · rw [if_neg ha, if_pos hb] at hdrop
    exact absurd hdrop Nat.toDigits_ne_nil
  · rw [if_neg ha, if_neg hb] at hdrop
    exact toDigits_sixteen_injective hdrop

/-! ## Properties -/

@[simp] theorem Property.name_references (a : String) (vs : List String) :
    (Property.references a vs).name = a :=
  rfl

theorem findProperty?_setPropertyIn (p : Property) (a : String) :
    ∀ ps : List Property,
      findProperty? a (setPropertyIn p ps) = if p.name = a then some p else findProperty? a ps
  | [] => by by_cases h : p.name = a <;> simp [setPropertyIn, findProperty?, h]
  | q :: ps => by
    have ih := findProperty?_setPropertyIn p a ps
    unfold findProperty? at ih ⊢
    by_cases hq : q.name = p.name
    · by_cases ha : p.name = a <;> simp [setPropertyIn, hq, ha]
    · by_cases hqa : q.name = a
      · have hpa : p.name ≠ a := fun h => hq (hqa.trans h.symm)
        simp [setPropertyIn, hqa, hpa, Ne.symm hpa]
      · simp [setPropertyIn, hq, hqa, ih]

theorem findProperty?_setPropertyIn_of_ne {p : Property} {a : String} (h : p.name ≠ a)
    (ps : List Property) : findProperty? a (setPropertyIn p ps) = findProperty? a ps := by
  rw [findProperty?_setPropertyIn, if_neg h]

theorem findProperty?_setPropertyIn_of_eq {p : Property} {a : String} (h : p.name = a)
    (ps : List Property) : findProperty? a (setPropertyIn p ps) = some p := by
  rw [findProperty?_setPropertyIn, if_pos h]

theorem mem_setPropertyIn {p q : Property} :
    ∀ {ps : List Property}, q ∈ setPropertyIn p ps → q = p ∨ q ∈ ps
  | [], h => by simpa [setPropertyIn] using h
  | r :: ps, h => by
    unfold setPropertyIn at h
    split at h
    · rcases List.mem_cons.mp h with rfl | h
      · exact .inl rfl
      · exact .inr (List.mem_cons_of_mem r h)
    · rcases List.mem_cons.mp h with rfl | h
      · exact .inr List.mem_cons_self
      · rcases mem_setPropertyIn h with h | h
        · exact .inl h
        · exact .inr (List.mem_cons_of_mem r h)

namespace ChildInfo

/-- A child's links are determined by its properties. -/
theorem Links.unique {c : ChildInfo} {u u' : String} {p p' s s' : List String}
    (h : c.Links u p s) (h' : c.Links u' p' s') : u = u' ∧ p = p' ∧ s = s' := by
  obtain ⟨hu, hp, hs⟩ := h
  obtain ⟨hu', hp', hs'⟩ := h'
  rw [hu] at hu'
  rw [hp] at hp'
  rw [hs] at hs'
  simp only [Option.some.injEq, Property.ofString, Property.single, Property.references,
    Property.mk.injEq, List.cons.injEq, Value.string.injEq, and_true, true_and] at hu' hp' hs'
  have hinj : Function.Injective (List.map Value.reference) :=
    List.map_injective_iff.mpr fun _ _ h => Value.reference.inj h
  exact ⟨hu'.2, hinj hp', hinj hs'⟩

end ChildInfo

/-! ## Chains of versions -/

namespace Chain

variable {preds : List String} {vs : List ChildInfo} {us : List String}

theorem length_eq (h : Chain preds vs us) : vs.length = us.length := by
  induction h with
  | last _ => rfl
  | cons _ _ ih => simp [ih]

theorem ne_nil (h : Chain preds vs us) : vs ≠ [] := by
  cases h <;> simp

/-- Every version of a chain has one of the chain's identifiers. -/
theorem links_of_mem (h : Chain preds vs us) {v : ChildInfo} (hv : v ∈ vs) :
    ∃ u ∈ us, ∃ p s, v.Links u p s := by
  induction h with
  | last hl =>
    rw [List.mem_singleton] at hv
    subst hv
    exact ⟨_, List.mem_singleton_self _, _, _, hl⟩
  | cons hl _ ih =>
    rcases List.mem_cons.mp hv with rfl | hv
    · exact ⟨_, List.mem_cons_self, _, _, hl⟩
    · obtain ⟨u, hu, p, s, h⟩ := ih hv
      exact ⟨u, List.mem_cons_of_mem _ hu, p, s, h⟩

/-- The last version of a chain has the last identifier and no successor. -/
theorem last_links (h : Chain preds vs us) :
    ∃ init v uinit u p, vs = init ++ [v] ∧ us = uinit ++ [u] ∧ v.Links u p [] := by
  induction h with
  | @last v u preds hl => exact ⟨[], v, [], u, preds, rfl, rfl, hl⟩
  | @cons v u _ _ _ _ _ _ ih =>
    obtain ⟨init, w, uinit, u'', p, rfl, hus, hw⟩ := ih
    exact ⟨v :: init, w, u :: uinit, u'', p, rfl, by rw [hus]; rfl, hw⟩

/-- Checking in after the last version `v`: `v` takes the new version `w` as its successor,
and `w`, with `v` as its predecessor and no successor, ends the chain. -/
theorem snoc {v v' w : ChildInfo} {u u' : String}
    (hv : ∀ p, v.Links u p [] → v'.Links u p [u']) (hw : w.Links u' [u] []) :
    Chain preds vs us → ∀ init uinit, vs = init ++ [v] → us = uinit ++ [u] →
      Chain preds (init ++ [v', w]) (uinit ++ [u, u']) := by
  intro h
  induction h with
  | @last v₀ u₀ preds hl =>
    intro init uinit hvs hus
    obtain ⟨rfl, rfl⟩ : init = [] ∧ v = v₀ := by
      cases init with
      | nil => simpa using hvs.symm
      | cons _ _ => simp at hvs
    obtain ⟨rfl, rfl⟩ : uinit = [] ∧ u = u₀ := by
      cases uinit with
      | nil => simpa using hus.symm
      | cons _ _ => simp at hus
    exact .cons (hv preds hl) (.last hw)
  | @cons v₀ u₀ u₁ preds vs₀ us₀ hl hrest ih =>
    intro init uinit hvs hus
    -- the chain has two versions or more, so `v` is not its first
    cases init with
    | nil =>
      simp only [List.nil_append, List.cons.injEq] at hvs
      exact absurd hvs.2.symm (by simpa using hrest.ne_nil)
    | cons x init =>
      simp only [List.cons_append, List.cons.injEq] at hvs
      obtain ⟨rfl, hvs⟩ := hvs
      cases uinit with
      | nil => simp at hus
      | cons y uinit =>
        simp only [List.cons_append, List.cons.injEq] at hus
        obtain ⟨rfl, hus⟩ := hus
        have hnext := ih init uinit hvs hus
        have hsplit : uinit ++ [u, u'] = u₁ :: (us₀ ++ [u']) := by
          rw [show uinit ++ [u, u'] = (uinit ++ [u]) ++ [u'] by simp, ← hus]
          rfl
        rw [hsplit] at hnext
        rw [List.cons_append, List.cons_append, hsplit]
        exact .cons hl hnext

end Chain

/-! ## Versions among the children -/

theorem versionsOf_append (l₁ l₂ : List ChildInfo) :
    versionsOf (l₁ ++ l₂) = versionsOf l₁ ++ versionsOf l₂ :=
  List.filter_append ..

theorem versionsOf_cons_of_version {c : ChildInfo} (h : c.type = Known.ntVersion)
    (cs : List ChildInfo) : versionsOf (c :: cs) = c :: versionsOf cs :=
  List.filter_cons_of_pos (by simpa using h)

theorem versionsOf_cons_of_ne {c : ChildInfo} (h : c.type ≠ Known.ntVersion) (cs : List ChildInfo) :
    versionsOf (c :: cs) = versionsOf cs :=
  List.filter_cons_of_neg (by simpa using h)

theorem mem_versionsOf {c : ChildInfo} {cs : List ChildInfo} :
    c ∈ versionsOf cs ↔ c ∈ cs ∧ c.type = Known.ntVersion := by
  simp [versionsOf]

/-- The names of the versions of a history with `m + 1` versions are distinct. -/
theorem nodup_versionNames (m : Nat) :
    (Known.rootVersion :: (List.range m).map versionName).Nodup := by
  refine List.nodup_cons.mpr ⟨?_, (List.nodup_range).map versionName_injective⟩
  simp only [List.mem_map, not_exists, not_and]
  exact fun j _ => versionName_ne_rootVersion j

namespace VersionGraph

variable {cs : List ChildInfo} {us : List String}

/-- Every version has a version's name. -/
theorem versionLike (h : VersionGraph cs us) {v : ChildInfo} (hv : v ∈ versionsOf cs) :
    VersionLike v.name := by
  have hmem : v.name ∈ (versionsOf cs).map (·.name) := List.mem_map_of_mem hv
  rw [h.names] at hmem
  rcases List.mem_cons.mp hmem with h | h
  · exact .inl h
  · obtain ⟨j, -, hj⟩ := List.mem_map.mp h
    exact .inr ⟨j, hj.symm⟩

theorem nodup_names (h : VersionGraph cs us) : ((versionsOf cs).map (·.name)).Nodup := by
  rw [h.names]
  exact nodup_versionNames _

theorem length_versionsOf (h : VersionGraph cs us) : (versionsOf cs).length = us.length :=
  h.chain.length_eq

end VersionGraph

/-! ## Changes that are not check-ins -/

namespace ChildInfo

/-- How a child may change other than by a check-in: its name and type stay, a version's
properties stay, and every property it gains is an identifier. -/
structure Step (c c' : ChildInfo) : Prop where
  name : c'.name = c.name
  type : c'.type = c.type
  version : c.type = Known.ntVersion → c'.properties = c.properties
  gained : ∀ q ∈ c'.properties, q ∈ c.properties ∨ q.name = Known.uuid

theorem Step.refl (c : ChildInfo) : c.Step c :=
  ⟨rfl, rfl, fun _ => rfl, fun q hq => .inl hq⟩

/-- A version does not change. -/
theorem Step.eq_of_version {c c' : ChildInfo} (h : c.Step c') (hv : c.type = Known.ntVersion) :
    c' = c := by
  obtain ⟨n, t, ps⟩ := c
  obtain ⟨n', t', ps'⟩ := c'
  obtain ⟨hn, ht, hp, -⟩ := h
  dsimp only at hn ht hp hv
  subst hn ht
  rw [hp hv]

end ChildInfo

/-! ## The invariant under the changes of a history -/

namespace HistoryInvariant

variable {N : Nat} {cs : List ChildInfo}

theorem mono (h : HistoryInvariant N cs) {N' : Nat} (hN : N ≤ N') : HistoryInvariant N' cs := by
  obtain ⟨us, hg, hus⟩ := h.graph
  refine ⟨⟨us, hg, fun u hu => ?_⟩, h.versionLike⟩
  obtain ⟨k, hk, rfl⟩ := hus u hu
  exact ⟨k, Nat.le_trans hk hN, rfl⟩

/-- A child of a version's type has a version's name. -/
theorem versionLike_of_version (h : HistoryInvariant N cs) {c : ChildInfo} (hc : c ∈ cs)
    (ht : c.type = Known.ntVersion) : VersionLike c.name := by
  obtain ⟨us, hg, -⟩ := h.graph
  exact hg.versionLike (mem_versionsOf.mpr ⟨hc, ht⟩)

/-- The label node is no version. -/
theorem type_ne_of_versionLabels (h : HistoryInvariant N cs) {c : ChildInfo} (hc : c ∈ cs)
    (hn : c.name = Known.versionLabels) : c.type ≠ Known.ntVersion := fun ht =>
  not_versionLike_versionLabels (hn ▸ h.versionLike_of_version hc ht)

/-- Every version has an identifier. -/
theorem identifier_of_version (h : HistoryInvariant N cs) {v : ChildInfo}
    (hv : v ∈ versionsOf cs) :
    ∃ u, findProperty? Known.uuid v.properties = some (Property.ofString Known.uuid u) := by
  obtain ⟨us, hg, -⟩ := h.graph
  obtain ⟨u, -, _, _, hl⟩ := hg.chain.links_of_mem hv
  exact ⟨u, hl.1⟩

/-- No child has the name that the next version gets. -/
theorem name_ne_next (h : HistoryInvariant N cs) {c : ChildInfo} (hc : c ∈ cs) :
    c.name ≠ versionName ((versionsOf cs).length - 1) := by
  intro hname
  obtain ⟨us, hg, -⟩ := h.graph
  have ht : c.type = Known.ntVersion := h.versionLike c hc (.inr ⟨_, hname⟩)
  have hmem : c.name ∈ (versionsOf cs).map (·.name) :=
    List.mem_map_of_mem (mem_versionsOf.mpr ⟨hc, ht⟩)
  rw [hg.names, hname, hg.length_versionsOf] at hmem
  rcases List.mem_cons.mp hmem with h | h
  · exact versionName_ne_rootVersion _ h
  · obtain ⟨j, hj, hjn⟩ := List.mem_map.mp h
    rw [List.mem_range] at hj
    exact absurd (versionName_injective hjn) (by omega)

/-- The last version is the first child of its name, no version follows it, and it has no
successor. -/
theorem last_version (h : HistoryInvariant N cs) :
    ∃ l₁ v l₂ u p, cs = l₁ ++ v :: l₂ ∧ (∀ c ∈ l₁, c.name ≠ v.name) ∧ versionsOf l₂ = [] ∧
      v.type = Known.ntVersion ∧ v.Links u p [] := by
  obtain ⟨us, hg, -⟩ := h.graph
  obtain ⟨init, v, uinit, u, p, hvs, -, hl⟩ := hg.chain.last_links
  have hv : v ∈ versionsOf cs := by
    rw [hvs]
    exact List.mem_append_right _ (List.mem_singleton_self v)
  obtain ⟨hvcs, hvt⟩ := mem_versionsOf.mp hv
  -- the first child named like the last version is a version too
  obtain ⟨x, hx⟩ : ∃ x, cs.find? (·.name = v.name) = some x :=
    Option.isSome_iff_exists.mp (List.find?_isSome.mpr ⟨v, hvcs, by simp⟩)
  obtain ⟨hxn, l₁, l₂, hsplit, hfirst⟩ := List.find?_eq_some_iff_append.mp hx
  have hxn : x.name = v.name := by simpa using hxn
  have hxt : x.type = Known.ntVersion :=
    h.versionLike x (by rw [hsplit]; simp) (hxn ▸ hg.versionLike hv)
  have hsplitv : versionsOf l₁ ++ x :: versionsOf l₂ = init ++ [v] := by
    rw [← hvs, hsplit, versionsOf_append, versionsOf_cons_of_version hxt]
  -- a version after it would repeat the name of the last one
  have hl₂ : versionsOf l₂ = [] := by
    rcases List.eq_nil_or_concat (versionsOf l₂) with hnil | ⟨m, w, hm⟩
    · exact hnil
    · exfalso
      rw [hm, List.concat_eq_append, ← List.cons_append, ← List.append_assoc] at hsplitv
      obtain ⟨hinit, -⟩ := List.append_inj' hsplitv rfl
      have hnd := hg.nodup_names
      rw [hvs, ← hinit, List.map_append, List.nodup_append] at hnd
      exact hnd.2.2 x.name (by simp) v.name (List.mem_singleton_self _) hxn
  have hxv : x = v := by
    rw [hl₂] at hsplitv
    exact List.singleton_inj.mp (List.append_inj' hsplitv rfl).2
  subst hxv
  exact ⟨l₁, x, l₂, u, p, hsplit, fun c hc hcn => by simpa [hcn] using hfirst c hc, hl₂, hvt, hl⟩

/-- A new history: an empty label node, then the root version, whose identifier was drawn,
with no predecessor and no successor. -/
theorem created {ps : List Property} {k : Nat} (hk : k ≤ N)
    (hroot : (⟨Known.rootVersion, Known.ntVersion, ps⟩ : ChildInfo).Links (identifierOf k) [] []) :
    HistoryInvariant N
      [⟨Known.versionLabels, Known.ntVersionLabels, []⟩, ⟨Known.rootVersion, Known.ntVersion, ps⟩] := by
  have hvers : versionsOf [⟨Known.versionLabels, Known.ntVersionLabels, []⟩,
      ⟨Known.rootVersion, Known.ntVersion, ps⟩] = [⟨Known.rootVersion, Known.ntVersion, ps⟩] := by
    rw [versionsOf_cons_of_ne (by decide), versionsOf_cons_of_version rfl]
    rfl
  refine ⟨⟨[identifierOf k], ⟨?_, ?_, List.nodup_singleton _, ?_⟩, ?_⟩, ?_⟩
  · rw [hvers]
    rfl
  · rw [hvers]
    exact .last hroot
  · refine ⟨⟨Known.versionLabels, Known.ntVersionLabels, []⟩, ?_, fun q hq => nomatch hq⟩
    have hne : Known.rootVersion ≠ Known.versionLabels := by decide
    rw [List.filter_cons_of_pos (by simp), List.filter_cons_of_neg (by simpa using hne)]
    rfl
  · intro u hu
    exact ⟨k, hk, List.mem_singleton.mp hu⟩
  · intro c hc hname
    rcases List.mem_pair.mp hc with rfl | rfl
    · exact absurd hname not_versionLike_versionLabels
    · rfl

/-- Adding a child that is neither a version nor named like one or like the label node. -/
theorem append (h : HistoryInvariant N cs) {c : ChildInfo} (hname : ¬ VersionLike c.name)
    (hlabels : c.name ≠ Known.versionLabels) (htype : c.type ≠ Known.ntVersion) :
    HistoryInvariant N (cs ++ [c]) := by
  obtain ⟨us, hg, hus⟩ := h.graph
  have hvers : versionsOf (cs ++ [c]) = versionsOf cs := by
    rw [versionsOf_append, versionsOf_cons_of_ne htype]
    simp [versionsOf]
  have hlab : (cs ++ [c]).filter (·.name = Known.versionLabels) =
      cs.filter (·.name = Known.versionLabels) := by
    simp [List.filter_append, hlabels]
  refine ⟨⟨us, ⟨hvers ▸ hg.names, hvers ▸ hg.chain, hg.distinct, hlab ▸ hg.labels⟩, hus⟩, ?_⟩
  intro x hx hxn
  rcases List.mem_append.mp hx with hx | hx
  · exact h.versionLike x hx hxn
  · rw [List.mem_singleton.mp hx] at hxn
    exact absurd hxn hname

/-- Changing one child other than by a check-in. -/
theorem replace {l₁ l₂ : List ChildInfo} {c c' : ChildInfo} (h : HistoryInvariant N (l₁ ++ c :: l₂))
    (hc : c.Step c') : HistoryInvariant N (l₁ ++ c' :: l₂) := by
  obtain ⟨us, hg, hus⟩ := h.graph
  -- a version stays as it was, and no other child becomes one
  have hvers : versionsOf (l₁ ++ c' :: l₂) = versionsOf (l₁ ++ c :: l₂) := by
    by_cases hv : c.type = Known.ntVersion
    · rw [hc.eq_of_version hv]
    · rw [versionsOf_append, versionsOf_append, versionsOf_cons_of_ne hv,
        versionsOf_cons_of_ne (hc.type ▸ hv)]
  refine ⟨⟨us, ⟨hvers ▸ hg.names, hvers ▸ hg.chain, hg.distinct, ?_⟩, hus⟩, ?_⟩
  · -- the label node keeps its name, and gains at most an identifier
    obtain ⟨l, hl, hrefs⟩ := hg.labels
    rw [List.filter_append, List.filter_cons] at hl ⊢
    by_cases hn : c.name = Known.versionLabels
    · simp only [hn, hc.name, decide_true, if_true] at hl ⊢
      obtain ⟨h₁, rfl, h₂⟩ : l₁.filter (·.name = Known.versionLabels) = [] ∧ c = l ∧
          l₂.filter (·.name = Known.versionLabels) = [] := by
        simpa [List.append_eq_singleton_iff] using hl
      refine ⟨c', by rw [h₁, h₂]; rfl, fun q hq hqn => ?_⟩
      rcases hc.gained q hq with hq | hq
      · exact hrefs q hq hqn
      · exact absurd hq hqn
    · have hn' : ¬ c'.name = Known.versionLabels := hc.name ▸ hn
      simp only [hn, hn', decide_false] at hl ⊢
      exact ⟨l, hl, hrefs⟩
  · intro x hx hxn
    rcases List.mem_append.mp hx with hx | hx
    · exact h.versionLike x (List.mem_append_left _ hx) hxn
    · rcases List.mem_cons.mp hx with rfl | hx
      · rw [hc.type]
        exact h.versionLike c (by simp) (hc.name ▸ hxn)
      · exact h.versionLike x (by simp [hx]) hxn

/-- Binding a label on the label node to the identifier of a version. -/
theorem label {l₁ l₂ : List ChildInfo} {c c' : ChildInfo} (h : HistoryInvariant N (l₁ ++ c :: l₂))
    (hn : c.name = Known.versionLabels) (hname : c'.name = c.name) (htype : c'.type ≠ Known.ntVersion)
    {a u : String} (hprops : c'.properties = setPropertyIn (Property.single a (.reference u)) c.properties)
    (hu : ∃ v ∈ versionsOf (l₁ ++ c :: l₂),
      findProperty? Known.uuid v.properties = some (Property.ofString Known.uuid u)) :
    HistoryInvariant N (l₁ ++ c' :: l₂) := by
  obtain ⟨us, hg, hus⟩ := h.graph
  have hct : c.type ≠ Known.ntVersion := h.type_ne_of_versionLabels (by simp) hn
  have hvers : versionsOf (l₁ ++ c' :: l₂) = versionsOf (l₁ ++ c :: l₂) := by
    rw [versionsOf_append, versionsOf_append, versionsOf_cons_of_ne hct, versionsOf_cons_of_ne htype]
  -- the identifier bound is one of the history's
  have huus : u ∈ us := by
    obtain ⟨v, hv, hvu⟩ := hu
    obtain ⟨u', hu', _, _, hl⟩ := hg.chain.links_of_mem hv
    rw [hl.1] at hvu
    simp only [Option.some.injEq, Property.ofString, Property.single, Property.mk.injEq,
      List.cons.injEq, Value.string.injEq, and_true, true_and] at hvu
    rw [← hvu.2]
    exact hu'
  refine ⟨⟨us, ⟨hvers ▸ hg.names, hvers ▸ hg.chain, hg.distinct, ?_⟩, hus⟩, ?_⟩
  · obtain ⟨l, hl, hrefs⟩ := hg.labels
    rw [List.filter_append, List.filter_cons] at hl ⊢
    simp only [hn, hname, decide_true, if_true] at hl ⊢
    obtain ⟨h₁, rfl, h₂⟩ : l₁.filter (·.name = Known.versionLabels) = [] ∧ c = l ∧
        l₂.filter (·.name = Known.versionLabels) = [] := by
      simpa [List.append_eq_singleton_iff] using hl
    refine ⟨c', by rw [h₁, h₂]; rfl, fun q hq hqn => ?_⟩
    rw [hprops] at hq
    rcases mem_setPropertyIn hq with rfl | hq
    · exact ⟨u, huus, rfl⟩
    · exact hrefs q hq hqn
  · intro x hx hxn
    rcases List.mem_append.mp hx with hx | hx
    · exact h.versionLike x (List.mem_append_left _ hx) hxn
    · rcases List.mem_cons.mp hx with rfl | hx
      · rw [hname, hn] at hxn
        exact absurd hxn not_versionLike_versionLabels
      · exact h.versionLike x (by simp [hx]) hxn

/-- The last version after a check-in: the new version's identifier is its only successor. -/
theorem links_succeededBy {v : ChildInfo} {u u' : String} {p : List String} (hv : v.Links u p []) :
    (v.succeededBy u').Links u p [u'] := by
  obtain ⟨hu, hp, -⟩ := hv
  refine ⟨?_, ?_, ?_⟩
  · rw [ChildInfo.succeededBy, findProperty?_setPropertyIn, Property.name_references,
      if_neg (by decide)]
    exact hu
  · rw [ChildInfo.succeededBy, findProperty?_setPropertyIn, Property.name_references,
      if_neg (by decide)]
    exact hp
  · rw [ChildInfo.succeededBy, findProperty?_setPropertyIn, Property.name_references, if_pos rfl]

/-- Checking in: the last version `v`, followed by no version, takes the identifier of the new
version `w`, drawn after every identifier of the history, as its only successor; `w`, named
after the number of versions before it, comes last, with `v` as its only predecessor and no
successor. -/
theorem checkin {l₁ l₂ : List ChildInfo} {v w : ChildInfo} {u : String} {p : List String}
    {k N' : Nat} (h : HistoryInvariant N (l₁ ++ v :: l₂)) (hl₂ : versionsOf l₂ = [])
    (hvt : v.type = Known.ntVersion) (hv : v.Links u p []) (hk : N < k) (hkN : k ≤ N')
    (hwn : w.name = versionName ((versionsOf (l₁ ++ v :: l₂)).length - 1))
    (hwt : w.type = Known.ntVersion) (hw : w.Links (identifierOf k) [u] []) :
    HistoryInvariant N' (l₁ ++ v.succeededBy (identifierOf k) :: l₂ ++ [w]) := by
  obtain ⟨us, hg, hus⟩ := h.graph
  have hvers : versionsOf (l₁ ++ v :: l₂) = versionsOf l₁ ++ [v] := by
    rw [versionsOf_append, versionsOf_cons_of_version hvt, hl₂]
  have hvers' : versionsOf (l₁ ++ v.succeededBy (identifierOf k) :: l₂ ++ [w]) =
      versionsOf l₁ ++ [v.succeededBy (identifierOf k), w] := by
    have hv' : (v.succeededBy (identifierOf k)).type = Known.ntVersion := hvt
    rw [versionsOf_append, versionsOf_append, versionsOf_cons_of_version hv', hl₂,
      versionsOf_cons_of_version hwt]
    simp [versionsOf]
  -- the chain ends at `v`, with the last identifier
  obtain ⟨init, x, uinit, u₀, p₀, hx, hus₀, hxl⟩ := hg.chain.last_links
  rw [hvers] at hx
  obtain ⟨hinit, hxv⟩ := List.append_inj' hx rfl
  obtain rfl : v = x := List.singleton_inj.mp hxv
  obtain ⟨rfl, rfl, -⟩ := hv.unique hxl
  have hchain := Chain.snoc (fun _ h => links_succeededBy h) hw hg.chain (versionsOf l₁) uinit
    (by rw [hvers]) hus₀
  have hsplit : uinit ++ [u, identifierOf k] = us ++ [identifierOf k] := by
    rw [hus₀, List.append_assoc]
    rfl
  obtain ⟨m, hm⟩ : ∃ m, us.length = m + 1 := by
    refine ⟨uinit.length, ?_⟩
    rw [hus₀, List.length_append, List.length_singleton]
  -- the new identifier is none of the old ones
  have hfresh : identifierOf k ∉ us := by
    intro hmem
    obtain ⟨k', hk', hkk⟩ := hus _ hmem
    have := identifierOf_injective hkk
    omega
  refine ⟨⟨uinit ++ [u, identifierOf k], ⟨?_, ?_, ?_, ?_⟩, ?_⟩, ?_⟩
  · -- the new version is named after the versions before it
    have hn := hg.names
    rw [hvers, hm, Nat.add_sub_cancel] at hn
    have hwm : w.name = versionName m := by
      rw [hwn, hg.length_versionsOf, hm, Nat.add_sub_cancel]
    rw [hvers', hsplit, List.length_append, List.length_singleton, Nat.add_sub_cancel, hm,
      List.range_succ]
    simp only [List.map_append, List.map_cons, List.map_nil] at hn ⊢
    rw [← List.cons_append, ← hn]
    simp [ChildInfo.succeededBy, hwm]
  · rw [hvers']
    exact hchain
  · rw [hsplit]
    exact hg.distinct.append (List.nodup_singleton _) (List.disjoint_singleton.mpr hfresh)
  · -- the label node is untouched, and its references stay among the identifiers
    obtain ⟨l, hl, hrefs⟩ := hg.labels
    have hvn : v.name ≠ Known.versionLabels := fun hn =>
      not_versionLike_versionLabels (hn ▸ h.versionLike_of_version (by simp) hvt)
    have hwl : w.name ≠ Known.versionLabels := by
      rw [hwn]
      exact fun hn => not_versionLike_versionLabels (hn ▸ .inr ⟨_, rfl⟩)
    refine ⟨l, ?_, fun q hq hqn => ?_⟩
    · rw [← hl]
      simp [List.filter_append, ChildInfo.succeededBy, hvn, hwl]
    · obtain ⟨a, ha, hq⟩ := hrefs q hq hqn
      exact ⟨a, hsplit ▸ List.mem_append_left _ ha, hq⟩
  · intro a ha
    rw [hsplit, List.mem_append, List.mem_singleton] at ha
    rcases ha with ha | rfl
    · obtain ⟨k', hk', rfl⟩ := hus a ha
      exact ⟨k', by omega, rfl⟩
    · exact ⟨k, hkN, rfl⟩
  · intro x hx hxn
    simp only [List.mem_append, List.mem_cons, List.not_mem_nil, or_false] at hx
    rcases hx with (hx | rfl | hx) | rfl
    · exact h.versionLike x (by simp [hx]) hxn
    · exact hvt
    · exact h.versionLike x (by simp [hx]) hxn
    · exact hwt

end HistoryInvariant

/-! ## The nodes of the version storage -/

/-- What the version storage asks of one of its nodes, `n` at the path `p` below the storage
with the children `cs`: a history sits at the path of its name and keeps the invariant of
histories, and any other node has no version among its children. -/
structure StorageShape (N : Nat) (p : List String) (n : ChildInfo) (cs : List ChildInfo) :
    Prop where
  history : n.type = Known.ntVersionHistory →
    p = Path.versionHistoryPath n.name ∧ HistoryInvariant N cs
  plain : n.type ≠ Known.ntVersionHistory → ∀ c ∈ cs, c.type ≠ Known.ntVersion

theorem versionHistoryPath_ne_nil (id : String) : Path.versionHistoryPath id ≠ [] := by
  simp [Path.versionHistoryPath]

namespace StorageShape

variable {N : Nat} {p : List String} {n : ChildInfo} {cs : List ChildInfo}

theorem mono (h : StorageShape N p n cs) {N' : Nat} (hN : N ≤ N') :
    StorageShape N' p n cs :=
  ⟨fun ht => (h.history ht).imp_right (·.mono hN), h.plain⟩

/-- Of the node itself, only its name and its type matter. -/
theorem of_self (h : StorageShape N p n cs) {n' : ChildInfo} (hn : n'.name = n.name)
    (ht : n'.type = n.type) : StorageShape N p n' cs :=
  ⟨fun ht' => hn ▸ h.history (ht ▸ ht'), fun ht' => h.plain (ht ▸ ht')⟩

/-- A node that is no history and has no children. -/
theorem leaf (ht : n.type ≠ Known.ntVersionHistory) : StorageShape N p n [] :=
  ⟨fun ht' => absurd ht' ht, fun _ _ hc => nomatch hc⟩

/-- The top of the storage is no history. -/
theorem type_ne_of_nil (h : StorageShape N [] n cs) : n.type ≠ Known.ntVersionHistory :=
  fun ht => versionHistoryPath_ne_nil _ (h.history ht).1.symm

/-- The top of the storage may be renamed. -/
theorem rename (h : StorageShape N [] n cs) (a : String) :
    StorageShape N [] { n with name := a } cs :=
  ⟨fun ht => absurd ht h.type_ne_of_nil, h.plain⟩

theorem replace {l₁ l₂ : List ChildInfo} {c c' : ChildInfo}
    (h : StorageShape N p n (l₁ ++ c :: l₂)) (hc : c.Step c') :
    StorageShape N p n (l₁ ++ c' :: l₂) := by
  refine ⟨fun ht => (h.history ht).imp_right (·.replace hc), fun ht x hx => ?_⟩
  rcases List.mem_append.mp hx with hx | hx
  · exact h.plain ht x (List.mem_append_left _ hx)
  · rcases List.mem_cons.mp hx with rfl | hx
    · rw [hc.type]
      exact h.plain ht c (by simp)
    · exact h.plain ht x (by simp [hx])

/-- Adding a child that is no version, and in a history neither named like a version nor like
the label node. -/
theorem append (h : StorageShape N p n cs) {c : ChildInfo} (htype : c.type ≠ Known.ntVersion)
    (hname : n.type = Known.ntVersionHistory →
      ¬ VersionLike c.name ∧ c.name ≠ Known.versionLabels) :
    StorageShape N p n (cs ++ [c]) := by
  refine ⟨fun ht => (h.history ht).imp_right fun hi => hi.append (hname ht).1 (hname ht).2 htype,
    fun ht x hx => ?_⟩
  rcases List.mem_append.mp hx with hx | hx
  · exact h.plain ht x hx
  · rw [List.mem_singleton.mp hx]
    exact htype

end StorageShape

end ContentSync
