import ContentSync.Proofs.ElementBalance
import ContentSync.Import.Versions

/-!
# Every end closes an element

Reading a content document and importing a version document both keep a stack with one entry
for each element the element reader holds open: a start pushes, an end pops. As the reader only
reports an end while an element is open (`ElementReader.next_some`), neither ever meets an end
with an empty stack, and neither fails with the fault of an unbalanced end (`unbalancedEnd`).

That fault is told apart from every other one by its text: each other fault of reading is of
another kind, or its text starts otherwise (`malformed_ne_unbalanced`).

Main statements: `parseDocView_ne_unbalanced`, `importVersions_ne_unbalanced`, and with the
nesting of the events, `element_stream_balanced`.
-/

namespace ContentSync

/-- The fault of an end element with no element open. -/
def unbalancedEnd : Error := .malformed "unbalanced end element"

/-! ## Faults other than the unbalanced end -/

section Faults

variable {α β : Type}

theorem bind_ne_unbalanced {x : Except Error α} {f : α → Except Error β}
    (hx : x ≠ .error unbalancedEnd) (hf : ∀ a, x = .ok a → f a ≠ .error unbalancedEnd) :
    (x >>= f) ≠ .error unbalancedEnd := by
  cases x with
  | error e =>
    intro h
    change (Except.error e : Except Error β) = _ at h
    exact hx (Except.error.inj h ▸ rfl)
  | ok a => exact hf a rfl

theorem ok_ne_unbalanced (a : α) : (Except.ok a : Except Error α) ≠ .error unbalancedEnd :=
  fun h => by cases h

/-- A text that does not start with `unb` is not the text of the unbalanced end. -/
theorem malformed_ne_unbalanced {lit : String} (x : String)
    (hlit : 3 ≤ lit.toList.length ∧ lit.toList.take 3 ≠ ['u', 'n', 'b']) :
    Error.malformed (lit ++ x) ≠ unbalancedEnd := by
  intro h
  have htake := congrArg (fun s => s.toList.take 3) (Error.malformed.inj h)
  simp only [String.toList_append, List.take_append_of_le_length hlit.1] at htake
  exact hlit.2 (htake.trans (by decide))

theorem error_ne_unbalanced {e : Error} (h : e ≠ unbalancedEnd) :
    (Except.error e : Except Error α) ≠ .error unbalancedEnd :=
  fun he => h (Except.error.inj he)

theorem forIn_ne_unbalanced {l : List α} {f : α → β → Except Error (ForInStep β)}
    (hf : ∀ a ∈ l, ∀ b, f a b ≠ .error unbalancedEnd) (init : β) :
    forIn l init f ≠ .error unbalancedEnd := by
  induction l generalizing init with
  | nil => exact ok_ne_unbalanced init
  | cons a l ih =>
    rw [List.forIn_cons]
    refine bind_ne_unbalanced (hf a List.mem_cons_self init) fun step _ => ?_
    cases step with
    | done b => exact ok_ne_unbalanced b
    | yield b => exact ih (fun a' ha' => hf a' (List.mem_cons_of_mem a ha')) b

theorem mapM_ne_unbalanced {l : List α} {f : α → Except Error β}
    (hf : ∀ a ∈ l, f a ≠ .error unbalancedEnd) : l.mapM f ≠ .error unbalancedEnd := by
  induction l with
  | nil => exact ok_ne_unbalanced []
  | cons a l ih =>
    rw [List.mapM_cons]
    refine bind_ne_unbalanced (hf a List.mem_cons_self) fun b _ => ?_
    refine bind_ne_unbalanced (ih fun a' ha' => hf a' (List.mem_cons_of_mem a ha')) fun bs _ => ?_
    exact ok_ne_unbalanced _

end Faults

/-! ## Typed text and values -/

theorem unescapeLoop_ne_unbalanced (whole : String) (multi : Bool) (cs current : List Char)
    (done : List String) : unescapeLoop whole multi cs current done ≠ .error unbalancedEnd := by
  fun_induction unescapeLoop whole multi cs current done with
  | case1 => exact ok_ne_unbalanced _
  | case2 => exact error_ne_unbalanced (malformed_ne_unbalanced _ (by decide))
  | case3 _ _ _ ih => exact ih
  | case4 _ _ _ _ _ ih => exact ih
  | case5 => exact error_ne_unbalanced (malformed_ne_unbalanced _ (by decide))
  | case6 _ _ _ _ _ _ ih => exact ih
  | case7 _ _ _ _ _ _ ih => simpa using ih
  | case8 _ _ _ _ _ _ ih => exact ih

theorem unescapeText_ne_unbalanced (s : String) (multi : Bool) :
    unescapeText s multi ≠ .error unbalancedEnd :=
  unescapeLoop_ne_unbalanced _ _ _ _ _

theorem decodeTyped_ne_unbalanced (s : String) : decodeTyped s ≠ .error unbalancedEnd := by
  simp only [decodeTyped]
  split
  · -- a multi value: its inside, unless empty, is unescaped
    split
    · split
      · exact bind_ne_unbalanced (ok_ne_unbalanced _) fun _ _ => ok_ne_unbalanced _
      · exact bind_ne_unbalanced (unescapeText_ne_unbalanced _ _) fun _ _ => ok_ne_unbalanced _
    · exact error_ne_unbalanced (malformed_ne_unbalanced _ (by decide))
  · exact bind_ne_unbalanced (unescapeText_ne_unbalanced _ _) fun _ _ => ok_ne_unbalanced _

/-- Reading a value fails only with an invalid value. -/
theorem Value.read_ne_unbalanced (t : PropertyType) (s : String) :
    Value.read t s ≠ .error unbalancedEnd := by
  cases t <;> simp only [Value.read] <;> (try split) <;> simp [unbalancedEnd]

theorem Property.ofTexts_ne_unbalanced (name : String) (t : PropertyType) (multi : Bool)
    (texts : List String) : Property.ofTexts name t multi texts ≠ .error unbalancedEnd := by
  have hread : ∀ texts : List String, Property.readAll t texts ≠ .error unbalancedEnd := by
    intro texts
    induction texts with
    | nil => exact ok_ne_unbalanced []
    | cons s rest ih =>
      refine bind_ne_unbalanced (Value.read_ne_unbalanced t s) fun _ _ => ?_
      exact bind_ne_unbalanced ih fun _ _ => ok_ne_unbalanced _
  refine bind_ne_unbalanced (hread texts) fun vs _ => ?_
  split
  · unfold Property.multiple
    split
    · exact error_ne_unbalanced (fun h => by cases h)
    · exact ok_ne_unbalanced _
  · split
    · exact ok_ne_unbalanced _
    · exact error_ne_unbalanced (by
        simp only [String.append_assoc]
        exact malformed_ne_unbalanced _ (by decide))

theorem readProperty_ne_unbalanced (name text : String) :
    readProperty name text ≠ .error unbalancedEnd :=
  bind_ne_unbalanced (decodeTyped_ne_unbalanced text) fun _ _ =>
    Property.ofTexts_ne_unbalanced _ _ _ _

theorem Element.require_ne_unbalanced (e : Element) (name : String) :
    e.require name ≠ .error unbalancedEnd := by
  unfold Element.require
  split
  · exact ok_ne_unbalanced _
  · exact error_ne_unbalanced (fun h => by cases h)

/-! ## Elements -/

theorem nameText_ne_unbalanced (bytes : List UInt8) : nameText bytes ≠ .error unbalancedEnd := by
  unfold nameText
  split
  · exact ok_ne_unbalanced _
  · exact error_ne_unbalanced (malformed_ne_unbalanced _ (by decide))

theorem markupError_ne_unbalanced (f : Xml.XmlFault) : markupError f ≠ unbalancedEnd := by
  unfold markupError unbalancedEnd
  exact fun h => Error.noConfusion h

theorem elementOf_ne_unbalanced (content : List UInt8) :
    elementOf content ≠ .error unbalancedEnd := by
  unfold elementOf
  refine bind_ne_unbalanced (nameText_ne_unbalanced _) fun tag _ => ?_
  split
  next raw fault _ =>
  -- each attribute is read in turn, its key and its value
  refine bind_ne_unbalanced (forIn_ne_unbalanced (fun a _ attrs => ?_) _) fun attrs _ => ?_
  · split
    refine bind_ne_unbalanced (nameText_ne_unbalanced _) fun k _ => ?_
    split
    · exact ok_ne_unbalanced _
    · dsimp only
      split
      · exact ok_ne_unbalanced _
      · exact error_ne_unbalanced (markupError_ne_unbalanced _)
  · dsimp only
    split
    · exact error_ne_unbalanced (markupError_ne_unbalanced _)
    · exact ok_ne_unbalanced _

theorem DocViewNode.ofElement_ne_unbalanced (e : Element) :
    DocViewNode.ofElement e ≠ .error unbalancedEnd := by
  unfold DocViewNode.ofElement
  refine bind_ne_unbalanced (e.require_ne_unbalanced _) fun name _ => ?_
  refine bind_ne_unbalanced (forIn_ne_unbalanced (fun a _ acc => ?_) _)
    fun _ _ => ok_ne_unbalanced _
  dsimp only
  split
  · exact ok_ne_unbalanced _
  · split
    · refine bind_ne_unbalanced (decodeTyped_ne_unbalanced _) fun d _ => ?_
      split <;> exact ok_ne_unbalanced _
    · split
      · exact bind_ne_unbalanced (decodeTyped_ne_unbalanced _) fun _ _ => ok_ne_unbalanced _
      · exact bind_ne_unbalanced (readProperty_ne_unbalanced _ _) fun _ _ => ok_ne_unbalanced _

/-! ## The element reader -/

namespace ElementReader

open Xml

/-- A reader that tracks its tags never reports an unbalanced end: the markup reader only
closes a tag it holds open, so the depth is positive at every end tag. -/
theorem nextWith_ne_unbalanced {fuel : Nat} {r : ElementReader} (hr : r.Tracks) :
    r.nextWith fuel ≠ .error unbalancedEnd := by
  induction fuel generalizing r with
  | zero => exact ok_ne_unbalanced _
  | succ fuel ih =>
    unfold nextWith
    split
    · exact ok_ne_unbalanced _
    · next hpend =>
      have hpend : r.pendingEnd = false := by simpa using hpend
      simp only [Tracks, hpend, Bool.false_eq_true, if_false, Nat.add_zero] at hr
      split
      · exact error_ne_unbalanced (markupError_ne_unbalanced _)
      · next token scanner hnext =>
        rcases Scanner.next_inv hnext with ⟨c, rfl, -⟩ | ⟨n, rfl, hclose⟩ | ⟨hk, hsame⟩
        · exact bind_ne_unbalanced (elementOf_ne_unbalanced c) fun _ _ => ok_ne_unbalanced _
        · dsimp only
          -- the tag closed was open, so the depth is not zero
          have hpos : r.depth ≠ 0 := by
            rw [hr, hclose, List.length_cons]
            omega
          rw [if_neg hpos]
          exact ok_ne_unbalanced _
        · rcases hk with ⟨rfl, -⟩ | rfl | ⟨c, rfl⟩
          · have hT : Tracks { r with scanner := scanner } := by
              show r.depth = scanner.opened.length + if r.pendingEnd then 1 else 0
              rw [hpend, hsame]
              simpa using hr
            exact ih (r := { r with scanner := scanner }) hT
          · dsimp only
            split
            · exact error_ne_unbalanced (by
                rw [String.append_assoc]
                exact malformed_ne_unbalanced _ (by decide))
            · exact ok_ne_unbalanced _
          · exact bind_ne_unbalanced (elementOf_ne_unbalanced c) fun _ _ => ok_ne_unbalanced _

theorem next_ne_unbalanced {r : ElementReader} (hr : r.Tracks) :
    r.next ≠ .error unbalancedEnd :=
  nextWith_ne_unbalanced hr

end ElementReader

/-! ## Reading a content document -/

/-- The parse loop from a state whose stack holds one node per open element never fails with
an unbalanced end: every end finds a node to close. -/
theorem parseDocView_go_ne_unbalanced {fuel : Nat} {r : ElementReader} {stack : List Node}
    {root : Option Node} (hr : r.Tracks) (hstack : stack.length = r.depth) :
    parseDocView.go fuel r stack root ≠ .error unbalancedEnd := by
  induction fuel generalizing r stack root with
  | zero =>
    simp only [parseDocView.go]
    cases root with
    | some n => exact ok_ne_unbalanced n
    | none => exact error_ne_unbalanced (by decide)
  | succ fuel ih =>
    unfold parseDocView.go
    refine bind_ne_unbalanced (ElementReader.next_ne_unbalanced hr) fun step hnext => ?_
    obtain ⟨ev?, r'⟩ := step
    cases ev? with
    | none =>
      dsimp only
      cases root with
      | some n => exact ok_ne_unbalanced n
      | none => exact error_ne_unbalanced (by decide)
    | some ev =>
      obtain ⟨hr', hfin, hstart⟩ := ElementReader.next_some hr hnext
      cases ev with
      | start e =>
        -- a start pushes a node for the element it opens
        have hdepth := hstart (fun h => by cases h)
        dsimp only
        split
        · exact bind_ne_unbalanced (error_ne_unbalanced (by decide)) fun _ h => by cases h
        · refine bind_ne_unbalanced (DocViewNode.ofElement_ne_unbalanced e) fun d _ => ?_
          exact ih hr' (by simp only [List.length_cons]; omega)
      | finish =>
        -- the end closes the node on top of the stack
        have hdepth := hfin rfl
        obtain ⟨n, rest, rfl⟩ : ∃ n rest, stack = n :: rest := by
          cases stack with
          | nil => simp only [List.length_nil] at hstack; omega
          | cons n rest => exact ⟨n, rest, rfl⟩
        simp only [List.length_cons] at hstack
        cases rest with
        | nil =>
          show parseDocView.go fuel r' [] (some n) ≠ _
          exact ih hr' (by simp only [List.length_nil] at hstack ⊢; omega)
        | cons p rest =>
          show parseDocView.go fuel r' ({ p with children := p.children ++ [n] } :: rest) root ≠ _
          exact ih hr' (by simp only [List.length_cons] at hstack ⊢; omega)

/-- Reading a content document never fails with an unbalanced end. -/
theorem parseDocView_ne_unbalanced (bytes : List UInt8) :
    parseDocView bytes ≠ .error unbalancedEnd :=
  parseDocView_go_ne_unbalanced (ElementReader.tracks_ofBytes bytes) rfl

/-! ## Repository computations -/

section Repo

variable {α β : Type}

/-- A repository computation that never fails with an unbalanced end. -/
def RepoM.AvoidsUnbalanced (x : RepoM α) : Prop :=
  ∀ r r', x r ≠ .error unbalancedEnd r'

theorem RepoM.avoids_bind {x : RepoM α} {f : α → RepoM β} (hx : x.AvoidsUnbalanced)
    (hf : ∀ a, (∃ r s, x r = .ok a s) → (f a).AvoidsUnbalanced) :
    (x >>= f).AvoidsUnbalanced := by
  intro r r' h
  change EStateM.bind x f r = _ at h
  unfold EStateM.bind at h
  cases hxr : x r with
  | ok a s =>
    rw [hxr] at h
    exact hf a ⟨r, s, hxr⟩ s r' h
  | error e s =>
    rw [hxr] at h
    cases h
    exact hx r r' hxr

theorem RepoM.avoids_pure (a : α) : (pure a : RepoM α).AvoidsUnbalanced :=
  fun _ _ h => by cases h

theorem RepoM.avoids_get : (get : RepoM Repository).AvoidsUnbalanced :=
  fun _ _ h => by cases h

theorem RepoM.avoids_set (r : Repository) : (set r : RepoM PUnit).AvoidsUnbalanced :=
  fun _ _ h => by cases h

theorem RepoM.avoids_throw {e : Error} (h : e ≠ unbalancedEnd) :
    (throw e : RepoM α).AvoidsUnbalanced :=
  fun _ _ he => h (by cases he; rfl)

theorem RepoM.avoids_throw_bind {e : Error} (h : e ≠ unbalancedEnd) (f : α → RepoM β) :
    (throw e >>= f).AvoidsUnbalanced :=
  RepoM.avoids_bind (RepoM.avoids_throw h) fun _ hok => by
    obtain ⟨_, _, hok⟩ := hok
    cases hok

theorem RepoM.avoids_ite {c : Prop} [Decidable c] {a b : RepoM α} (ha : a.AvoidsUnbalanced)
    (hb : b.AvoidsUnbalanced) : (if c then a else b).AvoidsUnbalanced := by
  split
  · exact ha
  · exact hb

theorem RepoM.avoids_freshIdentifier : RepoM.freshIdentifier.AvoidsUnbalanced :=
  fun _ _ h => by cases h

theorem RepoM.avoids_ofExcept {x : Except Error α} (h : x ≠ .error unbalancedEnd) :
    (RepoM.ofExcept x).AvoidsUnbalanced := by
  cases x with
  | ok a => exact RepoM.avoids_pure a
  | error e => exact RepoM.avoids_throw (fun he => h (he ▸ rfl))

end Repo

/-! ## Reading a version document -/

theorem plainValue_ne_unbalanced (text : String) : plainValue text ≠ .error unbalancedEnd := by
  unfold plainValue
  refine bind_ne_unbalanced (decodeTyped_ne_unbalanced text) fun d _ => ?_
  split
  · exact ok_ne_unbalanced _
  · exact error_ne_unbalanced (malformed_ne_unbalanced _ (by decide))

theorem listValue_ne_unbalanced (text : Option String) :
    listValue text ≠ .error unbalancedEnd := by
  unfold listValue
  split
  · exact bind_ne_unbalanced (decodeTyped_ne_unbalanced _) fun _ _ => ok_ne_unbalanced _
  · exact ok_ne_unbalanced _

theorem elementType_ne_unbalanced (e : Element) : elementType e ≠ .error unbalancedEnd := by
  unfold elementType
  split
  · exact plainValue_ne_unbalanced _
  · exact ok_ne_unbalanced _

theorem startHistory_avoids (storage : Staged) (e : Element) :
    (startHistory storage e).AvoidsUnbalanced := by
  unfold startHistory
  refine RepoM.avoids_bind (RepoM.avoids_ofExcept (e.require_ne_unbalanced _)) fun token _ => ?_
  -- a history found is kept; a new one takes the identifier given, or else the token
  split
  · split
    · exact RepoM.avoids_throw_bind (by decide) _
    · dsimp only
      refine RepoM.avoids_ite (RepoM.avoids_pure _) ?_
      exact RepoM.avoids_bind (RepoM.avoids_ofExcept (plainValue_ne_unbalanced _)) fun _ _ =>
        RepoM.avoids_bind RepoM.avoids_freshIdentifier fun _ _ => RepoM.avoids_pure _
  · split
    · exact RepoM.avoids_throw_bind (by decide) _
    · dsimp only
      refine RepoM.avoids_ite (RepoM.avoids_pure _) ?_
      exact RepoM.avoids_bind (RepoM.avoids_pure _) fun _ _ =>
        RepoM.avoids_bind RepoM.avoids_freshIdentifier fun _ _ => RepoM.avoids_pure _

theorem startLabels_ne_unbalanced (storage : Staged) (history : List String) (e : Element) :
    startLabels storage history e ≠ .error unbalancedEnd := by
  unfold startLabels
  refine bind_ne_unbalanced (mapM_ne_unbalanced fun a _ => ?_) fun _ _ => ok_ne_unbalanced _
  exact bind_ne_unbalanced (plainValue_ne_unbalanced _) fun _ _ => ok_ne_unbalanced _

theorem startVersion_ne_unbalanced (storage : Staged) (history : List String) (e : Element) :
    startVersion storage history e ≠ .error unbalancedEnd := by
  unfold startVersion
  -- name, identifier, date and links, each read in turn
  refine bind_ne_unbalanced (e.require_ne_unbalanced _) fun _ _ => ?_
  refine bind_ne_unbalanced (e.require_ne_unbalanced _) fun _ _ => ?_
  refine bind_ne_unbalanced (plainValue_ne_unbalanced _) fun _ _ => ?_
  refine bind_ne_unbalanced (e.require_ne_unbalanced _) fun _ _ => ?_
  refine bind_ne_unbalanced (plainValue_ne_unbalanced _) fun _ _ => ?_
  refine bind_ne_unbalanced (Value.read_ne_unbalanced _ _) fun _ _ => ?_
  refine bind_ne_unbalanced (listValue_ne_unbalanced _) fun _ _ => ?_
  exact bind_ne_unbalanced (listValue_ne_unbalanced _) fun _ _ => ok_ne_unbalanced _

theorem frozenChange_ne_unbalanced (key value : String) :
    frozenChange key value ≠ .error unbalancedEnd := by
  unfold frozenChange
  split
  · exact ok_ne_unbalanced _
  split
  · exact bind_ne_unbalanced (listValue_ne_unbalanced _) fun _ _ => ok_ne_unbalanced _
  split
  · exact bind_ne_unbalanced (plainValue_ne_unbalanced _) fun _ _ => ok_ne_unbalanced _
  split
  · exact bind_ne_unbalanced (plainValue_ne_unbalanced _) fun _ _ => ok_ne_unbalanced _
  split
  · exact bind_ne_unbalanced (listValue_ne_unbalanced _) fun _ _ => ok_ne_unbalanced _
  · exact bind_ne_unbalanced (readProperty_ne_unbalanced _ _) fun _ _ => ok_ne_unbalanced _

theorem startFrozen_ne_unbalanced (storage : Staged) (parent : List String) (e : Element)
    (nodeType : String) : startFrozen storage parent e nodeType ≠ .error unbalancedEnd := by
  unfold startFrozen
  refine bind_ne_unbalanced (e.require_ne_unbalanced _) fun _ _ => ?_
  exact bind_ne_unbalanced (mapM_ne_unbalanced fun a _ => frozenChange_ne_unbalanced _ _)
    fun _ _ => ok_ne_unbalanced _

theorem openFrame_avoids (storage : Staged) (parent : VersionFrame) (e : Element) :
    (openFrame storage parent e).AvoidsUnbalanced := by
  unfold openFrame
  refine RepoM.avoids_bind (RepoM.avoids_ofExcept (elementType_ne_unbalanced e))
    fun nodeType _ => ?_
  -- the parent's frame decides what the element stands for
  cases parent with
  | root =>
    refine RepoM.avoids_ite ?_ (RepoM.avoids_pure _)
    exact RepoM.avoids_bind (startHistory_avoids storage e) fun x _ => by
      cases x
      exact RepoM.avoids_pure _
  | history h =>
    refine RepoM.avoids_ite ?_ (RepoM.avoids_ite ?_ (RepoM.avoids_pure _))
    · exact RepoM.avoids_bind (RepoM.avoids_ofExcept (startLabels_ne_unbalanced storage h e))
        fun _ _ => RepoM.avoids_pure _
    · exact RepoM.avoids_bind (RepoM.avoids_ofExcept (startVersion_ne_unbalanced storage h e))
        fun x _ => by
          cases x
          exact RepoM.avoids_pure _
  | version v =>
    refine RepoM.avoids_ite ?_ (RepoM.avoids_pure _)
    exact RepoM.avoids_bind (RepoM.avoids_ofExcept (startFrozen_ne_unbalanced storage v e _))
      fun x _ => by
        cases x
        exact RepoM.avoids_pure _
  | frozen p =>
    exact RepoM.avoids_bind (RepoM.avoids_ofExcept (startFrozen_ne_unbalanced storage p e _))
      fun x _ => by
        cases x
        exact RepoM.avoids_pure _
  | labels => exact RepoM.avoids_pure _
  | ignored => exact RepoM.avoids_pure _

theorem RepoM.eq_ok_of_ofExcept {x : Except Error α} {a : α} {r s : Repository}
    (h : RepoM.ofExcept x r = .ok a s) : x = .ok a := by
  cases x with
  | ok b => cases h; rfl
  | error e => cases h

/-- The loop of a version import from a state whose stack holds one frame per open element
never fails with an unbalanced end. -/
theorem applyVersionEvents_avoids {fuel : Nat} {r : ElementReader} {stack : List VersionFrame}
    {seenRoot : Bool} {storage : Staged} (hr : r.Tracks) (hstack : stack.length = r.depth) :
    (applyVersionEvents fuel r stack seenRoot storage).AvoidsUnbalanced := by
  induction fuel generalizing r stack seenRoot storage with
  | zero => exact RepoM.avoids_pure _
  | succ fuel ih =>
    unfold applyVersionEvents
    refine RepoM.avoids_bind (RepoM.avoids_ofExcept (ElementReader.next_ne_unbalanced hr))
      fun step hstep => ?_
    obtain ⟨_, _, hok⟩ := hstep
    have hnext := RepoM.eq_ok_of_ofExcept hok
    obtain ⟨ev?, r'⟩ := step
    cases ev? with
    | none =>
      exact RepoM.avoids_ite (RepoM.avoids_throw_bind (by decide) _) (RepoM.avoids_pure _)
    | some ev =>
      obtain ⟨hr', hfin, hstart⟩ := ElementReader.next_some hr hnext
      cases ev with
      | start e =>
        have hdepth := hstart (fun h => by cases h)
        cases stack with
        | nil =>
          -- the root element, which opens the only frame the loop starts from
          have hrec : (applyVersionEvents fuel r' [.root] true storage).AvoidsUnbalanced :=
            ih hr' (by simp only [List.length_nil, List.length_cons] at hstack ⊢; omega)
          have hroot : Error.malformed (toString "expected " ++ toString Known.versionsElement ++
              toString " root element, found " ++ toString e.tag) ≠ unbalancedEnd := by
            simp only [String.append_assoc]
            exact malformed_ne_unbalanced _ (by decide)
          refine RepoM.avoids_ite (RepoM.avoids_throw_bind (by decide) _) ?_
          exact RepoM.avoids_ite (RepoM.avoids_throw_bind hroot _) hrec
        | cons parent tail =>
          refine RepoM.avoids_bind (openFrame_avoids storage parent e) fun x _ => ih hr' ?_
          simp only [List.length_cons] at hstack ⊢
          omega
      | finish =>
        have hdepth := hfin rfl
        -- an end pops the frame of the element it closes; the stack is never empty here
        cases stack with
        | nil =>
          simp only [List.length_nil] at hstack
          omega
        | cons head rest =>
          exact ih hr' (by simp only [List.length_cons] at hstack; omega)

theorem RepoM.versionStorage_avoids : RepoM.versionStorage.AvoidsUnbalanced := by
  unfold RepoM.versionStorage
  refine RepoM.avoids_bind RepoM.avoids_get fun repo _ => ?_
  split
  · exact RepoM.avoids_pure _
  · exact RepoM.avoids_pure _

theorem RepoM.modifyNode_avoids (path : String) (f : Node → Node) :
    (RepoM.modifyNode path f).AvoidsUnbalanced := by
  unfold RepoM.modifyNode
  refine RepoM.avoids_bind RepoM.avoids_get fun repo _ => ?_
  split
  · exact RepoM.avoids_set _
  · exact RepoM.avoids_throw (fun h => by cases h)

theorem RepoM.commitVersionStorage_avoids (storage : Staged) :
    (RepoM.commitVersionStorage storage).AvoidsUnbalanced := by
  unfold RepoM.commitVersionStorage
  refine RepoM.avoids_bind RepoM.avoids_get fun repo _ => ?_
  dsimp only
  -- the system node is added first when it is missing
  exact RepoM.avoids_ite
    (RepoM.avoids_bind (RepoM.avoids_set _) fun _ _ => RepoM.modifyNode_avoids _ _)
    (RepoM.modifyNode_avoids _ _)

/-- Importing a version document never fails with an unbalanced end. -/
theorem importVersions_ne_unbalanced (data : List UInt8) :
    (importVersions data).AvoidsUnbalanced := by
  unfold importVersions
  refine RepoM.avoids_bind RepoM.versionStorage_avoids fun storage _ => ?_
  refine RepoM.avoids_bind
    (applyVersionEvents_avoids (ElementReader.tracks_ofBytes data) rfl) fun storage _ => ?_
  refine RepoM.avoids_bind RepoM.avoids_get fun repo _ => ?_
  refine RepoM.avoids_ite (RepoM.avoids_pure _) ?_
  exact RepoM.avoids_bind (RepoM.commitVersionStorage_avoids storage) fun _ _ => RepoM.avoids_pure _

/-- The element events of every document are nested, and reading stops short of its limit
without a fault only where starts and ends balance; so neither reading a content document nor
importing a version document ever fails with an unbalanced end. -/
theorem element_stream_balanced :
    (∀ (bytes : List UInt8) (limit : Nat),
      ElementEvent.Nested (elementEvents bytes limit).1 ∧
        ((elementEvents bytes limit).1.length < limit → (elementEvents bytes limit).2 = none →
          ElementEvent.starts (elementEvents bytes limit).1 =
            ElementEvent.ends (elementEvents bytes limit).1)) ∧
      (∀ bytes : List UInt8, parseDocView bytes ≠ .error unbalancedEnd) ∧
      ∀ (data : List UInt8) (r r' : Repository), importVersions data r ≠ .error unbalancedEnd r' :=
  ⟨elementEvents_nested, parseDocView_ne_unbalanced, importVersions_ne_unbalanced⟩

end ContentSync
