import IceStream.Generator.CleanEvents
import IceStream.Generator.FaultInjection

/-!
# Faulty events

What the strategies make of a clean event. Most of them change the value of one field.
-/

namespace IceStream.Generator
open Python Fallible

/-! ## The value of a field -/

/-- Two fields of one name are the same. -/
theorem key_injective {f g : QualityField} (h : text f.key = text g.key) : f = g := by
  have hall : ∀ f ∈ QualityField.all, ∀ g ∈ QualityField.all, text f.key = text g.key → f = g := by
    decide +kernel
  have hmem (f : QualityField) : f ∈ QualityField.all := by
    cases f <;> decide
  exact hall f (hmem f) g (hmem g) h

theorem given_set (d : Dict) (f g : QualityField) (v : Json) :
    given (d.set (text f.key) v) g = if g = f then v else given d g := by
  by_cases hg : g = f
  · rw [if_pos hg, hg]
    change (Dict.get? _ (text f.key)).getD .null = v
    rw [Dict.get?_set]
    rfl
  · have hkey : text g.key ≠ text f.key := fun h => hg (key_injective h)
    rw [if_neg hg]
    change (Dict.get? _ (text g.key)).getD .null = _
    rw [Dict.get?_set_of_ne _ _ hkey]
    rfl

theorem given_set_other {k : Text} (d : Dict) (v : Json) (g : QualityField)
    (h : ∀ f ∈ QualityField.all, text f.key ≠ k) : given (d.set k v) g = given d g := by
  have hmem : g ∈ QualityField.all := by cases g <;> decide
  change (Dict.get? _ (text g.key)).getD .null = _
  rw [Dict.get?_set_of_ne _ _ (h g hmem)]
  rfl

/-- What is erased is not given any more. -/
theorem given_erase (d : Dict) (f : QualityField) : given (erase d (text f.key)) f = .null := by
  have hnone : (erase d (text f.key)).lookup (text f.key) = none := by
    rw [List.lookup_eq_none_iff]
    intro p hp
    have hne := of_decide_eq_true (List.mem_filter.mp hp).2
    exact bne_iff_ne.mpr (Ne.symm hne)
  change ((erase d (text f.key)).lookup (text f.key)).getD .null = .null
  rw [hnone]
  rfl

/-! ## One field changed -/

/-- The payload is that of the event, but for one field. -/
structure ChangedIn (e : CheckoutEvent) (f : QualityField) (v : Json) (d : Dict) : Prop where
  absent : d.get? (text "ingestion_time") = none
  given : ∀ g, given d g = if g = f then v else e.valueOf g

theorem changedIn_set (e : CheckoutEvent) {f : QualityField} (hf : f ≠ .ingestionTime) (v : Json) :
    ChangedIn e f v (e.toDict.set (text f.key) v) := by
  constructor
  case absent =>
    have hkey : text "ingestion_time" ≠ text f.key :=
      fun h => hf (@key_injective .ingestionTime f h).symm
    rw [Dict.get?_set_of_ne _ _ hkey]
    rfl
  case given =>
    intro g
    rw [given_set, e.given_toDict]

/-! ## What the strategies make of a clean event -/

/-- A number that is not positive. -/
def notPositive : Except Exc Json → Bool
  | .ok (.float x) => !decide (0 < x)
  | _ => false

/-- The negations of the amounts in the catalog. -/
theorem negated_amounts : ∀ p ∈ productCatalog, ∀ q ∈ weightedQuantities.map Prod.fst,
    notPositive (negated (.float (-1499)) (.float (roundTo 2 (Float.ofInt q * p.price)))) = true := by
  decide +kernel

section

variable {K : Type} {now : Instant} {size : ℕ} {e : CheckoutEvent}

/-- A null strikes a field that a rule guards. -/
theorem returns_nullMutate (e : CheckoutEvent) :
    Returns (fun d => ∃ f ∈ guardedFields, ChangedIn e f .null d)
      (nullMutate e.toDict : Fallible (Python.Random K) Dict) := by
  have htargets : ∀ k ∈ nullableTargetFields, ∃ f ∈ guardedFields, k = text f.key := by decide
  refine (returns_choice nullableTargetFields).bind fun k hk => returns_pure ?_
  have hguarded : ∀ f ∈ guardedFields, f ≠ .ingestionTime := by decide
  obtain ⟨f, hf, rfl⟩ := htargets k hk
  exact ⟨f, hf, changedIn_set e (hguarded f hf) .null⟩

theorem negated_float (z x : Float) : ∃ y, negated (.float z) (.float x) = .ok (.float y) := by
  rw [negated]
  split_ifs
  · exact ⟨_, rfl⟩
  · exact ⟨_, rfl⟩
  · exact ⟨_, rfl⟩

theorem negated_int (z i : ℤ) : ∃ j, negated (.int z) (.int i) = .ok (.int j) := by
  rw [negated]
  split_ifs
  · exact ⟨_, rfl⟩
  · exact ⟨_, rfl⟩

/-- A negation strikes the amount, which is not positive any more, or another number. -/
theorem returns_negativeMutate (h : e.Clean (customerPool size) now) :
    Returns (fun d => (∃ x, ¬0 < x ∧ ChangedIn e .amount (.float x) d) ∨
        (∃ x, ChangedIn e .unitPrice (.float x) d) ∨ ∃ i, ChangedIn e .quantity (.int i) d)
      (negativeMutate e.toDict : Fallible (Python.Random K) Dict) := by
  refine (returns_choice negativeTargets).bind fun target htarget => ?_
  have hthree : target = (text "amount", .float 1499, .float (-1499)) ∨
      target = (text "unit_price", .float 749.5, .float (-749.5)) ∨
      target = (text "quantity", .int 2, .int (-2)) := by
    simpa [negativeTargets] using htarget
  obtain rfl | rfl | rfl := hthree
  · obtain ⟨p, hp, -, hprice⟩ := h.product
    have hnegated := negated_amounts p hp e.quantity h.quantity
    rw [← hprice, ← h.amount] at hnegated
    have hvalue : e.toDict.getD (text "amount") (.float 1499) = .float e.amount := rfl
    dsimp only
    rw [hvalue]
    cases hv : negated (.float (-1499)) (.float e.amount) with
    | error err => exact returns_raise err
    | ok v =>
      rw [hv] at hnegated
      cases v with
      | float x =>
        have hpositive : ¬0 < x := by simpa [notPositive] using hnegated
        exact returns_pure (.inl ⟨x, hpositive, changedIn_set e (f := .amount) (by decide) _⟩)
      | _ => cases hnegated
  · have hvalue : e.toDict.getD (text "unit_price") (.float 749.5) = .float e.unitPrice := rfl
    obtain ⟨x, hx⟩ := negated_float (-749.5) e.unitPrice
    dsimp only
    rw [hvalue, hx]
    exact returns_pure (.inr (.inl ⟨x, changedIn_set e (f := .unitPrice) (by decide) _⟩))
  · have hvalue : e.toDict.getD (text "quantity") (.int 2) = .int e.quantity := rfl
    obtain ⟨i, hi⟩ := negated_int (-2) e.quantity
    dsimp only
    rw [hvalue, hi]
    exact returns_pure (.inr (.inr ⟨i, changedIn_set e (f := .quantity) (by decide) _⟩))

/-- A value outside of the enumeration strikes the method or the status of the payment. -/
theorem returns_invalidEnumMutate (e : CheckoutEvent) :
    Returns (fun d => (∃ s ∈ invalidPaymentMethods, ChangedIn e .paymentMethod (.str s) d) ∨
        ∃ s ∈ invalidPaymentStatuses, ChangedIn e .paymentStatus (.str s) d)
      (invalidEnumMutate e.toDict : Fallible (Python.Random K) Dict) := by
  refine returns_bind fun target => ?_
  split_ifs
  · refine (returns_choice _).bind fun s hs => returns_pure (.inl ⟨s, hs, ?_⟩)
    exact changedIn_set e (f := .paymentMethod) (by decide) _
  · refine (returns_choice _).bind fun s hs => returns_pure (.inr ⟨s, hs, ?_⟩)
    exact changedIn_set e (f := .paymentStatus) (by decide) _

/-- A drift of the schema takes a guarded field away, or changes the version, or nothing. -/
theorem returns_schemaDriftMutate (e : CheckoutEvent) (types : List Text) :
    Returns (fun d => (∃ f ∈ guardedFields, given d f = .null) ∨
        ChangedIn e .sourceVersion (.str (text "v2")) d ∨ d = e.toDict)
      (schemaDriftMutate types e.toDict : Fallible (Python.Random K) Dict) := by
  have hversion (d : Dict) {f : QualityField} (hf : f ≠ .sourceVersion) :
      given (d.set "source_version" (.str "v2")) f = given d f := by
    have hset := given_set d .sourceVersion f (.str "v2")
    rwa [if_neg hf] at hset
  have hremoved : Returns (fun d => ∃ f ∈ guardedFields, given d f = .null)
      (removeField e.toDict : Fallible (Python.Random K) Dict) := by
    have hfield : Returns (fun k => ∃ f ∈ [QualityField.paymentStatus, .device, .country],
          k = text f.key)
        (fieldToRemove e.toDict : Fallible (Python.Random K) Text) := by
      have hcandidates : ∀ k ∈ [text "payment_status", text "device", text "country"],
          ∃ f ∈ [.paymentStatus, .device, .country], k = text (QualityField.key f) := by decide
      have hchoice : (fieldToRemove e.toDict : Fallible (Python.Random K) Text) =
          Python.Random.choice [text "payment_status", text "device", text "country"] := rfl
      rw [hchoice]
      exact fun r k r' hrun => hcandidates k (Python.Random.mem_of_choice hrun)
    refine hfield.bind fun k hk => ?_
    obtain ⟨f, hf, rfl⟩ := hk
    have hguarded : ∀ f ∈ [.paymentStatus, .device, .country],
        f ∈ guardedFields ∧ f ≠ QualityField.sourceVersion := by decide
    split_ifs
    · refine returns_pure ⟨f, (hguarded f hf).1, ?_⟩
      rw [hversion _ (hguarded f hf).2, given_erase]
    · exact returns_raise _
  refine returns_bind fun driftType => ?_
  split_ifs
  · refine returns_bind fun segment => returns_pure (.inr (.inl ?_))
    constructor
    case absent =>
      rw [Dict.get?_set_of_ne _ _ (by decide), Dict.get?_set_of_ne _ _ (by decide)]
      rfl
    case given =>
      intro g
      have hsegment : given (e.toDict.set "customer_segment" (.str segment)) g = e.valueOf g := by
        rw [given_set_other _ _ _ (by decide), e.given_toDict]
      have hset := given_set (e.toDict.set "customer_segment" (.str segment)) .sourceVersion g
        (.str "v2")
      rw [hsegment] at hset
      exact hset
  · exact fun r d r' hrun => .inl (hremoved r d r' hrun)
  · refine returns_pure (.inl ⟨.customerId, by decide, ?_⟩)
    have hrenamed : renameField e.toDict =
        ((erase e.toDict "customer_id").set "client_id" (.str e.customerId)).set "source_version"
          (.str "v2") := rfl
    rw [hrenamed, hversion _ (by decide), given_set_other _ _ _ (by decide)]
    exact given_erase e.toDict .customerId
  · exact returns_pure (.inr (.inr rfl))

/-- A change of type leaves what the text says, but for the customer's number. -/
theorem returns_typeChangeMutate (e : CheckoutEvent) (u : Unicode) (isdigit : CodePoint → Bool) :
    Returns (fun d => (∃ s, ChangedIn e .quantity (.str s) d) ∨
        ChangedIn e .amount (.str (text (floatRepr e.amount))) d ∨
        ∃ i, ChangedIn e .customerId (.int i) d)
      (typeChangeMutate u isdigit e.toDict : Fallible (Python.Random K) Dict) := by
  refine returns_bind fun target => ?_
  split_ifs
  · exact returns_pure (.inl ⟨_, changedIn_set e (f := .quantity) (by decide) _⟩)
  · exact returns_pure (.inr (.inl (changedIn_set e (f := .amount) (by decide) _)))
  · cases customerNumber u isdigit (e.toDict.getD "customer_id" (.str "CUS000123")) with
    | error err => exact returns_raise err
    | ok n => exact returns_pure (.inr (.inr ⟨n, changedIn_set e (f := .customerId) (by decide) _⟩))

/-- A drift of the clock shows another instant. -/
theorem returns_timestampDriftMutate (e : CheckoutEvent) (clock : Instant) :
    Returns (fun d => ∃ t, IsInstant t ∧ ChangedIn e .eventTime (.str (text (shownTime t))) d)
      (timestampDriftMutate clock e.toDict : Fallible (Python.Random K) Dict) := by
  refine returns_bind fun drift => ?_
  cases ht : addMicros clock drift with
  | error err => exact returns_raise err
  | ok t =>
    refine returns_pure ⟨t, ?_, changedIn_set e (f := .eventTime) (by decide) _⟩
    rw [addMicros] at ht
    split_ifs at ht with hrange
    obtain rfl := Except.ok.inj ht
    exact hrange

end

end IceStream.Generator
