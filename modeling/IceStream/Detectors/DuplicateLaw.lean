import IceStream.Detectors.Duplicate
import IceStream.Lib.Stepping
import Mathlib.Data.Int.ConditionallyCompleteOrder

/-!
# What a duplicate is

Over a whole run the ids that are kept are those that passed within the window, whatever
came in between.
-/

namespace IceStream
open Python Schema Stepping

/-- `DuplicateEventRule` and `DuplicateOrderRule` -/
inductive DuplicateKind
  | events
  | orders

namespace DuplicateKind

def field : DuplicateKind → QualityField
  | events => .eventId
  | orders => .orderId

def seen : DuplicateKind → SeenIds
  | events => seenEvents
  | orders => seenOrders

def rule {ρ : Type} (kind : DuplicateKind) (u : Unicode) (windowSeconds : ℤ) :
    QualityRule (RuleWorld × ρ) :=
  match kind with
  | events => duplicateEventRule u windowSeconds
  | orders => duplicateOrderRule u windowSeconds

/-- The text an event is looked up by, if it is. -/
def idOf (kind : DuplicateKind) (u : Unicode) (event : QualityEvent) : Option Text :=
  if isUnpopulated u (event.value kind.field) then none
  else some ((event.value kind.field).toText u)

@[simp] theorem get_set (kind : DuplicateKind) (ids : List (Text × Instant)) (w : RuleWorld) :
    kind.seen.get (kind.seen.set ids w) = ids := by
  cases kind <;> rfl

@[simp] theorem clock_set (kind : DuplicateKind) (ids : List (Text × Instant)) (w : RuleWorld) :
    (kind.seen.set ids w).clock = w.clock := by
  cases kind <;> rfl

@[simp] theorem reads_set (kind : DuplicateKind) (ids : List (Text × Instant)) (w : RuleWorld) :
    (kind.seen.set ids w).reads = w.reads := by
  cases kind <;> rfl

end DuplicateKind

/-! ## One evaluation -/

section

variable {ρ : Type} {u : Unicode} {name : Text} {field : QualityField} {severity : Severity}
  {seen : SeenIds} {resultId : QualityEvent → Option Text → Json} {windowSeconds : ℤ}
  {event : QualityEvent}

/-- The ids that are left once those older than `cutoff` are purged. -/
def DuplicateKind.left (kind : DuplicateKind) (cutoff : Instant) (w : RuleWorld) : List (Text × Instant) :=
  (kind.seen.get w).filter fun p => cutoff ≤ p.2

/-- The clock has been read. -/
def RuleWorld.read (w : RuleWorld) : RuleWorld := { w with reads := w.reads + 1 }

theorem RuleWorld.now_apply (w : RuleWorld) : RuleWorld.now w = (.ok (w.clock w.reads), w.read) := rfl

theorem DuplicateKind.get_read (kind : DuplicateKind) (w : RuleWorld) : kind.seen.get w.read = kind.seen.get w := by
  cases kind <;> rfl

/-- When no time is as early as the window begins, the ids stay as they are. -/
theorem isUnique_of_overflow (kind : DuplicateKind) (id : Text) (w : RuleWorld) {e : Exc}
    (hcutoff : addMicros (w.clock w.reads) (-(windowSeconds * 1000000)) = .error e) :
    isUnique kind.seen windowSeconds id w = (.error e, w.read) := by
  have hpurge (before : List (Text × Instant)) :
      purgeExpired windowSeconds (w.clock w.reads) before = .error e := by
    rw [purgeExpired, hcutoff]
    rfl
  rw [isUnique, Fallible.bind_ok w.now_apply, Fallible.read_bind, hpurge]
  exact Fallible.bind_error rfl

/-- An id is looked for among those that are left, and added when it is not there. -/
theorem isUnique_of_cutoff (kind : DuplicateKind) (id : Text) (w : RuleWorld) {cutoff : Instant}
    (hcutoff : addMicros (w.clock w.reads) (-(windowSeconds * 1000000)) = .ok cutoff) :
    ∃ isNew, isUnique kind.seen windowSeconds id w =
        (.ok isNew, kind.seen.set (if isNew then kind.left cutoff w ++ [(id, w.clock w.reads)]
          else kind.left cutoff w) w.read) ∧
      (isNew = false ↔ ∃ t, (id, t) ∈ kind.left cutoff w) := by
  have hpurge : purgeExpired windowSeconds (w.clock w.reads) (kind.seen.get w.read) =
      .ok (kind.left cutoff w) := by
    rw [purgeExpired, hcutoff, kind.get_read]
    rfl
  rw [isUnique, Fallible.bind_ok w.now_apply, Fallible.read_bind, hpurge,
    Fallible.bind_ok (show raising (.ok (kind.left cutoff w)) w.read = _ from rfl)]
  have hmem : ((kind.left cutoff w).lookup id).isSome = true ↔ ∃ t, (id, t) ∈ kind.left cutoff w := by
    rw [List.lookup_isSome_iff]
    constructor
    · rintro ⟨p, hp, hid⟩
      exact ⟨p.2, by rwa [eq_of_beq hid]⟩
    · rintro ⟨t, ht⟩
      exact ⟨_, ht, beq_self_eq_true id⟩
  cases hlookup : ((kind.left cutoff w).lookup id).isSome with
  | true => exact ⟨false, rfl, by simpa only [true_iff, hlookup] using hmem.mp hlookup⟩
  | false =>
    refine ⟨true, rfl, ?_⟩
    rw [← hmem, hlookup]
    decide

/-- An event without an id passes, and the clock is not read. -/
theorem duplicateRule_of_unpopulated (h : isUnpopulated u (event.value field) = true)
    (w : RuleWorld × ρ) : ∃ r : ValidationResult,
      (duplicateRule u name field severity seen resultId windowSeconds).validate event w =
        (.ok (.ok r), w) ∧ r.passed = true := by
  simp only [duplicateRule, RuleWorld.onRules]
  rw [if_pos h]
  exact ⟨_, rfl, rfl⟩

theorem duplicateRule_of_error (h : isUnpopulated u (event.value field) = false)
    {w : RuleWorld × ρ} {w' : RuleWorld} {e : Exc}
    (hid : isUnique seen windowSeconds ((event.value field).toText u) w.1 = (.error e, w')) :
    (duplicateRule u name field severity seen resultId windowSeconds).validate event w =
      (.error e, w', w.2) := by
  simp only [duplicateRule, RuleWorld.onRules]
  rw [if_neg (by rw [h]; decide), Fallible.bind_error hid]

theorem duplicateRule_of_ok (h : isUnpopulated u (event.value field) = false)
    {w : RuleWorld × ρ} {w' : RuleWorld} {isNew : Bool}
    (hid : isUnique seen windowSeconds ((event.value field).toText u) w.1 = (.ok isNew, w')) :
    ∃ r : ValidationResult,
      (duplicateRule u name field severity seen resultId windowSeconds).validate event w =
        (.ok (.ok r), w', w.2) ∧ r.passed = isNew := by
  simp only [duplicateRule, RuleWorld.onRules]
  rw [if_neg (by rw [h]; decide), Fallible.bind_ok hid]
  cases isNew with
  | true => exact ⟨_, rfl, rfl⟩
  | false => exact ⟨_, rfl, rfl⟩

end

namespace DuplicateKind

section

variable {ρ : Type} {u : Unicode} {kind : DuplicateKind} {windowSeconds : ℤ}
  {event : QualityEvent} {id : Text}

/-- An event without an id. -/
theorem validate_of_none (h : kind.idOf u event = none) (w : RuleWorld × ρ) :
    ∃ r : ValidationResult, (kind.rule u windowSeconds).validate event w = (.ok (.ok r), w) ∧
      r.passed = true := by
  have hid : isUnpopulated u (event.value kind.field) = true := by
    by_contra hid
    rw [idOf, if_neg hid] at h
    cases h
  unfold DuplicateKind.rule duplicateEventRule duplicateOrderRule
  cases kind with
  | events => exact duplicateRule_of_unpopulated hid w
  | orders => exact duplicateRule_of_unpopulated hid w

theorem populated_of_idOf (h : kind.idOf u event = some id) :
    isUnpopulated u (event.value kind.field) = false ∧ (event.value kind.field).toText u = id := by
  unfold idOf at h
  by_cases hid : isUnpopulated u (event.value kind.field) = true
  · rw [if_pos hid] at h
    cases h
  · rw [if_neg hid] at h
    exact ⟨Bool.not_eq_true _ ▸ hid, Option.some.inj h⟩

theorem validate_of_error (h : kind.idOf u event = some id) {w : RuleWorld × ρ} {w' : RuleWorld}
    {e : Exc} (hid : isUnique kind.seen windowSeconds id w.1 = (.error e, w')) :
    (kind.rule u windowSeconds).validate event w = (.error e, w', w.2) := by
  obtain ⟨hpopulated, rfl⟩ := populated_of_idOf h
  unfold DuplicateKind.rule duplicateEventRule duplicateOrderRule
  cases kind with
  | events => exact duplicateRule_of_error hpopulated hid
  | orders => exact duplicateRule_of_error hpopulated hid

theorem validate_of_ok (h : kind.idOf u event = some id) {w : RuleWorld × ρ} {w' : RuleWorld}
    {isNew : Bool} (hid : isUnique kind.seen windowSeconds id w.1 = (.ok isNew, w')) :
    ∃ r : ValidationResult,
      (kind.rule u windowSeconds).validate event w = (.ok (.ok r), w', w.2) ∧ r.passed = isNew := by
  obtain ⟨hpopulated, rfl⟩ := populated_of_idOf h
  unfold DuplicateKind.rule duplicateEventRule duplicateOrderRule
  cases kind with
  | events => exact duplicateRule_of_ok hpopulated hid
  | orders => exact duplicateRule_of_ok hpopulated hid

end

end DuplicateKind

/-- Readings of one clock: datetimes that do not decrease. -/
structure SteadyClock where
  reading : ℕ → Instant
  mono : Monotone reading
  range : ∀ n, minInstant ≤ reading n ∧ reading n ≤ maxInstant

/-- What a rule keeps, with the ids that passed it and when. -/
structure DuplicateRun where
  world : RuleWorld
  passed : List (Text × Instant)

namespace DuplicateRun

/-- The time the next evaluation sees. -/
def now (s : DuplicateRun) : Instant := s.world.clock s.world.reads

section

variable (u : Unicode) (kind : DuplicateKind) (windowSeconds : ℤ)

def start (clock : SteadyClock) (schemas : SchemaRegistry) : DuplicateRun :=
  ⟨⟨clock.reading, 0, [], [], schemas⟩, []⟩

/-- What the rule answers, and what it leaves behind. -/
def evaluated (s : DuplicateRun) (event : QualityEvent) :
    Except Exc (Except String ValidationResult) × RuleWorld × Unit :=
  (kind.rule u windowSeconds).validate event (s.world, ())

/-- The rule answers with `passed`. -/
def answers (passed : Bool) (s : DuplicateRun) (event : QualityEvent) : Bool :=
  match (s.evaluated u kind windowSeconds event).1 with
  | .ok (.ok r) => r.passed == passed
  | _ => false

def step (s : DuplicateRun) (event : QualityEvent) : Option DuplicateRun :=
  some ⟨(s.evaluated u kind windowSeconds event).2.1, match kind.idOf u event with
    | none => s.passed
    | some id => if s.answers u kind windowSeconds true event then s.passed ++ [(id, s.now)]
      else s.passed⟩

/-- The id passed no longer ago than the window. -/
def PassedWithin (s : DuplicateRun) (id : Text) (now : Instant) : Prop :=
  ∃ t, (id, t) ∈ s.passed ∧ now - windowSeconds * 1000000 ≤ t ∧ t ≤ now

/-- An event fails exactly when its id passed within the window, and the ids kept afterwards
are those that passed within it. An event that has no id passes, and leaves all as it is. -/
def Exact (s : DuplicateRun) (event : QualityEvent) (t : DuplicateRun) : Prop :=
  match kind.idOf u event with
  | none => s.answers u kind windowSeconds true event = true ∧ t = s
  | some id =>
    (s.answers u kind windowSeconds false event = true ↔
      s.PassedWithin windowSeconds id s.now) ∧
    (0 ≤ windowSeconds → ∀ id', id' ∈ (kind.seen.get t.world).map Prod.fst ↔
      t.PassedWithin windowSeconds id' s.now)

/-- Two passes of one id are more than the window apart. -/
def Spaced (s : DuplicateRun) : Prop :=
  s.passed.Pairwise fun p q => p.1 = q.1 → windowSeconds * 1000000 < q.2 - p.2

/-- The rule's state, against what passed: nothing is kept that did not pass, and what is not
kept has expired for good. -/
structure Remembers (s : DuplicateRun) : Prop where
  steady : Monotone s.world.clock
  range : ∀ n, minInstant ≤ s.world.clock n ∧ s.world.clock n ≤ maxInstant
  kept : ∀ p ∈ kind.seen.get s.world, p ∈ s.passed
  gone : ∀ p ∈ s.passed, p ∉ kind.seen.get s.world → p.2 < s.now - windowSeconds * 1000000
  past : ∀ p ∈ s.passed, p.2 ≤ s.now
  dated : ∀ p ∈ s.passed, minInstant ≤ p.2 - windowSeconds * 1000000
  spaced : s.Spaced windowSeconds

end

section

variable {u : Unicode} {kind : DuplicateKind} {windowSeconds : ℤ} {s t : DuplicateRun}
  {event : QualityEvent} {id : Text}

/-- The time an id must not be older than. -/
def cutoff (windowSeconds : ℤ) (s : DuplicateRun) : Instant := s.now - windowSeconds * 1000000

/-- No time is as early as the window begins: the rule raises. -/
structure Overflows (u : Unicode) (kind : DuplicateKind) (windowSeconds : ℤ) (s : DuplicateRun)
    (event : QualityEvent) (t : DuplicateRun) : Prop where
  outside : ¬(minInstant ≤ s.cutoff windowSeconds ∧ s.cutoff windowSeconds ≤ maxInstant)
  silent : ∀ passed, s.answers u kind windowSeconds passed event = false
  next : t = ⟨s.world.read, s.passed⟩

/-- The id is looked up among those the window has left. -/
structure LooksUp (u : Unicode) (kind : DuplicateKind) (windowSeconds : ℤ) (s : DuplicateRun)
    (event : QualityEvent) (id : Text) (isNew : Bool) (t : DuplicateRun) : Prop where
  inside : minInstant ≤ s.cutoff windowSeconds
  answer : ∀ passed, s.answers u kind windowSeconds passed event = true ↔ passed = isNew
  isNew_iff : isNew = false ↔ ∃ time, (id, time) ∈ kind.left (s.cutoff windowSeconds) s.world
  seen : kind.seen.get t.world = if isNew then
    kind.left (s.cutoff windowSeconds) s.world ++ [(id, s.now)]
    else kind.left (s.cutoff windowSeconds) s.world
  clock : t.world.clock = s.world.clock
  reads : t.world.reads = s.world.reads + 1
  passed : t.passed = if isNew then s.passed ++ [(id, s.now)] else s.passed

theorem step_of_some (h : kind.idOf u event = some id)
    (ht : s.step u kind windowSeconds event = some t) :
    Overflows u kind windowSeconds s event t ∨
      ∃ isNew, LooksUp u kind windowSeconds s event id isNew t := by
  obtain rfl := Option.some.inj ht
  by_cases hcutoff : minInstant ≤ s.cutoff windowSeconds ∧ s.cutoff windowSeconds ≤ maxInstant
  · obtain ⟨isNew, hunique, hnew⟩ := isUnique_of_cutoff kind id s.world
      (show addMicros s.now (-(windowSeconds * 1000000)) = .ok (s.cutoff windowSeconds) from
        if_pos hcutoff)
    obtain ⟨r, hr, hpassed⟩ : ∃ r : ValidationResult,
        s.evaluated u kind windowSeconds event = (.ok (.ok r), _, ()) ∧ r.passed = isNew :=
      DuplicateKind.validate_of_ok h hunique
    have hanswer (passed : Bool) :
        s.answers u kind windowSeconds passed event = true ↔ passed = isNew := by
      rw [answers, hr]
      change (r.passed == passed) = true ↔ passed = isNew
      rw [hpassed, beq_iff_eq]
      exact eq_comm
    refine .inr ⟨isNew, hcutoff.1, hanswer, hnew, ?_, ?_, ?_, ?_⟩
    · rw [hr]
      exact kind.get_set _ _
    · rw [hr]
      exact kind.clock_set _ _
    · rw [hr]
      exact kind.reads_set _ _
    · simp only [h, hanswer]
      cases isNew <;> rfl
  · obtain ⟨e, he⟩ : ∃ e, addMicros s.now (-(windowSeconds * 1000000)) = .error e :=
      ⟨_, if_neg hcutoff⟩
    have hraise := isUnique_of_overflow kind id s.world he
    have hevaluated : s.evaluated u kind windowSeconds event = (.error e, s.world.read, ()) :=
      DuplicateKind.validate_of_error h hraise
    have hsilent (passed : Bool) : s.answers u kind windowSeconds passed event = false := by
      rw [answers, hevaluated]
    refine .inl ⟨hcutoff, hsilent, ?_⟩
    simp only [h, hsilent, hevaluated]
    rfl

/-- What is left in the window is what passed in it. -/
theorem Remembers.mem_left_iff (hs : Remembers kind windowSeconds s) (p : Text × Instant) :
    p ∈ kind.left (s.cutoff windowSeconds) s.world ↔
      p ∈ s.passed ∧ s.cutoff windowSeconds ≤ p.2 := by
  rw [DuplicateKind.left, List.mem_filter, decide_eq_true_eq]
  constructor
  · intro hp
    exact ⟨hs.kept p hp.1, hp.2⟩
  · intro hp
    refine ⟨?_, hp.2⟩
    by_contra hgone
    exact absurd hp.2 (not_le.mpr (hs.gone p hp.1 hgone))

theorem Remembers.passedWithin_iff (hs : Remembers kind windowSeconds s) (id : Text) :
    s.PassedWithin windowSeconds id s.now ↔
      ∃ time, (id, time) ∈ kind.left (s.cutoff windowSeconds) s.world := by
  apply exists_congr
  intro time
  rw [hs.mem_left_iff]
  constructor
  · intro h
    exact ⟨h.1, h.2.1⟩
  · intro h
    exact ⟨h.1, h.2, hs.past _ h.1⟩

theorem Remembers.now_le (hs : Remembers kind windowSeconds s)
    (ht : t.world.clock = s.world.clock) (hreads : s.world.reads ≤ t.world.reads) : s.now ≤ t.now := by
  unfold now
  rw [ht]
  exact hs.steady hreads

/-- Nothing passed in a window that begins at no time. -/
theorem Remembers.not_passedWithin (hs : Remembers kind windowSeconds s)
    (h : ¬(minInstant ≤ s.cutoff windowSeconds ∧ s.cutoff windowSeconds ≤ maxInstant)) (id : Text) :
    ¬s.PassedWithin windowSeconds id s.now := by
  rintro ⟨time, hmem, hcutoff, htime⟩
  have hdated : minInstant ≤ time - windowSeconds * 1000000 := hs.dated _ hmem
  have hmax : s.now ≤ maxInstant := (hs.range s.world.reads).2
  have hmin : minInstant ≤ s.now - windowSeconds * 1000000 :=
    hdated.trans (sub_le_sub_right htime _)
  exact h ⟨hmin, hcutoff.trans (htime.trans hmax)⟩

/-- Before a window can begin at some time, nothing passes. -/
theorem Remembers.passed_eq_nil (hs : Remembers kind windowSeconds s) (hw : 0 ≤ windowSeconds)
    (h : ¬(minInstant ≤ s.cutoff windowSeconds ∧ s.cutoff windowSeconds ≤ maxInstant)) :
    s.passed = [] := by
  apply List.eq_nil_iff_forall_not_mem.mpr
  intro p hp
  have hdated : minInstant ≤ p.2 - windowSeconds * 1000000 := hs.dated p hp
  have hmax : s.now ≤ maxInstant := (hs.range s.world.reads).2
  have hcutoff : s.cutoff windowSeconds ≤ s.now := sub_le_self _ (Int.mul_nonneg hw (by decide))
  exact h ⟨hdated.trans (sub_le_sub_right (hs.past p hp) _), hcutoff.trans hmax⟩

theorem exact_step (hs : Remembers kind windowSeconds s)
    (ht : s.step u kind windowSeconds event = some t) : Exact u kind windowSeconds s event t := by
  unfold Exact
  cases hid : kind.idOf u event with
  | none =>
    obtain ⟨r, hr, hpassed⟩ : ∃ r : ValidationResult,
        s.evaluated u kind windowSeconds event = (.ok (.ok r), s.world, ()) ∧ r.passed = true :=
      DuplicateKind.validate_of_none hid (s.world, ())
    refine ⟨?_, ?_⟩
    · rw [answers, hr]
      simp [hpassed]
    · obtain rfl := Option.some.inj ht
      rw [hr, hid]
  | some id =>
    obtain hover | ⟨isNew, hlook⟩ := step_of_some hid ht
    · refine ⟨?_, ?_⟩
      · rw [hover.silent]
        exact iff_of_false Bool.false_ne_true (hs.not_passedWithin hover.outside id)
      · intro hw id'
        have hpassed := hs.passed_eq_nil hw hover.outside
        have hseen : kind.seen.get s.world = [] := by
          apply List.eq_nil_iff_forall_not_mem.mpr
          intro p hp
          have hmem := hs.kept p hp
          rw [hpassed] at hmem
          exact List.not_mem_nil hmem
        obtain rfl := hover.next
        simp only [PassedWithin, kind.get_read, hseen, hpassed, List.map_nil, List.not_mem_nil,
          false_and, exists_const]
    · refine ⟨?_, ?_⟩
      · rw [hlook.answer, hs.passedWithin_iff, ← hlook.isNew_iff, eq_comm]
      · intro hw id'
        have hcutoff : s.cutoff windowSeconds ≤ s.now := sub_le_self _ (Int.mul_nonneg hw (by decide))
        rw [hlook.seen, PassedWithin, hlook.passed]
        have hold := hs.passedWithin_iff id'
        have hmem : (∃ time, (id', time) ∈ kind.left (s.cutoff windowSeconds) s.world) ↔
            id' ∈ (kind.left (s.cutoff windowSeconds) s.world).map Prod.fst := by
          simp
        rw [hmem] at hold
        cases isNew with
        | false => exact hold.symm
        | true =>
          simp only [↓reduceIte, List.map_append, List.map_cons, List.map_nil, List.mem_append,
            List.mem_singleton, ← hold, Prod.mk.injEq]
          constructor
          · rintro (⟨time, hp, htime⟩ | rfl)
            · exact ⟨time, .inl hp, htime⟩
            · exact ⟨s.now, .inr ⟨rfl, rfl⟩, hcutoff, le_refl _⟩
          · rintro ⟨time, hp | ⟨rfl, -⟩, htime⟩
            · exact .inl ⟨time, hp, htime⟩
            · exact .inr rfl

/-- Later evaluations see later times. -/
theorem remembers_step (hs : Remembers kind windowSeconds s)
    (ht : s.step u kind windowSeconds event = some t) : Remembers kind windowSeconds t := by
  cases hid : kind.idOf u event with
  | none =>
    have hexact := exact_step hs ht
    unfold Exact at hexact
    rw [hid] at hexact
    exact hexact.2 ▸ hs
  | some id =>
    obtain hover | ⟨isNew, hlook⟩ := step_of_some hid ht
    · obtain rfl := hover.next
      have hnow := hs.now_le (t := ⟨s.world.read, s.passed⟩) rfl (Nat.le_succ _)
      refine ⟨hs.steady, hs.range, ?_, ?_, ?_, hs.dated, hs.spaced⟩
      · rw [kind.get_read]
        exact hs.kept
      · intro p hp hgone
        rw [kind.get_read] at hgone
        exact (hs.gone p hp hgone).trans_le (sub_le_sub_right hnow _)
      · intro p hp
        exact (hs.past p hp).trans hnow
    · have hnow := hs.now_le hlook.clock (hlook.reads ▸ Nat.le_succ _)
      have hleft (p : Text × Instant) (hp : p ∈ s.passed)
          (hgone : p ∉ kind.left (s.cutoff windowSeconds) s.world) : p.2 < s.cutoff windowSeconds := by
        by_contra hlive
        exact hgone ((hs.mem_left_iff p).mpr ⟨hp, not_lt.mp hlive⟩)
      have hcutoff : s.cutoff windowSeconds ≤ t.cutoff windowSeconds := sub_le_sub_right hnow _
      refine ⟨hlook.clock ▸ hs.steady, hlook.clock ▸ hs.range, ?_, ?_, ?_, ?_, ?_⟩
      · intro p hp
        rw [hlook.seen] at hp
        rw [hlook.passed]
        cases isNew with
        | false => exact ((hs.mem_left_iff p).mp hp).1
        | true =>
          obtain hp | hp := List.mem_append.mp hp
          · exact List.mem_append_left _ ((hs.mem_left_iff p).mp hp).1
          · exact List.mem_append_right _ hp
      · intro p hp hgone
        rw [hlook.passed] at hp
        rw [hlook.seen] at hgone
        cases isNew with
        | false => exact (hleft p hp hgone).trans_le hcutoff
        | true =>
          obtain hp | hp := List.mem_append.mp hp
          · exact (hleft p hp fun h => hgone (List.mem_append_left _ h)).trans_le hcutoff
          · exact absurd (List.mem_append_right _ hp) hgone
      · intro p hp
        rw [hlook.passed] at hp
        cases isNew with
        | false => exact (hs.past p hp).trans hnow
        | true =>
          obtain hp | hp := List.mem_append.mp hp
          · exact (hs.past p hp).trans hnow
          · exact List.mem_singleton.mp hp ▸ hnow
      · intro p hp
        rw [hlook.passed] at hp
        cases isNew with
        | false => exact hs.dated p hp
        | true =>
          obtain hp | hp := List.mem_append.mp hp
          · exact hs.dated p hp
          · exact List.mem_singleton.mp hp ▸ hlook.inside
      · rw [Spaced, hlook.passed]
        cases isNew with
        | false => exact hs.spaced
        | true =>
          apply List.pairwise_append.mpr
          refine ⟨hs.spaced, List.pairwise_singleton _ _, ?_⟩
          intro p hp q hq hsame
          obtain rfl := List.mem_singleton.mp hq
          -- the id is new, so an earlier pass of it has expired
          have hgone : p ∉ kind.left (s.cutoff windowSeconds) s.world := by
            intro hp'
            have hnone : ¬(true = false) := by decide
            rw [show p = (id, p.2) from Prod.ext hsame rfl] at hp'
            exact hnone (hlook.isNew_iff.mpr ⟨p.2, hp'⟩)
          have hexpired : p.2 < s.now - windowSeconds * 1000000 := hleft p hp hgone
          exact lt_sub_comm.mp hexpired

theorem remembers_start (clock : SteadyClock) (schemas : SchemaRegistry) :
    Remembers kind windowSeconds (start clock schemas) where
  steady := clock.mono
  range := clock.range
  kept := by
    cases kind <;> exact fun p hp => absurd hp List.not_mem_nil
  gone := fun p hp => absurd hp List.not_mem_nil
  past := fun p hp => absurd hp List.not_mem_nil
  dated := fun p hp => absurd hp List.not_mem_nil
  spaced := List.Pairwise.nil

end

/-- In every run an event with an id fails exactly when the id passed within the window, what is
kept is what passed within it, and two passes of an id are more than the window apart. -/
theorem duplicates_exact (u : Unicode) (kind : DuplicateKind) (windowSeconds : ℤ)
    (clock : SteadyClock) (schemas : SchemaRegistry) (events : List QualityEvent) :
    AllSteps (step u kind windowSeconds) (Exact u kind windowSeconds) (start clock schemas) events ∧
      ∀ t, exec (step u kind windowSeconds) (start clock schemas) events = some t →
        t.Spaced windowSeconds := by
  have hstart : Remembers kind windowSeconds (start clock schemas) := remembers_start clock schemas
  constructor
  · apply allSteps_of_invariant (I := Remembers kind windowSeconds)
    · exact fun s event t hs ht => exact_step hs ht
    · exact fun s event t hs ht => remembers_step hs ht
    · exact hstart
  · intro t ht
    apply Remembers.spaced
    apply exec_preserves (I := Remembers kind windowSeconds) ?_ hstart ht
    intro s event t hs ht
    exact remembers_step hs ht

/-- An event whose id is empty, and not null. -/
def blankEvent : QualityEvent := ⟨fun _ => .str [], []⟩

def frozenClock : SteadyClock := ⟨fun _ => 0, monotone_const, fun _ => by decide⟩

/-- The empty id passes, and passes again at the same time. -/
theorem blank_id_passes_twice : ∃ s t : DuplicateRun, s = start frozenClock .loaded ∧
    s.step .ascii .events 300 blankEvent = some t ∧ blankEvent.value .eventId ≠ .null ∧
    s.answers .ascii .events 300 true blankEvent = true ∧
    t.now - 300 * 1000000 ≤ s.now ∧ s.now ≤ t.now ∧
    t.answers .ascii .events 300 false blankEvent = false := by
  refine ⟨_, _, rfl, rfl, ?_, ?_, ?_, ?_, ?_⟩
  · intro h
    cases h
  · decide +kernel
  · decide +kernel
  · decide +kernel
  · decide +kernel

end DuplicateRun
end IceStream
