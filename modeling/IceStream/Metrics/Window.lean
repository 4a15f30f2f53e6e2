import IceStream.Lib.Stepping
import IceStream.Metrics.ErrorRate

/-!
# What a window counts

Records are evicted for good, and from the front only. A query is exact when what
earlier queries evicted and what hides behind a record of the window cancel out.
-/

namespace IceStream.Metrics
open Python Stepping

inductive WindowAction
  | addEvent (isValid : Bool) (time : Date)
  | getMetrics (refTime : Date)

/-- An aggregator, with all that was added to it. -/
structure WindowRun where
  aggregator : WindowAggregator
  added : List (Date × Bool)

namespace WindowRun

def init (windowSeconds : ℤ) : WindowRun := ⟨⟨windowSeconds, []⟩, []⟩

def step (s : WindowRun) : WindowAction → Option WindowRun
  | .addEvent isValid time =>
    some ⟨s.aggregator.addEvent isValid time, s.added ++ [(time, isValid)]⟩
  | .getMetrics refTime => some ⟨(s.aggregator.getMetrics refTime).2, s.added⟩

/-- Inside the window of a query. -/
def Live (s : WindowRun) (refTime : Date) (r : Date × Bool) : Prop :=
  s.aggregator.cutoff refTime ≤ r.1

instance (s : WindowRun) (refTime : Date) : DecidablePred (s.Live refTime) :=
  fun r => inferInstanceAs (Decidable (s.aggregator.cutoff refTime ≤ r.1))

/-- The records of one validity that meet `p`. -/
def countOf (isValid : Bool) (p : Date × Bool → Prop) [DecidablePred p] (rs : List (Date × Bool)) :
    ℕ :=
  rs.countP fun r => p r ∧ r.2 = isValid

/-- A query counts what was added in its window, whatever was asked before. -/
def Exact (s : WindowRun) (a : WindowAction) (_ : WindowRun) : Prop :=
  match a with
  | .addEvent _ _ => True
  | .getMetrics refTime =>
    let m := (s.aggregator.getMetrics refTime).1
    m.totalEvents = s.added.countP (s.Live refTime ·) ∧
      m.validEvents = countOf true (s.Live refTime) s.added ∧
      m.invalidEvents = countOf false (s.Live refTime) s.added

/-- What earlier queries evicted. -/
def evicted (s : WindowRun) : List (Date × Bool) :=
  s.added.take (s.added.length - s.aggregator.records.length)

/-- Of the valid and of the invalid records, as many that lie in the window have been
evicted as expired ones stand behind a record of the window. -/
def Balanced (s : WindowRun) (a : WindowAction) (_ : WindowRun) : Prop :=
  match a with
  | .addEvent _ _ => True
  | .getMetrics refTime => ∀ isValid, countOf isValid (s.Live refTime) s.evicted =
      countOf isValid (fun r => ¬s.Live refTime r)
        (s.aggregator.records.dropWhile fun r => ¬s.Live refTime r)

/-- The records are the last ones that were added. -/
def Suffix (s : WindowRun) : Prop := s.aggregator.records <:+ s.added

section

variable {s t : WindowRun} {refTime : Date}

theorem Suffix.added_eq (hs : s.Suffix) : s.added = s.evicted ++ s.aggregator.records := by
  obtain ⟨before, hbefore⟩ := hs
  rw [evicted, ← hbefore, List.length_append, Nat.add_sub_cancel, List.take_left]

theorem suffix_step {a : WindowAction} (hs : s.Suffix) (ht : s.step a = some t) : t.Suffix := by
  cases a with
  | addEvent isValid time =>
    obtain rfl := Option.some.inj ht
    obtain ⟨before, hbefore⟩ := hs
    refine ⟨before, ?_⟩
    change before ++ (s.aggregator.records ++ [(time, isValid)]) = s.added ++ [(time, isValid)]
    rw [← List.append_assoc, hbefore]
  | getMetrics refTime =>
    obtain rfl := Option.some.inj ht
    exact (List.dropWhile_suffix _).trans hs

/-- A predicate and its negation share out the records of one validity. -/
theorem countOf_add_not (isValid : Bool) (p : Date × Bool → Prop) [DecidablePred p]
    (rs : List (Date × Bool)) :
    countOf isValid p rs + countOf isValid (fun r => ¬p r) rs = rs.countP fun r => r.2 = isValid := by
  induction rs with
  | nil => rfl
  | cons r rs ih =>
    simp only [countOf, List.countP_cons] at ih ⊢
    by_cases hp : p r <;> simp only [hp, true_and, false_and, not_true_eq_false, not_false_eq_true,
      decide_false, Bool.false_eq_true, ↓reduceIte] <;> omega

theorem countOf_append (isValid : Bool) (p : Date × Bool → Prop) [DecidablePred p]
    (rs rs' : List (Date × Bool)) :
    countOf isValid p (rs ++ rs') = countOf isValid p rs + countOf isValid p rs' :=
  List.countP_append

theorem countP_eq_add (p : Date × Bool → Prop) [DecidablePred p] (rs : List (Date × Bool)) :
    rs.countP (p ·) = countOf true p rs + countOf false p rs := by
  induction rs with
  | nil => rfl
  | cons r rs ih =>
    rcases r with ⟨time, _ | _⟩ <;>
      simp only [countOf, List.countP_cons, ih, Bool.false_eq_true, and_false, and_true,
        decide_false, ↓reduceIte, reduceCtorEq] <;> omega

/-- Dropping the expired front loses nothing of the window. -/
theorem countOf_live_dropWhile (isValid : Bool) (rs : List (Date × Bool)) :
    countOf isValid (s.Live refTime) (rs.dropWhile fun r => ¬s.Live refTime r) =
      countOf isValid (s.Live refTime) rs := by
  induction rs with
  | nil => rfl
  | cons r rs ih =>
    by_cases hlive : s.Live refTime r
    · simp [List.dropWhile_cons, hlive]
    · simp only [List.dropWhile_cons, hlive, not_false_eq_true, decide_true, ↓reduceIte, ih]
      simp [countOf, hlive]

theorem records_getMetrics (s : WindowRun) (refTime : Date) :
    (s.aggregator.getMetrics refTime).2.records =
      s.aggregator.records.dropWhile fun r => ¬s.Live refTime r := by
  change s.aggregator.records.dropWhile (fun r => r.1 < s.aggregator.cutoff refTime) = _
  congr 1
  funext r
  exact decide_eq_decide.mpr not_le.symm

/-- The records of one validity that a query counts, against those that it should. -/
theorem Suffix.counted_add_evicted (hs : s.Suffix) (refTime : Date) (isValid : Bool) :
    ((s.aggregator.getMetrics refTime).2.records.countP fun r => r.2 = isValid) +
        countOf isValid (s.Live refTime) s.evicted =
      countOf isValid (s.Live refTime) s.added +
        countOf isValid (fun r => ¬s.Live refTime r)
          (s.aggregator.records.dropWhile fun r => ¬s.Live refTime r) := by
  have hkept := countOf_add_not isValid (s.Live refTime)
    (s.aggregator.records.dropWhile fun r => ¬s.Live refTime r)
  have hadded := countOf_append isValid (s.Live refTime) s.evicted s.aggregator.records
  rw [← hs.added_eq] at hadded
  rw [countOf_live_dropWhile] at hkept
  rw [records_getMetrics]
  omega

theorem exact_iff_balanced {a : WindowAction} (hs : s.Suffix) : Exact s a t ↔ Balanced s a t := by
  cases a with
  | addEvent isValid time => exact Iff.rfl
  | getMetrics refTime =>
    have hvalid := hs.counted_add_evicted refTime true
    have hinvalid := hs.counted_add_evicted refTime false
    have htotal := countP_eq_add (s.Live refTime) s.added
    set kept := (s.aggregator.getMetrics refTime).2.records with hkept
    have hlength : kept.length =
        (kept.countP fun r => r.2 = true) + kept.countP fun r => r.2 = false := by
      simpa only [countOf, true_and, decide_true, List.countP_true] using countP_eq_add (fun _ => True) kept
    have htrue : (kept.countP fun r => r.2) = kept.countP fun r => r.2 = true := by
      congr 1
      funext r
      simp
    have hexact : Exact s (.getMetrics refTime) t ↔
        kept.length = s.added.countP (s.Live refTime ·) ∧
          (kept.countP fun r => r.2) = countOf true (s.Live refTime) s.added ∧
          (kept.length - kept.countP fun r => r.2) = countOf false (s.Live refTime) s.added := Iff.rfl
    rw [hexact, htrue, Balanced, Bool.forall_bool]
    omega

end

/-! ## Whole runs -/

theorem suffix_init (windowSeconds : ℤ) : (init windowSeconds).Suffix := List.suffix_refl []

/-- Events come in the order of their times, and queries in that of theirs. -/
def Precedes : WindowAction → WindowAction → Prop
  | .addEvent _ time, .addEvent _ time' => time ≤ time'
  | .getMetrics refTime, .getMetrics refTime' => refTime ≤ refTime'
  | _, _ => True

/-- A run in order, with `actions` ahead. -/
structure InOrder (s : WindowRun) (actions : List WindowAction) : Prop where
  suffix : s.Suffix
  sorted : s.added.Pairwise fun r r' => r.1 ≤ r'.1
  later : ∀ isValid time, .addEvent isValid time ∈ actions → ∀ r ∈ s.added, r.1 ≤ time
  gone : ∀ refTime, .getMetrics refTime ∈ actions → ∀ r ∈ s.evicted, ¬s.Live refTime r
  actions : actions.Pairwise Precedes

theorem evicted_addEvent (hs : Suffix s) (isValid : Bool) (time : Date) :
    evicted ⟨s.aggregator.addEvent isValid time, s.added ++ [(time, isValid)]⟩ = s.evicted := by
  have hlength := hs.length_le
  simp only [evicted, WindowAggregator.addEvent, List.length_append, List.length_singleton]
  rw [Nat.add_sub_add_right, List.take_append_of_le_length (Nat.sub_le _ _)]

theorem evicted_getMetrics (hs : Suffix s) (refTime : Date) :
    evicted ⟨(s.aggregator.getMetrics refTime).2, s.added⟩ =
      s.evicted ++ s.aggregator.records.takeWhile fun r => ¬s.Live refTime r := by
  have hnext : Suffix ⟨(s.aggregator.getMetrics refTime).2, s.added⟩ :=
    suffix_step (a := .getMetrics refTime) hs rfl
  have hsplit := hnext.added_eq
  change s.added = _ ++ (s.aggregator.getMetrics refTime).2.records at hsplit
  rw [records_getMetrics] at hsplit
  have hwhole := hs.added_eq
  rw [← List.takeWhile_append_dropWhile (p := fun r => ¬s.Live refTime r)
    (l := s.aggregator.records), ← List.append_assoc, hsplit] at hwhole
  exact List.append_cancel_right hwhole

theorem InOrder.step {a : WindowAction} {actions : List WindowAction} (h : InOrder s (a :: actions))
    (ht : s.step a = some t) : InOrder t actions := by
  obtain ⟨hfirst, hactions⟩ := List.pairwise_cons.mp h.actions
  cases a with
  | addEvent isValid time =>
    obtain rfl := Option.some.inj ht
    refine ⟨suffix_step h.suffix ht, ?_, ?_, ?_, hactions⟩
    · refine List.pairwise_append.mpr ⟨h.sorted, List.pairwise_singleton _ _, ?_⟩
      intro r hr r' hr'
      obtain rfl := List.mem_singleton.mp hr'
      exact h.later isValid time List.mem_cons_self r hr
    · intro isValid' time' hmem r hr
      obtain hr | hr := List.mem_append.mp hr
      · exact h.later isValid' time' (List.mem_cons_of_mem _ hmem) r hr
      · obtain rfl := List.mem_singleton.mp hr
        exact hfirst _ hmem
    · intro refTime hmem r hr
      rw [evicted_addEvent h.suffix] at hr
      exact h.gone refTime (List.mem_cons_of_mem _ hmem) r hr
  | getMetrics refTime =>
    obtain rfl := Option.some.inj ht
    refine ⟨suffix_step h.suffix ht, h.sorted, ?_, ?_, hactions⟩
    · intro isValid time hmem
      exact h.later isValid time (List.mem_cons_of_mem _ hmem)
    · intro refTime' hmem r hr
      rw [evicted_getMetrics h.suffix] at hr
      obtain hr | hr := List.mem_append.mp hr
      · exact h.gone refTime' (List.mem_cons_of_mem _ hmem) r hr
      · have hexpired : ¬s.Live refTime r := by simpa using List.mem_takeWhile_imp hr
        have hle : refTime ≤ refTime' := hfirst _ hmem
        intro hlive
        refine hexpired (le_trans ?_ hlive)
        exact sub_le_sub_right hle _

/-- Behind a record of the window there is no expired one. -/
theorem InOrder.balanced {a : WindowAction} {actions : List WindowAction}
    (h : InOrder s (a :: actions)) : Balanced s a t := by
  cases a with
  | addEvent isValid time => trivial
  | getMetrics refTime =>
    intro isValid
    have hgone : countOf isValid (s.Live refTime) s.evicted = 0 := by
      rw [countOf, List.countP_eq_zero]
      intro r hr
      simp [h.gone refTime List.mem_cons_self r hr]
    have hsorted : s.aggregator.records.Pairwise fun r r' => r.1 ≤ r'.1 :=
      h.sorted.sublist h.suffix.sublist
    have hbehind : countOf isValid (fun r => ¬s.Live refTime r)
        (s.aggregator.records.dropWhile fun r => ¬s.Live refTime r) = 0 := by
      rw [countOf, List.countP_eq_zero]
      cases hkept : s.aggregator.records.dropWhile fun r => ¬s.Live refTime r with
      | nil => exact fun r hr => absurd hr List.not_mem_nil
      | cons r rs =>
        have hlive : s.Live refTime r := by
          have hhead := List.head?_dropWhile_not (fun r => ¬s.Live refTime r) s.aggregator.records
          rw [hkept] at hhead
          simpa using hhead
        have hrest := hsorted.sublist (List.dropWhile_sublist fun r => ¬s.Live refTime r)
        rw [hkept, List.pairwise_cons] at hrest
        intro r' hr'
        have hlive' : s.Live refTime r' := by
          obtain rfl | hr' := List.mem_cons.mp hr'
          · exact hlive
          · exact le_trans hlive (hrest.1 r' hr')
        simp [hlive']
    rw [hgone, hbehind]

/-- In order, every query is exact. -/
theorem exact_of_inOrder (windowSeconds : ℤ) {actions : List WindowAction}
    (h : actions.Pairwise Precedes) : AllSteps step Exact (init windowSeconds) actions := by
  rw [allSteps_iff_of_invariant (I := Suffix) (Q := Balanced)
    (fun s a t hs _ => exact_iff_balanced hs) (fun s a t hs ht _ => suffix_step hs ht)
    (suffix_init windowSeconds)]
  have hinit : InOrder (init windowSeconds) actions :=
    ⟨suffix_init windowSeconds, List.Pairwise.nil, fun _ _ _ r hr => absurd hr List.not_mem_nil,
      fun _ _ r hr => absurd hr List.not_mem_nil, h⟩
  clear h
  generalize init windowSeconds = s at hinit
  induction actions generalizing s with
  | nil => trivial
  | cons a actions ih =>
    intro t ht
    exact ⟨hinit.balanced, ih t (hinit.step ht)⟩

end WindowRun

end IceStream.Metrics
