import IceStream.Lib.Python
import Mathlib.Data.Rat.Defs

/-!
# Random numbers

What a `random.Random` is going to answer, whatever its seed: the numbers of `random()`
and the places that `choice` picks.
-/

namespace Python

/-- One of the first draws is below the bound in its place. -/
def SomeBelow {K : Type*} [LT K] : List K → (ℕ → K) → Prop
  | [], _ => False
  | p :: bounds, draws => draws 0 < p ∨ SomeBelow bounds fun i => draws (i + 1)

structure Random (K : Type) where
  draws : ℕ → K
  picks : ℕ → ℕ

namespace Random

variable {K α : Type}

/-- `random()` -/
def random : Fallible (Random K) K := fun r =>
  (.ok (r.draws 0), { r with draws := fun i => r.draws (i + 1) })

def indexError : Exc := ⟨"IndexError", false, "Cannot choose from an empty sequence"⟩

/-- The place that is picked next in a list. -/
def pick (r : Random K) (xs : List α) : Option α := xs[r.picks 0 % xs.length]?

/-- `choice(xs)` -/
def choice (xs : List α) : Fallible (Random K) α := fun r =>
  match r.pick xs with
  | some x => (.ok x, { r with picks := fun i => r.picks (i + 1) })
  | none => (.error indexError, r)

theorem exists_pick {xs : List α} (r : Random K) (h : xs ≠ []) : ∃ x ∈ xs, r.pick xs = some x := by
  have hlt : r.picks 0 % xs.length < xs.length := Nat.mod_lt _ (List.length_pos_iff.mpr h)
  exact ⟨_, List.getElem_mem hlt, List.getElem?_eq_getElem hlt⟩

theorem choice_of_pick {xs : List α} {r : Random K} {x : α} (h : r.pick xs = some x) :
    choice xs r = (.ok x, { r with picks := fun i => r.picks (i + 1) }) := by
  rw [choice, h]

/-- What is chosen is in the list. -/
theorem mem_of_choice {xs : List α} {r r' : Random K} {x : α} (h : choice xs r = (.ok x, r')) :
    x ∈ xs := by
  unfold choice at h
  cases hpick : r.pick xs with
  | none =>
    rw [hpick] at h
    cases h
  | some y =>
    rw [hpick] at h
    obtain rfl : y = x := Except.ok.inj (congrArg Prod.fst h)
    exact List.mem_of_getElem? hpick

/-! ## Numbers and weights -/

/-- `randint(a, b)` -/
def randint (a b : ℕ) : Fallible (Random K) ℕ := fun r =>
  (.ok (a + r.picks 0 % (b - a + 1)), { r with picks := fun i => r.picks (i + 1) })

/-- `getrandbits(k)` -/
def getrandbits (k : ℕ) : Fallible (Random K) ℕ := fun r =>
  (.ok (r.picks 0 % 2 ^ k), { r with picks := fun i => r.picks (i + 1) })

/-- The sums of the first weights. -/
def cumulative (sum : ℚ) : List ℚ → List ℚ
  | [] => []
  | w :: ws => (sum + w) :: cumulative (sum + w) ws

/-- `choices(xs, weights)[0]`, where the weights sum to 1: as many are passed over as have a
cumulative weight that is not above the draw. -/
def choices [LinearOrder K] [RatCast K] (weighted : List (α × ℚ)) : Fallible (Random K) α :=
  fun r =>
    let sums := cumulative 0 (weighted.map Prod.snd)
    match weighted[sums.dropLast.countP fun sum : ℚ => decide ((sum : K) ≤ r.draws 0)]? with
    | some x => (.ok x.1, { r with draws := fun i => r.draws (i + 1) })
    | none => (.error indexError, r)

theorem length_cumulative (sum : ℚ) (ws : List ℚ) : (cumulative sum ws).length = ws.length := by
  induction ws generalizing sum with
  | nil => rfl
  | cons w ws ih => rw [cumulative, List.length_cons, ih, List.length_cons]

section

variable [LinearOrder K] [RatCast K]

/-- From a list with an element one is chosen. -/
theorem exists_choices {weighted : List (α × ℚ)} (h : weighted ≠ []) (r : Random K) :
    ∃ x ∈ weighted.map Prod.fst, ∃ r', choices weighted r = (.ok x, r') := by
  set sums := cumulative 0 (weighted.map Prod.snd) with hsums
  have hlength : sums.length = weighted.length := by
    rw [hsums, length_cumulative, List.length_map]
  have hpositive := List.length_pos_iff.mpr h
  have hlt : (sums.dropLast.countP fun sum : ℚ => decide ((sum : K) ≤ r.draws 0)) <
      weighted.length := by
    refine List.countP_le_length.trans_lt ?_
    rw [List.length_dropLast]
    omega
  refine ⟨_, List.mem_map_of_mem (List.getElem_mem hlt),
    { r with draws := fun i => r.draws (i + 1) }, ?_⟩
  rw [choices, ← hsums, List.getElem?_eq_getElem hlt]

theorem mem_of_choices {weighted : List (α × ℚ)} {r r' : Random K} {x : α}
    (h : choices weighted r = (.ok x, r')) : x ∈ weighted.map Prod.fst := by
  by_cases hne : weighted = []
  · subst hne
    cases h
  · obtain ⟨y, hy, r'', hrun⟩ := exists_choices hne r
    obtain rfl : y = x := Except.ok.inj (congrArg Prod.fst (hrun.symm.trans h))
    exact hy

end

end Random
end Python
