import Mathlib.Algebra.Order.Group.Basic
import Mathlib.Data.List.Basic

/-!
# Sliding logs

A limiter that admits at most `limit` arrivals per `window` keeps a log of the
arrivals it admitted. An arrival first drops what has left the window, then is
admitted where fewer than `limit` entries stay. `Tracks` relates the log to
everything that was ever admitted.
-/

namespace SlidingLog

variable {α : Type*} [AddCommGroup α] [LinearOrder α]

section

variable (window : α)

/-- The entries that still count at `now`. -/
def live (now : α) (log : List α) : List α := log.filter fun t => decide (now - window < t)

/-- The entries in the half-open interval of one window that ends at `t`. -/
def within (t : α) (log : List α) : List α :=
  log.filter fun s => decide (t - window < s) && decide (s ≤ t)

end

variable {window : α}

theorem live_append (now : α) (log log' : List α) :
    live window now (log ++ log') = live window now log ++ live window now log' :=
  List.filter_append ..

/-- What counts later counts now. -/
theorem live_live [IsOrderedAddMonoid α] {now later : α} (h : now ≤ later) (log : List α) :
    live window later (live window now log) = live window later log := by
  rw [live, live, List.filter_filter]
  apply List.filter_congr
  intro t _
  apply Bool.eq_iff_iff.mpr
  rw [Bool.and_eq_true, decide_eq_true_eq, decide_eq_true_eq, and_iff_left_iff_imp]
  exact (sub_le_sub_right h window).trans_lt

/-- Nothing that lies ahead is in the interval, so its entries are live ones. -/
theorem within_eq_live {now : α} {log : List α} (h : ∀ t ∈ log, t ≤ now) :
    within window now log = live window now log := by
  apply List.filter_congr
  intro t ht
  rw [decide_eq_true (h t ht), Bool.and_true]

/-- The log of a limiter that has admitted `admitted`, the last of them by `now`. -/
structure Tracks (limit : ℕ) (window : α) (admitted log : List α) (now : α) : Prop where
  ordered : admitted.Pairwise (· ≤ ·)
  past : ∀ t ∈ admitted, t ≤ now
  kept : ∀ later, now ≤ later → live window later log = live window later admitted
  few : ∀ t, (within window t admitted).length ≤ limit

namespace Tracks

variable {limit : ℕ} {admitted log : List α} {now later : α}

theorem nil (limit : ℕ) (window now : α) : Tracks limit window [] [] now where
  ordered := List.Pairwise.nil
  past := by simp
  kept _ _ := rfl
  few _ := Nat.zero_le _

theorem wait (h : Tracks limit window admitted log now) (hle : now ≤ later) :
    Tracks limit window admitted log later where
  ordered := h.ordered
  past t ht := (h.past t ht).trans hle
  kept t ht := h.kept t (hle.trans ht)
  few := h.few

/-- The entries that count are those admitted in the window. -/
theorem live_eq (h : Tracks limit window admitted log now) (hle : now ≤ later) :
    live window later log = within window later admitted := by
  rw [h.kept later hle, within_eq_live fun t ht => (h.past t ht).trans hle]

theorem length_live_le (h : Tracks limit window admitted log now) (hle : now ≤ later) :
    (live window later log).length ≤ limit := by
  rw [h.live_eq hle]
  exact h.few later

theorem refuse [IsOrderedAddMonoid α] (h : Tracks limit window admitted log now)
    (hle : now ≤ later) :
    Tracks limit window admitted (live window later log) later where
  ordered := h.ordered
  past t ht := (h.past t ht).trans hle
  kept t ht := by rw [live_live ht, h.kept t (hle.trans ht)]
  few := h.few

theorem accept [IsOrderedAddMonoid α] (h : Tracks limit window admitted log now)
    (hle : now ≤ later) (hroom : (live window later log).length < limit) :
    Tracks limit window (admitted ++ [later]) (live window later log ++ [later]) later where
  ordered := by
    rw [List.pairwise_append]
    refine ⟨h.ordered, List.pairwise_singleton .., ?_⟩
    intro s hs t ht
    rw [List.mem_singleton.mp ht]
    exact (h.past s hs).trans hle
  past t ht := by
    obtain ht | ht := List.mem_append.mp ht
    · exact (h.past t ht).trans hle
    · exact (List.mem_singleton.mp ht).le
  kept t ht := by
    rw [live_append, live_append, live_live ht, h.kept t (hle.trans ht)]
  few t := by
    rw [within, List.filter_append, List.length_append]
    by_cases hin : t - window < later ∧ later ≤ t
    · -- An interval that holds the new arrival starts no earlier than its window.
      have hsub : (within window t admitted).Sublist (live window later admitted) := by
        apply List.monotone_filter_right
        intro s hs
        have hs' : t - window < s := by simpa using (Bool.and_eq_true_iff.mp hs).1
        exact decide_eq_true ((sub_le_sub_right hin.2 window).trans_lt hs')
      have hlen := hsub.length_le
      rw [← h.kept later hle] at hlen
      have hone := List.length_filter_le
        (fun s => decide (t - window < s) && decide (s ≤ t)) [later]
      rw [within] at hlen
      rw [List.length_singleton] at hone
      omega
    · have hout : [later].filter
          (fun s => decide (t - window < s) && decide (s ≤ t)) = [] := by
        apply List.filter_eq_nil_iff.mpr
        intro s hs
        obtain rfl := List.mem_singleton.mp hs
        simpa using hin
      rw [hout]
      exact h.few t

end Tracks

/-! ## When there is room again -/

/-- Where the log is ordered, an entry has left by `later` exactly when the oldest has. -/
theorem length_live_lt_iff {oldest later : α} {rest : List α}
    (h : (oldest :: rest).Pairwise (· ≤ ·)) :
    (live window later (oldest :: rest)).length < (oldest :: rest).length ↔
      oldest ≤ later - window := by
  rw [live]
  constructor
  · intro hlt
    by_contra hstays
    refine absurd hlt (not_lt_of_ge (le_of_eq ?_))
    rw [List.filter_eq_self.mpr]
    intro t ht
    refine decide_eq_true ((not_le.mp hstays).trans_le ?_)
    obtain rfl | ht := List.mem_cons.mp ht
    · exact le_rfl
    · exact List.rel_of_pairwise_cons h ht
  · intro hgone
    rw [List.filter_cons_of_neg (by simpa using hgone)]
    exact Nat.lt_succ_of_le (List.length_filter_le ..)

end SlidingLog
