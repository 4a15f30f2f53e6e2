import IceStream.Lib.Stepping
import Mathlib.Data.List.Nodup

/-!
# Items by key

A list of items, each with a key of its own, in the order in which the keys
came. In a run whose steps put one item each, an item of the last state is the
one that the last step with its key put there.
-/

/-- The items carry their keys. -/
structure Keyed {α κ : Type*} (key : α → κ) where
  items : List α
  nodup : (items.map key).Nodup

namespace Keyed
open Stepping

variable {α β κ : Type*} [DecidableEq κ] {key : α → κ} {s t : Keyed key} {a : α} {k : κ}

def empty : Keyed key := ⟨[], List.nodup_nil⟩

def get? (s : Keyed key) (k : κ) : Option α := s.items.find? fun a => key a = k

theorem key_of_get? (h : s.get? k = some a) : key a = k := by
  simpa using List.find?_some h

/-- Every item with the key of `a` becomes `a`. -/
def substitute (key : α → κ) (a : α) (items : List α) : List α :=
  items.map fun b => if key b = key a then a else b

theorem keys_substitute (items : List α) :
    (substitute key a items).map key = items.map key := by
  rw [substitute, List.map_map]
  apply List.map_congr_left
  intro b hb
  by_cases hkey : key b = key a
  · simp [hkey]
  · simp [hkey]

/-- An item takes the place of the one that has its key, or else the last place. -/
def put (s : Keyed key) (a : α) : Keyed key :=
  if h : key a ∈ s.items.map key then
    ⟨substitute key a s.items, by
      rw [keys_substitute]
      exact s.nodup⟩
  else ⟨s.items ++ [a], by
    rw [List.map_append, List.map_singleton, List.nodup_append_comm]
    exact List.nodup_cons.mpr ⟨h, s.nodup⟩⟩

theorem find?_substitute_of_ne (items : List α) (hk : k ≠ key a) :
    (substitute key a items).find? (fun b => key b = k) =
      items.find? fun b => key b = k := by
  induction items with
  | nil => rfl
  | cons b items ih =>
    change List.find? _ ((if key b = key a then a else b) :: substitute key a items) = _
    rw [List.find?_cons, List.find?_cons, ih]
    by_cases hkey : key b = key a
    · simp [hkey, hk.symm]
    · simp [hkey]

theorem find?_substitute_self (items : List α) (h : key a ∈ items.map key) :
    (substitute key a items).find? (fun b => key b = key a) = some a := by
  induction items with
  | nil => exact absurd h List.not_mem_nil
  | cons b items ih =>
    change List.find? _ ((if key b = key a then a else b) :: substitute key a items) = some a
    rw [List.find?_cons]
    by_cases hkey : key b = key a
    · simp [hkey]
    · have hrest : key a ∈ items.map key :=
        (List.mem_cons.mp h).resolve_left fun heq => hkey heq.symm
      simpa [hkey] using ih hrest

/-- What was put is there. -/
theorem get?_put (s : Keyed key) (a : α) : (s.put a).get? (key a) = some a := by
  unfold put
  by_cases h : key a ∈ s.items.map key
  · rw [dif_pos h]
    exact find?_substitute_self s.items h
  · rw [dif_neg h]
    have hnone : s.items.find? (fun b => key b = key a) = none := by
      rw [List.find?_eq_none]
      intro b hb heq
      exact h (List.mem_map.mpr ⟨b, hb, of_decide_eq_true heq⟩)
    simp [get?, List.find?_append, hnone]

/-- What has another key stays. -/
theorem get?_put_of_ne (s : Keyed key) (hk : k ≠ key a) : (s.put a).get? k = s.get? k := by
  unfold put
  by_cases h : key a ∈ s.items.map key
  · rw [dif_pos h]
    exact find?_substitute_of_ne s.items hk
  · rw [dif_neg h]
    simp [get?, List.find?_append, hk.symm]

theorem mem_keys_put (s : Keyed key) (a : α) : key a ∈ (s.put a).items.map key :=
  List.mem_map.mpr ⟨a, List.mem_of_find?_eq_some (get?_put s a), rfl⟩

theorem substitute_substitute {b : α} (items : List α) (hkey : key a = key b) :
    substitute key b (substitute key a items) =
      substitute key b items := by
  rw [substitute, substitute, substitute, List.map_map]
  apply List.map_congr_left
  intro c hc
  by_cases hc : key c = key b
  · simp [hkey, hc]
  · simp [hkey, hc]

/-- The later of two items with one key stays. -/
theorem put_put (s : Keyed key) {b : α} (hkey : key a = key b) : (s.put a).put b = s.put b := by
  have hmem : key b ∈ (s.put a).items.map key := hkey ▸ mem_keys_put s a
  have hitems : ((s.put a).put b).items = (s.put b).items := by
    rw [put, dif_pos hmem]
    unfold put
    by_cases h : key a ∈ s.items.map key
    · rw [dif_pos h, dif_pos (hkey ▸ h)]
      exact substitute_substitute s.items hkey
    · rw [dif_neg h, dif_neg (hkey ▸ h)]
      have hothers : substitute key b s.items = s.items := by
        conv_rhs => rw [← List.map_id s.items]
        apply List.map_congr_left
        intro c hc
        have hne : key c ≠ key b := fun heq => h (List.mem_map.mpr ⟨c, hc, heq.trans hkey.symm⟩)
        simp [hne]
      change (s.items ++ [a]).map _ = s.items ++ [b]
      rw [List.map_append, List.map_singleton, if_pos hkey]
      exact congrArg (· ++ [b]) hothers
  cases hs : (s.put a).put b
  cases ht : s.put b
  rw [hs, ht] at hitems
  simpa using hitems

/-! ## The last step that puts a key -/

variable {step : Keyed key → β → Option (Keyed key)} {writes : β → κ} {Put : β → α → Prop}

/-- The last of `bs` that writes `k`. -/
def lastWriter (writes : β → κ) (k : κ) (bs : List β) : Option β :=
  bs.reverse.find? fun b => writes b = k

theorem lastWriter_append_singleton (bs : List β) (b : β) :
    lastWriter writes k (bs ++ [b]) = if writes b = k then some b else lastWriter writes k bs := by
  rw [lastWriter, List.reverse_append, List.reverse_singleton, List.singleton_append,
    List.find?_cons]
  by_cases h : writes b = k
  · simp [h]
  · simp [h, lastWriter]

/-- Each step puts one item, with the key that it writes. -/
def Puts (step : Keyed key → β → Option (Keyed key)) (writes : β → κ) (Put : β → α → Prop) :
    Prop :=
  ∀ s b t, step s b = some t → ∃ a, key a = writes b ∧ Put b a ∧ t = s.put a

/-- A key that nothing writes keeps its item. -/
theorem exec_get?_of_none (hstep : Puts step writes Put) {bs : List β}
    (h : exec step s bs = some t) (hlast : lastWriter writes k bs = none) :
    t.get? k = s.get? k := by
  have hnone : ∀ b ∈ bs, writes b ≠ k := by
    intro b hb heq
    exact List.find?_eq_none.mp hlast b (List.mem_reverse.mpr hb) (decide_eq_true heq)
  clear hlast
  induction bs generalizing s with
  | nil => rw [Option.some.inj h]
  | cons b bs ih =>
    obtain ⟨u, hu, ht⟩ := Option.bind_eq_some_iff.mp h
    obtain ⟨a, hkey, -, rfl⟩ := hstep s b u hu
    rw [ih ht fun c hc => hnone c (List.mem_cons_of_mem b hc)]
    apply get?_put_of_ne
    rw [hkey]
    exact (hnone b List.mem_cons_self).symm

/-- A key that is written has the item of the last step that writes it. -/
theorem exec_get?_of_some (hstep : Puts step writes Put) {bs : List β} {b : β}
    (h : exec step s bs = some t) (hlast : lastWriter writes k bs = some b) :
    ∃ a, t.get? k = some a ∧ Put b a := by
  induction bs using List.reverseRecOn generalizing t with
  | nil => cases hlast
  | append_singleton bs c ih =>
    rw [exec_append] at h
    obtain ⟨u, hu, ht⟩ := Option.bind_eq_some_iff.mp h
    obtain ⟨t', ht', hend⟩ := Option.bind_eq_some_iff.mp ht
    cases Option.some.inj hend
    obtain ⟨a, hkey, hput, rfl⟩ := hstep u c t ht'
    rw [lastWriter_append_singleton] at hlast
    by_cases hc : writes c = k
    · rw [if_pos hc] at hlast
      cases hlast
      rw [← hc, ← hkey]
      exact ⟨a, get?_put u a, hput⟩
    · rw [if_neg hc] at hlast
      rw [get?_put_of_ne u (hkey ▸ Ne.symm hc)]
      exact ih hu hlast

end Keyed
