import Mathlib.Data.List.Forall2
import Mathlib.Data.List.Lex
import Mathlib.Data.List.Sort
import Mathlib.Tactic.Ring

/-!
# Python values and exceptions

Text is a list of code points, surrogates included: a `str` read from an escape
may hold a lone surrogate, and encoding such a text raises.
-/

namespace Python

instance neZero_codePoints : NeZero 0x110000 := ⟨by decide⟩

abbrev CodePoint := Fin 0x110000

abbrev Text := List CodePoint

instance lawfulBEq_text : LawfulBEq Text := List.instLawfulBEq

theorem char_lt (c : Char) : c.toNat < 0x110000 := by
  obtain h | h := c.valid
  · have hc : c.toNat < 0xD800 := h
    omega
  · exact h.2

/-- The text of a literal. -/
def text (s : String) : Text := s.toList.map fun c => ⟨c.toNat, char_lt c⟩

instance : Coe String Text := ⟨text⟩

def IsSurrogate (c : CodePoint) : Prop := 0xD800 ≤ c.val ∧ c.val ≤ 0xDFFF

instance (c : CodePoint) : Decidable (IsSurrogate c) :=
  inferInstanceAs (Decidable (_ ∧ _))

/-- `t.encode("utf-8")` raises on every other text. -/
def Encodable (t : Text) : Prop := ∀ c ∈ t, ¬IsSurrogate c

instance (t : Text) : Decidable (Encodable t) := List.decidableBAll (fun c => ¬IsSurrogate c) t

theorem encodable_text (s : String) : Encodable (text s) := by
  intro c hc
  obtain ⟨d, -, rfl⟩ := List.mem_map.mp hc
  rintro ⟨hlow, hhigh⟩
  obtain h | h := d.valid
  · have hd : d.toNat < 0xD800 := h
    exact absurd hlow (Nat.not_le.mpr hd)
  · have hd : 0xDFFF < d.toNat := h.1
    exact absurd hhigh (Nat.not_le.mpr hd)

theorem encodable_append {s t : Text} : Encodable (s ++ t) ↔ Encodable s ∧ Encodable t := by
  simp only [Encodable, List.mem_append, or_imp, forall_and]

/-- A joined text is encodable when its parts and, between two of them, the
separator are. -/
theorem encodable_intercalate {sep : Text} (hsep : Encodable sep) (ts : List Text) :
    Encodable (sep.intercalate ts) ↔ ∀ t ∈ ts, Encodable t := by
  induction ts with
  | nil => simp [Encodable]
  | cons t ts ih =>
    cases ts with
    | nil => simp
    | cons t' ts =>
      rw [List.intercalate_cons_cons, encodable_append, encodable_append, ih]
      simp [hsep]

/-- The code points `str.strip` removes. -/
def isSpace (c : CodePoint) : Bool :=
  (9 ≤ c.val && c.val ≤ 13) || (28 ≤ c.val && c.val ≤ 32) || c.val == 0x85 || c.val == 0xA0 ||
    c.val == 0x1680 || (0x2000 ≤ c.val && c.val ≤ 0x200A) || c.val == 0x2028 ||
    c.val == 0x2029 || c.val == 0x202F || c.val == 0x205F || c.val == 0x3000

def strip (t : Text) : Text :=
  ((t.dropWhile isSpace).reverse.dropWhile isSpace).reverse

theorem small_lt {c : CodePoint} (h : 65 ≤ c.val ∧ c.val ≤ 90) : c.val + 32 < 0x110000 := by
  omega

/-- ASCII lower case, enough to compare with an ASCII word. -/
def lower (t : Text) : Text :=
  t.map fun c => if h : 65 ≤ c.val ∧ c.val ≤ 90 then ⟨c.val + 32, small_lt h⟩ else c

/-- An exception: its class, whether that class is a `ValueError`, and its text. -/
structure Exc where
  name : String
  isValueError : Bool
  message : Text
  deriving DecidableEq

def valueError (message : Text) : Exc := ⟨"ValueError", true, message⟩
def typeError (message : Text) : Exc := ⟨"TypeError", false, message⟩
def attributeError (message : Text) : Exc := ⟨"AttributeError", false, message⟩
def overflowError (message : Text) : Exc := ⟨"OverflowError", false, message⟩
def recursionError (message : Text) : Exc := ⟨"RecursionError", false, message⟩

/-- `UnicodeEncodeError` is a `ValueError`. -/
def unicodeEncodeError : Exc :=
  ⟨"UnicodeEncodeError", true, "'utf-8' codec can't encode characters: surrogates not allowed"⟩

section

variable {α β : Type} {f : α → Except Exc β} {xs : List α} {ys : List β}

/-- Of two steps that succeed, each does. -/
theorem bind_eq_ok {x : Except Exc α} {y : β} (h : (x >>= f) = .ok y) :
    ∃ a, x = .ok a ∧ f a = .ok y := by
  cases x with
  | error e => cases h
  | ok a => exact ⟨a, rfl, h⟩

theorem map_eq_ok {x : Except Exc α} {g : α → β} {y : β} (h : x.map g = .ok y) :
    ∃ a, x = .ok a ∧ g a = y := by
  cases x with
  | error e => cases h
  | ok a => exact ⟨a, rfl, Except.ok.inj h⟩

/-- A list is collected where every part is. -/
theorem mapM_eq_ok_iff : xs.mapM f = .ok ys ↔ List.Forall₂ (fun x y => f x = .ok y) xs ys := by
  induction xs generalizing ys with
  | nil =>
    rw [List.mapM_nil, List.forall₂_nil_left_iff]
    exact ⟨fun h => (Except.ok.inj h).symm, fun h => congrArg Except.ok h.symm⟩
  | cons x xs ih =>
    rw [List.mapM_cons, List.forall₂_cons_left_iff]
    constructor
    · intro h
      cases hx : f x with
      | error e =>
        rw [hx] at h
        cases h
      | ok y =>
        rw [hx] at h
        cases hxs : xs.mapM f with
        | error e =>
          rw [hxs] at h
          cases h
        | ok ys' =>
          rw [hxs] at h
          exact ⟨y, ys', rfl, ih.mp hxs, (Except.ok.inj h).symm⟩
    · rintro ⟨y, ys', hx, hxs, rfl⟩
      rw [hx, ih.mpr hxs]
      rfl

/-- A list in which every part can be collected can be collected. -/
theorem exists_mapM_eq_ok_iff : (∃ ys, xs.mapM f = .ok ys) ↔ ∀ x ∈ xs, ∃ y, f x = .ok y := by
  simp only [mapM_eq_ok_iff]
  induction xs with
  | nil => simp
  | cons x xs ih =>
    rw [List.forall_mem_cons, ← ih]
    simp only [List.forall₂_cons_left_iff]
    constructor
    · rintro ⟨-, y, ys, hx, hxs, -⟩
      exact ⟨⟨y, hx⟩, ys, hxs⟩
    · rintro ⟨⟨y, hx⟩, ys, hxs⟩
      exact ⟨_, y, ys, hx, hxs, rfl⟩

end

/-- A computation over `σ` that may raise; what it changed before raising stays changed. -/
def Fallible (σ α : Type) := σ → Except Exc α × σ

namespace Fallible

variable {σ α β : Type}

instance : Monad (Fallible σ) where
  pure a := fun s => (.ok a, s)
  bind x f := fun s =>
    match x s with
    | (.ok a, s') => f a s'
    | (.error e, s') => (.error e, s')

def raise (e : Exc) : Fallible σ α := fun s => (.error e, s)

def read (f : σ → α) : Fallible σ α := fun s => (.ok (f s), s)

def update (f : σ → σ) : Fallible σ Unit := fun s => (.ok (), f s)

/-- `try: x except Exception as e: handler(e)`. -/
def catching (x : Fallible σ α) (handler : Exc → Fallible σ α) : Fallible σ α := fun s =>
  match x s with
  | (.ok a, s') => (.ok a, s')
  | (.error e, s') => handler e s'

/-- What a `try` around `x` gets to see. -/
def attempt (x : Fallible σ α) : Fallible σ (Except Exc α) := fun s =>
  (.ok (x s).1, (x s).2)

/-- `try: x finally: cleanup` -/
def ensuring (x : Fallible σ α) (cleanup : σ → σ) : Fallible σ α := fun s =>
  ((x s).1, cleanup (x s).2)

/-- `try: x finally: cleanup`, where the cleanup may raise as well. -/
def andFinally (x : Fallible σ α) (cleanup : Fallible σ Unit) : Fallible σ α := fun s =>
  match cleanup (x s).2 with
  | (.ok (), s') => ((x s).1, s')
  | (.error e, s') => (.error e, s')

@[simp] theorem attempt_apply (x : Fallible σ α) (s : σ) :
    attempt x s = (.ok (x s).1, (x s).2) := rfl

@[simp] theorem attempt_bind (x : Fallible σ α) (f : Except Exc α → Fallible σ β) (s : σ) :
    (attempt x >>= f) s = f (x s).1 (x s).2 := rfl

@[simp] theorem pure_apply (a : α) (s : σ) : (pure a : Fallible σ α) s = (.ok a, s) := rfl

@[simp] theorem raise_apply (e : Exc) (s : σ) :
    (raise e : Fallible σ α) s = (.error e, s) := rfl

@[simp] theorem read_apply (f : σ → α) (s : σ) : read f s = (.ok (f s), s) := rfl

@[simp] theorem update_apply (f : σ → σ) (s : σ) : update f s = (.ok (), f s) := rfl

theorem bind_ok {x : Fallible σ α} {f : α → Fallible σ β} {s s' : σ} {a : α}
    (h : x s = (.ok a, s')) : (x >>= f) s = f a s' := by
  change (match x s with
    | (.ok a, s') => f a s'
    | (.error e, s') => (.error e, s')) = _
  rw [h]

theorem bind_error {x : Fallible σ α} {f : α → Fallible σ β} {s s' : σ} {e : Exc}
    (h : x s = (.error e, s')) : (x >>= f) s = (.error e, s') := by
  change (match x s with
    | (.ok a, s') => f a s'
    | (.error e, s') => (.error e, s')) = _
  rw [h]

@[simp] theorem pure_bind (a : α) (f : α → Fallible σ β) : (pure a >>= f) = f a := rfl

@[simp] theorem update_bind (g : σ → σ) (f : Unit → Fallible σ β) (s : σ) :
    (update g >>= f) s = f () (g s) := rfl

@[simp] theorem read_bind (g : σ → α) (f : α → Fallible σ β) (s : σ) :
    (read g >>= f) s = f (g s) s := rfl

@[simp] theorem raise_bind (e : Exc) (f : α → Fallible σ β) (s : σ) :
    (raise e >>= f) s = (.error e, s) := rfl

theorem catching_ok {x : Fallible σ α} {handler : Exc → Fallible σ α} {s s' : σ} {a : α}
    (h : x s = (.ok a, s')) : catching x handler s = (.ok a, s') := by
  rw [catching, h]

theorem catching_error {x : Fallible σ α} {handler : Exc → Fallible σ α} {s s' : σ} {e : Exc}
    (h : x s = (.error e, s')) : catching x handler s = handler e s' := by
  rw [catching, h]

/-- A `try` whose handler does not raise does not raise. -/
theorem catching_total {x : Fallible σ α} {handler : Exc → Fallible σ α}
    (h : ∀ e s, ∃ a s', handler e s = (.ok a, s')) (s : σ) :
    ∃ a s', catching x handler s = (.ok a, s') := by
  rcases hx : x s with ⟨_ | _, s'⟩
  · rw [catching_error hx]
    exact h _ _
  · exact ⟨_, _, catching_ok hx⟩

end Fallible
end Python
