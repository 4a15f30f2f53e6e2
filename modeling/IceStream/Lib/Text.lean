import IceStream.Lib.Python

/-!
# Searching and replacing in a text
-/

namespace Python

/-- The text after `skip` more code points, with every `old` in it replaced. -/
def replaceFrom (old new : Text) (skip : ℕ) : Text → Text
  | [] => []
  | c :: rest => match skip with
    | skip + 1 => replaceFrom old new skip rest
    | 0 =>
      if old <+: c :: rest then new ++ replaceFrom old new (old.length - 1) rest
      else c :: replaceFrom old new 0 rest

/-- `t.replace(old, new)`, for an `old` that is not empty. -/
def replaceText (old new t : Text) : Text := replaceFrom old new 0 t

/-- Where the old text occurs, the new one does afterwards. -/
theorem infix_replaceText {old t : Text} (new : Text) (hold : old ≠ []) (h : old <:+: t) :
    new <:+: replaceText old new t := by
  induction t with
  | nil => exact absurd (List.infix_nil.mp h) hold
  | cons c rest ih =>
    unfold replaceText replaceFrom
    by_cases hprefix : old <+: c :: rest
    · rw [if_pos hprefix]
      exact (List.prefix_append new _).isInfix
    · rw [if_neg hprefix]
      obtain hnow | hlater := List.infix_cons_iff.mp h
      · exact absurd hnow hprefix
      · exact List.infix_cons (ih hlater)

/-- `t.lower()` as far as it makes ASCII: besides the capitals, the Kelvin sign and the
dotted capital I do. -/
def lowerText (t : Text) : Text :=
  t.flatMap fun c =>
    if h : 65 ≤ c.val ∧ c.val ≤ 90 then [⟨c.val + 32, small_lt h⟩]
    else if c.val = 0x212A then [⟨0x6B, by decide⟩]
    else if c.val = 0x130 then [⟨0x69, by decide⟩, ⟨0x307, by decide⟩]
    else [c]

/-- The other characters whose capitals are in ASCII. -/
def upperSpecial : List (CodePoint × Text) :=
  [(0xDF, "SS"), (0x131, "I"), (0x17F, "S"), (0xFB00, "FF"), (0xFB01, "FI"), (0xFB02, "FL"),
    (0xFB03, "FFI"), (0xFB04, "FFL"), (0xFB05, "ST"), (0xFB06, "ST")]

/-- `t.upper()` as far as all of a character's capital is ASCII. -/
def upperText (t : Text) : Text :=
  t.flatMap fun c =>
    if h : 97 ≤ c.val ∧ c.val ≤ 122 then [⟨c.val - 32, by omega⟩]
    else (upperSpecial.lookup c).getD [c]

/-- A text in which the old one does not occur stays as it is. -/
theorem replaceText_of_not_infix {old t : Text} (new : Text) (h : ¬old <:+: t) :
    replaceText old new t = t := by
  induction t with
  | nil => rfl
  | cons c rest ih =>
    unfold replaceText replaceFrom
    have hprefix : ¬old <+: c :: rest := fun hnow => h hnow.isInfix
    have hrest : ¬old <:+: rest := fun hlater => h (List.infix_cons hlater)
    rw [if_neg hprefix]
    exact congrArg (c :: ·) (ih hrest)

/-! ### A single character -/

section

variable (z : CodePoint) (new : Text)

theorem replaceText_singleton_cons (c : CodePoint) (t : Text) :
    replaceText [z] new (c :: t) = (if c = z then new else [c]) ++ replaceText [z] new t := by
  have hstarts : [z] <+: c :: t ↔ c = z := by
    rw [List.cons_prefix_cons, and_iff_left List.nil_prefix, eq_comm]
  rw [replaceText, replaceFrom]
  by_cases hc : c = z
  · rw [if_pos (hstarts.mpr hc), if_pos hc]
    rfl
  · rw [if_neg (hc ∘ hstarts.mp), if_neg hc]
    rfl

theorem replaceText_singleton_append (t t' : Text) :
    replaceText [z] new (t ++ t') = replaceText [z] new t ++ replaceText [z] new t' := by
  induction t with
  | nil => rfl
  | cons c t ih =>
    rw [List.cons_append, replaceText_singleton_cons, ih, replaceText_singleton_cons,
      List.append_assoc]

variable {z}

theorem replaceText_singleton_of_not_mem {t : Text} (h : z ∉ t) : replaceText [z] new t = t := by
  apply replaceText_of_not_infix
  intro hinside
  exact h (hinside.subset List.mem_cons_self)

end

/-- Spaces inside stay. -/
theorem strip_of_ends {first last : CodePoint} {middle : Text} (hfirst : isSpace first = false)
    (hlast : isSpace last = false) :
    strip (first :: (middle ++ [last])) = first :: (middle ++ [last]) := by
  have hfirst' : ¬isSpace first = true := by simp [hfirst]
  have hlast' : ¬isSpace last = true := by simp [hlast]
  rw [strip, List.dropWhile_cons_of_neg hfirst', List.reverse_cons, List.reverse_append,
    List.reverse_singleton, List.singleton_append, List.cons_append,
    List.dropWhile_cons_of_neg hlast']
  simp

/-! ## URLs -/

def isAsciiAlpha (c : CodePoint) : Bool :=
  (65 ≤ c.val && c.val ≤ 90) || (97 ≤ c.val && c.val ≤ 122)

/-- A letter, a digit, `+`, `-` or `.` -/
def isSchemeChar (c : CodePoint) : Bool :=
  isAsciiAlpha c || (48 ≤ c.val && c.val ≤ 57) || c.val == 0x2B || c.val == 0x2D || c.val == 0x2E

/-- What follows the colon of the scheme, where there is one. -/
def afterScheme (url : Text) : Text :=
  let scheme := url.takeWhile (·.val != 0x3A)
  match url.drop scheme.length with
  | [] => url
  | _ :: rest => if (scheme.head?.any isAsciiAlpha) && scheme.all isSchemeChar then rest else url

/-- The `netloc` and the `path` of `urlparse(url)`. -/
def urlparse (url : Text) : Text × Text :=
  let url := (url.dropWhile (·.val ≤ 0x20)).filter fun c => !(c.val == 9 || c.val == 10 || c.val == 13)
  let rest := afterScheme url
  let (netloc, rest) := if text "//" <+: rest then
      (rest.drop 2).span fun c => !(c.val == 0x2F || c.val == 0x3F || c.val == 0x23)
    else ([], rest)
  (netloc, (rest.takeWhile (·.val != 0x23)).takeWhile (·.val != 0x3F))

example : urlparse "s3://warehouse/bronze/events" = (text "warehouse", text "/bronze/events") := by
  decide +kernel

end Python
