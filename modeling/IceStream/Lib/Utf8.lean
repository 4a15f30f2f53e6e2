import IceStream.Lib.Bytes

/-!
# Writing UTF-8

What is encoded is decoded to the same text, whatever the length of its code points.
-/

namespace Python

/-- A byte that goes on with a code point. -/
def continuation (n : ℕ) : UInt8 := UInt8.ofNat (0x80 + n % 64)

/-- The bytes of one code point. -/
def encodeCodePoint (c : CodePoint) : Bytes :=
  if c.val < 0x80 then [UInt8.ofNat c.val]
  else if c.val < 0x800 then [UInt8.ofNat (0xC0 + c.val / 64), continuation c.val]
  else if c.val < 0x10000 then
    [UInt8.ofNat (0xE0 + c.val / 4096), continuation (c.val / 64), continuation c.val]
  else
    [UInt8.ofNat (0xF0 + c.val / 262144), continuation (c.val / 4096), continuation (c.val / 64),
      continuation c.val]

/-- `t.encode("utf-8")`, for a text without surrogates. -/
def encodeUtf8 (t : Text) : Bytes := t.flatMap encodeCodePoint

theorem toNat_lead {n : ℕ} (h : n < 256) : (UInt8.ofNat n).toNat = n := by
  rw [UInt8.toNat_ofNat']
  exact Nat.mod_eq_of_lt h

theorem toNat_continuation (n : ℕ) : (continuation n).toNat = 0x80 + n % 64 := by
  apply toNat_lead
  omega

theorem isContinuation_continuation (n : ℕ) : isContinuation (continuation n) = true := by
  rw [isContinuation, toNat_continuation, Bool.and_eq_true, decide_eq_true_eq, decide_eq_true_eq]
  omega

theorem low6_continuation (n : ℕ) : low6 (continuation n) = n % 64 := by
  rw [low6, toNat_continuation]
  omega

/-- The second byte of a code point that is neither written too long, nor a surrogate, nor
beyond the last one. -/
theorem isSecond_continuation {lead : UInt8} {n : ℕ}
    (hthree : lead.toNat = 0xE0 → 0x20 ≤ n % 64) (hsurrogate : lead.toNat = 0xED → n % 64 < 0x20)
    (hfour : lead.toNat = 0xF0 → 0x10 ≤ n % 64) (hlast : lead.toNat = 0xF4 → n % 64 < 0x10) :
    isSecond lead (continuation n) = true := by
  have hlead (b : UInt8) : (lead != b) = true ∨ lead.toNat = b.toNat := by
    rw [bne_iff_ne]
    by_cases h : lead = b
    · exact .inr (congrArg UInt8.toNat h)
    · exact .inl h
  simp only [isSecond, isContinuation_continuation, Bool.true_and, Bool.and_eq_true, Bool.or_eq_true,
    decide_eq_true_eq, toNat_continuation]
  refine ⟨⟨⟨?_, ?_⟩, ?_⟩, ?_⟩
  · obtain h | h := hlead 0xE0
    · exact .inl h
    · have := hthree h
      exact .inr (by omega)
  · obtain h | h := hlead 0xED
    · exact .inl h
    · have := hsurrogate h
      exact .inr (by omega)
  · obtain h | h := hlead 0xF0
    · exact .inl h
    · have := hfour h
      exact .inr (by omega)
  · obtain h | h := hlead 0xF4
    · exact .inl h
    · have := hlast h
      exact .inr (by omega)

/-- One code point is decoded, and the rest after it. -/
theorem decodeUtf8At_encodeCodePoint {c : CodePoint} (h : ¬IsSurrogate c) (pos : ℕ) (rest : Bytes) :
    ∃ pos', decodeUtf8At pos (encodeCodePoint c ++ rest) =
      (decodeUtf8At pos' rest).map (c :: ·) := by
  have hlt : c.val < 0x110000 := c.isLt
  have hval : codePoint c.val = c := Fin.ofNat_val_eq_self c
  rw [encodeCodePoint]
  split_ifs with hone htwo hthree
  · refine ⟨pos + 1, ?_⟩
    have hlead : (UInt8.ofNat c.val).toNat = c.val := toNat_lead (by omega)
    rw [List.singleton_append, decodeUtf8At.eq_def]
    simp only [hlead, if_pos hone, hval]
  · refine ⟨pos + 2, ?_⟩
    have hlead : (UInt8.ofNat (0xC0 + c.val / 64)).toNat = 0xC0 + c.val / 64 := toNat_lead (by omega)
    have hjoin : (0xC0 + c.val / 64) % 32 * 64 + c.val % 64 = c.val := by omega
    rw [List.cons_append, decodeUtf8At.eq_def]
    simp only [List.cons_append, List.nil_append, hlead,
      if_neg (show ¬0xC0 + c.val / 64 < 0x80 by omega),
      if_neg (show ¬0xC0 + c.val / 64 < 0xC2 by omega),
      if_pos (show 0xC0 + c.val / 64 < 0xE0 by omega), isContinuation_continuation,
      low6_continuation, hjoin, hval]
    rfl
  · refine ⟨pos + 3, ?_⟩
    have hlead : (UInt8.ofNat (0xE0 + c.val / 4096)).toNat = 0xE0 + c.val / 4096 :=
      toNat_lead (by omega)
    have hjoin : ((0xE0 + c.val / 4096) % 16 * 64 + c.val / 64 % 64) * 64 + c.val % 64 = c.val := by
      omega
    have hsecond : isSecond (UInt8.ofNat (0xE0 + c.val / 4096)) (continuation (c.val / 64)) = true := by
      rw [IsSurrogate] at h
      apply isSecond_continuation <;> rw [hlead] <;> omega
    rw [List.cons_append, decodeUtf8At.eq_def]
    simp only [List.cons_append, List.nil_append, hlead,
      if_neg (show ¬0xE0 + c.val / 4096 < 0x80 by omega),
      if_neg (show ¬0xE0 + c.val / 4096 < 0xC2 by omega),
      if_neg (show ¬0xE0 + c.val / 4096 < 0xE0 by omega),
      if_pos (show 0xE0 + c.val / 4096 < 0xF0 by omega), hsecond, isContinuation_continuation,
      low6_continuation, hjoin, hval]
    rfl
  · refine ⟨pos + 4, ?_⟩
    have hlead : (UInt8.ofNat (0xF0 + c.val / 262144)).toNat = 0xF0 + c.val / 262144 :=
      toNat_lead (by omega)
    have hjoin : (((0xF0 + c.val / 262144) % 8 * 64 + c.val / 4096 % 64) * 64 + c.val / 64 % 64) * 64 +
        c.val % 64 = c.val := by
      omega
    have hsecond : isSecond (UInt8.ofNat (0xF0 + c.val / 262144)) (continuation (c.val / 4096)) =
        true := by
      apply isSecond_continuation <;> rw [hlead] <;> omega
    rw [List.cons_append, decodeUtf8At.eq_def]
    simp only [List.cons_append, List.nil_append, hlead,
      if_neg (show ¬0xF0 + c.val / 262144 < 0x80 by omega),
      if_neg (show ¬0xF0 + c.val / 262144 < 0xC2 by omega),
      if_neg (show ¬0xF0 + c.val / 262144 < 0xE0 by omega),
      if_neg (show ¬0xF0 + c.val / 262144 < 0xF0 by omega),
      if_pos (show 0xF0 + c.val / 262144 < 0xF5 by omega), hsecond, isContinuation_continuation,
      low6_continuation, hjoin, hval]
    rfl

theorem decodeUtf8At_encodeUtf8 {t : Text} (h : Encodable t) (pos : ℕ) :
    decodeUtf8At pos (encodeUtf8 t) = .ok t := by
  induction t generalizing pos with
  | nil => rfl
  | cons c t ih =>
    obtain ⟨pos', hfirst⟩ := decodeUtf8At_encodeCodePoint (h c List.mem_cons_self) pos (encodeUtf8 t)
    have hrest : encodeUtf8 (c :: t) = encodeCodePoint c ++ encodeUtf8 t := rfl
    rw [hrest, hfirst, ih fun d hd => h d (List.mem_cons_of_mem c hd)]
    rfl

/-- What is encoded is decoded again. -/
theorem decodeUtf8_encodeUtf8 {t : Text} (h : Encodable t) : decodeUtf8 (encodeUtf8 t) = .ok t :=
  decodeUtf8At_encodeUtf8 h 0

end Python
