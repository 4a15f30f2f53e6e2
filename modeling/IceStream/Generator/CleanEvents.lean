import IceStream.Generator.DataGenerator
import IceStream.Lib.JsonBytes
import IceStream.Remediation.Timestamps
import IceStream.Rules.Gate

/-!
# Clean events pass the rules

The time that the generator writes is read back by the rules, to the millisecond; and none of
the rules has anything against an event as the generator makes them.
-/

namespace IceStream.Generator
open Python Fallible Remediation

/-! ## The time of an event -/

/-- The whole milliseconds of an instant. -/
def wholeMillis (t : Instant) : Instant := t - t % 1000

theorem isInstant_wholeMillis {t : Instant} (h : IsInstant t) : IsInstant (wholeMillis t) := by
  have hlow : (-62135596800000000 : ℤ) ≤ t := h.1
  constructor
  · change (-62135596800000000 : ℤ) ≤ t - t % 1000
    omega
  · exact (sub_le_self t (Int.emod_nonneg t (by decide))).trans h.2

theorem sinceFirst_wholeMillis {t : Instant} (h : IsInstant t) :
    sinceFirst (wholeMillis t) = sinceFirst t / 1000 * 1000 := by
  have hlow : (-62135596800000000 : ℤ) ≤ t := h.1
  have hmillis : sinceFirst (wholeMillis t) = (t - t % 1000 + 62135596800000000 : ℤ).toNat := rfl
  have hsince : sinceFirst t = (t + 62135596800000000 : ℤ).toNat := rfl
  rw [hmillis, hsince]
  omega

/-- The text before the `Z`. -/
def shownFront (t : Instant) : Text :=
  let seconds := sinceFirst t / 1000000
  dateText (dateOfSeconds seconds).1 (dateOfSeconds seconds).2.1 (dateOfSeconds seconds).2.2 ++
    ⟨0x54, by decide⟩ :: (clockText (seconds / 3600 % 24) (seconds / 60 % 60) ++
      (text ":" ++ (padded 2 (seconds % 60) ++
        (text "." ++ padded 3 (sinceFirst t % 1000000 / 1000)))))

theorem text_shownTime (t : Instant) : text (shownTime t) = shownFront t ++ text "Z" := by
  have htime (rest : Text) : text "T" ++ rest = ⟨0x54, by decide⟩ :: rest := rfl
  have hdate : fromOrdinal ((t - minInstant).toNat / 1000000 / 86400 + 1) =
      dateOfSeconds (sinceFirst t / 1000000) := rfl
  have hsince : (t - minInstant).toNat = sinceFirst t := rfl
  rw [shownTime, shownFront, hdate, hsince]
  dsimp only
  rw [← htime]
  generalize dateOfSeconds (sinceFirst t / 1000000) = date
  generalize sinceFirst t = micros
  obtain ⟨year, month, day⟩ := date
  simp only [text_append, dateText, clockText, padded, List.append_assoc]

/-- No character of the text is a `Z`. -/
def WithoutZ (t : Text) : Prop := (0x5A : CodePoint) ∉ t

theorem withoutZ_append {s t : Text} (hs : WithoutZ s) (ht : WithoutZ t) : WithoutZ (s ++ t) := by
  intro h
  obtain h | h := List.mem_append.mp h
  · exact hs h
  · exact ht h

theorem withoutZ_padded (width n : ℕ) : WithoutZ (padded width n) := by
  intro h
  have hdigit := padded_isDigits width n _ h
  revert hdigit
  decide

theorem withoutZ_cons {c : CodePoint} {t : Text} (hc : c ≠ 0x5A) (ht : WithoutZ t) :
    WithoutZ (c :: t) := by
  intro h
  obtain h | h := List.mem_cons.mp h
  · exact hc h.symm
  · exact ht h

theorem withoutZ_mark {c : CodePoint} (hc : c ≠ 0x5A) : WithoutZ [c] :=
  withoutZ_cons hc List.not_mem_nil

theorem withoutZ_dateText (year month day : ℕ) : WithoutZ (dateText year month day) := by
  have hdash : WithoutZ (text "-") := withoutZ_mark (by decide)
  unfold dateText
  apply withoutZ_append (withoutZ_padded 4 year)
  apply withoutZ_append hdash
  apply withoutZ_append (withoutZ_padded 2 month)
  exact withoutZ_append hdash (withoutZ_padded 2 day)

theorem withoutZ_clockText (hour minute : ℕ) : WithoutZ (clockText hour minute) := by
  have hcolon : WithoutZ (text ":") := withoutZ_mark (by decide)
  unfold clockText
  apply withoutZ_append (withoutZ_padded 2 hour)
  exact withoutZ_append hcolon (withoutZ_padded 2 minute)

theorem withoutZ_shownFront (t : Instant) : WithoutZ (shownFront t) := by
  have hcolon : WithoutZ (text ":") := withoutZ_mark (by decide)
  have hpoint : WithoutZ (text ".") := withoutZ_mark (by decide)
  unfold shownFront
  apply withoutZ_append (withoutZ_dateText _ _ _)
  apply withoutZ_cons (by decide)
  apply withoutZ_append (withoutZ_clockText _ _)
  apply withoutZ_append hcolon
  apply withoutZ_append (withoutZ_padded 2 _)
  exact withoutZ_append hpoint (withoutZ_padded 3 _)

theorem eachZ_shownTime (t : Instant) :
    eachZ (text (shownTime t)) = shownFront t ++ text "+00:00" := by
  have hlast : text "Z" = [(0x5A : CodePoint)] := rfl
  rw [text_shownTime, hlast, eachZ_snoc, if_pos rfl, eachZ_of_not_mem (withoutZ_shownFront t)]

theorem lastZ_shownTime (t : Instant) :
    lastZ (text (shownTime t)) = shownFront t ++ text "+00:00" := by
  have hlast : text "Z" = [(0x5A : CodePoint)] := rfl
  rw [text_shownTime, hlast, lastZ_snoc _ (by decide), if_pos rfl]

/-- The time is read as that of the whole milliseconds, in UTC. -/
theorem read_shownTime {t : Instant} (h : IsInstant t) :
    ∃ dt, fromisoformat (shownFront t ++ text "+00:00") = some dt ∧
      dt.wall = wholeMillis t ∧ dt.offset = some 0 := by
  obtain ⟨dt, hdt, hwall, hoffset⟩ := mkDateTime_instant (isInstant_wholeMillis h)
  refine ⟨dt, ?_, hwall, hoffset⟩
  have hhigh : sinceFirst t ≤ 315537897599999999 :=
    Int.toNat_le.mpr (sub_le_sub_right h.2 minInstant)
  rw [sinceFirst_wholeMillis h] at hdt
  have hseconds : sinceFirst t / 1000 * 1000 / 1000000 = sinceFirst t / 1000000 := by omega
  have hmicros : sinceFirst t / 1000 * 1000 % 1000000 =
      sinceFirst t % 1000000 / 1000 * 10 ^ (6 - 3) := by
    norm_num
    omega
  rw [hseconds, hmicros] at hdt
  obtain ⟨hyear, hmonth, hday, -⟩ :=
    @dateOfSeconds_spec (sinceFirst t / 1000000) (by omega)
  have hdays := hday.2.trans (daysInMonth_le _ _)
  have hfraction : isoFraction (text "." ++ padded 3 (sinceFirst t % 1000000 / 1000)) =
      some (sinceFirst t % 1000000 / 1000 * 10 ^ (6 - 3)) :=
    isoFraction_padded (by decide) (by decide) (by omega)
  have htime := isoTime_seconds (show sinceFirst t / 1000000 / 3600 % 24 < 100 by omega)
    (show sinceFirst t / 1000000 / 60 % 60 < 100 by omega)
    (show sinceFirst t / 1000000 % 60 < 100 by omega) hfraction
  have hzone : isoZone (text "+00:00") = some (some 0) := rfl
  have hmark : ∀ c ∈ (text "+00:00").head?, isZoneMark c = true := by
    intro c hc
    obtain rfl := Option.some.inj hc
    rfl
  have hread := fromisoformat_dateText (show (dateOfSeconds (sinceFirst t / 1000000)).1 < 10000 by omega)
    (show (dateOfSeconds (sinceFirst t / 1000000)).2.1 < 100 by omega)
    (show (dateOfSeconds (sinceFirst t / 1000000)).2.2 < 100 by omega) ⟨0x54, by decide⟩ htime
    (unmarked_seconds _ _ _ (unmarked_append unmarked_point (unmarked_padded 3 _))) hzone hmark
  rw [shownFront, List.append_assoc, List.cons_append]
  exact hread.trans hdt

section

variable {t : Instant}

theorem strip_shownTime (h : IsInstant t) : strip (text (shownTime t)) = text (shownTime t) := by
  obtain ⟨dt, hread, -, -⟩ := read_shownTime h
  exact strip_of_read ((congrArg fromisoformat (eachZ_shownTime t)).trans hread)

theorem readTimestamp_shownTime (h : IsInstant t) :
    ∃ dt, readTimestamp (text (shownTime t)) = some dt := by
  obtain ⟨dt, hread, -, -⟩ := read_shownTime h
  refine ⟨dt, ?_⟩
  rw [readTimestamp, strip_shownTime h]
  exact (congrArg fromisoformat (eachZ_shownTime t)).trans hread

/-- The detectors read the time to the millisecond. -/
theorem parseIsoTimestamp_shownTime (platform : Platform) (h : IsInstant t) :
    parseIsoTimestamp platform (.str (text (shownTime t))) = .ok (some (wholeMillis t)) := by
  obtain ⟨dt, hread, hwall, hoffset⟩ := read_shownTime h
  have hutc : dt.utc = .ok (wholeMillis t) := by
    rw [DateTime.utc, hoffset, ← hwall]
    rfl
  rw [parseIsoTimestamp_str, strip_shownTime h, lastZ_shownTime, hread]
  dsimp only
  rw [hutc]
  rfl

end

/-! ## The time of ingestion -/

section

variable {dt : DateTime}

theorem withoutZ_isoformat (h : dt.offset = some 0) : WithoutZ (text dt.isoformat) := by
  have hcolon : WithoutZ (text ":") := withoutZ_mark (by decide)
  have hpoint : WithoutZ (text ".") := withoutZ_mark (by decide)
  have hfraction : WithoutZ (fractionText dt.microsecond) := by
    rw [fractionText]
    split_ifs
    · exact List.not_mem_nil
    · exact withoutZ_append hpoint (withoutZ_padded 6 _)
  have hzone : WithoutZ (zoneText (some 0)) := by
    have hshown : zoneText (some 0) = text "+00:00" := rfl
    unfold WithoutZ
    rw [hshown]
    decide
  rw [text_isoformat, h]
  apply withoutZ_append (withoutZ_dateText _ _ _)
  apply withoutZ_cons (by decide)
  refine withoutZ_append ?_ hzone
  apply withoutZ_append (withoutZ_clockText _ _)
  apply withoutZ_append hcolon
  exact withoutZ_append (withoutZ_padded 2 _) hfraction

/-- What `isoformat` writes in UTC is read by the rule. -/
theorem readTimestamp_isoformat (h : dt.offset = some 0) :
    strip (text dt.isoformat) = text dt.isoformat ∧ readTimestamp (text dt.isoformat) = some dt := by
  have hread : fromisoformat (eachZ (text dt.isoformat)) = some dt := by
    rw [eachZ_of_not_mem (withoutZ_isoformat h)]
    exact fromisoformat_isoformat dt
  have hstrip := strip_of_read hread
  refine ⟨hstrip, ?_⟩
  rw [readTimestamp, hstrip]
  exact hread

/-- The detectors read it as the reading of its clock. -/
theorem parseIsoTimestamp_isoformat (platform : Platform) (h : dt.offset = some 0) :
    parseIsoTimestamp platform (.str (text dt.isoformat)) = .ok (some dt.wall) := by
  have hinner : ¬InnerZ (text dt.isoformat) := fun hz =>
    withoutZ_isoformat h (List.mem_of_mem_dropLast hz)
  have hsmall : ¬EndsSmall (text dt.isoformat) := by
    intro hsmall
    obtain ⟨front, last, hlast, hend⟩ := fromisoformat_ends (fromisoformat_isoformat dt)
    rw [hlast, endsSmall_snoc] at hsmall
    subst hsmall
    revert hend
    decide
  have hutc : dt.utc = .ok dt.wall := by
    rw [DateTime.utc, h]
    rfl
  rw [parseIsoTimestamp_str, (readTimestamp_isoformat h).1, ← eachZ_eq_lastZ hinner hsmall,
    eachZ_of_not_mem (withoutZ_isoformat h), fromisoformat_isoformat]
  dsimp only
  rw [hutc]
  rfl

end

/-! ## Values -/

/-- A text that begins with neither a space nor an `n` says something. -/
theorem populated_cons {c : CodePoint} (t : Text) (hc : isSpace c = false)
    (hn : lower [c] ≠ text "n") : Populated (.str (c :: t)) := by
  refine ⟨(by intro h; cases h), ?_⟩
  intro s hs
  obtain rfl := Json.str.inj hs
  obtain ⟨rest, hrest⟩ := strip_cons hc t
  rw [hrest]
  refine ⟨List.cons_ne_nil _ _, ?_⟩
  intro hnone
  have hfirst : lower (c :: rest) = lower [c] ++ lower rest := rfl
  have hword : text "none" = text "n" ++ text "one" := rfl
  rw [hfirst, hword] at hnone
  exact hn (List.append_inj_left hnone rfl)

/-- A timestamp that is read says something. -/
theorem populated_of_parsed {platform : Platform} {s : Text} {t : Instant}
    (h : parseIsoTimestamp platform (.str s) = .ok (some t)) : Populated (.str s) := by
  rw [parseIsoTimestamp_str] at h
  cases hread : fromisoformat (lastZ (strip s)) with
  | none =>
    rw [hread] at h
    cases h
  | some dt =>
    refine ⟨(by intro hnull; cases hnull), ?_⟩
    intro s' hs'
    obtain rfl := Json.str.inj hs'
    constructor
    · intro hblank
      rw [hblank] at hread
      cases hread
    · intro hnone
      rw [lastZ_unread_of_none hnone] at hread
      cases hread

theorem populated_text {s : String} (h : isNull (.str (text s)) = false) :
    Populated (.str (text s)) :=
  (populated_iff _).mpr h

/-- The amounts of the catalog are within the limit. -/
theorem within_amount {p : Product} {q : ℤ} (hp : p ∈ productCatalog)
    (hq : q ∈ weightedQuantities.map Prod.fst) :
    Within 500000 (roundTo 2 (Float.ofInt q * p.price)) := by
  have hall : ∀ p ∈ productCatalog, ∀ q ∈ weightedQuantities.map Prod.fst,
      0 < roundTo 2 (Float.ofInt q * p.price) ∧
        ¬500000 < roundTo 2 (Float.ofInt q * p.price) := by
    decide +kernel
  obtain ⟨hpos, hlimit⟩ := hall p hp q hq
  exact unpack_limit.within hpos hlimit

/-! ## The rules -/

namespace CheckoutEvent

/-- What an event has under the name of a field. -/
def valueOf (e : CheckoutEvent) : QualityField → Json
  | .eventId => .str e.eventId
  | .eventTime => .str e.eventTime
  | .customerId => .str e.customerId
  | .sessionId => .str e.sessionId
  | .orderId => .str e.orderId
  | .productId => .str e.productId
  | .quantity => .int e.quantity
  | .unitPrice => .float e.unitPrice
  | .amount => .float e.amount
  | .currency => .str e.currency
  | .paymentMethod => .str e.paymentMethod
  | .paymentStatus => .str e.paymentStatus
  | .device => .str e.device
  | .country => .str e.country
  | .source => .str e.source
  | .sourceVersion => .str e.sourceVersion
  | .ingestionTime => .null

theorem given_toDict (e : CheckoutEvent) (f : QualityField) : given e.toDict f = e.valueOf f := by
  cases f <;> rfl

variable {customers : List Text} {now : Instant} {e : CheckoutEvent}

/-- No guarded field of a clean event is blank. -/
theorem Clean.populated (h : e.Clean customers now) (hnow : IsInstant now)
    (hcustomers : ∀ c ∈ customers, ∃ n, c = text "CUS" ++ padded 6 n) {f : QualityField}
    (hf : f ∈ guardedFields) : Populated (e.valueOf f) := by
  have hnull {xs : List Text} (hall : ∀ x ∈ xs, isNull (.str x) = false) {x : Text} (hx : x ∈ xs) :
      Populated (.str x) := (populated_iff _).mpr (hall x hx)
  cases f with
  | eventId =>
    obtain ⟨n, hn⟩ := h.eventId
    rw [valueOf, hn]
    exact populated_cons _ (c := ⟨0x65, by decide⟩) (by decide) (by decide)
  | eventTime =>
    rw [valueOf, h.eventTime]
    exact populated_of_parsed (parseIsoTimestamp_shownTime .ascii hnow)
  | customerId =>
    obtain ⟨n, hn⟩ := hcustomers _ h.customerId
    rw [valueOf, hn]
    exact populated_cons _ (c := ⟨0x43, by decide⟩) (by decide) (by decide)
  | sessionId =>
    obtain ⟨n, hn⟩ := h.sessionId
    rw [valueOf, hn]
    exact populated_cons _ (c := ⟨0x53, by decide⟩) (by decide) (by decide)
  | orderId =>
    obtain ⟨n, hn⟩ := h.orderId
    rw [valueOf, hn]
    exact populated_cons _ (c := ⟨0x4F, by decide⟩) (by decide) (by decide)
  | productId =>
    obtain ⟨p, hp, hid, -⟩ := h.product
    rw [valueOf, hid]
    exact @hnull (productCatalog.map Product.id) (by decide) _ (List.mem_map_of_mem hp)
  | amount => exact (populated_iff _).mpr rfl
  | currency =>
    rw [valueOf, h.currency]
    exact populated_text (by decide)
  | paymentMethod => exact hnull (by decide) h.paymentMethod
  | paymentStatus => exact hnull (by decide) h.paymentStatus
  | device => exact hnull (by decide) h.device
  | country =>
    rw [valueOf, h.country]
    exact populated_text (by decide)
  | sourceVersion =>
    rw [valueOf, h.sourceVersion]
    exact populated_text (by decide)
  | quantity => exact absurd hf (by decide)
  | unitPrice => exact absurd hf (by decide)
  | source => exact absurd hf (by decide)
  | ingestionTime => exact absurd hf (by decide)

/-- No rule has anything against a clean event. -/
theorem Clean.passable (h : e.Clean customers now) (hnow : IsInstant now)
    (hcustomers : ∀ c ∈ customers, ∃ n, c = text "CUS" ++ padded 6 n) (platform : Platform) :
    Passable platform e.toDict := by
  obtain ⟨p, hp, -, hprice⟩ := h.product
  have hamount : Within 500000 e.amount := by
    rw [h.amount, hprice]
    exact within_amount hp h.quantity
  have hstatus : ∃ s ∈ paymentStatuses, e.paymentStatus = text s := by
    have hall : ∀ x ∈ weightedPaymentStatuses.map Prod.fst,
        ∃ s ∈ paymentStatuses, x = text s := by decide
    exact hall _ h.paymentStatus
  obtain ⟨status, hmem, hshown⟩ := hstatus
  have hnone : given e.toDict .ingestionTime = .null := e.given_toDict .ingestionTime
  constructor
  case quantity => exact ⟨.int e.quantity, rfl⟩
  case unitPrice => exact ⟨.float e.unitPrice, rfl⟩
  case populated =>
    intro f hf
    rw [e.given_toDict]
    exact h.populated hnow hcustomers hf
  case amount =>
    rw [e.given_toDict]
    exact .inl ⟨e.amount, rfl, hamount⟩
  case currency =>
    rw [e.given_toDict, valueOf, h.currency]
    exact ⟨"INR", by decide, rfl⟩
  case paymentStatus =>
    rw [e.given_toDict, valueOf, hshown]
    exact ⟨status, hmem, rfl⟩
  case eventTime =>
    rw [e.given_toDict, valueOf, h.eventTime]
    obtain ⟨dt, hread⟩ := readTimestamp_shownTime hnow
    exact ⟨_, dt, rfl, hread⟩
  case eventTime_read =>
    rw [e.given_toDict, valueOf, h.eventTime]
    exact ⟨_, parseIsoTimestamp_shownTime platform hnow⟩
  case ingestionTime =>
    intro v hv
    have habsent : e.toDict.get? (text "ingestion_time") = none := rfl
    rw [habsent] at hv
    cases hv
  case punctual =>
    intro eventTime _
    rw [hnone]
    exact ⟨none, rfl, fun reference hreference => by cases hreference⟩

theorem Clean.namesBaseline (h : e.Clean customers now) (u : Unicode) : NamesBaseline u e.toDict := by
  rw [NamesBaseline, e.given_toDict, valueOf, h.sourceVersion]
  have hversion : strip (text "v1") = text "v1" := by decide
  exact ⟨(by intro hnull; cases hnull), hversion⟩

/-- The fields that are texts. -/
def texts (e : CheckoutEvent) : List Text :=
  [e.eventId, e.eventTime, e.eventType, e.customerId, e.sessionId, e.orderId, e.productId,
    e.currency, e.paymentMethod, e.paymentStatus, e.device, e.country, e.source, e.sourceVersion]

theorem encodable_hexText (width n : ℕ) : Encodable (hexText width n) := by
  induction width generalizing n with
  | zero => exact fun c hc => absurd hc List.not_mem_nil
  | succ width ih => exact encodable_append.mpr ⟨ih (n / 16), encodable_text _⟩

theorem Clean.encodable (h : e.Clean customers now)
    (hcustomers : ∀ c ∈ customers, ∃ n, c = text "CUS" ++ padded 6 n) :
    ∀ t ∈ e.texts, Encodable t := by
  have hlisted {xs : List Text} (hall : ∀ x ∈ xs, Encodable x) {x : Text} (hx : x ∈ xs) :
      Encodable x := hall x hx
  simp only [texts, List.forall_mem_cons]
  refine ⟨?_, ?_, ?_, ?_, ?_, ?_, ?_, ?_, ?_, ?_, ?_, ?_, ?_, ?_, fun t ht => absurd ht List.not_mem_nil⟩
  · obtain ⟨n, hn⟩ := h.eventId
    rw [hn]
    refine encodable_append.mpr ⟨encodable_text _, ?_⟩
    exact fun c hc => encodable_hexText 32 n c (List.mem_of_mem_take hc)
  · exact h.eventTime ▸ encodable_text _
  · exact h.eventType ▸ encodable_text _
  · obtain ⟨n, hn⟩ := hcustomers _ h.customerId
    exact hn ▸ encodable_append.mpr ⟨encodable_text _, encodable_text _⟩
  · obtain ⟨n, hn⟩ := h.sessionId
    exact hn ▸ encodable_append.mpr ⟨encodable_text _, encodable_text _⟩
  · obtain ⟨n, hn⟩ := h.orderId
    exact hn ▸ encodable_append.mpr ⟨encodable_text _, encodable_text _⟩
  · obtain ⟨p, hp, hid, -⟩ := h.product
    rw [hid]
    exact @hlisted (productCatalog.map Product.id) (by decide) _ (List.mem_map_of_mem hp)
  · exact h.currency ▸ encodable_text _
  · exact hlisted (by decide) h.paymentMethod
  · exact hlisted (by decide) h.paymentStatus
  · exact hlisted (by decide) h.device
  · exact h.country ▸ encodable_text _
  · exact h.source ▸ encodable_text _
  · exact h.sourceVersion ▸ encodable_text _

/-- JSON text holds a clean event. -/
theorem Clean.readable (h : e.Clean customers now)
    (hcustomers : ∀ c ∈ customers, ∃ n, c = text "CUS" ++ padded 6 n) :
    Readable 1 (.obj e.toDict) := by
  have htexts := h.encodable hcustomers
  have htext {t : Text} (ht : t ∈ e.texts) : Readable 0 (.str t) :=
    .str 0 (joined_of_encodable (htexts t ht))
  have hquantity : (digits e.quantity.natAbs).length ≤ maxStrDigits := by
    have hall : ∀ q ∈ weightedQuantities.map Prod.fst,
        (digits q.natAbs).length ≤ maxStrDigits := by decide
    exact hall _ h.quantity
  apply Readable.obj
  case hkeys =>
    rw [e.keys_toDict]
    decide
  case hjoined =>
    have hkeys : ∀ k ∈ e.toDict.map Prod.fst, Joined k := by
      rw [e.keys_toDict]
      decide
    exact fun p hp => hkeys _ (List.mem_map_of_mem hp)
  case h =>
    simp only [toDict, List.forall_mem_cons]
    refine ⟨?_, ?_, ?_, ?_, ?_, ?_, ?_, .int 0 hquantity, .float 0 _, .float 0 _, ?_, ?_, ?_, ?_, ?_,
      ?_, ?_, fun p hp => absurd hp List.not_mem_nil⟩
    all_goals
      apply htext
      simp [texts]

end CheckoutEvent

/-! ## What is kept of the time -/

/-- Strings of one text are the same. -/
theorem text_injective {s s' : String} (h : text s = text s') : s = s' := by
  have hchar : Function.Injective fun c : Char => (⟨c.toNat, char_lt c⟩ : CodePoint) := by
    intro c c' hc
    have hval : c.toNat = c'.toNat := congrArg (fun p : CodePoint => p.val) hc
    exact Char.toNat_inj.mp hval
  exact String.toList_injective (List.map_injective_iff.mpr hchar h)

/-- Two instants are shown alike just in case they are in the same millisecond. -/
theorem shownTime_eq_iff {t t' : Instant} (h : IsInstant t) (h' : IsInstant t') :
    shownTime t = shownTime t' ↔ wholeMillis t = wholeMillis t' := by
  constructor
  · intro hshown
    have hread := parseIsoTimestamp_shownTime .ascii h
    rw [hshown, parseIsoTimestamp_shownTime .ascii h'] at hread
    exact (Option.some.inj (Except.ok.inj hread)).symm
  · intro hmillis
    have hsame : sinceFirst t / 1000 = sinceFirst t' / 1000 := by
      have hsince := congrArg sinceFirst hmillis
      rw [sinceFirst_wholeMillis h, sinceFirst_wholeMillis h'] at hsince
      omega
    have hseconds : sinceFirst t / 1000000 = sinceFirst t' / 1000000 := by omega
    have hfraction : sinceFirst t % 1000000 / 1000 = sinceFirst t' % 1000000 / 1000 := by omega
    have hsinceFirst (u : Instant) : (u - minInstant).toNat = sinceFirst u := rfl
    simp only [shownTime, hsinceFirst, hseconds, hfraction]

theorem plainTimestamp_shownTime {t : Instant} (h : IsInstant t) :
    PlainTimestamp (.str (text (shownTime t))) := by
  refine ⟨_, rfl, strip_shownTime h, ?_, ?_⟩
  · have hlast : text "Z" = [(0x5A : CodePoint)] := rfl
    rw [text_shownTime, hlast, innerZ_snoc]
    exact withoutZ_shownFront t
  · intro dt hdt
    obtain ⟨dt', hread, hwall, hoffset⟩ := read_shownTime h
    rw [lastZ_shownTime, hread] at hdt
    obtain rfl := Option.some.inj hdt
    have hutc : dt'.utc = .ok (wholeMillis t) := by
      rw [DateTime.utc, hoffset, ← hwall]
      rfl
    exact (utc_eq_ok_iff.mp hutc).1

def newYear : Instant := 1767225600000000

def zeros : Python.Random ℚ := ⟨fun _ => 0, fun _ => 0⟩

theorem newYear_generated : ∃ d rnd,
    generateValidEvent (customerPool 1) newYear zeros = (.ok d, rnd) :=
  generateValidEvent_total (List.cons_ne_nil _ _) zeros

theorem isInstant_newYear : IsInstant newYear := by decide

theorem newYear_year : 1 ≤ 2026 ∧ 2026 ≤ 9999 := by decide

theorem newYear_month : 1 ≤ 1 ∧ 1 ≤ 12 := by decide

theorem newYear_day : 1 ≤ 1 ∧ 1 ≤ daysInMonth 2026 1 := by decide

theorem newYear_midnight : 0 < 24 ∧ 0 < 60 ∧ 0 < 60 ∧ 0 < 1000000 := by decide

theorem newYear_offset : ∀ o ∈ some (0 : ℤ), -microsPerDay < o ∧ o < microsPerDay := by
  intro o ho
  obtain rfl := Option.some.inj ho
  decide

def newYearRead : DateTime where
  year := 2026
  month := 1
  day := 1
  offset := some 0
  year_range := newYear_year
  month_range := newYear_month
  day_range := newYear_day
  time_range := newYear_midnight
  offset_range := newYear_offset

theorem newYearRead_wall : newYearRead.wall = newYear := by decide +kernel

theorem punctual_newYear : Punctual newYear newYear :=
  ⟨⟨newYear + 30000000, rfl, by decide⟩, newYear + -120000000, rfl⟩

end IceStream.Generator
