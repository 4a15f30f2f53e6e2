import IceStream.Lib.JsonIndent
import IceStream.Lib.Text
import IceStream.Streaming.Preserved

/-!
# What the recorded events give away

Every validated event leaves an item with its JSON text in the buffer of the
telemetry explorer. Before that, the values under sensitive keys are replaced, but
those of the event itself only: what lies deeper is written out.
-/

namespace IceStream.Streaming
open Python Metrics

variable {φ : Type}

/-! ## Sensitive keys -/

def sensitiveMarkers : List String := ["secret", "password", "card", "token", "cvv"]

/-- `any(sec in k.lower() for sec in [...])` -/
def isSensitive (k : Text) : Bool :=
  sensitiveMarkers.any fun sec => text sec <:+: lowerText k

def redacted : Json := .str "***REDACTED***"

/-- `sanitized_dict` -/
def sanitize (d : Dict) : Dict :=
  d.map fun p => if isSensitive p.1 then (p.1, redacted) else p

mutual

/-- A value without what is stored under sensitive keys, however deep. -/
def masked : Json → Json
  | .arr xs => .arr (maskedList xs)
  | .obj kvs => .obj (maskedItems kvs)
  | v => v

def maskedList : List Json → List Json
  | [] => []
  | x :: xs => masked x :: maskedList xs

def maskedItems : List (Text × Json) → List (Text × Json)
  | [] => []
  | p :: ps => (p.1, if isSensitive p.1 then redacted else masked p.2) :: maskedItems ps

end

/-- The entries of an event whose keys are not sensitive. -/
def openPart (d : Dict) : Dict := d.filter fun p => !isSensitive p.1

/-! ## The recorded item -/

/-- `EventItem`, as its constructor gets it. -/
structure EventItem where
  eventId : Text
  eventTimestamp : Text
  orderId : Json
  currency : Json
  amount : Option Float
  paymentStatus : Text
  status : String
  failureReason : Option Text
  payloadJson : Text
  schemaVersion : Text

/-- `amount=float(...) if ... is not None else None` -/
def itemAmount (u : Unicode) (d : Dict) : Except Exc (Option Float) :=
  match d.getD (text "amount") .null with
  | .null => .ok none
  | amount => (amount.toFloat u).map some

def failReason (summary : ValidationSummary) : Option Text :=
  if summary.isValid then none
  else
    let failedMsgs := (summary.results.filter fun r => !r.passed).map fun r => r.message
    if failedMsgs.isEmpty then some "Quality rule failure"
    else some ((text " | ").intercalate failedMsgs)

section

variable (v : StreamQualityValidator φ) (readings : StreamReadings) (nowTs : Text)

/-- The item of an event that the quality engine answered for. -/
def eventItem (d : Dict) (eventId : Json) (summary : ValidationSummary) : Except Exc EventItem := do
  let str (w : Json) : Text := w.toText v.unicode
  let eventTime := ((d.getD (text "event_time") .null).orElse
    (d.getD (text "ingestion_time") .null)).orElse (.str nowTs)
  let amount ← itemAmount v.unicode d
  pure {
    eventId := str (eventId.orElse (.str (text "evt_" ++ nowTs)))
    eventTimestamp := str eventTime
    orderId := d.getD (text "order_id") .null
    currency := d.getD (text "currency") (.str "INR")
    amount := amount
    paymentStatus := if summary.isValid then
        str (d.getD (text "payment_status") (.str "COMPLETED"))
      else "QUARANTINED"
    status := if summary.isValid then "VALID" else "QUARANTINED"
    failureReason := failReason summary
    payloadJson := (Json.obj (sanitize d)).dumpsIndent 2 0
    schemaVersion := str (d.getD (text "source_version") (.str "v1.0.0")) }

/-- What `validate_event` records for a payload, with the engine's surroundings in
state `w`; the model refuses what it does not accept. -/
def sanitizedEvent (accepts : EventItem → Bool) (payload : Payload) (w : φ) : Option EventItem :=
  match decode v.nestingLimit payload with
  | .ok (.obj d) =>
    let raw := withIngestionTime readings d
    match (v.qualityEngine.validateWithSummary v.unicode (.obj raw) w).1 with
    | .ok summary =>
      match eventItem v nowTs raw (Dict.getD d (text "event_id") .null) summary with
      | .ok item => if accepts item then some item else none
      | .error _ => none
    | .error _ => none
  | _ => none

/-- `record_sanitized_event`: the buffer keeps the latest 200. -/
def recordSanitizedEvent (item : EventItem) (buffer : List EventItem) : List EventItem :=
  (item :: buffer).take 200

/-- The buffer after a call. -/
def bufferAfter (accepts : EventItem → Bool) (payload : Payload) (w : φ)
    (buffer : List EventItem) : List EventItem :=
  match sanitizedEvent v readings nowTs accepts payload w with
  | some item => recordSanitizedEvent item buffer
  | none => buffer

end

/-! ## What sanitizing keeps -/

theorem maskedItems_eq (ps : List (Text × Json)) :
    maskedItems ps = ps.map fun p => (p.1, if isSensitive p.1 then redacted else masked p.2) := by
  induction ps with
  | nil => rfl
  | cons p ps ih => rw [maskedItems, ih, List.map_cons]

theorem maskedItems_keys (ps : List (Text × Json)) :
    (maskedItems ps).map Prod.fst = ps.map Prod.fst := by
  rw [maskedItems_eq, List.map_map]
  rfl

theorem sanitize_keys (d : Dict) : (sanitize d).map Prod.fst = d.map Prod.fst := by
  rw [sanitize, List.map_map]
  apply List.map_congr_left
  intro p _
  change (if isSensitive p.1 then (p.1, redacted) else p).1 = p.1
  split_ifs <;> rfl

theorem openPart_sanitize (d : Dict) : openPart (sanitize d) = openPart d := by
  induction d with
  | nil => rfl
  | cons p d ih =>
    change openPart ((if isSensitive p.1 then (p.1, redacted) else p) :: sanitize d) = _
    cases hp : isSensitive p.1 with
    | true =>
      rw [if_pos rfl, openPart, openPart, List.filter_cons_of_neg (by simp [hp]),
        List.filter_cons_of_neg (by simp [hp])]
      exact ih
    | false =>
      rw [if_neg Bool.false_ne_true, openPart, openPart, List.filter_cons_of_pos (by simp [hp]),
        List.filter_cons_of_pos (by simp [hp])]
      exact congrArg (p :: ·) ih

/-- Events with the same keys are sanitized to the same object when their open parts agree. -/
theorem sanitize_eq_iff {d e : Dict} (hkeys : d.map Prod.fst = e.map Prod.fst) :
    sanitize d = sanitize e ↔ openPart d = openPart e := by
  constructor
  · intro h
    rw [← openPart_sanitize d, h, openPart_sanitize]
  · intro h
    induction d generalizing e with
    | nil =>
      cases e with
      | nil => rfl
      | cons q e => cases hkeys
    | cons p d ih =>
      cases e with
      | nil => cases hkeys
      | cons q e =>
        rw [List.map_cons, List.map_cons, List.cons.injEq] at hkeys
        obtain ⟨hkey, hkeys⟩ := hkeys
        change (if isSensitive p.1 then (p.1, redacted) else p) :: sanitize d =
          (if isSensitive q.1 then (q.1, redacted) else q) :: sanitize e
        cases hp : isSensitive p.1 with
        | true =>
          have hq : isSensitive q.1 = true := hkey ▸ hp
          rw [openPart, openPart, List.filter_cons_of_neg (by simp [hp]),
            List.filter_cons_of_neg (by simp [hq])] at h
          rw [hq, if_pos rfl, if_pos rfl, hkey, ih hkeys h]
        | false =>
          have hq : isSensitive q.1 = false := hkey ▸ hp
          rw [openPart, openPart, List.filter_cons_of_pos (by simp [hp]),
            List.filter_cons_of_pos (by simp [hq]), List.cons.injEq] at h
          rw [hq, if_neg Bool.false_ne_true, if_neg Bool.false_ne_true, h.1, ih hkeys h.2]

theorem readable_sanitize {limit : ℕ} {d : Dict} (h : Readable limit (.obj d)) :
    Readable limit (.obj (sanitize d)) := by
  cases h with
  | obj hkeys hjoined hvalues =>
    have hmem : ∀ p ∈ sanitize d, ∃ q ∈ d, p.1 = q.1 ∧ (p.2 = redacted ∨ p.2 = q.2) := by
      intro p hp
      obtain ⟨q, hq, rfl⟩ := List.mem_map.mp hp
      refine ⟨q, hq, ?_⟩
      split_ifs
      · exact ⟨rfl, .inl rfl⟩
      · exact ⟨rfl, .inr rfl⟩
    refine .obj ?_ ?_ ?_
    · rwa [sanitize_keys]
    · intro p hp
      obtain ⟨q, hq, hkey, -⟩ := hmem p hp
      rw [hkey]
      exact hjoined q hq
    · intro p hp
      obtain ⟨q, hq, -, hvalue | hvalue⟩ := hmem p hp
      · rw [hvalue]
        exact .str _ (joined_of_encodable (encodable_text _))
      · rw [hvalue]
        exact hvalues q hq

/-! ## With an ingestion time -/

theorem Dict.has_iff_mem (d : Dict) (k : Text) : d.has k = true ↔ k ∈ d.map Prod.fst := by
  induction d with
  | nil => exact iff_of_false Bool.false_ne_true List.not_mem_nil
  | cons p d ih =>
    rw [Dict.has, List.lookup_cons, List.map_cons, List.mem_cons]
    by_cases hk : k = p.1
    · simp [hk]
    · have hbeq : (k == p.1) = false := by simpa using hk
      rw [hbeq]
      exact ih.trans (or_iff_right hk).symm

section

variable {readings : StreamReadings} {d e : Dict}

theorem withIngestionTime_of_has (h : d.has (text "ingestion_time") = true) :
    withIngestionTime readings d = d :=
  if_pos h

theorem withIngestionTime_of_not_has (h : ¬d.has (text "ingestion_time") = true) :
    withIngestionTime readings d =
      d ++ [(text "ingestion_time", .str readings.ingestionTime)] := by
  rw [withIngestionTime, if_neg h]
  exact Dict.set_of_fresh d _ fun hmem => h ((Dict.has_iff_mem d _).mpr hmem)

theorem withIngestionTime_keys (hkeys : d.map Prod.fst = e.map Prod.fst) :
    (withIngestionTime readings d).map Prod.fst = (withIngestionTime readings e).map Prod.fst := by
  have hhas : d.has (text "ingestion_time") = true ↔ e.has (text "ingestion_time") = true := by
    rw [Dict.has_iff_mem, Dict.has_iff_mem, hkeys]
  by_cases h : d.has (text "ingestion_time") = true
  · rwa [withIngestionTime_of_has h, withIngestionTime_of_has (hhas.mp h)]
  · rw [withIngestionTime_of_not_has h, withIngestionTime_of_not_has (fun he => h (hhas.mpr he)),
      List.map_append, List.map_append, hkeys]

/-- The ingestion time takes nothing away and adds the same to both. -/
theorem openPart_withIngestionTime (hkeys : d.map Prod.fst = e.map Prod.fst) :
    openPart (withIngestionTime readings d) = openPart (withIngestionTime readings e) ↔
      openPart d = openPart e := by
  have hhas : d.has (text "ingestion_time") = true ↔ e.has (text "ingestion_time") = true := by
    rw [Dict.has_iff_mem, Dict.has_iff_mem, hkeys]
  by_cases h : d.has (text "ingestion_time") = true
  · rw [withIngestionTime_of_has h, withIngestionTime_of_has (hhas.mp h)]
  · rw [withIngestionTime_of_not_has h, withIngestionTime_of_not_has (fun he => h (hhas.mpr he)),
      openPart, openPart, List.filter_append, List.filter_append]
    exact List.append_left_inj _

end

/-! ## Two events -/

section

variable {v : StreamQualityValidator φ} {readings : StreamReadings} {nowTs : Text}
  {accepts : EventItem → Bool}

theorem payloadJson_eventItem {d : Dict} {eventId : Json} {summary : ValidationSummary}
    {item : EventItem} (h : eventItem v nowTs d eventId summary = .ok item) :
    item.payloadJson = (Json.obj (sanitize d)).dumpsIndent 2 0 := by
  unfold eventItem at h
  cases hamount : itemAmount v.unicode d with
  | error e =>
    rw [hamount] at h
    cases h
  | ok amount =>
    rw [hamount] at h
    obtain rfl := Except.ok.inj h
    rfl

theorem payloadJson_sanitizedEvent {payload : Payload} {w : φ} {d : Dict} {item : EventItem}
    (hdecode : decode v.nestingLimit payload = .ok (.obj d))
    (h : sanitizedEvent v readings nowTs accepts payload w = some item) :
    item.payloadJson = (Json.obj (sanitize (withIngestionTime readings d))).dumpsIndent 2 0 := by
  simp only [sanitizedEvent, hdecode] at h
  split at h
  · split at h
    · rename_i item' hitem
      split_ifs at h
      obtain rfl := Option.some.inj h
      exact payloadJson_eventItem hitem
    · cases h
  · cases h

theorem keys_of_masked {d e : Dict} (h : masked (.obj d) = masked (.obj e)) :
    d.map Prod.fst = e.map Prod.fst := by
  have hitems : maskedItems d = maskedItems e := by simpa only [masked, Json.obj.injEq] using h
  rw [← maskedItems_keys d, hitems, maskedItems_keys]

section

variable {p q : Payload} {d e : Dict} {w w' : φ} {item item' : EventItem}

theorem sanitized_eq_iff (hmasked : masked (.obj d) = masked (.obj e)) :
    sanitize (withIngestionTime readings d) = sanitize (withIngestionTime readings e) ↔
      openPart d = openPart e := by
  have hkeys := keys_of_masked hmasked
  exact (sanitize_eq_iff (withIngestionTime_keys hkeys)).trans (openPart_withIngestionTime hkeys)

theorem same_payloadJson (hp : decode v.nestingLimit p = .ok (.obj d))
    (hq : decode v.nestingLimit q = .ok (.obj e)) (hmasked : masked (.obj d) = masked (.obj e))
    (hitem : sanitizedEvent v readings nowTs accepts p w = some item)
    (hitem' : sanitizedEvent v readings nowTs accepts q w' = some item')
    (hopen : openPart d = openPart e) : item.payloadJson = item'.payloadJson := by
  rw [payloadJson_sanitizedEvent hp hitem, payloadJson_sanitizedEvent hq hitem',
    (sanitized_eq_iff hmasked).mpr hopen]

/-- The texts in the buffer stay the same from one event to the next. -/
theorem bufferAfter_payloads (hp : decode v.nestingLimit p = .ok (.obj d))
    (hq : decode v.nestingLimit q = .ok (.obj e)) (hmasked : masked (.obj d) = masked (.obj e))
    (hrecorded : (sanitizedEvent v readings nowTs accepts p w).isSome =
      (sanitizedEvent v readings nowTs accepts q w').isSome)
    (hopen : openPart d = openPart e) {buffer buffer' : List EventItem}
    (hbuffer : buffer.map EventItem.payloadJson = buffer'.map EventItem.payloadJson) :
    (bufferAfter v readings nowTs accepts p w buffer).map EventItem.payloadJson =
      (bufferAfter v readings nowTs accepts q w' buffer').map EventItem.payloadJson := by
  unfold bufferAfter
  cases hitem : sanitizedEvent v readings nowTs accepts p w with
  | none =>
    rw [hitem, Option.isSome_none] at hrecorded
    have hnone : sanitizedEvent v readings nowTs accepts q w' = none :=
      Option.isNone_iff_eq_none.mp (Option.isSome_eq_false_iff.mp hrecorded.symm)
    rw [hnone]
    exact hbuffer
  | some item =>
    rw [hitem, Option.isSome_some] at hrecorded
    obtain ⟨item', hitem'⟩ := Option.isSome_iff_exists.mp hrecorded.symm
    have hjson := same_payloadJson hp hq hmasked hitem hitem' hopen
    simp only [hitem', recordSanitizedEvent, List.map_take, List.map_cons, hjson, hbuffer]

/-- Two events that differ in sensitive values leave the same text where none of those
values lies below a key of the event that is not sensitive itself, and else they do not. -/
theorem redaction_iff (hclock : Encodable readings.ingestionTime)
    (hp : decode v.nestingLimit p = .ok (.obj d)) (hq : decode v.nestingLimit q = .ok (.obj e))
    (hmasked : masked (.obj d) = masked (.obj e))
    (hitem : sanitizedEvent v readings nowTs accepts p w = some item)
    (hitem' : sanitizedEvent v readings nowTs accepts q w' = some item') :
    (openPart d = openPart e → item.payloadJson = item'.payloadJson) ∧
      (Preservable v.nestingLimit d p → Preservable v.nestingLimit e q →
        item.payloadJson = item'.payloadJson → openPart d = openPart e) := by
  refine ⟨same_payloadJson hp hq hmasked hitem hitem', ?_⟩
  intro hpd hqe hjson
  have hd := readable_sanitize (readable_withIngestionTime hclock (hpd.readable hp))
  have he := readable_sanitize (readable_withIngestionTime hclock (hqe.readable hq))
  rw [payloadJson_sanitizedEvent hp hitem, payloadJson_sanitizedEvent hq hitem'] at hjson
  exact (sanitized_eq_iff hmasked).mp (Json.obj.inj (dumpsIndent_injective hd he hjson))

end

end

/-! ## Two payments -/

def acceptsAll (_ : EventItem) : Bool := true

def exampleRecorded (d : Dict) : Option EventItem :=
  sanitizedEvent exampleValidator exampleReadings "2026-01-01T00:00:00+00:00" acceptsAll (.dict d) ()

/-- A paid event, with what it was paid with. -/
def paid (key : Text) (value : Json) : Dict := [("event_id", .str "e1"), (key, value)]

theorem isSensitive_card : isSensitive (text "card") = true := rfl

theorem card_redacted :
    ∃ item item', exampleRecorded (paid "card" (.str "4111")) = some item ∧
      exampleRecorded (paid "card" (.str "5500")) = some item' ∧
      item.payloadJson = item'.payloadJson := by
  have hsome : (exampleRecorded (paid "card" (.str "4111"))).isSome = true := rfl
  have hsome' : (exampleRecorded (paid "card" (.str "5500"))).isSome = true := rfl
  obtain ⟨item, hitem⟩ := Option.isSome_iff_exists.mp hsome
  obtain ⟨item', hitem'⟩ := Option.isSome_iff_exists.mp hsome'
  have hmasked : masked (.obj (paid "card" (.str "4111"))) =
      masked (.obj (paid "card" (.str "5500"))) := by
    simp only [masked, maskedItems, paid, isSensitive_card, ↓reduceIte]
  have hopen : openPart (paid "card" (.str "4111")) = openPart (paid "card" (.str "5500")) := by
    simp only [openPart, paid, List.filter_cons, isSensitive_card, Bool.not_true,
      Bool.false_eq_true, ↓reduceIte]
  exact ⟨item, item', hitem, hitem',
    (redaction_iff (encodable_text _) rfl rfl hmasked hitem hitem').1 hopen⟩

/-- A card number one level below the event is recorded as it is. -/
theorem nested_card_recorded :
    ∃ d e item item', masked (.obj d) = masked (.obj e) ∧ exampleRecorded d = some item ∧
      exampleRecorded e = some item' ∧ item.payloadJson ≠ item'.payloadJson := by
  have hjson : (exampleRecorded (paid "payment" (.obj [("card", .str "4111")]))).map
      EventItem.payloadJson ≠ (exampleRecorded (paid "payment" (.obj [("card", .str "5500")]))).map
      EventItem.payloadJson := by decide +kernel
  have hsome : (exampleRecorded (paid "payment" (.obj [("card", .str "4111")]))).isSome = true := by
    rfl
  have hsome' : (exampleRecorded (paid "payment" (.obj [("card", .str "5500")]))).isSome = true := by
    rfl
  obtain ⟨item, hitem⟩ := Option.isSome_iff_exists.mp hsome
  obtain ⟨item', hitem'⟩ := Option.isSome_iff_exists.mp hsome'
  refine ⟨_, _, item, item', ?_, hitem, hitem', ?_⟩
  · simp only [masked, maskedItems, paid, isSensitive_card, ↓reduceIte]
  intro hsame
  rw [hitem, hitem', Option.map_some, Option.map_some, hsame] at hjson
  exact hjson rfl

end IceStream.Streaming
