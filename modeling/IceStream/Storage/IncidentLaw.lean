import IceStream.Lib.JsonNumbers
import IceStream.Storage.IncidentColumns

/-!
# What an update of an incident leaves

Column by column: the conflict clause leaves some columns as they are, one
column is written from another, and the view that reads a row replaces what is
empty.
-/

namespace IceStream
open Python

variable {now : DateTime} {table : IncidentTable} {id : ColumnText} {row before : IncidentRow}
  {updates : (c : IncidentColumn) → Option (c.Value Stamp)}

/-- What the update asks for, as a reader would see it. -/
def expected (before : IncidentRow) (updates : (c : IncidentColumn) → Option (c.Value Stamp)) :
    IncidentRow :=
  fun c => ((updates c).map (c.mapDates Stamp.written)).getD (before c)

/-- An update of an incident gives each column but the date of update its new value, where there
is one, and its old value elsewhere. -/
def UpdateLaw (now : DateTime) (table : IncidentTable) (id : ColumnText)
    (updates : (c : IncidentColumn) → Option (c.Value Stamp)) : Prop :=
  ∃ before after, table.getIncident id = some before ∧
    (table.updateIncident now id updates).1.getIncident id = some after ∧
    ∀ c, c ≠ .updatedAt → after c = expected before updates c

/-- When an update shows in a column. -/
def Shows (before : IncidentRow) (updates : (c : IncidentColumn) → Option (c.Value Stamp)) :
    IncidentColumn → Prop
  | .failedEventCount =>
    (updates .failedEventCount).getD (before .failedEventCount) =
      (updates .failedRecords).getD (before .failedRecords)
  | .threshold => ∀ x : ColumnFloat, updates .threshold = some x → (x.val == 0) = false
  | .severity => ∀ t : ColumnText, updates .severity = some t → t.val ≠ []
  | .actionTaken => ∀ action : Option ColumnText, updates .actionTaken = some action →
      ∃ t, action = some t ∧ t.val ≠ []
  | .slackSentAt => ∀ t : ColumnText, updates .slackSentAt = some (some (.shown t)) → t.val ≠ []
  | .resolvedAt => ∀ t : ColumnText, updates .resolvedAt = some (some (.shown t)) → t.val ≠ []
  | c => c ∈ conflictColumns ∨
      ∀ v, updates c = some v → c.mapDates Stamp.written v = before c

/-! ## The view -/

theorem ColumnText.or_ne_nil {t default : ColumnText} (h : default.val ≠ []) :
    (ColumnText.or t default).val ≠ [] := by
  unfold ColumnText.or
  by_cases ht : t.val = []
  · rw [if_pos ht]
    exact h
  · rw [if_neg ht]
    exact ht

theorem ColumnText.or_of_ne_nil {t : ColumnText} (h : t.val ≠ []) (default : ColumnText) :
    ColumnText.or t default = t := by
  rw [ColumnText.or, if_neg h]

theorem severityText_ne_nil (x : Float) : (severityText x).val ≠ [] := by
  unfold severityText
  split
  · decide
  · split
    · decide
    · decide

theorem actionOr_ne_nil (action : Option ColumnText) : (actionOr action).val ≠ [] :=
  ColumnText.or_ne_nil (by decide)

theorem thresholdOr_ne_zero (x : ColumnFloat) : ((thresholdOr x).val == 0) = false := by
  unfold thresholdOr
  cases hzero : x.val == 0 with
  | true =>
    rw [if_pos rfl]
    decide +kernel
  | false => exact hzero

theorem val_columnText (s : String) : (columnText s).val = text s := rfl

theorem isoformat_ne_nil (moment : DateTime) : (columnText moment.isoformat).val ≠ [] := by
  have hdash : text "-" ≠ [] := by decide
  rw [val_columnText]
  intro h
  simp only [DateTime.isoformat, text_append, List.append_eq_nil_iff] at h
  tauto

theorem written?_of_ne_nil {t : ColumnText} (h : t.val ≠ []) :
    Stamp.written? (some (.shown t)) = some t := if_neg h

theorem written?_of_nil {t : ColumnText} (h : t.val = []) :
    Stamp.written? (some (.shown t)) = none := if_pos h

/-- What the view shows of a date, it shows again. -/
theorem written?_shown (d : Option Stamp) :
    Stamp.written? ((Stamp.written? d).map Stamp.shown) = Stamp.written? d := by
  match d with
  | none => rfl
  | some (.at moment) =>
    have hat : Stamp.written? (some (.at moment)) = some (columnText moment.isoformat) := rfl
    rw [hat, Option.map_some]
    exact written?_of_ne_nil (isoformat_ne_nil moment)
  | some (.shown t) =>
    by_cases ht : t.val = []
    · rw [written?_of_nil ht]
      rfl
    · rw [written?_of_ne_nil ht, Option.map_some, written?_of_ne_nil ht]

/-- A date that is missing or given by a text with something in it is shown as it was given. -/
theorem written?_eq_iff (d : Option Stamp) :
    Stamp.written? d = d.map Stamp.written ↔ ∀ t : ColumnText, d = some (.shown t) → t.val ≠ [] := by
  match d with
  | none => exact iff_of_true rfl nofun
  | some (.at moment) => exact iff_of_true rfl nofun
  | some (.shown t) =>
    by_cases ht : t.val = []
    · rw [written?_of_nil ht]
      exact iff_of_false nofun fun h => h t rfl ht
    · rw [written?_of_ne_nil ht]
      refine iff_of_true rfl ?_
      intro t' heq
      cases heq
      exact ht

/-! ## One column -/

/-- What is read after an update. -/
def afterUpdate (now : DateTime) (row : IncidentRow)
    (updates : (c : IncidentColumn) → Option (c.Value Stamp)) : IncidentRow :=
  normalizeIncidentDict (upserted row
    (insertedRow now (IncidentTable.merged now (normalizeIncidentDict row) updates)))

section

variable {α β : Type} {o : Option α} {f : α → β} {b : β}

theorem eq_getD_map_iff : b = (o.map f).getD b ↔ ∀ v, o = some v → f v = b := by
  cases o with
  | none => exact iff_of_true rfl nofun
  | some v => exact ⟨fun h w hw => Option.some.inj hw ▸ h.symm, fun h => (h v rfl).symm⟩

theorem getD_eq_getD_map {o : Option α} {f : α → α} (hf : ∀ v, f v = v) (a : α) :
    o.getD a = (o.map f).getD a := by
  cases o with
  | none => rfl
  | some v => exact (hf v).symm

/-- A column that is read through a view shows what the view leaves as it is. -/
theorem view_getD_iff {o : Option α} (view : α → α) {f : α → α} (hf : ∀ v, f v = v) {a : α}
    (ha : view a = a) : view (o.getD a) = (o.map f).getD a ↔ ∀ v, o = some v → view v = v := by
  cases o with
  | none => exact iff_of_true ha nofun
  | some v =>
    have hget : ((some v).map f).getD a = v := hf v
    rw [hget]
    exact ⟨fun h w hw => Option.some.inj hw ▸ h, fun h => h v rfl⟩

/-- A date is shown where it is not an empty text. -/
theorem written?_getD_iff {o : Option (Option Stamp)} {shown : Option ColumnText}
    (hshown : Stamp.written? (shown.map Stamp.shown) = shown) :
    Stamp.written? (o.getD (shown.map Stamp.shown)) =
        (o.map (Option.map Stamp.written)).getD shown ↔
      ∀ t : ColumnText, o = some (some (.shown t)) → t.val ≠ [] := by
  cases o with
  | none => exact iff_of_true hshown nofun
  | some d =>
    refine (written?_eq_iff d).trans ?_
    exact forall_congr' fun t => imp_congr_left Option.some_inj.symm

end

theorem thresholdOr_eq_self_iff (x : ColumnFloat) : thresholdOr x = x ↔ (x.val == 0) = false := by
  unfold thresholdOr
  cases hzero : x.val == 0 with
  | true =>
    rw [if_pos rfl]
    refine iff_of_false ?_ nofun
    rintro rfl
    revert hzero
    decide +kernel
  | false => exact iff_of_true rfl rfl

/-- The default that stands for an empty text is not empty itself. -/
theorem or_or_eq_self_iff {default : ColumnText} (h : default.val ≠ []) (t : ColumnText) :
    ColumnText.or (ColumnText.or t default) default = t ↔ t.val ≠ [] := by
  rw [ColumnText.or_of_ne_nil (ColumnText.or_ne_nil h)]
  constructor
  · intro heq
    rw [← heq]
    exact ColumnText.or_ne_nil h
  · intro ht
    exact ColumnText.or_of_ne_nil ht default

theorem actionOr_eq_self_iff (action : Option ColumnText) :
    some (actionOr (some (actionOr action))) = action ↔ ∃ t, action = some t ∧ t.val ≠ [] := by
  have hagain : actionOr (some (actionOr action)) = actionOr action :=
    ColumnText.or_of_ne_nil (actionOr_ne_nil action) _
  rw [hagain]
  constructor
  · intro heq
    exact ⟨actionOr action, heq.symm, actionOr_ne_nil action⟩
  · rintro ⟨t, rfl, ht⟩
    exact congrArg some (ColumnText.or_of_ne_nil ht _)

/-- A column that the conflict clause leaves out shows an update to what it holds already. -/
theorem shows_of_kept {c : IncidentColumn} (hc : c ∉ conflictColumns) {after : c.Value ColumnText}
    (hafter : after = before c) :
    after = expected before updates c ↔
      (c ∈ conflictColumns ∨ ∀ v, updates c = some v → c.mapDates Stamp.written v = before c) := by
  rw [hafter, or_iff_right hc]
  exact eq_getD_map_iff

theorem shows_iff (now : DateTime) (row : IncidentRow) {c : IncidentColumn} (hc : c ≠ .updatedAt) :
    afterUpdate now row updates c = expected (normalizeIncidentDict row) updates c ↔
      Shows (normalizeIncidentDict row) updates c := by
  cases c with
  | updatedAt => exact absurd rfl hc
  | incidentId => exact shows_of_kept (by decide) rfl
  | pipelineId => exact shows_of_kept (by decide) rfl
  | pipelineName => exact shows_of_kept (by decide) rfl
  | createdAt => exact shows_of_kept (by decide) rfl
  | detectedAt => exact shows_of_kept (by decide) rfl
  | trigger => exact shows_of_kept (by decide) rfl
  | triggerType => exact shows_of_kept (by decide) rfl
  | message => exact shows_of_kept (by decide) rfl
  | errorRate => exact iff_of_true (getD_eq_getD_map (fun _ => rfl) _) (.inl (by decide))
  | circuitState => exact iff_of_true (getD_eq_getD_map (fun _ => rfl) _) (.inl (by decide))
  | failedRecords => exact iff_of_true (getD_eq_getD_map (fun _ => rfl) _) (.inl (by decide))
  | totalRecords => exact iff_of_true (getD_eq_getD_map (fun _ => rfl) _) (.inl (by decide))
  | quarantineCount => exact iff_of_true (getD_eq_getD_map (fun _ => rfl) _) (.inl (by decide))
  | status => exact iff_of_true (getD_eq_getD_map (fun _ => rfl) _) (.inl (by decide))
  | slackSent => exact iff_of_true (getD_eq_getD_map (fun _ => rfl) _) (.inl (by decide))
  | slackError => exact iff_of_true (getD_eq_getD_map (fun _ => rfl) _) (.inl (by decide))
  | recoveryAttempt => exact iff_of_true (getD_eq_getD_map (fun _ => rfl) _) (.inl (by decide))
  | lastError => exact iff_of_true (getD_eq_getD_map (fun _ => rfl) _) (.inl (by decide))
  | failedEventCount =>
    have hexpected : expected (normalizeIncidentDict row) updates .failedEventCount =
        (updates .failedEventCount).getD (normalizeIncidentDict row .failedEventCount) :=
      (getD_eq_getD_map (fun _ => rfl) _).symm
    rw [hexpected]
    exact eq_comm
  | threshold =>
    refine (view_getD_iff thresholdOr (fun _ => rfl) ?_).trans ?_
    · exact (thresholdOr_eq_self_iff _).mpr (thresholdOr_ne_zero _)
    · exact forall_congr' fun x => imp_congr_right fun _ => thresholdOr_eq_self_iff x
  | severity =>
    -- the default is computed from the new error rate when it is written and when it is read
    let errorRate : ColumnFloat :=
      (updates .errorRate).getD (normalizeIncidentDict row .errorRate)
    have hdefault := severityText_ne_nil errorRate.val
    refine (view_getD_iff (fun t => ColumnText.or
      (ColumnText.or t (severityText errorRate.val)) (severityText errorRate.val))
      (fun _ => rfl) ?_).trans ?_
    · exact (or_or_eq_self_iff hdefault _).mpr (ColumnText.or_ne_nil (severityText_ne_nil _))
    · exact forall_congr' fun t => imp_congr_right fun _ => or_or_eq_self_iff hdefault t
  | actionTaken =>
    refine (view_getD_iff (fun action => some (actionOr (some (actionOr action))))
      (fun _ => rfl) ?_).trans ?_
    · exact (actionOr_eq_self_iff _).mpr ⟨_, rfl, actionOr_ne_nil _⟩
    · exact forall_congr' fun action => imp_congr_right fun _ => actionOr_eq_self_iff action
  | slackSentAt =>
    have hshown := written?_shown (Option.map Stamp.shown (row .slackSentAt))
    refine Iff.trans ?_ (written?_getD_iff hshown)
    exact Eq.congr_left (written?_shown _)
  | resolvedAt =>
    have hshown := written?_shown (Option.map Stamp.shown (row .resolvedAt))
    refine Iff.trans ?_ (written?_getD_iff hshown)
    exact Eq.congr_left (written?_shown _)

/-! ## The law -/

theorem rowId_upserted (row inserted : IncidentRow) : rowId (upserted row inserted) = rowId row :=
  rfl

theorem getIncident_update (hrow : table.get? id = some row) (hid : updates .incidentId = none) :
    (table.updateIncident now id updates).1.getIncident id = some (afterUpdate now row updates) := by
  have hbefore : table.getIncident id = some (normalizeIncidentDict row) := by
    rw [IncidentTable.getIncident, hrow]
    rfl
  have hid' : rowId row = id := Keyed.key_of_get? hrow
  have hmerged : IncidentTable.merged now (normalizeIncidentDict row) updates .incidentId = id := by
    change (updates .incidentId).getD (rowId row) = id
    rw [hid]
    exact hid'
  have hkey : rowId (upserted row (insertedRow now
      (IncidentTable.merged now (normalizeIncidentDict row) updates))) = id :=
    (rowId_upserted row _).trans hid'
  rw [IncidentTable.updateIncident, hbefore]
  dsimp only
  rw [IncidentTable.createIncident, hmerged, hrow, IncidentTable.getIncident, ← hkey, Keyed.get?_put]
  rfl

/-- The other incidents are as they were. -/
theorem getIncident_update_of_ne {other : ColumnText} (hother : other ≠ id)
    (hid : updates .incidentId = none) :
    (table.updateIncident now id updates).1.getIncident other = table.getIncident other := by
  unfold IncidentTable.updateIncident
  cases hbefore : table.getIncident id with
  | none => rfl
  | some incident =>
    obtain ⟨row, hrow, rfl⟩ := Option.map_eq_some_iff.mp hbefore
    have hid' : rowId row = id := Keyed.key_of_get? hrow
    have hmerged :
        IncidentTable.merged now (normalizeIncidentDict row) updates .incidentId = id := by
      change (updates .incidentId).getD (rowId row) = id
      rw [hid]
      exact hid'
    dsimp only
    rw [IncidentTable.createIncident, hmerged, hrow, IncidentTable.getIncident,
      IncidentTable.getIncident, Keyed.get?_put_of_ne]
    rw [rowId_upserted, hid']
    exact hother

section

def storedIncident : IncidentRow := fun c => match c with
  | .incidentId => columnText "INC-2026-0826-0001"
  | .pipelineId => columnText "icestream"
  | .pipelineName => columnText "checkout-stream"
  | .createdAt | .detectedAt | .updatedAt => columnText "2026-08-26T10:00:00+00:00"
  | .trigger | .triggerType => columnText "CRITICAL_ERROR_RATE"
  | .errorRate => ⟨0.0372, by decide +kernel⟩
  | .threshold => ⟨0.02, isNaN_defaultThreshold⟩
  | .circuitState | .status => columnText "OPEN"
  | .failedEventCount | .failedRecords => (372 : Int64)
  | .totalRecords => (10000 : Int64)
  | .quarantineCount | .recoveryAttempt => (0 : Int64)
  | .severity => columnText "CRITICAL"
  | .message | .slackError | .lastError => none
  | .actionTaken => some (columnText "Downstream pipeline paused.")
  | .slackSent => false
  | .slackSentAt | .resolvedAt => none

def storedTable : IncidentTable := Keyed.empty.put storedIncident

/-- The update of one column. -/
def only (c : IncidentColumn) (v : c.Value Stamp) : (d : IncidentColumn) → Option (d.Value Stamp) :=
  fun d => if h : d = c then some (h ▸ v) else none

/-- Five minutes later. -/
def updateMoment : DateTime :=
  ⟨2026, 8, 26, 10, 5, 0, 0, some 0, by decide, by decide, by decide, by decide, by decide⟩

end

end IceStream
