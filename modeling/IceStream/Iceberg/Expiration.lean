import IceStream.Iceberg.DryRun

/-!
# What an expiration keeps

The identifiers that are expired are those of candidates whose commit goes through. They
are distinct, and neither the current snapshot's nor one of the newest; they are older
than the cutoff as far as the conversion of their times goes.
-/

namespace IceStream.Iceberg
open Python Fallible

variable {ρ : Type}

/-! ## The expired snapshots -/

def expiredIds (changes : List Change) : List ℕ :=
  changes.filterMap fun
    | .expire id => some id
    | _ => none

/-- The last `retainLast` of a list in the order of time. -/
def newestSnapshots (args : ExpirationArgs) (snapshots : List (Snapshot ρ)) : List (Snapshot ρ) :=
  snapshots.drop (snapshots.length - args.retainLast.toNat)

/-- What must be kept is kept, and a report counts what was expired and what is left. -/
structure KeepsWhatItMust (args : ExpirationArgs) (w t : LakeWorld ρ)
    (outcome : Except Exc SnapshotExpirationResult) : Prop where
  distinct : (expiredIds (changesSince w t)).Nodup
  current : ∀ s ∈ w.table.currentSnapshot, s.snapshotId ∉ expiredIds (changesSince w t)
  newest : ∀ s ∈ newestSnapshots args w.table.snapshots,
    s.snapshotId ∉ expiredIds (changesSince w t)
  older : ∀ cutoff ∈ args.olderThan, ∀ s ∈ w.table.snapshots,
    s.snapshotId ∈ expiredIds (changesSince w t) → s.timestampMs * 1000 < cutoff
  reported : ∀ result, outcome = .ok result → result.expiredIds = expiredIds (changesSince w t)
  counts : ∀ result, outcome = .ok result →
    result.snapshotsBefore = result.snapshotsExpired + result.snapshotsRemaining

/-- The time of no candidate gets below the cutoff by being converted. -/
def CutoffExact (args : ExpirationArgs) (t : TableMetadata ρ) : Prop :=
  ∀ cutoff ∈ args.olderThan, Unreadable args t.snapshots ∨
    ∀ s ∈ olderSnapshots args t.snapshots,
      t.currentSnapshot.map Snapshot.snapshotId ≠ some s.snapshotId →
        s.instant < cutoff → s.timestampMs * 1000 < cutoff

/-- The identifiers of the candidates but for the current one. -/
def expirable (args : ExpirationArgs) (t : TableMetadata ρ) : List ℕ :=
  ((candidateSnapshots args t.snapshots).filter fun s =>
    t.currentSnapshot.map Snapshot.snapshotId ≠ some s.snapshotId).map Snapshot.snapshotId

theorem expiredIds_expire (ids : List ℕ) : expiredIds (ids.map .expire) = ids := by
  induction ids with
  | nil => rfl
  | cons id ids ih =>
    rw [List.map_cons]
    exact congrArg (id :: ·) ih

section

variable {args : ExpirationArgs} {snapshots : List (Snapshot ρ)}

theorem olderSnapshots_append_newest :
    ∃ rest, olderSnapshots args snapshots ++ rest = snapshots ∧
      newestSnapshots args snapshots <+: rest := by
  unfold olderSnapshots newestSnapshots
  split_ifs with hretain
  · exact ⟨_, List.take_append_drop _ _, List.prefix_refl _⟩
  · have hzero : args.retainLast.toNat = 0 := Int.toNat_eq_zero.mpr (not_lt.mp hretain)
    have hnone : snapshots.drop (snapshots.length - args.retainLast.toNat) = [] := by
      rw [hzero, Nat.sub_zero, List.drop_length]
    exact ⟨[], List.append_nil _, List.prefix_nil.mpr hnone⟩

theorem candidateSnapshots_sublist :
    (candidateSnapshots args snapshots).Sublist (olderSnapshots args snapshots) := by
  unfold candidateSnapshots
  cases args.olderThan with
  | none => exact List.Sublist.refl _
  | some cutoff => exact List.filter_sublist

theorem mem_candidateSnapshots_iff {cutoff : Instant} (hcutoff : args.olderThan = some cutoff)
    {s : Snapshot ρ} : s ∈ candidateSnapshots args snapshots ↔
      s ∈ olderSnapshots args snapshots ∧ s.instant < cutoff := by
  rw [candidateSnapshots, hcutoff, List.mem_filter, decide_eq_true_eq]

end

section

variable {args : ExpirationArgs} {t : TableMetadata ρ} {ids : List ℕ}

theorem mem_expirable {id : ℕ} : id ∈ expirable args t ↔
    ∃ s ∈ candidateSnapshots args t.snapshots,
      t.currentSnapshot.map Snapshot.snapshotId ≠ some s.snapshotId ∧ s.snapshotId = id := by
  rw [expirable, List.mem_map]
  refine exists_congr fun s => ?_
  rw [List.mem_filter, decide_eq_true_eq, and_assoc]

theorem expirable_sublist : (expirable args t).Sublist (t.snapshots.map Snapshot.snapshotId) := by
  obtain ⟨rest, hsplit, -⟩ := @olderSnapshots_append_newest _ args t.snapshots
  have hprefix : (olderSnapshots args t.snapshots).Sublist t.snapshots := by
    conv_rhs => rw [← hsplit]
    exact List.sublist_append_left _ _
  exact ((List.filter_sublist.trans candidateSnapshots_sublist).trans hprefix).map _

/-- None of the newest is a candidate. -/
theorem not_expirable_of_newest (hdistinct : (t.snapshots.map Snapshot.snapshotId).Nodup)
    {s : Snapshot ρ} (hs : s ∈ newestSnapshots args t.snapshots) :
    s.snapshotId ∉ expirable args t := by
  intro hmem
  obtain ⟨s', hs', -, hsame⟩ := mem_expirable.mp hmem
  obtain ⟨rest, hsplit, hnewest⟩ := @olderSnapshots_append_newest _ args t.snapshots
  rw [← hsplit, List.map_append] at hdistinct
  have hapart := (List.nodup_append.mp hdistinct).2.2
  refine hapart s'.snapshotId ?_ s.snapshotId ?_ hsame
  · exact List.mem_map_of_mem (candidateSnapshots_sublist.subset hs')
  · exact List.mem_map_of_mem (hnewest.subset hs)

/-- Without some of its snapshots, a table has fewer by their number. -/
theorem length_remaining (hdistinct : (t.snapshots.map Snapshot.snapshotId).Nodup)
    (hids : ids.Sublist (t.snapshots.map Snapshot.snapshotId)) :
    t.snapshots.length =
      ids.length + (t.snapshots.filter fun s => s.snapshotId ∉ ids).length := by
  have hperm : ids.Perm ((t.snapshots.map Snapshot.snapshotId).filter (· ∈ ids)) := by
    apply (List.perm_ext_iff_of_nodup (hdistinct.sublist hids) (hdistinct.filter _)).mpr
    intro id
    rw [List.mem_filter, decide_eq_true_eq]
    exact ⟨fun hid => ⟨hids.subset hid, hid⟩, fun hid => hid.2⟩
  have hlength : ids.length = (t.snapshots.filter fun s => s.snapshotId ∈ ids).length := by
    rw [hperm.length_eq, List.filter_map, List.length_map]
    rfl
  have hsplit := List.length_eq_length_filter_add
    (l := t.snapshots) fun s : Snapshot ρ => decide (s.snapshotId ∈ ids)
  simp only [← decide_not] at hsplit
  rw [hlength, hsplit]

theorem snapshots_expired (ids : List ℕ) (lake : Lake ρ) :
    (ids.foldl Lake.expire lake).table.snapshots =
      lake.table.snapshots.filter fun s => s.snapshotId ∉ ids := by
  induction ids generalizing lake with
  | nil => simp
  | cons id ids ih =>
    rw [List.foldl_cons, ih]
    change List.filter _ (List.filter _ _) = _
    rw [List.filter_filter]
    apply List.filter_congr
    intro s _
    simp only [List.mem_cons, not_or, Bool.decide_and, decide_not, bne, Bool.beq_eq_decide_eq,
      Bool.and_comm]

end

/-! ## A whole expiration -/

/-- The state after some snapshots were expired. -/
def afterExpiring (w : LakeWorld ρ) (ids : List ℕ) (calls : ℕ) : LakeWorld ρ := { w with
  lake := ids.foldl Lake.expire w.lake
  calls := calls
  changes := w.changes ++ ids.map .expire }

theorem afterExpiring_nil (w : LakeWorld ρ) (calls : ℕ) :
    afterExpiring w [] calls = { w with calls := calls } := by
  rw [afterExpiring, List.map_nil, List.append_nil]
  rfl

theorem afterExpiring_cons (w : LakeWorld ρ) (id : ℕ) (ids : List ℕ) (calls calls' : ℕ) :
    afterExpiring (afterExpiring w [id] calls') ids calls = afterExpiring w (id :: ids) calls := by
  simp [afterExpiring]

theorem changesSince_afterExpiring (w : LakeWorld ρ) (ids : List ℕ) (calls : ℕ) :
    expiredIds (changesSince w (afterExpiring w ids calls)) = ids := by
  rw [changesSince_of_eq rfl, expiredIds_expire]

/-- A report of the identifiers that were expired. -/
structure Reports (ids : List ℕ) (result : SnapshotExpirationResult) : Prop where
  expiredIds : result.expiredIds = ids
  counts : result.snapshotsBefore = result.snapshotsExpired + result.snapshotsRemaining

section

variable {writer : Writer ρ} {fault : ℕ → Option Exc} {args : ExpirationArgs}

theorem expireSnapshot_of_passes {id : ℕ} {w : LakeWorld ρ} (h : fault w.calls = none) :
    expireSnapshot (alone writer fault) id w = (.ok (), afterExpiring w [id] (w.calls + 1)) := by
  rw [expireSnapshot, call_of_passes h]
  rfl

/-- What the loop expires is some of the candidates, or all of them where nothing fails. -/
theorem expireCandidates_run (currentId : Option ℕ) (candidates : List (Snapshot ρ))
    (w : LakeWorld ρ) : ∃ ids calls,
      expireCandidates (alone writer fault) currentId candidates w =
        (.ok ids, afterExpiring w ids calls) ∧
      ids.Sublist ((candidates.filter fun s => currentId ≠ some s.snapshotId).map
        Snapshot.snapshotId) ∧
      (fault = noFault → ids =
        (candidates.filter fun s => currentId ≠ some s.snapshotId).map Snapshot.snapshotId) := by
  induction candidates generalizing w with
  | nil => exact ⟨[], w.calls, by rw [afterExpiring_nil]; rfl, List.Sublist.refl _, fun _ => rfl⟩
  | cons s rest ih =>
    unfold expireCandidates
    by_cases hs : currentId = some s.snapshotId
    · rw [if_pos hs, List.filter_cons_of_neg (by simp [hs])]
      exact ih w
    · rw [if_neg hs, List.filter_cons_of_pos (by simp [hs]), List.map_cons, attempt_bind]
      cases hfault : fault w.calls with
      | none =>
        obtain ⟨ids, calls, hrest, hids, hall⟩ := ih (afterExpiring w [s.snapshotId] (w.calls + 1))
        refine ⟨s.snapshotId :: ids, calls, ?_, hids.cons_cons _, ?_⟩
        · rw [expireSnapshot_of_passes hfault]
          dsimp only
          rw [bind_ok hrest, afterExpiring_cons]
          rfl
        · intro hnone
          rw [hall hnone]
      | some e =>
        have hexpire : expireSnapshot (alone writer fault) s.snapshotId w =
            (.error e, afterExpiring w [] (w.calls + 1)) := by
          rw [expireSnapshot, call_of_fails hfault, afterExpiring_nil]
        obtain ⟨ids, calls, hrest, hids, -⟩ := ih (afterExpiring w [] (w.calls + 1))
        refine ⟨ids, calls, ?_, hids.cons _, ?_⟩
        · rw [hexpire]
          dsimp only
          rw [hrest, afterExpiring_nil]
          rfl
        · intro hnone
          rw [hnone] at hfault
          cases hfault

/-- A run that expires some of the candidates, and reports them if it returns. -/
structure ExpiresSome (args : ExpirationArgs) (w : LakeWorld ρ) (ids : List ℕ)
    (run : Except Exc SnapshotExpirationResult × LakeWorld ρ) : Prop where
  after : ∃ calls, run.2 = afterExpiring w ids calls
  expirable : ids.Sublist (expirable args w.table)
  readable : Unreadable args w.table.snapshots → ids = []
  reports : ∀ result, run.1 = .ok result → Reports ids result

theorem ExpiresSome.of_idle {w : LakeWorld ρ} {calls : ℕ}
    {outcome : Except Exc SnapshotExpirationResult}
    (h : ∀ result, outcome = .ok result → Reports [] result) :
    ExpiresSome args w [] (outcome, { w with calls := calls }) where
  after := ⟨calls, (afterExpiring_nil w calls).symm⟩
  expirable := List.nil_sublist _
  readable _ := rfl
  reports := h

theorem ExpiresSome.of_raised {w : LakeWorld ρ} {calls : ℕ} {e : Exc} :
    ExpiresSome args w [] (.error e, { w with calls := calls }) :=
  .of_idle fun _ h => nomatch h

/-- The handle that the last refresh leaves has what was not expired. -/
theorem refresh_afterExpiring {w : LakeWorld ρ} {ids : List ℕ} {calls : ℕ}
    (h : fault calls = none) : refresh (alone writer fault) (afterExpiring w ids calls) =
      (.ok (ids.foldl Lake.expire w.lake).table, afterExpiring w ids (calls + 1)) :=
  call_of_passes (w := afterExpiring w ids calls) h

theorem expireLoaded_run (w : LakeWorld ρ)
    (hdistinct : (w.table.snapshots.map Snapshot.snapshotId).Nodup) :
    ∃ ids, ExpiresSome args w ids (expireLoaded (alone writer fault) args w) := by
  cases hfault : fault w.calls with
  | some e =>
    have hrefresh : refresh (alone writer fault) w = (.error e, { w with calls := w.calls + 1 }) :=
      call_of_fails hfault
    rw [expireLoaded, bind_error hrefresh]
    exact ⟨[], .of_raised⟩
  | none =>
    have hrefresh : refresh (alone writer fault) w = (.ok w.table, { w with calls := w.calls + 1 }) :=
      call_of_passes hfault
    rw [expireLoaded, bind_ok hrefresh]
    by_cases hfew : (w.table.snapshots.length : ℤ) ≤ args.retainLast
    · rw [if_pos hfew]
      refine ⟨[], .of_idle ?_⟩
      intro result h
      obtain rfl := Except.ok.inj h
      exact ⟨rfl, (Nat.zero_add _).symm⟩
    rw [if_neg hfew]
    by_cases hunreadable : Unreadable args w.table.snapshots
    · rw [if_pos hunreadable]
      exact ⟨[], .of_raised⟩
    rw [if_neg hunreadable]
    obtain ⟨ids, calls, hloop, hids, -⟩ := @expireCandidates_run _ writer fault
      (w.table.currentSnapshot.map Snapshot.snapshotId)
      (candidateSnapshots args w.table.snapshots) { w with calls := w.calls + 1 }
    have hloop' : expireCandidates (alone writer fault)
        (w.table.currentSnapshot.map Snapshot.snapshotId)
        (candidateSnapshots args w.table.snapshots) { w with calls := w.calls + 1 } =
          (.ok ids, afterExpiring w ids calls) := hloop
    refine ⟨ids, ?_⟩
    rw [bind_ok hloop']
    cases hlast : fault calls with
    | some e =>
      have hfails : refresh (alone writer fault) (afterExpiring w ids calls) =
          (.error e, afterExpiring w ids (calls + 1)) := call_of_fails hlast
      rw [bind_error hfails]
      refine ⟨⟨_, rfl⟩, hids, fun h => absurd h hunreadable, ?_⟩
      intro result h
      cases h
    | none =>
      rw [bind_ok (refresh_afterExpiring hlast)]
      refine ⟨⟨_, rfl⟩, hids, fun h => absurd h hunreadable, ?_⟩
      intro result h
      obtain rfl := Except.ok.inj h
      refine ⟨rfl, ?_⟩
      dsimp only
      rw [snapshots_expired]
      exact length_remaining hdistinct (hids.trans expirable_sublist)

/-- A run expires some of the candidates, or all of them where nothing fails. -/
theorem expireSnapshots_run (w : LakeWorld ρ)
    (hdistinct : (w.table.snapshots.map Snapshot.snapshotId).Nodup) :
    ∃ ids, ExpiresSome args w ids (expireSnapshots (alone writer fault) args w) := by
  cases hfault : fault w.calls with
  | some e =>
    have hload : loadTable (alone writer fault) w = (.error e, { w with calls := w.calls + 1 }) :=
      call_of_fails hfault
    rw [expireSnapshots, attempt_bind, hload]
    by_cases hmissing : e.name = "NoSuchTableError"
    · refine ⟨[], ?_⟩
      change ExpiresSome _ _ _ ((ite _ _ _ : LakeM ρ _) _)
      rw [if_pos hmissing]
      apply ExpiresSome.of_idle
      intro result h
      obtain rfl := Except.ok.inj h
      exact ⟨rfl, rfl⟩
    · refine ⟨[], ?_⟩
      change ExpiresSome _ _ _ ((ite _ _ _ : LakeM ρ _) _)
      rw [if_neg hmissing]
      exact .of_raised
  | none =>
    have hload : loadTable (alone writer fault) w = (.ok w.table, { w with calls := w.calls + 1 }) :=
      call_of_passes hfault
    obtain ⟨ids, hsome⟩ := @expireLoaded_run _ writer fault args { w with calls := w.calls + 1 }
      hdistinct
    refine ⟨ids, ?_⟩
    rw [expireSnapshots, attempt_bind, hload]
    exact ⟨hsome.after, hsome.expirable, hsome.readable, hsome.reports⟩

/-- Where nothing fails, all the candidates are expired but for the current one. -/
theorem expireSnapshots_noFault (w : LakeWorld ρ)
    (hreadable : ¬Unreadable args w.table.snapshots) :
    ∃ calls, (expireSnapshots (alone writer noFault) args w).2 =
      afterExpiring w (expirable args w.table) calls := by
  have hload : loadTable (alone writer noFault) w = (.ok w.table, { w with calls := w.calls + 1 }) :=
    call_of_passes rfl
  rw [expireSnapshots, attempt_bind, hload]
  dsimp only
  rw [expireLoaded, bind_ok (refresh_noFault _)]
  by_cases hfew : (w.table.snapshots.length : ℤ) ≤ args.retainLast
  · have hnone : expirable args w.table = [] := by
      rw [expirable, candidateSnapshots_of_few hfew]
      rfl
    rw [if_pos hfew, hnone]
    exact ⟨_, (afterExpiring_nil w _).symm⟩
  rw [if_neg hfew, if_neg hreadable]
  obtain ⟨ids, calls, hloop, -, hall⟩ := @expireCandidates_run _ writer noFault
    (w.table.currentSnapshot.map Snapshot.snapshotId)
    (candidateSnapshots args w.table.snapshots) { w with calls := w.calls + 2 }
  have hids : ids = expirable args w.table := hall rfl
  have hloop' : expireCandidates (alone writer noFault)
      (w.table.currentSnapshot.map Snapshot.snapshotId)
      (candidateSnapshots args w.table.snapshots) { w with calls := w.calls + 2 } =
        (.ok ids, afterExpiring w ids calls) := hloop
  rw [← hids, bind_ok hloop', bind_ok (refresh_afterExpiring rfl)]
  exact ⟨_, rfl⟩

/-- A current snapshot is one of the table's. -/
theorem currentSnapshot_not_expirable {t : TableMetadata ρ} {s : Snapshot ρ}
    (hs : s ∈ t.currentSnapshot) : s.snapshotId ∉ expirable args t := by
  intro hmem
  obtain ⟨s', -, hother, hsame⟩ := mem_expirable.mp hmem
  rw [hs, hsame] at hother
  exact hother rfl

/-- With no other writer, whatever fails, an expiration keeps what it must just in case the
conversion of their times gets no candidate below the cutoff. -/
theorem expiration_keeps_iff (writer : Writer ρ) (args : ExpirationArgs) (w : LakeWorld ρ)
    (hdistinct : (w.table.snapshots.map Snapshot.snapshotId).Nodup) :
    (∀ fault, KeepsWhatItMust args w (expireSnapshots (alone writer fault) args w).2
      (expireSnapshots (alone writer fault) args w).1) ↔ CutoffExact args w.table := by
  constructor
  · intro h cutoff hcutoff
    by_cases hreadable : Unreadable args w.table.snapshots
    · exact .inl hreadable
    refine .inr fun s hs hother hbelow => ?_
    obtain ⟨calls, hafter⟩ := @expireSnapshots_noFault _ writer _ w hreadable
    have holder := (h noFault).older cutoff hcutoff
    rw [hafter, changesSince_afterExpiring] at holder
    obtain ⟨rest, hsplit, -⟩ := @olderSnapshots_append_newest _ args w.table.snapshots
    refine holder s ?_ (mem_expirable.mpr ⟨s, ?_, hother, rfl⟩)
    · rw [← hsplit]
      exact List.mem_append_left _ hs
    · exact (mem_candidateSnapshots_iff hcutoff).mpr ⟨hs, hbelow⟩
  · intro hexact fault
    obtain ⟨ids, hsome⟩ := @expireSnapshots_run _ writer fault args w hdistinct
    obtain ⟨calls, hafter⟩ := hsome.after
    have hexpired : expiredIds (changesSince w (expireSnapshots (alone writer fault) args w).2) =
        ids := by
      rw [hafter, changesSince_afterExpiring]
    constructor
    · rw [hexpired]
      exact hdistinct.sublist (hsome.expirable.trans expirable_sublist)
    · intro s hs hmem
      rw [hexpired] at hmem
      exact currentSnapshot_not_expirable hs (hsome.expirable.subset hmem)
    · intro s hs hmem
      rw [hexpired] at hmem
      exact not_expirable_of_newest hdistinct hs (hsome.expirable.subset hmem)
    · intro cutoff hcutoff s hs hmem
      rw [hexpired] at hmem
      obtain ⟨s', hs', hother, hsame⟩ := mem_expirable.mp (hsome.expirable.subset hmem)
      obtain ⟨hcandidate, hbelow⟩ := (mem_candidateSnapshots_iff hcutoff).mp hs'
      obtain ⟨rest, hsplit, -⟩ := @olderSnapshots_append_newest _ args w.table.snapshots
      have hmem' : s' ∈ w.table.snapshots := by
        rw [← hsplit]
        exact List.mem_append_left _ hcandidate
      obtain rfl : s' = s := List.inj_on_of_nodup_map hdistinct hmem' hs hsame
      obtain hunreadable | hexact := hexact cutoff hcutoff
      · rw [hsome.readable hunreadable] at hmem
        exact absurd hmem List.not_mem_nil
      · exact hexact s' hcandidate hother hbelow
    · intro result hresult
      rw [hexpired]
      exact (hsome.reports result hresult).expiredIds
    · exact fun result hresult => (hsome.reports result hresult).counts

end

/-! ### A millisecond in the year 2242 -/

def lateFile : Writer Unit := { oneFile with timestampMs := fun id => 8589934592000 + id }

/-- Two more snapshots, written a millisecond apart. -/
def lateLake : LakeWorld Unit :=
  ((exampleLake "s3://wh/t/data/a.parquet").appendCommit lateFile [()]).appendCommit lateFile [()]

/-- The cutoff is the time of the first of them. -/
def lateArgs : ExpirationArgs where
  tableName := "bronze.events"
  olderThan := some (8589934592001 * 1000)
  retainLast := 1

theorem old_snapshot_expired : KeepsWhatItMust { lateArgs with olderThan := some 1000 }
    lateLake (expireSnapshots (alone lateFile noFault) { lateArgs with olderThan := some 1000 }
      lateLake).2 (expireSnapshots (alone lateFile noFault) { lateArgs with olderThan := some 1000 }
      lateLake).1 := by
  refine (expiration_keeps_iff lateFile _ lateLake (by decide)).mpr ?_ noFault
  intro cutoff hcutoff
  obtain rfl := Option.some.inj hcutoff
  exact .inr (by decide +kernel)

/-- It is read as a microsecond before the cutoff, and expired. -/
theorem snapshot_at_cutoff_expired : ¬∀ fault, KeepsWhatItMust lateArgs lateLake
    (expireSnapshots (alone lateFile fault) lateArgs lateLake).2
    (expireSnapshots (alone lateFile fault) lateArgs lateLake).1 := by
  intro h
  have hexpired : ∃ s ∈ lateLake.table.snapshots, s.snapshotId ∈ expiredIds (changesSince lateLake
      (expireSnapshots (alone lateFile noFault) lateArgs lateLake).2) ∧
      ¬s.timestampMs * 1000 < 8589934592001 * 1000 := by
    decide +kernel
  obtain ⟨s, hs, hmem, hlate⟩ := hexpired
  exact hlate ((h noFault).older _ rfl s hs hmem)

end IceStream.Iceberg
