import IceStream.Iceberg.CompactionRows
import IceStream.Iceberg.LiveFiles
import IceStream.Iceberg.Maintenance

/-!
# Dry runs

The flag of a dry run reaches the cleanup of orphans and nothing else. So a dry run
changes nothing just in case its other operations find nothing to do.
-/

namespace IceStream.Iceberg
open Python Fallible

variable {ρ : Type}

/-! ## Invariants of a whole run -/

/-- An invariant that no change takes away. -/
structure Growing (env : Surroundings ρ) (I : LakeWorld ρ → Prop) : Prop where
  stable : Stable env I
  change : ∀ w lake change, I w → I { w with lake := lake, changes := w.changes ++ [change] }

theorem growing_length (env : Surroundings ρ) (n : ℕ) :
    Growing env fun w => n ≤ w.changes.length where
  stable := ⟨fun _ _ h => h, fun _ _ _ _ h => h⟩
  change w lake change h := by
    change n ≤ (w.changes ++ [change]).length
    rw [List.length_append]
    omega

section

variable {env : Surroundings ρ} {I : LakeWorld ρ → Prop} {storage : Storage}

theorem Growing.compactable (hI : Growing env I) : Compactable env I where
  stable := hI.stable
  overwrite tbl := by
    have hcommit : Preserves I (commitOverwrite env tbl tbl.rows) := by
      intro w hw
      by_cases hcurrent : w.table.currentSnapshotId = tbl.currentSnapshotId
      · rw [commitOverwrite_of_current env _ hcurrent]
        exact hI.change w _ _ hw
      · rw [commitOverwrite_of_changed env _ hcurrent]
        exact hw
    exact (hI.stable.preserves_call hcommit).ensures.mono (fun _ h => h.1) (fun _ _ => id) fun _ => id

theorem Growing.expireCandidates (hI : Growing env I) (currentId : Option ℕ)
    (candidates : List (Snapshot ρ)) :
    Preserves I (expireCandidates env currentId candidates) := by
  induction candidates with
  | nil => exact preserves_pure []
  | cons s rest ih =>
    have hexpire : Preserves I (expireSnapshot env s.snapshotId) :=
      hI.stable.preserves_call fun w hw => hI.change w _ _ hw
    unfold Iceberg.expireCandidates
    split_ifs
    · exact ih
    · refine hexpire.attempt.bind fun outcome => ?_
      cases outcome with
      | ok _ => exact ih.bind fun _ => preserves_pure _
      | error e => exact ih

theorem Growing.expireSnapshots (hI : Growing env I) (args : ExpirationArgs) :
    Preserves I (expireSnapshots env args) := by
  have hread : Preserves I (refresh env) := hI.stable.preserves_call (preserves_read _)
  refine hread.attempt.bind fun loaded => ?_
  cases loaded with
  | ok tbl =>
    refine hread.bind fun tbl => ?_
    change Preserves _ (ite _ _ _)
    split_ifs
    · exact preserves_pure _
    · exact preserves_raise _
    · refine (hI.expireCandidates _ _).bind fun expiredIds => hread.bind fun _ => preserves_pure _
  | error e =>
    change Preserves _ (ite _ _ _)
    split_ifs
    · exact preserves_pure _
    · exact preserves_raise e

/-- A dry cleanup keeps whatever other writers leave alone. -/
theorem Stable.dryCleanup (hI : Stable env I) {args : CleanupArgs} (hdry : args.dryRun = true) :
    Preserves I (cleanupOrphanFiles env storage args) := by
  have hread : Preserves I (refresh env) := hI.preserves_call (preserves_read _)
  have hanswer {α : Type} (a : α) : Preserves I (call env (pure a)) :=
    hI.preserves_call (preserves_pure a)
  refine hread.attempt.bind fun loaded => ?_
  cases loaded with
  | ok tbl =>
    refine hread.bind fun tbl => (hanswer ()).bind fun _ => (hanswer _).attempt.bind fun pages => ?_
    cases pages with
    | ok pages =>
      have hdelete (keys : List Text) : Preserves I (deleteOrphans env args keys) := by
        rw [deleteOrphans, hdry, if_pos rfl]
        exact preserves_pure ()
      exact (hdelete _).bind fun _ => preserves_pure _
    | error e => exact preserves_pure _
  | error e =>
    change Preserves _ (ite _ _ _)
    split_ifs
    · exact preserves_pure _
    · exact preserves_raise e

theorem preserves_runStage {α : Type} {enabled : Bool} {x : LakeM ρ α} {success : α → Bool}
    {error : α → Option Text} {failed raised : Text} {errorMsg : Option Text}
    (hx : enabled = true → Preserves I x) :
    Preserves I (runStage enabled x success error failed raised errorMsg) := by
  unfold runStage
  split_ifs with henabled
  · refine (hx henabled).attempt.bind fun outcome => ?_
    cases outcome with
    | ok result => exact preserves_pure _
    | error e => exact preserves_pure _
  · exact preserves_pure _

end

/-! ## Nothing to do -/

/-- Too few files to compact, or none with a row. -/
def NothingToCompact (args : CompactionArgs) (t : TableMetadata ρ) : Prop :=
  t.files.length < args.minFileCount ∨ t.rows = []

/-- No candidate but the current snapshot. -/
def NothingToExpire (args : ExpirationArgs) (t : TableMetadata ρ) : Prop :=
  ∀ s ∈ candidateSnapshots args t.snapshots,
    t.currentSnapshot.map Snapshot.snapshotId = some s.snapshotId

/-- The table and what was changed are as they were. -/
def Idle (base w : LakeWorld ρ) : Prop := w.lake = base.lake ∧ w.changes = base.changes

theorem expireCandidates_of_current (env : Surroundings ρ) {currentId : Option ℕ}
    {candidates : List (Snapshot ρ)} (h : ∀ s ∈ candidates, currentId = some s.snapshotId) :
    expireCandidates env currentId candidates = pure [] := by
  induction candidates with
  | nil => rfl
  | cons s rest ih =>
    obtain ⟨hs, hrest⟩ := List.forall_mem_cons.mp h
    rw [expireCandidates, if_pos hs, ih hrest]

section

variable {writer : Writer ρ} {fault : ℕ → Option Exc} {base : LakeWorld ρ}

theorem stable_idle : Stable (alone writer fault) (Idle base) := stable_alone fun _ _ h => h

theorem idle_tryCompaction (hrows : base.table.rows = []) (args : CompactionArgs)
    (filesBefore bytesBefore : ℕ) :
    Preserves (Idle base) (tryCompaction (alone writer fault) args filesBefore bytesBefore) := by
  have hstable : Stable (alone writer fault) (Idle base) := stable_idle
  apply Ensures.preserves
  refine (hstable.ensures_table fun _ hw => hw.1).bind fun tbl => ensures_of_fact fun htbl => ?_
  subst htbl
  refine (hstable.ensures_answer base.table.rows).bind fun rows => ensures_of_fact fun hdata => ?_
  rw [hrows] at hdata
  subst hdata
  exact ensures_pure fun _ => id

theorem idle_compactTable {args : CompactionArgs} (h : NothingToCompact args base.table)
    (compactor : TableCompactor) :
    Preserves (Idle base) (compactTable (alone writer fault) args compactor) := by
  have hstable : Stable (alone writer fault) (Idle base) := stable_idle
  apply Ensures.preserves
  refine (hstable.ensures_table fun _ hw => hw.1).attempt_bind (fun tbl => ?_) fun e => ?_
  · refine ensures_of_fact fun htbl => ?_
    subst htbl
    refine (hstable.ensures_answer base.table.files).bind fun tasks => ensures_of_fact fun htasks => ?_
    subst htasks
    change Ensures _ (ite _ _ _) _ _
    split_ifs with hfew
    · exact ensures_pure fun _ => id
    · have hrows : base.table.rows = [] := h.resolve_left hfew
      generalize (args.maxRetries.getD compactor.maxRetries).toNat = attempts
      generalize (none : Option Exc) = lastError
      induction attempts generalizing lastError with
      | zero => exact ensures_pure fun _ => id
      | succ attempts ih =>
        refine (idle_tryCompaction hrows args _ _).ensures.attempt_bind (fun result => ?_) fun e => ?_
        · exact ensures_pure fun _ => id
        · change Ensures _ (ite _ _ _) _ _
          split_ifs
          · exact ih (some e)
          · exact ensures_pure fun _ => id
  · change Ensures _ (ite _ _ _) _ _
    split_ifs
    · exact ensures_pure fun _ => id
    · exact ensures_raise fun _ => id

theorem idle_expireSnapshots {args : ExpirationArgs} (h : NothingToExpire args base.table) :
    Preserves (Idle base) (expireSnapshots (alone writer fault) args) := by
  have hstable : Stable (alone writer fault) (Idle base) := stable_idle
  have hread : Preserves (Idle base) (refresh (alone writer fault)) :=
    hstable.preserves_call (preserves_read _)
  refine hread.attempt.bind fun loaded => ?_
  cases loaded with
  | error e =>
    change Preserves _ (ite _ _ _)
    split_ifs
    · exact preserves_pure _
    · exact preserves_raise e
  | ok tbl =>
    apply Ensures.preserves
    refine (hstable.ensures_table fun _ hw => hw.1).bind fun tbl' => ensures_of_fact fun htbl => ?_
    subst htbl
    change Ensures _ (ite _ _ _) _ _
    split_ifs
    · exact ensures_pure fun _ => id
    · exact ensures_raise fun _ => id
    · rw [expireCandidates_of_current _ h]
      exact (hread.bind fun _ => preserves_pure _).ensures

/-! ## Something to do, and no failure -/

theorem refresh_noFault (w : LakeWorld ρ) :
    refresh (alone writer noFault) w = (.ok w.table, { w with calls := w.calls + 1 }) := rfl

/-- The first two calls of a compaction. -/
theorem compactTable_noFault (args : CompactionArgs) (compactor : TableCompactor) (w : LakeWorld ρ) :
    compactTable (alone writer noFault) args compactor w =
      (if (w.table.files.length : ℤ) < args.minFileCount then
        pure {
          tableName := args.tableName
          needed := false
          filesBefore := w.table.files.length
          filesAfter := w.table.files.length
          bytesBefore := totalBytes w.table.files
          bytesAfter := totalBytes w.table.files
          recordsCompacted := 0
          success := true
          snapshotId := w.table.currentSnapshot.map Snapshot.snapshotId }
      else
        compactionAttempts (alone writer noFault) args w.table.files.length
          (totalBytes w.table.files) (args.maxRetries.getD compactor.maxRetries).toNat none)
        { w with calls := w.calls + 2 } := rfl

/-- Without failures, a compaction with nothing to do reports success. -/
theorem compactTable_of_nothing {args : CompactionArgs} (compactor : TableCompactor)
    {w : LakeWorld ρ} (h : NothingToCompact args w.table)
    (hretries : 0 < (args.maxRetries.getD compactor.maxRetries).toNat) :
    ∃ result t, compactTable (alone writer noFault) args compactor w = (.ok result, t) ∧
      result.success = true := by
  rw [compactTable_noFault]
  split_ifs with hfew
  · exact ⟨_, _, rfl, rfl⟩
  · have hrows : w.table.rows = [] := h.resolve_left hfew
    obtain ⟨attempts, hattempts⟩ := Nat.exists_eq_succ_of_ne_zero hretries.ne'
    have harrow : toArrow (alone writer noFault) w.table { w with calls := w.calls + 3 } =
        (.ok [], { w with calls := w.calls + 4 }) := by
      rw [← hrows]
      rfl
    obtain ⟨result, htry, hsuccess⟩ : ∃ result,
        tryCompaction (alone writer noFault) args w.table.files.length (totalBytes w.table.files)
          { w with calls := w.calls + 2 } = (.ok result, { w with calls := w.calls + 4 }) ∧
        result.success = true := by
      rw [tryCompaction, bind_ok (refresh_noFault _), bind_ok harrow]
      exact ⟨_, rfl, rfl⟩
    refine ⟨result, { w with calls := w.calls + 4 }, ?_, hsuccess⟩
    rw [hattempts, compactionAttempts, attempt_bind, htry]
    rfl

/-- Without failures, a compaction with something to do changes the table. -/
theorem compactTable_changes {args : CompactionArgs} {compactor : TableCompactor}
    {w : LakeWorld ρ} (h : ¬NothingToCompact args w.table)
    (hretries : 0 < (args.maxRetries.getD compactor.maxRetries).toNat) :
    w.changes.length + 1 ≤
      (compactTable (alone writer noFault) args compactor w).2.changes.length := by
  have hgrowing : Growing (alone writer noFault) fun t : LakeWorld ρ =>
      w.changes.length + 1 ≤ t.changes.length := growing_length _ _
  obtain ⟨hfew, hrows⟩ := not_or.mp h
  obtain ⟨attempts, hattempts⟩ := Nat.exists_eq_succ_of_ne_zero hretries.ne'
  set filesBefore := w.table.files.length with hfiles
  set bytesBefore := totalBytes w.table.files with hbytes
  have htry : w.changes.length + 1 ≤ (tryCompaction (alone writer noFault) args filesBefore bytesBefore
      { w with calls := w.calls + 2 }).2.changes.length := by
    have harrow : toArrow (alone writer noFault) w.table { w with calls := w.calls + 3 } =
        (.ok w.table.rows, { w with calls := w.calls + 4 }) := rfl
    have hcommit : overwrite (alone writer noFault) w.table w.table.rows
        { w with calls := w.calls + 4 } = (.ok (w.lake.replace writer w.table.rows).table,
          { w with
            lake := w.lake.replace writer w.table.rows
            calls := w.calls + 5
            changes := w.changes ++ [.overwrite] }) := commitOverwrite_of_current _ _ rfl
    have hlength : ¬w.table.rows.length = 0 := by rwa [List.length_eq_zero_iff]
    rw [tryCompaction, bind_ok (refresh_noFault _), bind_ok harrow]
    change w.changes.length + 1 ≤ ((ite _ _ _ : LakeM ρ _) _).2.changes.length
    rw [if_neg hlength, bind_ok hcommit]
    apply hgrowing.stable.checkCompaction args filesBefore bytesBefore w.table.rows.length
    change _ ≤ (w.changes ++ [Change.overwrite]).length
    rw [List.length_append, List.length_singleton]
  rw [compactTable_noFault, if_neg hfew, hattempts, compactionAttempts, attempt_bind]
  cases (tryCompaction (alone writer noFault) args filesBefore bytesBefore
      { w with calls := w.calls + 2 }).1 with
  | ok result => exact htry
  | error e =>
    change w.changes.length + 1 ≤ ((ite _ _ _ : LakeM ρ _) _).2.changes.length
    split_ifs
    · exact hgrowing.compactable.compactionAttempts args _ _ attempts _ _ htry
    · exact htry

theorem expireCandidates_changes (writer : Writer ρ) {currentId : Option ℕ}
    {candidates : List (Snapshot ρ)}
    (h : ¬∀ s ∈ candidates, currentId = some s.snapshotId) (w : LakeWorld ρ) :
    w.changes.length + 1 ≤
      (expireCandidates (alone writer noFault) currentId candidates w).2.changes.length := by
  have hgrowing : Growing (alone writer noFault) fun t : LakeWorld ρ =>
      w.changes.length + 1 ≤ t.changes.length := growing_length _ _
  induction candidates with
  | nil => exact absurd (fun _ hs => absurd hs List.not_mem_nil) h
  | cons s rest ih =>
    unfold expireCandidates
    split_ifs with hs
    · apply ih
      intro hrest
      exact h (List.forall_mem_cons.mpr ⟨hs, hrest⟩)
    · have hexpire : expireSnapshot (alone writer noFault) s.snapshotId w = (.ok (), { w with
          lake := w.lake.expire s.snapshotId
          calls := w.calls + 1
          changes := w.changes ++ [.expire s.snapshotId] }) := rfl
      rw [attempt_bind, hexpire]
      have hrest := (hgrowing.expireCandidates currentId rest).bind fun expiredIds =>
        preserves_pure (s.snapshotId :: expiredIds)
      apply hrest
      change _ ≤ (w.changes ++ [Change.expire s.snapshotId]).length
      rw [List.length_append, List.length_singleton]

theorem olderSnapshots_of_few {args : ExpirationArgs} {snapshots : List (Snapshot ρ)}
    (h : (snapshots.length : ℤ) ≤ args.retainLast) : olderSnapshots args snapshots = [] := by
  unfold olderSnapshots
  split_ifs
  · have hzero : snapshots.length - args.retainLast.toNat = 0 := by omega
    rw [hzero, List.take_zero]
  · apply List.eq_nil_of_length_eq_zero
    omega

theorem candidateSnapshots_of_few {args : ExpirationArgs} {snapshots : List (Snapshot ρ)}
    (h : (snapshots.length : ℤ) ≤ args.retainLast) : candidateSnapshots args snapshots = [] := by
  rw [candidateSnapshots, olderSnapshots_of_few h]
  cases args.olderThan <;> rfl

theorem expireSnapshots_changes {args : ExpirationArgs} {w : LakeWorld ρ}
    (hcutoff : args.olderThan = none) (h : ¬NothingToExpire args w.table) :
    w.changes.length + 1 ≤ (expireSnapshots (alone writer noFault) args w).2.changes.length := by
  have hgrowing : Growing (alone writer noFault) fun t : LakeWorld ρ =>
      w.changes.length + 1 ≤ t.changes.length := growing_length _ _
  have hread : Preserves (fun t : LakeWorld ρ => w.changes.length + 1 ≤ t.changes.length)
      (refresh (alone writer noFault)) := hgrowing.stable.preserves_call (preserves_read _)
  have hload : loadTable (alone writer noFault) w = (.ok w.table, { w with calls := w.calls + 1 }) :=
    rfl
  have hmany : ¬(w.table.snapshots.length : ℤ) ≤ args.retainLast := by
    intro hfew
    apply h
    intro s hs
    rw [candidateSnapshots_of_few hfew] at hs
    exact absurd hs List.not_mem_nil
  rw [expireSnapshots, attempt_bind, hload]
  change w.changes.length + 1 ≤ ((expireLoaded (alone writer noFault) args) _).2.changes.length
  have hreadable : ¬Unreadable args w.table.snapshots := by
    rintro ⟨hsome, -⟩
    rw [hcutoff] at hsome
    cases hsome
  rw [expireLoaded, bind_ok (refresh_noFault _), if_neg hmany, if_neg hreadable]
  have hexpired := expireCandidates_changes writer h { w with calls := w.calls + 2 }
  exact after_bind (I := fun t : LakeWorld ρ => w.changes.length + 1 ≤ t.changes.length) hexpired
    fun _ => hread.bind fun _ => preserves_pure _

end

/-! ## Runs -/

/-- The run of these arguments as a dry run. -/
def dryRun (env : Surroundings ρ) (storage : Storage) (args : MaintenanceArgs) :
    LakeM ρ MaintenanceRunResult :=
  runTableMaintenance env storage { args with dryRun := true }

/-- Neither compaction nor expiration gets to see the flag. -/
theorem dryRun_eq (env : Surroundings ρ) (storage : Storage) (args : MaintenanceArgs) :
    dryRun env storage args = (do
      let compaction ← compactionStage env args
      let expiration ← expirationStage env args compaction
      let cleanup ← cleanupStage env storage { args with dryRun := true } expiration.2
      pure {
        tableName := args.tableName
        compaction := compaction.1
        snapshotExpiration := expiration.1
        orphanCleanup := cleanup.1
        status := overallStatus compaction.1 expiration.1 cleanup.2
        error := cleanup.2 }) := rfl

/-- The enabled operations find nothing to do. -/
def NothingToDo (args : MaintenanceArgs) (t : TableMetadata ρ) : Prop :=
  (args.compact = true → NothingToCompact args.compaction t) ∧
    (args.expireSnapshots = true → NothingToExpire args.expiration t)

theorem preserves_dryRun {env : Surroundings ρ} {I : LakeWorld ρ → Prop} {storage : Storage}
    {args : MaintenanceArgs} (hI : Stable env I)
    (hcompact : args.compact = true → Preserves I (compactTable env args.compaction {}))
    (hexpire : args.expireSnapshots = true → Preserves I (expireSnapshots env args.expiration)) :
    Preserves I (dryRun env storage args) := by
  refine (preserves_runStage hcompact).bind fun compaction => ?_
  refine (preserves_runStage fun henabled => hexpire ?_).bind fun expiration => ?_
  · exact (Bool.and_eq_true_iff.mp henabled).1
  · exact (preserves_runStage fun _ => hI.dryCleanup rfl).bind fun _ => preserves_pure _

section

variable {writer : Writer ρ} {storage : Storage} {args : MaintenanceArgs} {w : LakeWorld ρ}

/-- A stage that runs makes the changes of its operation. -/
theorem after_runStage {I : LakeWorld ρ → Prop} {α : Type} {enabled : Bool}
    {x : LakeM ρ α} {success : α → Bool} {error : α → Option Text} {failed raised : Text}
    {errorMsg : Option Text} (henabled : enabled = true) (hx : I (x w).2) :
    I (runStage enabled x success error failed raised errorMsg w).2 := by
  rw [runStage, if_pos henabled]
  refine after_bind (I := I) hx fun outcome => ?_
  cases outcome with
  | ok result => exact preserves_pure _
  | error e => exact preserves_pure _

theorem changes_of_compaction (hcompact : args.compact = true)
    (hsomething : ¬NothingToCompact args.compaction w.table) :
    w.changes.length + 1 ≤ (dryRun (alone writer noFault) storage args w).2.changes.length := by
  have hgrowing : Growing (alone writer noFault) fun t : LakeWorld ρ =>
      w.changes.length + 1 ≤ t.changes.length := growing_length _ _
  have hretries : 0 < ((none : Option ℤ).getD 3).toNat := by decide
  have hstage : w.changes.length + 1 ≤
      (compactionStage (alone writer noFault) args w).2.changes.length :=
    after_runStage (I := fun t : LakeWorld ρ => w.changes.length + 1 ≤ t.changes.length) hcompact
      (compactTable_changes hsomething hretries)
  rw [dryRun_eq]
  refine after_bind (I := fun t : LakeWorld ρ => w.changes.length + 1 ≤ t.changes.length) hstage
    fun compaction => ?_
  refine (preserves_runStage fun _ => hgrowing.expireSnapshots _).bind fun expiration => ?_
  exact (preserves_runStage fun _ => hgrowing.stable.dryCleanup rfl).bind fun _ => preserves_pure _

theorem compactionStage_of_nothing
    (h : args.compact = true → NothingToCompact args.compaction w.table) :
    ∃ result t, compactionStage (alone writer noFault) args w = (.ok (result, none), t) ∧
      Idle w t := by
  cases hcompact : args.compact with
  | false =>
    refine ⟨none, w, ?_, rfl, rfl⟩
    rw [compactionStage, runStage, hcompact, if_neg Bool.false_ne_true]
    rfl
  | true =>
    have hretries : 0 < ((none : Option ℤ).getD 3).toNat := by decide
    obtain ⟨result, t, hrun, hsuccess⟩ := compactTable_of_nothing {} (h hcompact) hretries
    have hidle : Idle w (compactTable (alone writer noFault) args.compaction {} w).2 :=
      idle_compactTable (h hcompact) {} w ⟨rfl, rfl⟩
    rw [hrun] at hidle
    refine ⟨some result, t, ?_, hidle⟩
    rw [compactionStage, runStage, hcompact, if_pos rfl, attempt_bind, hrun]
    change (Except.ok (some result, if result.success = true then none else _), t) = _
    rw [if_pos hsuccess]

theorem changes_of_expiration (h : args.compact = true → NothingToCompact args.compaction w.table)
    (hexpire : args.expireSnapshots = true)
    (hsomething : ¬NothingToExpire args.expiration w.table) :
    w.changes.length + 1 ≤ (dryRun (alone writer noFault) storage args w).2.changes.length := by
  have hgrowing : Growing (alone writer noFault) fun t : LakeWorld ρ =>
      w.changes.length + 1 ≤ t.changes.length := growing_length _ _
  obtain ⟨result, t, hrun, hlake, hchanges⟩ : ∃ result t,
      compactionStage (alone writer noFault) args w = (.ok (result, none), t) ∧ Idle w t :=
    compactionStage_of_nothing h
  have hsomething' : ¬NothingToExpire args.expiration t.table := by rwa [LakeWorld.table, hlake]
  have hexpired : t.changes.length + 1 ≤
      (expireSnapshots (alone writer noFault) args.expiration t).2.changes.length :=
    expireSnapshots_changes rfl hsomething'
  rw [hchanges] at hexpired
  have hstage : w.changes.length + 1 ≤
      (expirationStage (alone writer noFault) args (result, none) t).2.changes.length := by
    have henabled : (args.expireSnapshots &&
        !(false && result.any fun result => !result.success)) = true := by
      rw [hexpire, Bool.false_and]
      rfl
    exact after_runStage (I := fun t : LakeWorld ρ => w.changes.length + 1 ≤ t.changes.length)
      henabled hexpired
  rw [dryRun_eq, bind_ok hrun]
  refine after_bind (I := fun t : LakeWorld ρ => w.changes.length + 1 ≤ t.changes.length) hstage
    fun expiration => ?_
  exact (preserves_runStage fun _ => hgrowing.stable.dryCleanup rfl).bind fun _ => preserves_pure _

/-- A dry run with compaction and expiration switched off changes nothing, whatever goes on
around it. With no other writer, whatever fails, it changes nothing just in case the enabled
ones of the two have nothing to do. -/
theorem dryRun_changes_nothing_iff (storage : Storage) (args : MaintenanceArgs) :
    (args.compact = false → args.expireSnapshots = false → ∀ (env : Surroundings ρ) w,
      (dryRun env storage args w).2.changes = w.changes) ∧
    ∀ (writer : Writer ρ) (w : LakeWorld ρ),
      (∀ fault, (dryRun (alone writer fault) storage args w).2.changes = w.changes) ↔
        NothingToDo args w.table := by
  constructor
  · intro hcompact hexpire env w
    have hstable : Stable env fun t : LakeWorld ρ => t.changes = w.changes :=
      ⟨fun _ _ h => h, fun _ _ _ _ h => h⟩
    refine preserves_dryRun hstable ?_ ?_ w rfl
    · simp [hcompact]
    · simp [hexpire]
  · intro writer w
    constructor
    · intro h
      have hnothing : args.compact = true → NothingToCompact args.compaction w.table := by
        intro hcompact
        by_contra hsomething
        have hlonger : _ ≤ (dryRun (alone writer noFault) storage args w).2.changes.length :=
          changes_of_compaction hcompact hsomething
        rw [h noFault] at hlonger
        omega
      refine ⟨hnothing, fun hexpire => ?_⟩
      by_contra hsomething
      have hlonger : _ ≤ (dryRun (alone writer noFault) storage args w).2.changes.length :=
        changes_of_expiration hnothing hexpire hsomething
      rw [h noFault] at hlonger
      omega
    · rintro ⟨hcompact, hexpire⟩ fault
      have hidle : Preserves (Idle w) (dryRun (alone writer fault) storage args) :=
        preserves_dryRun stable_idle (fun henabled => idle_compactTable (hcompact henabled) {})
          fun henabled => idle_expireSnapshots (hexpire henabled)
      exact (hidle w ⟨rfl, rfl⟩).2

end

/-! ### Two data files -/

/-- The table with one data file, and another one appended. -/
def appendedLake : LakeWorld Unit :=
  (exampleLake "s3://wh/t/data/a.parquet").appendCommit oneFile [()]

/-- With its defaults a dry run compacts; with one snapshot to retain, it expires the other. -/
theorem dry_run_changes :
    (dryRun (alone oneFile noFault) (exampleStorage none) { tableName := "bronze.events" }
      appendedLake).2.changes ≠ appendedLake.changes ∧
    (dryRun (alone oneFile noFault) (exampleStorage none)
      { tableName := "bronze.events", compact := false, retainLastSnapshots := 1 }
      appendedLake).2.changes ≠ appendedLake.changes := by
  decide +kernel

end IceStream.Iceberg
