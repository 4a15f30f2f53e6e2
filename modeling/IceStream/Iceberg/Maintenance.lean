import IceStream.Iceberg.SnapshotManager

/-!
# A maintenance run

Compaction, expiration and the cleanup of orphans, each behind its own flag. A failed
compaction stops the expiration, any failure stops the cleanup.
-/

namespace IceStream.Iceberg
open Python

variable {ρ : Type}

structure MaintenanceArgs where
  tableName : Text
  compact : Bool := true
  expireSnapshots : Bool := true
  cleanupOrphans : Bool := false
  retainLastSnapshots : ℤ := 5
  orphanSafetySeconds : ℤ := 3600
  dryRun : Bool := false
  targetFileSizeBytes : ℤ := 128 * 1024 * 1024
  minFileCount : ℤ := 2

structure MaintenanceRunResult where
  tableName : Text
  compaction : Option CompactionResult
  snapshotExpiration : Option SnapshotExpirationResult
  orphanCleanup : Option OrphanCleanupResult
  status : String
  error : Option Text

namespace MaintenanceArgs

variable (args : MaintenanceArgs)

def compaction : CompactionArgs where
  tableName := args.tableName
  targetFileSizeBytes := args.targetFileSizeBytes
  minFileCount := args.minFileCount

def expiration : ExpirationArgs where
  tableName := args.tableName
  retainLast := args.retainLastSnapshots

def cleanup : CleanupArgs where
  tableName := args.tableName
  safetyBufferSeconds := args.orphanSafetySeconds
  dryRun := args.dryRun

end MaintenanceArgs

/-- What an operation left, and the run's error so far; an error is a failure of the run. -/
abbrev Stage (α : Type) := Option α × Option Text

/-- `(error_msg or "") + problem` -/
def addError (errorMsg : Option Text) (problem : Text) : Option Text := some (errorMsg.getD [] ++ problem)

/-- One operation of a run, where it is enabled. -/
def runStage {α : Type} (enabled : Bool) (x : LakeM ρ α) (success : α → Bool)
    (error : α → Option Text) (failed raised : Text) (errorMsg : Option Text) : LakeM ρ (Stage α) :=
  if enabled then do
    match ← Fallible.attempt x with
    | .ok result =>
      pure (some result, if success result then errorMsg
        else addError errorMsg (failed ++ (error result).getD "None"))
    | .error e => pure (none, addError errorMsg (raised ++ e.message))
  else pure (none, errorMsg)

section

variable (env : Surroundings ρ) (storage : Storage) (args : MaintenanceArgs)

def compactionStage : LakeM ρ (Stage CompactionResult) :=
  runStage args.compact (compactTable env args.compaction {}) CompactionResult.success
    CompactionResult.error "Compaction failed: " "Compaction exception: " none

/-- The expiration is left out after a compaction that reported a failure. -/
def expirationStage (compaction : Stage CompactionResult) : LakeM ρ (Stage SnapshotExpirationResult) :=
  runStage (args.expireSnapshots &&
      !(compaction.2.isSome && compaction.1.any fun result => !result.success))
    (expireSnapshots env args.expiration) SnapshotExpirationResult.success
    SnapshotExpirationResult.error " Snapshot expiration failed: "
    " Snapshot expiration exception: " compaction.2

def cleanupStage (errorMsg : Option Text) : LakeM ρ (Stage OrphanCleanupResult) :=
  runStage (args.cleanupOrphans && !errorMsg.isSome) (cleanupOrphanFiles env storage args.cleanup)
    OrphanCleanupResult.success OrphanCleanupResult.error " Orphan cleanup failed: "
    " Orphan cleanup exception: " errorMsg

def overallStatus (compaction : Option CompactionResult)
    (expiration : Option SnapshotExpirationResult) (errorMsg : Option Text) : String :=
  if errorMsg.isSome then
    if compaction.any CompactionResult.success || expiration.any SnapshotExpirationResult.success then
      "PARTIAL_SUCCESS"
    else "FAILED"
  else "SUCCESS"

/-- `run_table_maintenance` -/
def runTableMaintenance : LakeM ρ MaintenanceRunResult := do
  let compaction ← compactionStage env args
  let expiration ← expirationStage env args compaction
  let cleanup ← cleanupStage env storage args expiration.2
  pure {
    tableName := args.tableName
    compaction := compaction.1
    snapshotExpiration := expiration.1
    orphanCleanup := cleanup.1
    status := overallStatus compaction.1 expiration.1 cleanup.2
    error := cleanup.2 }

end

end IceStream.Iceberg
