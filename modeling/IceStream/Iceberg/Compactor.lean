import IceStream.Iceberg.Table

/-!
# Compaction

The compactor reads the whole table and overwrites it with what it read. Another
writer's commit in between makes the overwrite fail, and the compactor starts again.
-/

namespace IceStream.Iceberg
open Python

variable {ρ : Type}

structure CompactionResult where
  tableName : Text
  needed : Bool
  filesBefore : ℕ
  filesAfter : ℕ
  bytesBefore : ℕ
  bytesAfter : ℕ
  recordsCompacted : ℕ
  success : Bool
  error : Option Text := none
  snapshotId : Option ℕ := none

structure TableCompactor where
  maxRetries : ℤ := 3

structure CompactionArgs where
  tableName : Text
  targetFileSizeBytes : ℤ := 128 * 1024 * 1024
  minFileCount : ℤ := 2
  maxRetries : Option ℤ := none

def totalBytes (tasks : List (DataFile ρ)) : ℕ := (tasks.map DataFile.fileSizeInBytes).sum

def missingTable (tableName : Text) (e : Exc) : Text :=
  text "Table '" ++ tableName ++ text "' does not exist: " ++ e.message

section

variable (env : Surroundings ρ) (args : CompactionArgs)

/-- `is_compaction_needed` -/
def isCompactionNeeded : LakeM ρ Bool := do
  let tbl ← loadTable env
  let tasks ← planFiles env tbl
  if tasks.length < args.minFileCount then pure false
  else pure (tasks.any fun t => t.fileSizeInBytes < args.targetFileSizeBytes)

/-- What follows the overwrite: the rows are counted again. -/
def checkCompaction (filesBefore bytesBefore recordsBefore : ℕ) : LakeM ρ CompactionResult := do
  let tbl ← refresh env
  let recordsAfter := (← toArrow env tbl).length
  if recordsAfter ≠ recordsBefore then
    Fallible.raise (valueError (text
      s!"Compaction record count mismatch: before={recordsBefore}, after={recordsAfter}"))
  else
    let tasksAfter ← planFiles env tbl
    pure {
      tableName := args.tableName
      needed := true
      filesBefore := filesBefore
      filesAfter := tasksAfter.length
      bytesBefore := bytesBefore
      bytesAfter := totalBytes tasksAfter
      recordsCompacted := recordsBefore
      success := true
      snapshotId := tbl.currentSnapshot.map Snapshot.snapshotId }

/-- The body of the `try`, with the figures taken before it. -/
def tryCompaction (filesBefore bytesBefore : ℕ) : LakeM ρ CompactionResult := do
  let tbl ← refresh env
  let arrowData ← toArrow env tbl
  let recordsBefore := arrowData.length
  if recordsBefore = 0 then
    pure {
      tableName := args.tableName
      needed := false
      filesBefore := filesBefore
      filesAfter := 0
      bytesBefore := bytesBefore
      bytesAfter := 0
      recordsCompacted := 0
      success := true
      snapshotId := tbl.currentSnapshot.map Snapshot.snapshotId }
  else
    let _ ← overwrite env tbl arrowData
    checkCompaction env args filesBefore bytesBefore recordsBefore

/-- The result when every attempt failed; `str(None)` without one. -/
def compactionFailed (filesBefore bytesBefore : ℕ) (lastError : Option Exc) : CompactionResult where
  tableName := args.tableName
  needed := true
  filesBefore := filesBefore
  filesAfter := filesBefore
  bytesBefore := bytesBefore
  bytesAfter := bytesBefore
  recordsCompacted := 0
  success := false
  error := some ((lastError.map Exc.message).getD "None")

/-- The attempts that are left; only a lost race is followed by another one. -/
def compactionAttempts (filesBefore bytesBefore : ℕ) :
    ℕ → Option Exc → LakeM ρ CompactionResult
  | 0, lastError => pure (compactionFailed args filesBefore bytesBefore lastError)
  | attempts + 1, _ => do
    match ← Fallible.attempt (tryCompaction env args filesBefore bytesBefore) with
    | .ok result => pure result
    | .error e =>
      if e.name = commitFailed.name then
        compactionAttempts filesBefore bytesBefore attempts (some e)
      else pure (compactionFailed args filesBefore bytesBefore (some e))

def compactLoaded (compactor : TableCompactor) (tbl : TableMetadata ρ) : LakeM ρ CompactionResult := do
  let tasksBefore ← planFiles env tbl
  let filesBefore := tasksBefore.length
  let bytesBefore := totalBytes tasksBefore
  if filesBefore < args.minFileCount then
    pure {
      tableName := args.tableName
      needed := false
      filesBefore := filesBefore
      filesAfter := filesBefore
      bytesBefore := bytesBefore
      bytesAfter := bytesBefore
      recordsCompacted := 0
      success := true
      snapshotId := tbl.currentSnapshot.map Snapshot.snapshotId }
  else
    compactionAttempts env args filesBefore bytesBefore
      (args.maxRetries.getD compactor.maxRetries).toNat none

/-- `compact_table` -/
def compactTable (compactor : TableCompactor) : LakeM ρ CompactionResult := do
  match ← Fallible.attempt (loadTable env) with
  | .ok tbl => compactLoaded env args compactor tbl
  | .error e =>
    if e.name = "NoSuchTableError" then
      pure {
        tableName := args.tableName
        needed := false
        filesBefore := 0
        filesAfter := 0
        bytesBefore := 0
        bytesAfter := 0
        recordsCompacted := 0
        success := false
        error := some (missingTable args.tableName e) }
    else Fallible.raise e

end

end IceStream.Iceberg
