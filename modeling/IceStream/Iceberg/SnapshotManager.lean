import IceStream.Iceberg.Compactor
import IceStream.Lib.Text
import IceStream.Lib.Timestamp
import Mathlib.Data.List.Infix

/-!
# Snapshots and orphans

Snapshots are expired one by one, the newest and the current one excepted. What is
stored under the location of a table and referenced by none of its snapshots is
deleted, in batches. A manifest that cannot be read is passed over.
-/

namespace IceStream.Iceberg
open Python

variable {ρ : Type}

/-! ## Expiration -/

structure SnapshotExpirationResult where
  tableName : Text
  snapshotsBefore : ℕ
  snapshotsExpired : ℕ
  snapshotsRemaining : ℕ
  expiredIds : List ℕ := []
  success : Bool := true
  error : Option Text := none

/-- A cutoff is an instant in microseconds. -/
structure ExpirationArgs where
  tableName : Text
  olderThan : Option ℤ := none
  retainLast : ℤ := 5

/-- `datetime.fromtimestamp(s.timestamp_ms / 1000, tz=timezone.utc)`, of any year. -/
def Snapshot.instant (s : Snapshot ρ) : Instant :=
  microsOfSeconds (trueDiv s.timestampMs 1000 (by decide))

/-- All but the last `retainLast`. -/
def olderSnapshots (args : ExpirationArgs) (snapshots : List (Snapshot ρ)) : List (Snapshot ρ) :=
  if 0 < args.retainLast then snapshots.take (snapshots.length - args.retainLast.toNat)
  else snapshots

/-- Those of them older than the cutoff, if there is one. -/
def candidateSnapshots (args : ExpirationArgs) (snapshots : List (Snapshot ρ)) :
    List (Snapshot ρ) :=
  match args.olderThan with
  | some cutoff => (olderSnapshots args snapshots).filter fun s => s.instant < cutoff
  | none => olderSnapshots args snapshots

/-- A time that is compared with the cutoff has no `datetime`. -/
def Unreadable (args : ExpirationArgs) (snapshots : List (Snapshot ρ)) : Prop :=
  args.olderThan.isSome ∧ ∃ s ∈ olderSnapshots args snapshots, ¬IsInstant s.instant

instance (args : ExpirationArgs) (snapshots : List (Snapshot ρ)) :
    Decidable (Unreadable args snapshots) :=
  inferInstanceAs (Decidable (_ ∧ _))

section

variable (env : Surroundings ρ)

/-- The identifiers whose commit went through. -/
def expireCandidates (currentId : Option ℕ) : List (Snapshot ρ) → LakeM ρ (List ℕ)
  | [] => pure []
  | s :: rest =>
    if currentId = some s.snapshotId then expireCandidates currentId rest
    else do
      match ← Fallible.attempt (expireSnapshot env s.snapshotId) with
      | .ok () =>
        let expiredIds ← expireCandidates currentId rest
        pure (s.snapshotId :: expiredIds)
      | .error _ => expireCandidates currentId rest

def expireLoaded (args : ExpirationArgs) : LakeM ρ SnapshotExpirationResult := do
  let tbl ← refresh env
  let snapshotsBefore := tbl.snapshots.length
  if snapshotsBefore ≤ args.retainLast then
    pure {
      tableName := args.tableName
      snapshotsBefore := snapshotsBefore
      snapshotsExpired := 0
      snapshotsRemaining := snapshotsBefore }
  else if Unreadable args tbl.snapshots then Fallible.raise yearError
  else
    let expiredIds ← expireCandidates env (tbl.currentSnapshot.map Snapshot.snapshotId)
      (candidateSnapshots args tbl.snapshots)
    let tbl ← refresh env
    pure {
      tableName := args.tableName
      snapshotsBefore := snapshotsBefore
      snapshotsExpired := expiredIds.length
      snapshotsRemaining := tbl.snapshots.length
      expiredIds := expiredIds }

/-- `expire_snapshots` -/
def expireSnapshots (args : ExpirationArgs) : LakeM ρ SnapshotExpirationResult := do
  match ← Fallible.attempt (loadTable env) with
  | .ok _ => expireLoaded env args
  | .error e =>
    if e.name = "NoSuchTableError" then
      pure {
        tableName := args.tableName
        snapshotsBefore := 0
        snapshotsExpired := 0
        snapshotsRemaining := 0
        success := false
        error := some (missingTable args.tableName e) }
    else Fallible.raise e

end

/-! ## Referenced files -/

/-- Which reads fail: of the manifests of the `i`-th snapshot, and of the entries of its
`j`-th manifest. -/
structure ManifestReads where
  manifests : ℕ → Option Exc
  entries : ℕ → ℕ → Option Exc

/-- `if path: referenced.add(path)` -/
def nonempty (path : Text) : List Text := if path.isEmpty then [] else [path]

section

variable (reads : ManifestReads)

def manifestFiles (i j : ℕ) (manifest : Manifest) : List Text :=
  manifest.manifestPath :: match reads.entries i j with
    | some _ => []
    | none => manifest.entries.flatMap fun path => path.elim [] nonempty

def snapshotFiles (i : ℕ) (snapshot : Snapshot ρ) : List Text :=
  nonempty snapshot.manifestList ++ match reads.manifests i with
    | some _ => []
    | none => snapshot.manifests.zipIdx.flatMap fun p => manifestFiles reads i p.2 p.1

/-- `get_referenced_files` -/
def getReferencedFiles (t : TableMetadata ρ) : List Text :=
  (t.snapshots.zipIdx.flatMap fun p => snapshotFiles reads p.2 p.1) ++ nonempty t.metadataLocation

end

/-! ## Orphans -/

/-- An object, last modified at an instant in microseconds. -/
structure S3Object where
  key : Text
  size : ℕ
  lastModified : ℤ

/-- What the storage answers: the pages of a listing of a bucket under a prefix. -/
structure Storage where
  reads : ManifestReads
  pages : Text → Text → List (List S3Object)
  now : ℤ

structure OrphanCleanupResult where
  tableName : Text
  orphanFilesFound : ℕ
  orphanFilesDeleted : ℕ
  bytesReclaimed : ℕ
  deletedFiles : List Text := []
  dryRun : Bool
  success : Bool := true
  error : Option Text := none

structure CleanupArgs where
  tableName : Text
  safetyBufferSeconds : ℤ := 3600
  dryRun : Bool := false

/-- The bucket of a table and the prefix of its keys. -/
def tableRoot (t : TableMetadata ρ) : Text × Text :=
  let root := (urlparse t.location).2.dropWhile (·.val == 0x2F)
  ((urlparse t.location).1, if text "/" <:+ root then root else root ++ text "/")

/-- `full_uri` -/
def fullUri (bucket key : Text) : Text := text "s3://" ++ bucket ++ text "/" ++ key

def isReferenced (referenced : List Text) (bucket key : Text) : Bool :=
  referenced.contains (fullUri bucket key) || referenced.contains key

/-- Metadata files are kept by their name. -/
def isProtected (key : Text) : Bool :=
  decide (text ".metadata.json" <:+ key) || decide (text "version-hint" <:+: key)

def isRecent (storage : Storage) (args : CleanupArgs) (obj : S3Object) : Bool :=
  storage.now - obj.lastModified < args.safetyBufferSeconds * 1000000

def isOrphan (storage : Storage) (args : CleanupArgs) (referenced : List Text) (bucket : Text)
    (obj : S3Object) : Bool :=
  !isReferenced referenced bucket obj.key && !isProtected obj.key && !isRecent storage args obj

def findOrphans (storage : Storage) (args : CleanupArgs) (t : TableMetadata ρ)
    (pages : List (List S3Object)) : List S3Object :=
  pages.flatten.filter (isOrphan storage args (getReferencedFiles storage.reads t) (tableRoot t).1)

/-- The slices of at most `size` that a list is cut into. -/
def batches {α : Type} (size : ℕ) (xs : List α) : List (List α) :=
  (List.range ((xs.length + size - 1) / size)).map fun i => (xs.drop (size * i)).take size

section

variable (env : Surroundings ρ) (storage : Storage)

def deleteObjects (keys : List Text) : LakeM ρ Unit := do
  Fallible.update fun w => { w with submitted := w.submitted ++ [keys] }
  call env (Fallible.update fun w => { w with changes := w.changes ++ [.delete keys] })

/-- A batch that fails is passed over. -/
def deleteBatches : List (List Text) → LakeM ρ Unit
  | [] => pure ()
  | chunk :: rest => do
    let _ ← Fallible.attempt (deleteObjects env chunk)
    deleteBatches rest

/-- Nothing is deleted in a dry run. -/
def deleteOrphans (args : CleanupArgs) (deletedKeys : List Text) : LakeM ρ Unit :=
  if args.dryRun then pure () else deleteBatches env (batches 1000 deletedKeys)

def cleanupOrphans (args : CleanupArgs) (orphans : List S3Object) : LakeM ρ OrphanCleanupResult := do
  let deletedKeys := orphans.map S3Object.key
  deleteOrphans env args deletedKeys
  pure {
    tableName := args.tableName
    orphanFilesFound := orphans.length
    orphanFilesDeleted := if args.dryRun then 0 else orphans.length
    bytesReclaimed := (orphans.map S3Object.size).sum
    deletedFiles := deletedKeys
    dryRun := args.dryRun }

/-- The cleanup of a table that is loaded and up to date. -/
def cleanupTable (args : CleanupArgs) (tbl : TableMetadata ρ) : LakeM ρ OrphanCleanupResult := do
  call env (pure ())  -- the client
  match ← Fallible.attempt (call env
      (pure (storage.pages (tableRoot tbl).1 (tableRoot tbl).2))) with
  | .ok pages => cleanupOrphans env args (findOrphans storage args tbl pages)
  | .error e =>
    pure {
      tableName := args.tableName
      orphanFilesFound := 0
      orphanFilesDeleted := 0
      bytesReclaimed := 0
      dryRun := args.dryRun
      success := false
      error := some (text "Failed listing S3 objects for " ++ args.tableName ++ text ": " ++ e.message) }

def cleanupLoaded (args : CleanupArgs) : LakeM ρ OrphanCleanupResult := do
  let tbl ← refresh env
  cleanupTable env storage args tbl

/-- `cleanup_orphan_files` -/
def cleanupOrphanFiles (args : CleanupArgs) : LakeM ρ OrphanCleanupResult := do
  match ← Fallible.attempt (loadTable env) with
  | .ok _ => cleanupLoaded env storage args
  | .error e =>
    if e.name = "NoSuchTableError" then
      pure {
        tableName := args.tableName
        orphanFilesFound := 0
        orphanFilesDeleted := 0
        bytesReclaimed := 0
        dryRun := args.dryRun
        success := false
        error := some (missingTable args.tableName e) }
    else Fallible.raise e

end

/-! ## Batches -/

theorem flatten_batches_take {α : Type} (size n : ℕ) (xs : List α) :
    ((List.range n).map fun i => (xs.drop (size * i)).take size).flatten = xs.take (size * n) := by
  induction n with
  | zero => rfl
  | succ n ih =>
    rw [List.range_succ, List.map_append, List.flatten_append, ih, Nat.mul_succ, List.take_add]
    simp

/-- The slices make up the list. -/
theorem flatten_batches {α : Type} {size : ℕ} (hsize : 0 < size) (xs : List α) :
    (batches size xs).flatten = xs := by
  rw [batches, flatten_batches_take]
  apply List.take_of_length_le
  have hdiv := Nat.div_add_mod (xs.length + size - 1) size
  have hmod := Nat.mod_lt (xs.length + size - 1) hsize
  omega

end IceStream.Iceberg
