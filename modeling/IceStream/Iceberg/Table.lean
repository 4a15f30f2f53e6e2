import IceStream.Lib.Preserves
import Mathlib.Data.Multiset.AddSub

/-!
# An Iceberg table

A table is a list of snapshots, one of them current. A commit adds one under an
identifier that none has had, and replaces the current one if that still is the one
the writer started from. A call of the catalog may fail, and other writers append
to the table at any time before it is answered.
-/

namespace IceStream.Iceberg
open Python

/-! ## Tables -/

/-- A data file, with those of its rows that no delete file removes. -/
structure DataFile (ρ : Type) where
  filePath : Text
  fileSizeInBytes : ℕ
  rows : List ρ

/-- A manifest, with the paths of the data and delete files of its entries. -/
structure Manifest where
  manifestPath : Text
  entries : List (Option Text)

structure Snapshot (ρ : Type) where
  snapshotId : ℕ
  timestampMs : ℤ
  manifestList : Text
  manifests : List Manifest
  files : List (DataFile ρ)

/-- What a handle of the table holds. -/
structure TableMetadata (ρ : Type) where
  location : Text
  metadataLocation : Text
  snapshots : List (Snapshot ρ)
  currentSnapshotId : Option ℕ

variable {ρ : Type}

namespace TableMetadata

def currentSnapshot (t : TableMetadata ρ) : Option (Snapshot ρ) :=
  t.currentSnapshotId.bind fun id => t.snapshots.find? fun s => s.snapshotId == id

/-- `scan().plan_files()` -/
def files (t : TableMetadata ρ) : List (DataFile ρ) := (t.currentSnapshot.map Snapshot.files).getD []

/-- `scan().to_arrow()` -/
def rows (t : TableMetadata ρ) : List ρ := t.files.flatMap DataFile.rows

end TableMetadata

/-- The table in its catalog; identifiers from `nextSnapshotId` on are unused. -/
structure Lake (ρ : Type) where
  table : TableMetadata ρ
  nextSnapshotId : ℕ
  fresh : ∀ s ∈ table.snapshots, s.snapshotId < nextSnapshotId
  current_lt : ∀ id, table.currentSnapshotId = some id → id < nextSnapshotId

/-- How a commit lays its files out. -/
structure Writer (ρ : Type) where
  dataFiles : ℕ → List ρ → List (DataFile ρ)
  timestampMs : ℕ → ℤ
  manifestList : ℕ → Text
  manifests : ℕ → List (DataFile ρ) → List Manifest
  metadataLocation : ℕ → Text
  rows_dataFiles : ∀ id rows, ((dataFiles id rows).flatMap DataFile.rows).Perm rows

namespace Lake

variable (writer : Writer ρ)

/-- A snapshot of `files` becomes the current one. -/
def commit (lake : Lake ρ) (files : List (DataFile ρ)) : Lake ρ where
  table := { lake.table with
    metadataLocation := writer.metadataLocation lake.nextSnapshotId
    snapshots := lake.table.snapshots ++ [{
      snapshotId := lake.nextSnapshotId
      timestampMs := writer.timestampMs lake.nextSnapshotId
      manifestList := writer.manifestList lake.nextSnapshotId
      manifests := writer.manifests lake.nextSnapshotId files
      files := files }]
    currentSnapshotId := some lake.nextSnapshotId }
  nextSnapshotId := lake.nextSnapshotId + 1
  fresh := by
    intro s hs
    obtain hs | hs := List.mem_append.mp hs
    · exact (lake.fresh s hs).trans (Nat.lt_succ_self _)
    · rw [List.mem_singleton.mp hs]
      exact Nat.lt_succ_self _
  current_lt := by
    intro id hid
    obtain rfl := Option.some.inj hid
    exact Nat.lt_succ_self _

def append (lake : Lake ρ) (rows : List ρ) : Lake ρ :=
  lake.commit writer (lake.table.files ++ writer.dataFiles lake.nextSnapshotId rows)

/-- `overwrite`, once it is known that nothing came between. -/
def replace (lake : Lake ρ) (rows : List ρ) : Lake ρ :=
  lake.commit writer (writer.dataFiles lake.nextSnapshotId rows)

/-- `expire_snapshots().by_id(snapshot_id).commit()` -/
def expire (lake : Lake ρ) (snapshotId : ℕ) : Lake ρ where
  table := { lake.table with
    snapshots := lake.table.snapshots.filter fun s => s.snapshotId != snapshotId }
  nextSnapshotId := lake.nextSnapshotId
  fresh := fun s hs => lake.fresh s (List.mem_filter.mp hs).1
  current_lt := lake.current_lt

theorem currentSnapshot_commit (lake : Lake ρ) (files : List (DataFile ρ)) :
    (lake.commit writer files).table.currentSnapshot.map Snapshot.files = some files := by
  have hnone : (lake.table.snapshots.find? fun s => s.snapshotId == lake.nextSnapshotId) = none := by
    rw [List.find?_eq_none]
    intro s hs
    have hlt := lake.fresh s hs
    simp only [beq_iff_eq]
    omega
  change (List.find? _ (lake.table.snapshots ++ _)).map _ = _
  rw [List.find?_append, hnone, Option.none_or, List.find?_singleton, if_pos (beq_self_eq_true _)]
  rfl

theorem files_commit (lake : Lake ρ) (files : List (DataFile ρ)) :
    (lake.commit writer files).table.files = files := by
  rw [TableMetadata.files, currentSnapshot_commit, Option.getD_some]

theorem rows_append (lake : Lake ρ) (rows : List ρ) :
    ((lake.append writer rows).table.rows : Multiset ρ) = lake.table.rows + rows := by
  rw [TableMetadata.rows, append, files_commit, List.flatMap_append, ← Multiset.coe_add]
  congr 1
  exact Multiset.coe_eq_coe.mpr (writer.rows_dataFiles _ rows)

theorem rows_replace (lake : Lake ρ) (rows : List ρ) :
    ((lake.replace writer rows).table.rows : Multiset ρ) = rows := by
  rw [TableMetadata.rows, replace, files_commit]
  exact Multiset.coe_eq_coe.mpr (writer.rows_dataFiles _ rows)

end Lake

/-! ## Calls of the catalog -/

/-- What a maintenance run changes. -/
inductive Change
  | overwrite
  | expire (snapshotId : ℕ)
  | delete (keys : List Text)
  deriving DecidableEq

structure LakeWorld (ρ : Type) where
  lake : Lake ρ
  /-- The calls made so far. -/
  calls : ℕ
  /-- The rows that other writers appended. -/
  appended : List ρ
  changes : List Change
  /-- The batches of keys sent for deletion, deleted or not. -/
  submitted : List (List Text) := []

abbrev LakeM (ρ : Type) := Fallible (LakeWorld ρ)

/-- What happens around the calls: before the `n`-th one is answered, other writers commit
the appends of `appends n`, and it may fail. -/
structure Surroundings (ρ : Type) where
  writer : Writer ρ
  appends : ℕ → List (List ρ)
  fault : ℕ → Option Exc

namespace LakeWorld

abbrev table (w : LakeWorld ρ) : TableMetadata ρ := w.lake.table

/-- Another writer's commit. -/
def appendCommit (writer : Writer ρ) (w : LakeWorld ρ) (rows : List ρ) : LakeWorld ρ :=
  { w with lake := w.lake.append writer rows, appended := w.appended ++ rows }

end LakeWorld

section

variable (env : Surroundings ρ)

def call {α : Type} (x : LakeM ρ α) : LakeM ρ α := fun w =>
  let w' := (env.appends w.calls).foldl (LakeWorld.appendCommit env.writer)
    { w with calls := w.calls + 1 }
  match env.fault w.calls with
  | some e => (.error e, w')
  | none => x w'

def loadTable : LakeM ρ (TableMetadata ρ) := call env (Fallible.read LakeWorld.table)

/-- `tbl.refresh()` -/
def refresh : LakeM ρ (TableMetadata ρ) := call env (Fallible.read LakeWorld.table)

def planFiles (tbl : TableMetadata ρ) : LakeM ρ (List (DataFile ρ)) := call env (pure tbl.files)

def toArrow (tbl : TableMetadata ρ) : LakeM ρ (List ρ) := call env (pure tbl.rows)

def commitFailed : Exc :=
  ⟨"CommitFailedException", false, "Requirement failed: branch main has changed"⟩

/-- The commit of an overwrite, where the snapshot of the handle is still the current one. -/
def commitOverwrite (tbl : TableMetadata ρ) (data : List ρ) : LakeM ρ (TableMetadata ρ) := fun w =>
  if w.table.currentSnapshotId = tbl.currentSnapshotId then
    let lake := w.lake.replace env.writer data
    (.ok lake.table, { w with lake := lake, changes := w.changes ++ [.overwrite] })
  else (.error commitFailed, w)

/-- `tbl.overwrite(data)`: the handle is the new table. -/
def overwrite (tbl : TableMetadata ρ) (data : List ρ) : LakeM ρ (TableMetadata ρ) :=
  call env (commitOverwrite env tbl data)

def expireSnapshot (snapshotId : ℕ) : LakeM ρ Unit :=
  call env (Fallible.update fun w => { w with
    lake := w.lake.expire snapshotId, changes := w.changes ++ [.expire snapshotId] })

end

section

variable (env : Surroundings ρ) {tbl : TableMetadata ρ} {w : LakeWorld ρ} (data : List ρ)

theorem commitOverwrite_of_current (h : w.table.currentSnapshotId = tbl.currentSnapshotId) :
    commitOverwrite env tbl data w = (.ok (w.lake.replace env.writer data).table,
      { w with lake := w.lake.replace env.writer data, changes := w.changes ++ [.overwrite] }) :=
  if_pos h

theorem commitOverwrite_of_changed (h : w.table.currentSnapshotId ≠ tbl.currentSnapshotId) :
    commitOverwrite env tbl data w = (.error commitFailed, w) :=
  if_neg h

end

/-! ## What other writers leave alone -/

/-- Surroundings without another writer. -/
def alone (writer : Writer ρ) (fault : ℕ → Option Exc) : Surroundings ρ := ⟨writer, fun _ => [], fault⟩

/-- Nothing fails. -/
def noFault : ℕ → Option Exc := fun _ => none

theorem call_alone {α : Type} (writer : Writer ρ) (fault : ℕ → Option Exc) (x : LakeM ρ α)
    (w : LakeWorld ρ) : call (alone writer fault) x w =
      match fault w.calls with
      | some e => (.error e, { w with calls := w.calls + 1 })
      | none => x { w with calls := w.calls + 1 } := rfl

theorem call_of_passes {α : Type} {writer : Writer ρ} {fault : ℕ → Option Exc} {x : LakeM ρ α}
    {w : LakeWorld ρ} (h : fault w.calls = none) :
    call (alone writer fault) x w = x { w with calls := w.calls + 1 } := by
  rw [call_alone, h]

theorem call_of_fails {α : Type} {writer : Writer ρ} {fault : ℕ → Option Exc} {x : LakeM ρ α}
    {w : LakeWorld ρ} {e : Exc} (h : fault w.calls = some e) :
    call (alone writer fault) x w = (.error e, { w with calls := w.calls + 1 }) := by
  rw [call_alone, h]

/-- Neither a call nor the append of another writer takes `I` away. -/
structure Stable (env : Surroundings ρ) (I : LakeWorld ρ → Prop) : Prop where
  called : ∀ w n, I w → I { w with calls := n }
  append : ∀ w n rows, rows ∈ env.appends n → I w → I (w.appendCommit env.writer rows)

section

variable {env : Surroundings ρ} {I : LakeWorld ρ → Prop} {α : Type}

theorem Stable.commits (hI : Stable env I) {n : ℕ} {w : LakeWorld ρ} (hw : I w)
    {batches : List (List ρ)} (hbatches : ∀ rows ∈ batches, rows ∈ env.appends n) :
    I (batches.foldl (LakeWorld.appendCommit env.writer) w) := by
  induction batches generalizing w with
  | nil => exact hw
  | cons rows batches ih =>
    obtain ⟨hrows, hrest⟩ := List.forall_mem_cons.mp hbatches
    exact ih (hI.append w n rows hrows hw) hrest

theorem Stable.before (hI : Stable env I) {w : LakeWorld ρ} (hw : I w) (n : ℕ) :
    I ((env.appends n).foldl (LakeWorld.appendCommit env.writer) { w with calls := n + 1 }) :=
  hI.commits (hI.called w (n + 1) hw) fun _ => id

/-- What a call does, it does from a state in which the invariant still holds. -/
theorem Stable.ensures_call (hI : Stable env I) {x : LakeM ρ α} {Q : α → LakeWorld ρ → Prop}
    {E : LakeWorld ρ → Prop} (hx : Fallible.Ensures I x Q E) (hE : ∀ w, I w → E w) :
    Fallible.Ensures I (call env x) Q E := by
  intro w hw
  have hbefore := hI.before hw w.calls
  unfold call
  cases env.fault w.calls with
  | some e => exact Fallible.ensures_error rfl (hE _ hbefore)
  | none => exact hx _ hbefore

theorem Stable.ensures_read (hI : Stable env I) (f : LakeWorld ρ → α) :
    Fallible.Ensures I (call env (Fallible.read f)) (fun a w => I w ∧ a = f w) I :=
  hI.ensures_call (fun _ hw => Fallible.ensures_ok rfl ⟨hw, rfl⟩) fun _ => id

/-- Without a commit, what is read is the table there was. -/
theorem Stable.ensures_table (hI : Stable env I) {lake : Lake ρ} (hlake : ∀ w, I w → w.lake = lake) :
    Fallible.Ensures I (call env (Fallible.read LakeWorld.table))
      (fun tbl w => I w ∧ tbl = lake.table) I := by
  refine (hI.ensures_read LakeWorld.table).mono (fun _ => id) ?_ fun _ => id
  rintro tbl w ⟨hw, rfl⟩
  exact ⟨hw, congrArg Lake.table (hlake w hw)⟩

/-- What is read from a handle does not depend on the catalog. -/
theorem Stable.ensures_answer (hI : Stable env I) (a : α) :
    Fallible.Ensures I (call env (pure a)) (fun b w => I w ∧ b = a) I :=
  hI.ensures_call (Fallible.ensures_pure fun _ hw => ⟨hw, rfl⟩) fun _ => id

theorem stable_alone {writer : Writer ρ} {fault : ℕ → Option Exc}
    (hcalled : ∀ w n, I w → I { w with calls := n }) : Stable (alone writer fault) I where
  called := hcalled
  append _ _ _ hrows := absurd hrows List.not_mem_nil

theorem Stable.preserves_call (hI : Stable env I) {x : LakeM ρ α}
    (hx : Fallible.Preserves I x) : Fallible.Preserves I (call env x) :=
  (hI.ensures_call hx.ensures fun _ => id).preserves

end

end IceStream.Iceberg
