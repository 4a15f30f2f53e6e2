import IceStream.Iceberg.LiveFiles

/-!
# What a cleanup reports

The keys of the orphans are sent in batches, and each batch is deleted or not. The
figures of the report are those of all the orphans, whatever became of the batches.
-/

namespace IceStream.Iceberg
open Python Fallible

variable {ρ : Type}

/-! ## The batches that go through -/

/-- The batches, the first of them the `n`-th call, that do not fail. -/
def deletedBatches (fault : ℕ → Option Exc) (n : ℕ) (chunks : List (List Text)) :
    List (List Text) :=
  ((chunks.zipIdx n).filter fun p => (fault p.2).isNone).map Prod.fst

/-- The orphans of a table among what the storage lists. -/
def orphanFiles (storage : Storage) (args : CleanupArgs) (t : TableMetadata ρ) : List S3Object :=
  findOrphans storage args t (storage.pages (tableRoot t).1 (tableRoot t).2)

/-- The keys sent for deletion between two states. -/
def submittedKeys (w t : LakeWorld ρ) : List Text :=
  (t.submitted.drop w.submitted.length).flatten

/-- The orphans that were deleted. -/
def deletedFiles (storage : Storage) (args : CleanupArgs) (w t : LakeWorld ρ) : List S3Object :=
  (orphanFiles storage args w.table).filter fun obj => obj.key ∈ deletedKeys (changesSince w t)

/-- Each orphan is sent for deletion once, and the report is about those that were deleted. -/
structure Accounted (storage : Storage) (args : CleanupArgs) (w t : LakeWorld ρ)
    (result : OrphanCleanupResult) : Prop where
  submitted_once : ∀ k ∈ orphanKeys storage args w.table, (submittedKeys w t).count k = 1
  orphanFilesDeleted : result.orphanFilesDeleted = (deletedFiles storage args w t).length
  bytesReclaimed : result.bytesReclaimed = ((deletedFiles storage args w t).map S3Object.size).sum
  deletedFiles : result.deletedFiles = (deletedFiles storage args w t).map S3Object.key

section

variable {fault : ℕ → Option Exc} {n : ℕ} {chunk : List Text} {chunks : List (List Text)}

theorem deletedBatches_cons_of_passes (h : fault n = none) :
    deletedBatches fault n (chunk :: chunks) = chunk :: deletedBatches fault (n + 1) chunks := by
  rw [deletedBatches, List.zipIdx_cons, List.filter_cons_of_pos (by rw [h]; rfl)]
  rfl

theorem deletedBatches_cons_of_fails {e : Exc} (h : fault n = some e) :
    deletedBatches fault n (chunk :: chunks) = deletedBatches fault (n + 1) chunks := by
  rw [deletedBatches, List.zipIdx_cons, List.filter_cons_of_neg (by rw [h]; exact Bool.false_ne_true)]
  rfl

theorem deletedBatches_of_passes (h : ∀ i < chunks.length, fault (n + i) = none) :
    deletedBatches fault n chunks = chunks := by
  induction chunks generalizing n with
  | nil => rfl
  | cons chunk chunks ih =>
    have hrest : ∀ i < chunks.length, fault (n + 1 + i) = none := by
      intro i hi
      rw [Nat.add_assoc, Nat.add_comm 1 i]
      exact h (i + 1) (Nat.succ_lt_succ hi)
    have hfirst : fault n = none := h 0 (Nat.succ_pos _)
    rw [deletedBatches_cons_of_passes hfirst, ih hrest]

/-- A batch that fails keeps its keys, where no other batch has them. -/
theorem not_mem_deletedBatches {i : ℕ} {e : Exc} {k : Text} (hdistinct : chunks.flatten.Nodup)
    (hchunk : chunks[i]? = some chunk) (hfails : fault (n + i) = some e) (hk : k ∈ chunk) :
    k ∉ (deletedBatches fault n chunks).flatten := by
  induction chunks generalizing n i with
  | nil => cases hchunk
  | cons first chunks ih =>
    rw [List.flatten_cons, List.nodup_append] at hdistinct
    obtain ⟨-, hdistinct, happart⟩ := hdistinct
    cases i with
    | zero =>
      obtain rfl : first = chunk := Option.some.inj hchunk
      have hfirst : fault n = some e := hfails
      rw [deletedBatches_cons_of_fails hfirst]
      intro hmem
      obtain ⟨c, hc, hkc⟩ := List.mem_flatten.mp hmem
      obtain ⟨p, hp, rfl⟩ := List.mem_map.mp hc
      have hchunks : p.1 ∈ chunks := List.fst_mem_of_mem_zipIdx (List.mem_filter.mp hp).1
      exact happart k hk k (List.mem_flatten.mpr ⟨p.1, hchunks, hkc⟩) rfl
    | succ i =>
      have hrest : k ∉ (deletedBatches fault (n + 1) chunks).flatten := by
        apply ih hdistinct hchunk
        rwa [Nat.add_assoc, Nat.add_comm 1 i]
      have hmem : k ∈ chunks.flatten := List.mem_flatten.mpr ⟨chunk, List.mem_of_getElem? hchunk, hk⟩
      cases hfirst : fault n with
      | some e' =>
        rw [deletedBatches_cons_of_fails hfirst]
        exact hrest
      | none =>
        rw [deletedBatches_cons_of_passes hfirst, List.flatten_cons, List.mem_append]
        rintro (hk' | hk')
        · exact happart k hk' k hmem rfl
        · exact hrest hk'

/-- No batch is empty. -/
theorem batches_ne_nil {α : Type} {size : ℕ} (hsize : 0 < size) {xs c : List α}
    (hc : c ∈ batches size xs) : c ≠ [] := by
  obtain ⟨i, hi, rfl⟩ := List.mem_map.mp hc
  rw [List.mem_range, Nat.lt_div_iff_mul_lt hsize] at hi
  have hlength : size * i < xs.length := by
    have hcomm := Nat.mul_comm size i
    omega
  apply List.ne_nil_of_length_pos
  rw [List.length_take, List.length_drop]
  omega

end

/-! ## A whole cleanup -/

section

variable {writer : Writer ρ} {fault : ℕ → Option Exc} {storage : Storage} {args : CleanupArgs}

/-- What the loop over the batches leaves behind. -/
theorem deleteBatches_eq (chunks : List (List Text)) (w : LakeWorld ρ) :
    deleteBatches (alone writer fault) chunks w = (.ok (), { w with
      calls := w.calls + chunks.length
      changes := w.changes ++ (deletedBatches fault w.calls chunks).map .delete
      submitted := w.submitted ++ chunks }) := by
  induction chunks generalizing w with
  | nil => simp [deleteBatches, deletedBatches]
  | cons chunk chunks ih =>
    cases hfault : fault w.calls with
    | none =>
      have hdelete : deleteObjects (alone writer fault) chunk w = (.ok (), { w with
          calls := w.calls + 1
          changes := w.changes ++ [.delete chunk]
          submitted := w.submitted ++ [chunk] }) :=
        call_of_passes (w := { w with submitted := w.submitted ++ [chunk] }) hfault
      rw [deleteBatches, attempt_bind, hdelete]
      dsimp only
      rw [ih, deletedBatches_cons_of_passes hfault]
      simp [Nat.add_assoc, Nat.add_comm 1]
    | some e =>
      have hdelete : deleteObjects (alone writer fault) chunk w = (.error e, { w with
          calls := w.calls + 1
          submitted := w.submitted ++ [chunk] }) :=
        call_of_fails (w := { w with submitted := w.submitted ++ [chunk] }) hfault
      rw [deleteBatches, attempt_bind, hdelete]
      dsimp only
      rw [ih, deletedBatches_cons_of_fails hfault]
      simp [Nat.add_assoc, Nat.add_comm 1]

/-- Where loading, refreshing, the client and the listing go through, the orphans are those of
the table there is. -/
theorem cleanupOrphanFiles_eq {w : LakeWorld ρ} (hstart : ∀ i < 4, fault (w.calls + i) = none) :
    cleanupOrphanFiles (alone writer fault) storage args w =
      cleanupOrphans (alone writer fault) args (orphanFiles storage args w.table)
        { w with calls := w.calls + 4 } := by
  have hload : loadTable (alone writer fault) w = (.ok w.table, { w with calls := w.calls + 1 }) :=
    call_of_passes (hstart 0 (by decide))
  have hrefresh : refresh (alone writer fault) { w with calls := w.calls + 1 } =
      (.ok w.table, { w with calls := w.calls + 2 }) :=
    call_of_passes (hstart 1 (by decide))
  have hclient : call (alone writer fault) (pure ()) { w with calls := w.calls + 2 } =
      (.ok (), { w with calls := w.calls + 3 }) :=
    call_of_passes (hstart 2 (by decide))
  have hlisting : call (alone writer fault)
      (pure (storage.pages (tableRoot w.table).1 (tableRoot w.table).2))
        { w with calls := w.calls + 3 } =
      (.ok (storage.pages (tableRoot w.table).1 (tableRoot w.table).2),
        { w with calls := w.calls + 4 }) :=
    call_of_passes (hstart 3 (by decide))
  rw [cleanupOrphanFiles, attempt_bind, hload]
  dsimp only
  rw [cleanupLoaded, bind_ok hrefresh, cleanupTable, bind_ok hclient, attempt_bind, hlisting]
  rfl

/-- The state after the cleanup. -/
def cleaned (fault : ℕ → Option Exc) (storage : Storage) (args : CleanupArgs) (w : LakeWorld ρ) :
    LakeWorld ρ :=
  if args.dryRun then { w with calls := w.calls + 4 }
  else
    let chunks := batches 1000 (orphanKeys storage args w.table)
    { w with
      calls := w.calls + 4 + chunks.length
      changes := w.changes ++ (deletedBatches fault (w.calls + 4) chunks).map .delete
      submitted := w.submitted ++ chunks }

/-- The report, which is the same whatever fails. -/
def report (storage : Storage) (args : CleanupArgs) (t : TableMetadata ρ) : OrphanCleanupResult where
  tableName := args.tableName
  orphanFilesFound := (orphanFiles storage args t).length
  orphanFilesDeleted := if args.dryRun then 0 else (orphanFiles storage args t).length
  bytesReclaimed := ((orphanFiles storage args t).map S3Object.size).sum
  deletedFiles := orphanKeys storage args t
  dryRun := args.dryRun

theorem cleanupOrphanFiles_run {w : LakeWorld ρ} (hstart : ∀ i < 4, fault (w.calls + i) = none) :
    cleanupOrphanFiles (alone writer fault) storage args w =
      (.ok (report storage args w.table), cleaned fault storage args w) := by
  have hdelete : deleteOrphans (alone writer fault) args (orphanKeys storage args w.table)
      { w with calls := w.calls + 4 } = (.ok (), cleaned fault storage args w) := by
    unfold deleteOrphans cleaned
    split_ifs
    · rfl
    · exact deleteBatches_eq _ _
  rw [cleanupOrphanFiles_eq hstart]
  exact bind_ok hdelete

end

/-! ## When the report is right -/

section

variable {fault : ℕ → Option Exc} {storage : Storage} {args : CleanupArgs} {w : LakeWorld ρ}

theorem submittedKeys_cleaned (hdry : args.dryRun = false) :
    submittedKeys w (cleaned fault storage args w) = orphanKeys storage args w.table := by
  rw [submittedKeys, cleaned, if_neg (by rw [hdry]; exact Bool.false_ne_true), List.drop_left,
    flatten_batches (by decide)]

theorem deletedKeys_cleaned (hdry : args.dryRun = false) :
    deletedKeys (changesSince w (cleaned fault storage args w)) =
      (deletedBatches fault (w.calls + 4) (batches 1000 (orphanKeys storage args w.table))).flatten := by
  rw [cleaned, if_neg (by rw [hdry]; exact Bool.false_ne_true), changesSince_of_eq rfl,
    deletedKeys_deletes]

/-- Nothing is sent and nothing deleted in a dry run. -/
theorem submittedKeys_of_dryRun (hdry : args.dryRun = true) :
    submittedKeys w (cleaned fault storage args w) = [] := by
  rw [submittedKeys, cleaned, if_pos hdry, List.drop_length]
  rfl

theorem accounted_of_passes (hdistinct : (orphanKeys storage args w.table).Nodup)
    (hdry : args.dryRun = false)
    (hpasses : ∀ i < (batches 1000 (orphanKeys storage args w.table)).length,
      fault (w.calls + 4 + i) = none) :
    Accounted storage args w (cleaned fault storage args w) (report storage args w.table) := by
  have hkeys : deletedKeys (changesSince w (cleaned fault storage args w)) =
      orphanKeys storage args w.table := by
    rw [deletedKeys_cleaned hdry, deletedBatches_of_passes hpasses, flatten_batches (by decide)]
  have hall : Iceberg.deletedFiles storage args w (cleaned fault storage args w) =
      orphanFiles storage args w.table := by
    apply List.filter_eq_self.mpr
    intro obj hobj
    rw [hkeys, decide_eq_true_eq]
    exact List.mem_map_of_mem hobj
  constructor
  · intro k hk
    rw [submittedKeys_cleaned hdry]
    exact List.count_eq_one_of_mem hdistinct hk
  · rw [hall, report, hdry, if_neg Bool.false_ne_true]
  · rw [hall, report]
  · rw [hall, report]
    rfl

/-- A batch that fails is reported as deleted. -/
theorem passes_of_accounted (hdistinct : (orphanKeys storage args w.table).Nodup)
    (hdry : args.dryRun = false)
    (h : Accounted storage args w (cleaned fault storage args w) (report storage args w.table))
    {i : ℕ} (hi : i < (batches 1000 (orphanKeys storage args w.table)).length) :
    fault (w.calls + 4 + i) = none := by
  cases hfails : fault (w.calls + 4 + i) with
  | none => rfl
  | some e =>
    set chunk := (batches 1000 (orphanKeys storage args w.table))[i] with hchunk
    have hget : (batches 1000 (orphanKeys storage args w.table))[i]? = some chunk :=
      List.getElem?_eq_getElem hi
    obtain ⟨k, hk⟩ := List.exists_mem_of_ne_nil chunk
      (batches_ne_nil (by decide) (List.getElem_mem hi))
    have horphan : k ∈ orphanKeys storage args w.table := by
      rw [← flatten_batches (show 0 < 1000 by decide) (orphanKeys storage args w.table)]
      exact List.mem_flatten.mpr ⟨chunk, List.mem_of_getElem? hget, hk⟩
    obtain ⟨obj, hobj, hkey⟩ := List.mem_map.mp horphan
    have hkept : k ∉ deletedKeys (changesSince w (cleaned fault storage args w)) := by
      rw [deletedKeys_cleaned hdry]
      apply not_mem_deletedBatches _ hget hfails hk
      rwa [flatten_batches (by decide)]
    -- one orphan is left out, so the number reported is too large
    have hfewer : (Iceberg.deletedFiles storage args w (cleaned fault storage args w)).length <
        (orphanFiles storage args w.table).length := by
      apply List.length_filter_lt_length_iff_exists.mpr
      refine ⟨obj, hobj, ?_⟩
      rwa [hkey, decide_eq_true_eq]
    have hnumber := h.orphanFilesDeleted
    rw [report, hdry, if_neg Bool.false_ne_true] at hnumber
    exact absurd hfewer (by rw [← hnumber]; exact lt_irrefl _)

/-- With no other failure, the report of a cleanup is exact just in case there is no orphan, or
it is no dry run and no batch fails. -/
theorem accounting_exact_iff (writer : Writer ρ) (fault : ℕ → Option Exc) (storage : Storage)
    (args : CleanupArgs) (w : LakeWorld ρ)
    (hlisting : ((storage.pages (tableRoot w.table).1 (tableRoot w.table).2).flatten.map
      S3Object.key).Nodup)
    (hstart : ∀ i < 4, fault (w.calls + i) = none) :
    ∃ result t, cleanupOrphanFiles (alone writer fault) storage args w = (.ok result, t) ∧
      (Accounted storage args w t result ↔ orphanKeys storage args w.table = [] ∨
        args.dryRun = false ∧ ∀ i < (batches 1000 (orphanKeys storage args w.table)).length,
          fault (w.calls + 4 + i) = none) := by
  have hdistinct : (orphanKeys storage args w.table).Nodup :=
    hlisting.sublist (List.filter_sublist.map S3Object.key)
  refine ⟨_, _, cleanupOrphanFiles_run hstart, ?_⟩
  cases hdry : args.dryRun with
  | false =>
    constructor
    · intro h
      exact .inr ⟨rfl, fun i hi => passes_of_accounted hdistinct hdry h hi⟩
    · rintro (hnone | ⟨-, hpasses⟩)
      · apply accounted_of_passes hdistinct hdry
        intro i hi
        rw [hnone] at hi
        exact absurd hi (Nat.not_lt_zero i)
      · exact accounted_of_passes hdistinct hdry hpasses
  | true =>
    constructor
    · intro h
      refine .inl (List.eq_nil_iff_forall_not_mem.mpr ?_)
      intro k hk
      have honce := h.submitted_once k hk
      rw [submittedKeys_of_dryRun hdry] at honce
      cases honce
    · rintro (hnone | ⟨hdry', -⟩)
      · have hempty : orphanFiles storage args w.table = [] := List.map_eq_nil_iff.mp hnone
        have hnothing : Iceberg.deletedFiles storage args w (cleaned fault storage args w) = [] := by
          rw [Iceberg.deletedFiles, hempty]
          rfl
        constructor
        · rw [hnone]
          exact fun k hk => absurd hk List.not_mem_nil
        · rw [hnothing, report, hdry]
          rfl
        · rw [hnothing, report, hempty]
        · rw [hnothing, report, hnone]
          rfl
      · cases hdry'

end

/-! ### One orphan -/

/-- A storage that lists the table's data file and one that no snapshot leads to, a day after
they were written. -/
def orphanStorage : Storage where
  reads := ⟨fun _ => none, fun _ _ => none⟩
  pages _ _ := [[⟨"t/data/a.parquet", 1, 0⟩, ⟨"t/data/old.parquet", 3000, 0⟩]]
  now := 86400 * 1000000

def orphanLake : LakeWorld Unit := exampleLake "s3://wh/t/data/a.parquet"

def cleanupArgs : CleanupArgs where
  tableName := "bronze.events"

theorem orphan_accounted : ∃ result t,
    cleanupOrphanFiles (alone oneFile noFault) orphanStorage cleanupArgs orphanLake =
      (.ok result, t) ∧ Accounted orphanStorage cleanupArgs orphanLake t result := by
  obtain ⟨result, t, hrun, haccounted⟩ := accounting_exact_iff oneFile noFault orphanStorage
    cleanupArgs orphanLake (by decide) fun _ _ => rfl
  exact ⟨result, t, hrun, haccounted.mpr (.inr ⟨rfl, fun _ _ => rfl⟩)⟩

/-- The fifth call is the only one to fail: it is the one batch. -/
def failingBatch (n : ℕ) : Option Exc := if n = 4 then some (valueError "SlowDown") else none

/-- One file and 3000 bytes are reported, and none is deleted. -/
theorem failed_batch_reported : ¬∀ (fault : ℕ → Option Exc) result t,
    (∀ i < 4, fault (orphanLake.calls + i) = none) →
    cleanupOrphanFiles (alone oneFile fault) orphanStorage cleanupArgs orphanLake =
      (.ok result, t) → Accounted orphanStorage cleanupArgs orphanLake t result := by
  intro h
  have hstart : ∀ i < 4, failingBatch (orphanLake.calls + i) = none := by decide
  have haccounted := h failingBatch _ _ hstart (cleanupOrphanFiles_run hstart)
  have hnumber := haccounted.orphanFilesDeleted
  revert hnumber
  decide +kernel

end IceStream.Iceberg
