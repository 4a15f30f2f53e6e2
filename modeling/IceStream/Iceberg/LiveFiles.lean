import IceStream.Iceberg.SnapshotManager

/-!
# Live files and orphans

A file is live when a snapshot of the table leads to it. The cleanup takes a key for
referenced when a read that succeeded named it, letter by letter; a live file that
every such read missed, or that is written differently, is an orphan to it.
-/

namespace IceStream.Iceberg
open Python Fallible

variable {ρ : Type}

/-! ## Live and named files -/

/-- The paths that the snapshots of a table lead to. -/
inductive LivePath (t : TableMetadata ρ) : Text → Prop
  | manifestList {s : Snapshot ρ} (hs : s ∈ t.snapshots) : LivePath t s.manifestList
  | manifest {s : Snapshot ρ} {m : Manifest} (hs : s ∈ t.snapshots) (hm : m ∈ s.manifests) :
      LivePath t m.manifestPath
  | entry {s : Snapshot ρ} {m : Manifest} {path : Text} (hs : s ∈ t.snapshots)
      (hm : m ∈ s.manifests) (hpath : some path ∈ m.entries) : LivePath t path
  | metadata : LivePath t t.metadataLocation

/-- The paths that are named where the reads did not fail. -/
inductive Named (reads : ManifestReads) (t : TableMetadata ρ) : Text → Prop
  | manifestList {s : Snapshot ρ} (hs : s ∈ t.snapshots) (h : s.manifestList ≠ []) :
      Named reads t s.manifestList
  | manifest {i : ℕ} {s : Snapshot ρ} {m : Manifest} (hs : t.snapshots[i]? = some s)
      (hread : reads.manifests i = none) (hm : m ∈ s.manifests) : Named reads t m.manifestPath
  | entry {i j : ℕ} {s : Snapshot ρ} {m : Manifest} {path : Text} (hs : t.snapshots[i]? = some s)
      (hread : reads.manifests i = none) (hm : s.manifests[j]? = some m)
      (hread' : reads.entries i j = none) (hpath : some path ∈ m.entries) (h : path ≠ []) :
      Named reads t path
  | metadata (h : t.metadataLocation ≠ []) : Named reads t t.metadataLocation

/-- A URI of whatever scheme names the object behind its bucket and slash. -/
def Denotes (uri bucket key : Text) : Prop := urlparse uri = (bucket, text "/" ++ key)

theorem mem_nonempty {path path' : Text} : path ∈ nonempty path' ↔ path = path' ∧ path' ≠ [] := by
  unfold nonempty
  split_ifs with h
  · rw [List.isEmpty_iff] at h
    simp [h]
  · rw [List.isEmpty_iff] at h
    simp [h]

section

variable {reads : ManifestReads} {path : Text}

theorem mem_manifestFiles {i j : ℕ} {m : Manifest} : path ∈ manifestFiles reads i j m ↔
    path = m.manifestPath ∨ reads.entries i j = none ∧ some path ∈ m.entries ∧ path ≠ [] := by
  rw [manifestFiles, List.mem_cons]
  cases reads.entries i j with
  | some e => simp
  | none =>
    refine or_congr_right ?_
    rw [eq_self_iff_true, true_and]
    constructor
    · intro h
      obtain ⟨entry, hentry, hpath⟩ := List.mem_flatMap.mp h
      cases entry with
      | none => exact absurd hpath List.not_mem_nil
      | some path' =>
        obtain ⟨rfl, hne⟩ := mem_nonempty.mp hpath
        exact ⟨hentry, hne⟩
    · rintro ⟨hentry, hne⟩
      exact List.mem_flatMap.mpr ⟨some path, hentry, mem_nonempty.mpr ⟨rfl, hne⟩⟩

theorem mem_snapshotFiles {i : ℕ} {s : Snapshot ρ} : path ∈ snapshotFiles reads i s ↔
    (path = s.manifestList ∧ s.manifestList ≠ []) ∨ reads.manifests i = none ∧
      ∃ j m, s.manifests[j]? = some m ∧ path ∈ manifestFiles reads i j m := by
  rw [snapshotFiles, List.mem_append, mem_nonempty]
  cases reads.manifests i with
  | some e => simp
  | none =>
    refine or_congr_right ?_
    rw [eq_self_iff_true, true_and]
    constructor
    · intro h
      obtain ⟨⟨m, j⟩, hm, hpath⟩ := List.mem_flatMap.mp h
      exact ⟨j, m, List.mem_zipIdx_iff_getElem?.mp hm, hpath⟩
    · rintro ⟨j, m, hm, hpath⟩
      exact List.mem_flatMap.mpr ⟨(m, j), List.mem_zipIdx_iff_getElem?.mpr hm, hpath⟩

/-- The loops collect what is named, whatever fails in them. -/
theorem mem_getReferencedFiles {t : TableMetadata ρ} :
    path ∈ getReferencedFiles reads t ↔ Named reads t path := by
  rw [getReferencedFiles, List.mem_append, mem_nonempty]
  constructor
  · rintro (h | ⟨rfl, hne⟩)
    · obtain ⟨⟨s, i⟩, hs, hpath⟩ := List.mem_flatMap.mp h
      have hs : t.snapshots[i]? = some s := List.mem_zipIdx_iff_getElem?.mp hs
      obtain ⟨rfl, hne⟩ | ⟨hread, j, m, hm, hpath⟩ := mem_snapshotFiles.mp hpath
      · exact .manifestList (List.mem_of_getElem? hs) hne
      · obtain rfl | ⟨hread', hentry, hne⟩ := mem_manifestFiles.mp hpath
        · exact .manifest hs hread (List.mem_of_getElem? hm)
        · exact .entry hs hread hm hread' hentry hne
    · exact .metadata hne
  · have hmem {i : ℕ} {s : Snapshot ρ} (hs : t.snapshots[i]? = some s)
        (hpath : path ∈ snapshotFiles reads i s) :
        path ∈ t.snapshots.zipIdx.flatMap fun p => snapshotFiles reads p.2 p.1 :=
      List.mem_flatMap.mpr ⟨(s, i), List.mem_zipIdx_iff_getElem?.mpr hs, hpath⟩
    intro h
    cases h with
    | manifestList hs hne =>
      obtain ⟨i, hi⟩ := List.getElem?_of_mem hs
      exact .inl (hmem hi (mem_snapshotFiles.mpr (.inl ⟨rfl, hne⟩)))
    | manifest hs hread hm =>
      obtain ⟨j, hj⟩ := List.getElem?_of_mem hm
      exact .inl (hmem hs (mem_snapshotFiles.mpr
        (.inr ⟨hread, j, _, hj, mem_manifestFiles.mpr (.inl rfl)⟩)))
    | entry hs hread hm hread' hpath hne =>
      exact .inl (hmem hs (mem_snapshotFiles.mpr
        (.inr ⟨hread, _, _, hm, mem_manifestFiles.mpr (.inr ⟨hread', hpath, hne⟩)⟩)))
    | metadata hne => exact .inr ⟨rfl, hne⟩

end

/-! ## What is deleted -/

/-- The keys that a cleanup of `t` takes for orphans. -/
def orphanKeys (storage : Storage) (args : CleanupArgs) (t : TableMetadata ρ) : List Text :=
  (findOrphans storage args t (storage.pages (tableRoot t).1 (tableRoot t).2)).map S3Object.key

def deletedKeys (changes : List Change) : List Text :=
  changes.flatMap fun
    | .delete keys => keys
    | _ => []

def changesSince (w w' : LakeWorld ρ) : List Change := w'.changes.drop w.changes.length

theorem deletedKeys_append (changes changes' : List Change) :
    deletedKeys (changes ++ changes') = deletedKeys changes ++ deletedKeys changes' :=
  List.flatMap_append

theorem deletedKeys_deletes (chunks : List (List Text)) :
    deletedKeys (chunks.map .delete) = chunks.flatten := by
  induction chunks with
  | nil => rfl
  | cons chunk chunks ih =>
    rw [List.map_cons, List.flatten_cons, ← ih]
    rfl

/-- The table is as it was, and nothing but `keys` was deleted. -/
def Cleaning (base : LakeWorld ρ) (keys : List Text) (w : LakeWorld ρ) : Prop :=
  w.lake = base.lake ∧ ∃ new, w.changes = base.changes ++ new ∧ ∀ k ∈ deletedKeys new, k ∈ keys

section

variable {writer : Writer ρ} {fault : ℕ → Option Exc} {storage : Storage} {args : CleanupArgs}
  {base w : LakeWorld ρ} {keys : List Text}

theorem stable_cleaning : Stable (alone writer fault) (Cleaning base keys) :=
  stable_alone fun _ _ h => h

theorem preserves_deleteObjects {chunk : List Text} (h : ∀ k ∈ chunk, k ∈ keys) :
    Preserves (Cleaning base keys) (deleteObjects (alone writer fault) chunk) := by
  have hsubmit : Preserves (Cleaning base keys) (update fun w : LakeWorld ρ =>
      { w with submitted := w.submitted ++ [chunk] }) := fun _ hw => hw
  refine hsubmit.bind fun _ => ?_
  apply stable_cleaning.preserves_call
  rintro w ⟨hlake, new, hchanges, hnew⟩
  refine ⟨hlake, new ++ [.delete chunk], ?_, ?_⟩
  · change w.changes ++ [.delete chunk] = _
    rw [hchanges, List.append_assoc]
  · intro k hk
    rw [deletedKeys_append, List.mem_append] at hk
    obtain hk | hk := hk
    · exact hnew k hk
    · have hk : k ∈ deletedKeys ([chunk].map .delete) := hk
      rw [deletedKeys_deletes, List.flatten_singleton] at hk
      exact h k hk

theorem preserves_deleteBatches {chunks : List (List Text)} (h : ∀ k ∈ chunks.flatten, k ∈ keys) :
    Preserves (Cleaning base keys) (deleteBatches (alone writer fault) chunks) := by
  induction chunks with
  | nil => exact preserves_pure ()
  | cons chunk chunks ih =>
    rw [List.flatten_cons] at h
    have hchunk : ∀ k ∈ chunk, k ∈ keys := fun k hk => h k (List.mem_append_left _ hk)
    have hchunks : ∀ k ∈ chunks.flatten, k ∈ keys := fun k hk => h k (List.mem_append_right _ hk)
    exact (preserves_deleteObjects hchunk).attempt.bind fun _ => ih hchunks

theorem preserves_deleteOrphans
    (hkeys : keys = if args.dryRun then [] else orphanKeys storage args base.table) :
    Preserves (Cleaning base keys)
      (deleteOrphans (alone writer fault) args (orphanKeys storage args base.table)) := by
  unfold deleteOrphans
  split_ifs with hdry
  · exact preserves_pure ()
  · rw [if_neg hdry] at hkeys
    apply preserves_deleteBatches
    rw [flatten_batches (by decide), hkeys]
    exact fun _ => id

theorem preserves_cleanupTable
    (hkeys : keys = if args.dryRun then [] else orphanKeys storage args base.table) :
    Preserves (Cleaning base keys)
      (cleanupTable (alone writer fault) storage args base.table) := by
  have hstable : Stable (alone writer fault) (Cleaning base keys) := stable_cleaning
  have hclient : Preserves (Cleaning base keys) (call (alone writer fault) (pure ())) :=
    hstable.preserves_call (preserves_pure ())
  apply Ensures.preserves
  refine hclient.ensures.bind fun _ => (hstable.ensures_answer _).attempt_bind ?_ ?_
  · intro pages
    refine ensures_of_fact fun hpages => Preserves.ensures ?_
    subst hpages
    exact (preserves_deleteOrphans hkeys).bind fun _ => preserves_pure _
  · intro e
    exact ensures_pure fun _ => id

/-- Only orphans are deleted, and none in a dry run. -/
theorem preserves_cleanupOrphanFiles
    (hkeys : keys = if args.dryRun then [] else orphanKeys storage args base.table) :
    Preserves (Cleaning base keys) (cleanupOrphanFiles (alone writer fault) storage args) := by
  have hstable : Stable (alone writer fault) (Cleaning base keys) := stable_cleaning
  have hload : Preserves (Cleaning base keys) (loadTable (alone writer fault)) :=
    hstable.preserves_call (preserves_read _)
  refine hload.attempt.bind fun loaded => ?_
  cases loaded with
  | error e =>
    change Preserves _ (ite _ _ _)
    split_ifs
    · exact preserves_pure _
    · exact preserves_raise e
  | ok tbl =>
    apply Ensures.preserves
    refine (hstable.ensures_table fun _ hw => hw.1).bind fun tbl' => ensures_of_fact ?_
    rintro rfl
    exact (preserves_cleanupTable hkeys).ensures

/-! ## Without failures -/

theorem deleteBatches_changes (chunks : List (List Text)) (w : LakeWorld ρ) :
    ∃ t, deleteBatches (alone writer noFault) chunks w = (.ok (), t) ∧
      t.changes = w.changes ++ chunks.map .delete := by
  induction chunks generalizing w with
  | nil => exact ⟨w, rfl, (List.append_nil _).symm⟩
  | cons chunk chunks ih =>
    obtain ⟨t, hrun, hchanges⟩ := ih { w with
      calls := w.calls + 1
      changes := w.changes ++ [.delete chunk]
      submitted := w.submitted ++ [chunk] }
    refine ⟨t, hrun, ?_⟩
    rw [hchanges, List.append_assoc]
    rfl

theorem cleanupOrphans_changes (hdry : args.dryRun = false) (orphans : List S3Object)
    (w : LakeWorld ρ) : (cleanupOrphans (alone writer noFault) args orphans w).2.changes =
      w.changes ++ (batches 1000 (orphans.map S3Object.key)).map .delete := by
  obtain ⟨t, hrun, hchanges⟩ := deleteBatches_changes
    (batches 1000 (orphans.map S3Object.key)) w
  have hdelete : deleteOrphans (alone writer noFault) args (orphans.map S3Object.key) w =
      (.ok (), t) := by
    rw [deleteOrphans, hdry, if_neg Bool.false_ne_true, hrun]
  rw [cleanupOrphans, bind_ok hdelete]
  exact hchanges

/-- Loading, refreshing, the client and the listing are four calls that change nothing. -/
theorem cleanup_changes (hdry : args.dryRun = false) (w : LakeWorld ρ) :
    (cleanupOrphanFiles (alone writer noFault) storage args w).2.changes =
      w.changes ++ (batches 1000 (orphanKeys storage args w.table)).map .delete :=
  cleanupOrphans_changes hdry (findOrphans storage args w.table _) { w with calls := w.calls + 4 }

/-! ## No live file is deleted -/

/-- No key that was deleted is the key of a live file. -/
def NoLiveDeleted (writer : Writer ρ) (fault : ℕ → Option Exc) (storage : Storage)
    (args : CleanupArgs) (w : LakeWorld ρ) : Prop :=
  ∀ k ∈ deletedKeys
      (changesSince w (cleanupOrphanFiles (alone writer fault) storage args w).2),
    ∀ uri, LivePath w.table uri → ¬Denotes uri (tableRoot w.table).1 k

/-- A live file that is listed and neither protected nor recent is named by a read that
succeeded, as `s3://bucket/key` or as its key. -/
def Spared (storage : Storage) (args : CleanupArgs) (t : TableMetadata ρ) : Prop :=
  args.dryRun = true ∨ ∀ obj ∈ (storage.pages (tableRoot t).1 (tableRoot t).2).flatten,
    isProtected obj.key = false → isRecent storage args obj = false →
    ∀ uri, LivePath t uri → Denotes uri (tableRoot t).1 obj.key →
      Named storage.reads t (fullUri (tableRoot t).1 obj.key) ∨ Named storage.reads t obj.key

theorem isReferenced_iff {t : TableMetadata ρ} {bucket key : Text} :
    isReferenced (getReferencedFiles storage.reads t) bucket key = true ↔
      Named storage.reads t (fullUri bucket key) ∨ Named storage.reads t key := by
  rw [isReferenced, Bool.or_eq_true, List.contains_iff_mem, List.contains_iff_mem,
    mem_getReferencedFiles, mem_getReferencedFiles]

theorem mem_orphanKeys {t : TableMetadata ρ} {k : Text} : k ∈ orphanKeys storage args t ↔
    ∃ obj ∈ (storage.pages (tableRoot t).1 (tableRoot t).2).flatten, obj.key = k ∧
      isProtected obj.key = false ∧ isRecent storage args obj = false ∧
      ¬(Named storage.reads t (fullUri (tableRoot t).1 obj.key) ∨ Named storage.reads t obj.key) := by
  rw [orphanKeys, findOrphans, List.mem_map]
  refine exists_congr fun obj => ?_
  rw [List.mem_filter, isOrphan, ← isReferenced_iff]
  simp only [Bool.and_eq_true, Bool.not_eq_true', Bool.not_eq_true]
  tauto

theorem changesSince_of_eq {w w' : LakeWorld ρ} {new : List Change}
    (h : w'.changes = w.changes ++ new) : changesSince w w' = new := by
  rw [changesSince, h, List.drop_left]

/-- Whatever else fails, no live file is deleted, just in case each of them is named where a
read succeeded. -/
theorem no_live_deleted_iff (writer : Writer ρ) (storage : Storage) (args : CleanupArgs)
    (w : LakeWorld ρ) :
    (∀ fault, NoLiveDeleted writer fault storage args w) ↔ Spared storage args w.table := by
  constructor
  · intro h
    cases hdry : args.dryRun with
    | true => exact .inl hdry
    | false =>
      refine .inr fun obj hobj hprotected hrecent uri hlive hdenotes => ?_
      by_contra hunnamed
      have hkey : obj.key ∈ orphanKeys storage args w.table :=
        mem_orphanKeys.mpr ⟨obj, hobj, rfl, hprotected, hrecent, hunnamed⟩
      have hdeleted := h noFault obj.key
      rw [changesSince_of_eq (cleanup_changes hdry w), deletedKeys_deletes,
        flatten_batches (by decide)] at hdeleted
      exact hdeleted hkey uri hlive hdenotes
  · intro h fault k hk uri hlive hdenotes
    have hstart : Cleaning w (if args.dryRun then [] else orphanKeys storage args w.table) w :=
      ⟨rfl, [], (List.append_nil _).symm, fun _ hk => absurd hk List.not_mem_nil⟩
    obtain ⟨-, new, hchanges, hnew⟩ :=
      preserves_cleanupOrphanFiles rfl w hstart
    rw [changesSince_of_eq hchanges] at hk
    have hkey := hnew k hk
    split_ifs at hkey with hdry
    · exact absurd hkey List.not_mem_nil
    · obtain ⟨obj, hobj, rfl, hprotected, hrecent, hunnamed⟩ := mem_orphanKeys.mp hkey
      obtain hdry' | hspared := h
      · exact hdry hdry'
      · exact hunnamed (hspared obj hobj hprotected hrecent uri hlive hdenotes)

end

/-- Where no read fails and every live path starts with `s3://`, no file need be feared for. -/
theorem spared_of_reads {storage : Storage} {args : CleanupArgs} {t : TableMetadata ρ}
    (hmanifests : ∀ i, storage.reads.manifests i = none)
    (hentries : ∀ i j, storage.reads.entries i j = none)
    (hwritten : ∀ uri key, LivePath t uri → Denotes uri (tableRoot t).1 key →
      uri = fullUri (tableRoot t).1 key) : Spared storage args t := by
  refine .inr fun obj _ _ _ uri hlive hdenotes => .inl ?_
  have hne : uri ≠ [] := by
    rintro rfl
    cases (Prod.mk.inj hdenotes).2
  rw [← hwritten uri obj.key hlive hdenotes]
  cases hlive with
  | manifestList hs => exact .manifestList hs hne
  | manifest hs hm =>
    obtain ⟨i, hi⟩ := List.getElem?_of_mem hs
    exact .manifest hi (hmanifests i) hm
  | entry hs hm hpath =>
    obtain ⟨i, hi⟩ := List.getElem?_of_mem hs
    obtain ⟨j, hj⟩ := List.getElem?_of_mem hm
    exact .entry hi (hmanifests i) hj (hentries i j) hpath hne
  | metadata => exact .metadata hne

/-! ### One data file -/

def oneFile : Writer Unit where
  dataFiles _ rows := [⟨"s3://wh/t/data/b.parquet", 1, rows⟩]
  timestampMs _ := 0
  manifestList _ := "s3://wh/t/metadata/snap-2.avro"
  manifests _ _ := []
  metadataLocation _ := "s3://wh/t/metadata/00002.metadata.json"
  rows_dataFiles _ rows := by simp

/-- A table with one snapshot and one data file, whose path is given. -/
def exampleTable (path : Text) : TableMetadata Unit where
  location := "s3://wh/t"
  metadataLocation := "s3://wh/t/metadata/00001.metadata.json"
  snapshots := [{
    snapshotId := 0
    timestampMs := 0
    manifestList := "s3://wh/t/metadata/snap-1.avro"
    manifests := [⟨"s3://wh/t/metadata/m-1.avro", [some path]⟩]
    files := [⟨path, 1, [()]⟩] }]
  currentSnapshotId := some 0

def exampleLake (path : Text) : LakeWorld Unit where
  lake := {
    table := exampleTable path
    nextSnapshotId := 1
    fresh := by
      intro s hs
      rw [List.mem_singleton.mp hs]
      exact Nat.zero_lt_one
    current_lt := by
      intro id hid
      obtain rfl := Option.some.inj hid
      exact Nat.zero_lt_one }
  calls := 0
  appended := []
  changes := []

/-- A storage that lists that file, a day after it was written. -/
def exampleStorage (manifestsFault : Option Exc) : Storage where
  reads := ⟨fun _ => manifestsFault, fun _ _ => none⟩
  pages _ _ := [[⟨"t/data/a.parquet", 1, 0⟩]]
  now := 86400 * 1000000

def exampleCleanup (path : Text) (manifestsFault : Option Exc) : List Text :=
  deletedKeys (changesSince (exampleLake path) (cleanupOrphanFiles (alone oneFile noFault)
    (exampleStorage manifestsFault) ⟨"bronze.events", 3600, false⟩ (exampleLake path)).2)

/-- A manifest list that cannot be read costs the data file, and so does another scheme. -/
theorem live_file_deleted :
    (¬∀ fault, NoLiveDeleted oneFile fault (exampleStorage (some (valueError "timeout")))
      ⟨"bronze.events", 3600, false⟩ (exampleLake "s3://wh/t/data/a.parquet")) ∧
    ¬∀ fault, NoLiveDeleted oneFile fault (exampleStorage none) ⟨"bronze.events", 3600, false⟩
      (exampleLake "s3a://wh/t/data/a.parquet") := by
  have hlive (path : Text) : LivePath (exampleTable path) path :=
    .entry (List.mem_singleton_self _) (List.mem_singleton_self _) (List.mem_singleton_self _)
  have hunread : text "t/data/a.parquet" ∈
      exampleCleanup "s3://wh/t/data/a.parquet" (some (valueError "timeout")) := by decide +kernel
  have hunlike : text "t/data/a.parquet" ∈ exampleCleanup "s3a://wh/t/data/a.parquet" none := by
    decide +kernel
  have hs3 : Denotes "s3://wh/t/data/a.parquet" (tableRoot (exampleTable [])).1 "t/data/a.parquet" := by
    unfold Denotes
    decide +kernel
  have hs3a : Denotes "s3a://wh/t/data/a.parquet" (tableRoot (exampleTable [])).1 "t/data/a.parquet" := by
    unfold Denotes
    decide +kernel
  exact ⟨fun h => h noFault _ hunread _ (hlive _) hs3, fun h => h noFault _ hunlike _ (hlive _) hs3a⟩

end IceStream.Iceberg
