import IceStream.Iceberg.DryRun

/-!
# Whether a table needs compaction

`is_compaction_needed` asks for enough files and for a small one among them. The compactor
itself asks for enough files, for a row and for an attempt, and not for the target size.
-/

namespace IceStream.Iceberg
open Python Fallible

variable {ρ : Type}

/-! ## What the two ask for -/

def EnoughFiles (args : CompactionArgs) (t : TableMetadata ρ) : Prop :=
  args.minFileCount ≤ t.files.length

/-- A file smaller than the target. -/
def HasSmallFile (args : CompactionArgs) (t : TableMetadata ρ) : Prop :=
  ∃ file ∈ t.files, (file.fileSizeInBytes : ℤ) < args.targetFileSizeBytes

/-- An attempt is allowed. -/
def MayTry (args : CompactionArgs) (compactor : TableCompactor) : Prop :=
  0 < args.maxRetries.getD compactor.maxRetries

/-- The compaction commits an overwrite. -/
def Rewrites (writer : Writer ρ) (args : CompactionArgs) (compactor : TableCompactor)
    (w : LakeWorld ρ) : Prop :=
  Change.overwrite ∈ changesSince w (compactTable (alone writer noFault) args compactor w).2

section

variable {writer : Writer ρ} {args : CompactionArgs} {compactor : TableCompactor}
  {w : LakeWorld ρ}

theorem isCompactionNeeded_iff : (isCompactionNeeded (alone writer noFault) args w).1 = .ok true ↔
    EnoughFiles args w.table ∧ HasSmallFile args w.table := by
  have hrun : isCompactionNeeded (alone writer noFault) args w =
      (if (w.table.files.length : ℤ) < args.minFileCount then pure false
      else pure (w.table.files.any fun t => t.fileSizeInBytes < args.targetFileSizeBytes) :
        LakeM ρ Bool) { w with calls := w.calls + 2 } := rfl
  rw [hrun, EnoughFiles, HasSmallFile]
  by_cases hfew : (w.table.files.length : ℤ) < args.minFileCount
  · rw [if_pos hfew]
    constructor
    · intro h
      cases h
    · rintro ⟨henough, -⟩
      exact absurd hfew (not_lt.mpr henough)
  · rw [if_neg hfew, pure_apply, Except.ok.injEq, List.any_eq_true]
    simp only [decide_eq_true_eq, not_lt.mp hfew, true_and]

/-- A compaction changes nothing but by overwriting. -/
def OnlyOverwritten (base w : LakeWorld ρ) : Prop :=
  ∃ n, w.changes = base.changes ++ List.replicate n .overwrite

theorem compactable_onlyOverwritten (env : Surroundings ρ) (base : LakeWorld ρ) :
    Compactable env (OnlyOverwritten base) where
  stable := ⟨fun _ _ h => h, fun _ _ _ _ h => h⟩
  overwrite tbl := by
    have hcommit : Preserves (OnlyOverwritten base) (commitOverwrite env tbl tbl.rows) := by
      rintro w ⟨n, hchanges⟩
      by_cases hcurrent : w.table.currentSnapshotId = tbl.currentSnapshotId
      · rw [commitOverwrite_of_current env _ hcurrent]
        refine ⟨n + 1, ?_⟩
        change w.changes ++ [.overwrite] = _
        rw [hchanges, List.replicate_succ', List.append_assoc]
      · rw [commitOverwrite_of_changed env _ hcurrent]
        exact ⟨n, hchanges⟩
    have hstable : Stable env (OnlyOverwritten base) := ⟨fun _ _ h => h, fun _ _ _ _ h => h⟩
    exact (hstable.preserves_call hcommit).ensures.mono (fun _ h => h.1) (fun _ _ => id) fun _ => id

theorem rewrites_iff : Rewrites writer args compactor w ↔
    EnoughFiles args w.table ∧ w.table.rows ≠ [] ∧ MayTry args compactor := by
  have honly : OnlyOverwritten w (compactTable (alone writer noFault) args compactor w).2 :=
    (compactable_onlyOverwritten _ w).compactTable args compactor w ⟨0, (List.append_nil _).symm⟩
  obtain ⟨n, hchanges⟩ := honly
  have hn : Rewrites writer args compactor w ↔ n ≠ 0 := by
    rw [Rewrites, changesSince_of_eq hchanges, List.mem_replicate]
    exact and_iff_left rfl
  rw [hn]
  constructor
  · intro hrewrites
    have hsomething : ¬NothingToCompact args w.table := by
      intro hnothing
      have hidle := (@idle_compactTable _ writer noFault _ _ hnothing compactor w ⟨rfl, rfl⟩).2
      rw [hchanges, List.append_right_eq_self, List.replicate_eq_nil_iff _] at hidle
      exact hrewrites hidle
    obtain ⟨hfew, hrows⟩ := not_or.mp hsomething
    refine ⟨not_lt.mp hfew, hrows, ?_⟩
    by_contra hnone
    have hzero : (args.maxRetries.getD compactor.maxRetries).toNat = 0 :=
      Int.toNat_eq_zero.mpr (not_lt.mp hnone)
    rw [compactTable_noFault, if_neg hfew, hzero] at hchanges
    have hsame : w.changes = w.changes ++ List.replicate n .overwrite := hchanges
    have hnil := List.append_right_eq_self.mp hsame.symm
    exact hrewrites (by simpa using hnil)
  · rintro ⟨henough, hrows, htry⟩ rfl
    have hsomething : ¬NothingToCompact args w.table := by
      rintro (hfew | hempty)
      · exact absurd hfew (not_lt.mpr henough)
      · exact hrows hempty
    have hgrows := @compactTable_changes _ writer _ compactor _ hsomething
      (Int.pos_iff_toNat_pos.mp htry)
    rw [hchanges, List.replicate_zero, List.append_nil] at hgrows
    omega

end

/-- Without a failure, the compaction rewrites the table where it is said to be needed, and only
there, just in case the table has too few files for both, or has a small file where there is a
row to rewrite and an attempt is allowed, and no small file else. -/
theorem compaction_agrees_iff (writer : Writer ρ) (args : CompactionArgs)
    (compactor : TableCompactor) (w : LakeWorld ρ) :
    (Rewrites writer args compactor w ↔
        (isCompactionNeeded (alone writer noFault) args w).1 = .ok true) ↔
      ¬EnoughFiles args w.table ∨
        (HasSmallFile args w.table ↔ w.table.rows ≠ [] ∧ MayTry args compactor) := by
  rw [rewrites_iff, isCompactionNeeded_iff]
  tauto

/-! ### Two full files -/

/-- The two files of a row each have the target size, and are rewritten. -/
theorem full_files_rewritten :
    ¬(Rewrites oneFile { tableName := "bronze.events", targetFileSizeBytes := 1 } {} appendedLake ↔
      (isCompactionNeeded (alone oneFile noFault)
        { tableName := "bronze.events", targetFileSizeBytes := 1 } appendedLake).1 = .ok true) := by
  rw [rewrites_iff, isCompactionNeeded_iff]
  rintro ⟨hneeded, -⟩
  have henough : EnoughFiles { tableName := "bronze.events", targetFileSizeBytes := 1 }
      appendedLake.table := by
    unfold EnoughFiles
    decide +kernel
  have hrows : appendedLake.table.rows ≠ [] := by decide +kernel
  have htry : MayTry { tableName := "bronze.events", targetFileSizeBytes := 1 } {} :=
    show (0 : ℤ) < 3 by decide
  obtain ⟨-, file, hfile, hsmall⟩ := hneeded ⟨henough, hrows, htry⟩
  have hsizes : ∀ file ∈ appendedLake.table.files, 1 ≤ file.fileSizeInBytes := by decide +kernel
  have hsize := hsizes file hfile
  dsimp only at hsmall
  omega

end IceStream.Iceberg
