import IceStream.Iceberg.Compactor

/-!
# Compaction and the rows of the table

A handle whose snapshot is still the current one holds the rows of the table, and
only with such a handle does an overwrite succeed. So it replaces the rows by
themselves, whatever other writers do in between.
-/

namespace IceStream.Iceberg
open Python Fallible

variable {ρ : Type}

/-- A handle read from the catalog at some time in the past. -/
structure Behind (tbl : TableMetadata ρ) (w : LakeWorld ρ) : Prop where
  lt : ∀ id, tbl.currentSnapshotId = some id → id < w.lake.nextSnapshotId
  rows : w.table.currentSnapshotId = tbl.currentSnapshotId → w.table.rows = tbl.rows

/-- The rows are those of `base` and what other writers appended since. -/
def Conserved (base w : LakeWorld ρ) : Prop :=
  ∃ added, w.appended = base.appended ++ added ∧
    (w.table.rows : Multiset ρ) = base.table.rows + added

theorem behind_table (w : LakeWorld ρ) : Behind w.table w where
  lt := w.lake.current_lt
  rows _ := rfl

theorem conserved_self (w : LakeWorld ρ) : Conserved w w :=
  ⟨[], (List.append_nil _).symm, (Multiset.add_zero (w.table.rows : Multiset ρ)).symm⟩

section

variable (env : Surroundings ρ)

theorem stable_behind (tbl : TableMetadata ρ) : Stable env (Behind tbl) where
  called _ _ h := ⟨h.lt, h.rows⟩
  append w _ rows _ h := by
    refine ⟨fun id hid => (h.lt id hid).trans (Nat.lt_succ_self _), ?_⟩
    -- the commit's identifier is newer than the one of the handle
    intro hcurrent
    have hcurrent : some w.lake.nextSnapshotId = tbl.currentSnapshotId := hcurrent
    exact absurd (h.lt _ hcurrent.symm) (lt_irrefl _)

theorem stable_conserved (base : LakeWorld ρ) : Stable env (Conserved base) where
  called _ _ h := h
  append w _ rows _ h := by
    obtain ⟨added, happended, hrows⟩ := h
    refine ⟨added ++ rows, ?_, ?_⟩
    · change w.appended ++ rows = _
      rw [happended, List.append_assoc]
    · change ((w.lake.append env.writer rows).table.rows : Multiset ρ) = _
      rw [Lake.rows_append, hrows, ← Multiset.coe_add added rows, ← Multiset.add_assoc]

theorem Stable.and {I J : LakeWorld ρ → Prop} (hI : Stable env I) (hJ : Stable env J) :
    Stable env fun w => I w ∧ J w where
  called w n h := ⟨hI.called w n h.1, hJ.called w n h.2⟩
  append w n rows hrows h := ⟨hI.append w n rows hrows h.1, hJ.append w n rows hrows h.2⟩

end

/-! ## What a compaction keeps -/

/-- What follows the overwrite only reads. -/
theorem Stable.checkCompaction {env : Surroundings ρ} {I : LakeWorld ρ → Prop} (hI : Stable env I)
    (args : CompactionArgs) (filesBefore bytesBefore recordsBefore : ℕ) :
    Preserves I (checkCompaction env args filesBefore bytesBefore recordsBefore) := by
  refine (hI.preserves_call (preserves_read _)).bind fun tbl => ?_
  refine (hI.preserves_call (preserves_pure _)).bind fun rows => ?_
  change Preserves _ (ite _ _ _)
  split_ifs
  · exact preserves_raise _
  · exact (hI.preserves_call (preserves_pure _)).bind fun _ => preserves_pure _

/-- An invariant that an overwrite with the rows of the handle does not take away. -/
structure Compactable (env : Surroundings ρ) (I : LakeWorld ρ → Prop) : Prop where
  stable : Stable env I
  overwrite : ∀ tbl : TableMetadata ρ, Ensures (fun w => I w ∧ Behind tbl w)
    (overwrite env tbl tbl.rows) (fun _ => I) I

namespace Compactable

variable {env : Surroundings ρ} {I : LakeWorld ρ → Prop} (hI : Compactable env I)

include hI

theorem ensures_refresh : Ensures I (refresh env) (fun tbl w => I w ∧ Behind tbl w) I := by
  refine (hI.stable.ensures_read LakeWorld.table).mono (fun _ => id) ?_ fun _ => id
  rintro tbl w ⟨hw, rfl⟩
  exact ⟨hw, behind_table w⟩

theorem ensures_toArrow (tbl : TableMetadata ρ) :
    Ensures (fun w => I w ∧ Behind tbl w) (toArrow env tbl)
      (fun rows w => (I w ∧ Behind tbl w) ∧ rows = tbl.rows) I :=
  ((hI.stable.and env (stable_behind env tbl)).ensures_answer tbl.rows).mono (fun _ => id)
    (fun _ _ => id) fun _ hw => hw.1

theorem tryCompaction (args : CompactionArgs) (filesBefore bytesBefore : ℕ) :
    Preserves I (tryCompaction env args filesBefore bytesBefore) := by
  apply Ensures.preserves
  refine hI.ensures_refresh.bind fun tbl => (hI.ensures_toArrow tbl).bind fun arrowData => ?_
  refine ensures_of_fact fun hdata => ?_
  subst hdata
  change Ensures _ (ite _ _ _) _ _
  split_ifs
  · exact ensures_pure fun w hw => hw.1
  · exact (hI.overwrite tbl).bind fun _ => (hI.stable.checkCompaction args _ _ _).ensures

/-- Every attempt keeps the invariant, and so do all of them together. -/
theorem compactionAttempts (args : CompactionArgs) (filesBefore bytesBefore attempts : ℕ)
    (lastError : Option Exc) :
    Preserves I (compactionAttempts env args filesBefore bytesBefore attempts lastError) := by
  induction attempts generalizing lastError with
  | zero => exact preserves_pure _
  | succ attempts ih =>
    unfold Iceberg.compactionAttempts
    refine (hI.tryCompaction args filesBefore bytesBefore).attempt.bind fun outcome => ?_
    cases outcome with
    | ok result => exact preserves_pure _
    | error e =>
      change Preserves _ (ite _ _ _)
      split_ifs
      · exact ih (some e)
      · exact preserves_pure _

theorem compactTable (args : CompactionArgs) (compactor : TableCompactor) :
    Preserves I (compactTable env args compactor) := by
  have hload : Preserves I (loadTable env) := hI.stable.preserves_call (preserves_read _)
  refine hload.attempt.bind fun loaded => ?_
  cases loaded with
  | ok tbl =>
    have hplan : Preserves I (planFiles env tbl) := hI.stable.preserves_call (preserves_pure _)
    refine hplan.bind fun tasksBefore => ?_
    change Preserves _ (ite _ _ _)
    split_ifs
    · exact preserves_pure _
    · exact hI.compactionAttempts args _ _ _ none
  | error e =>
    change Preserves _ (ite _ _ _)
    split_ifs
    · exact preserves_pure _
    · exact preserves_raise e

end Compactable

/-! ## The rows -/

theorem compactable_conserved (env : Surroundings ρ) (base : LakeWorld ρ) :
    Compactable env (Conserved base) where
  stable := stable_conserved env base
  overwrite tbl := by
    apply ((stable_conserved env base).and env (stable_behind env tbl)).ensures_call
    · rintro w ⟨⟨added, happended, hrows⟩, hbehind⟩
      by_cases hcurrent : w.table.currentSnapshotId = tbl.currentSnapshotId
      · have hreplaced : ((w.lake.replace env.writer tbl.rows).table.rows : Multiset ρ) =
            base.table.rows + added := by
          rw [Lake.rows_replace, ← hbehind.rows hcurrent, hrows]
        have hconserved : Conserved base { w with
            lake := w.lake.replace env.writer tbl.rows
            changes := w.changes ++ [.overwrite] } := ⟨added, happended, hreplaced⟩
        exact ensures_ok (commitOverwrite_of_current env _ hcurrent) hconserved
      · have hconserved : Conserved base w := ⟨added, happended, hrows⟩
        exact ensures_error (commitOverwrite_of_changed env _ hcurrent) hconserved
    · intro w hw
      exact hw.1

/-- Whatever a compaction reports, and whether it raises or not, the table ends with its rows
and those that other writers appended meanwhile. -/
theorem compactTable_keeps_rows (env : Surroundings ρ) (args : CompactionArgs)
    (compactor : TableCompactor) (w : LakeWorld ρ) :
    ∃ added, (compactTable env args compactor w).2.appended = w.appended ++ added ∧
      ((compactTable env args compactor w).2.table.rows : Multiset ρ) = w.table.rows + added :=
  (compactable_conserved env w).compactTable args compactor w (conserved_self w)

end IceStream.Iceberg
