import IceStream.Iceberg.DryRun

/-!
# Failed compactions

The compactor over an arbitrary catalog: a call may answer anything, raise anything and
find whatever other writers have done. After its overwrite is committed a compaction calls
the catalog again, so that it may fail with the table rewritten.
-/

namespace IceStream.Iceberg
open Python Fallible

variable {σ τ δ φ ρ : Type}

/-! ## The compactor over a catalog -/

/-- The calls of a compaction, over states that other writers change as well. -/
structure Catalog (σ τ δ φ : Type) where
  loadTable : Fallible σ τ
  refresh : Fallible σ τ
  planFiles : τ → Fallible σ (List φ)
  toArrow : τ → Fallible σ δ
  overwrite : τ → δ → Fallible σ τ
  /-- Whether an overwrite is committed; the call may raise all the same. -/
  commits : τ → δ → σ → Bool
  commits_of_ok : ∀ tbl arrowData s tbl' t,
    overwrite tbl arrowData s = (.ok tbl', t) → commits tbl arrowData s = true
  numRows : δ → ℕ
  fileSizeInBytes : φ → ℕ
  currentSnapshotId : τ → Option ℕ

namespace Catalog

section

variable (cat : Catalog σ τ δ φ) (args : CompactionArgs)

def totalBytes (tasks : List φ) : ℕ := (tasks.map cat.fileSizeInBytes).sum

def checkCompaction (filesBefore bytesBefore recordsBefore : ℕ) : Fallible σ CompactionResult := do
  let tbl ← cat.refresh
  let recordsAfter := cat.numRows (← cat.toArrow tbl)
  if recordsAfter ≠ recordsBefore then
    Fallible.raise (valueError (text
      s!"Compaction record count mismatch: before={recordsBefore}, after={recordsAfter}"))
  else
    let tasksAfter ← cat.planFiles tbl
    pure {
      tableName := args.tableName
      needed := true
      filesBefore := filesBefore
      filesAfter := tasksAfter.length
      bytesBefore := bytesBefore
      bytesAfter := cat.totalBytes tasksAfter
      recordsCompacted := recordsBefore
      success := true
      snapshotId := cat.currentSnapshotId tbl }

def tryCompaction (filesBefore bytesBefore : ℕ) : Fallible σ CompactionResult := do
  let tbl ← cat.refresh
  let arrowData ← cat.toArrow tbl
  let recordsBefore := cat.numRows arrowData
  if recordsBefore = 0 then
    pure {
      tableName := args.tableName
      needed := false
      filesBefore := filesBefore
      filesAfter := 0
      bytesBefore := bytesBefore
      bytesAfter := 0
      recordsCompacted := 0
      success := true
      snapshotId := cat.currentSnapshotId tbl }
  else
    let _ ← cat.overwrite tbl arrowData
    cat.checkCompaction args filesBefore bytesBefore recordsBefore

def compactionAttempts (filesBefore bytesBefore : ℕ) :
    ℕ → Option Exc → Fallible σ CompactionResult
  | 0, lastError => pure (compactionFailed args filesBefore bytesBefore lastError)
  | attempts + 1, _ => do
    match ← Fallible.attempt (cat.tryCompaction args filesBefore bytesBefore) with
    | .ok result => pure result
    | .error e =>
      if e.name = commitFailed.name then
        compactionAttempts filesBefore bytesBefore attempts (some e)
      else pure (compactionFailed args filesBefore bytesBefore (some e))

def compactLoaded (compactor : TableCompactor) (tbl : τ) : Fallible σ CompactionResult := do
  let tasksBefore ← cat.planFiles tbl
  let filesBefore := tasksBefore.length
  let bytesBefore := cat.totalBytes tasksBefore
  if filesBefore < args.minFileCount then
    pure {
      tableName := args.tableName
      needed := false
      filesBefore := filesBefore
      filesAfter := filesBefore
      bytesBefore := bytesBefore
      bytesAfter := bytesBefore
      recordsCompacted := 0
      success := true
      snapshotId := cat.currentSnapshotId tbl }
  else
    cat.compactionAttempts args filesBefore bytesBefore
      (args.maxRetries.getD compactor.maxRetries).toNat none

/-- `compact_table` -/
def compactTable (compactor : TableCompactor) : Fallible σ CompactionResult := do
  match ← Fallible.attempt cat.loadTable with
  | .ok tbl => cat.compactLoaded args compactor tbl
  | .error e =>
    if e.name = "NoSuchTableError" then
      pure {
        tableName := args.tableName
        needed := false
        filesBefore := 0
        filesAfter := 0
        bytesBefore := 0
        bytesAfter := 0
        recordsCompacted := 0
        success := false
        error := some (missingTable args.tableName e) }
    else Fallible.raise e

/-- A call that leaves the number of commits alone. -/
def uncounted {α : Type} (x : Fallible σ α) : Fallible (σ × ℕ) α :=
  fun s => ((x s.1).1, ((x s.1).2, s.2))

/-- A call that is a commit where `committed` says so. -/
def counted {α : Type} (committed : σ → Bool) (x : Fallible σ α) : Fallible (σ × ℕ) α :=
  fun s => ((x s.1).1, ((x s.1).2, if committed s.1 then s.2 + 1 else s.2))

/-- The catalog, with the overwrites counted that were committed. -/
def counting : Catalog (σ × ℕ) τ δ φ where
  loadTable := uncounted cat.loadTable
  refresh := uncounted cat.refresh
  planFiles tbl := uncounted (cat.planFiles tbl)
  toArrow tbl := uncounted (cat.toArrow tbl)
  overwrite tbl arrowData := counted (cat.commits tbl arrowData) (cat.overwrite tbl arrowData)
  commits tbl arrowData s := cat.commits tbl arrowData s.1
  commits_of_ok tbl arrowData s tbl' t h := by
    obtain ⟨hresult, -⟩ := Prod.mk.inj h
    exact cat.commits_of_ok tbl arrowData s.1 tbl' _ (Prod.ext hresult rfl)
  numRows := cat.numRows
  fileSizeInBytes := cat.fileSizeInBytes
  currentSnapshotId := cat.currentSnapshotId

end

end Catalog

/-! ## The lake's compactor -/

def lakeCatalog (env : Surroundings ρ) :
    Catalog (LakeWorld ρ) (TableMetadata ρ) (List ρ) (DataFile ρ) where
  loadTable := loadTable env
  refresh := refresh env
  planFiles := planFiles env
  toArrow := toArrow env
  overwrite := overwrite env
  commits tbl arrowData w := (overwrite env tbl arrowData w).1.toBool
  commits_of_ok tbl arrowData w tbl' t h := by
    rw [h]
    rfl
  numRows := List.length
  fileSizeInBytes := DataFile.fileSizeInBytes
  currentSnapshotId tbl := tbl.currentSnapshot.map Snapshot.snapshotId

theorem compactionAttempts_lakeCatalog (env : Surroundings ρ) (args : CompactionArgs)
    (filesBefore bytesBefore attempts : ℕ) (lastError : Option Exc) :
    (lakeCatalog env).compactionAttempts args filesBefore bytesBefore attempts lastError =
      compactionAttempts env args filesBefore bytesBefore attempts lastError := by
  induction attempts generalizing lastError with
  | zero => rfl
  | succ attempts ih =>
    rw [Catalog.compactionAttempts, compactionAttempts]
    refine congrArg (Fallible.attempt (tryCompaction env args filesBefore bytesBefore) >>= ·) ?_
    funext outcome
    cases outcome with
    | ok result => rfl
    | error e =>
      dsimp only
      rw [ih]

/-- The compactor of a lake is the one over its catalog. -/
theorem compactTable_lakeCatalog (env : Surroundings ρ) (args : CompactionArgs)
    (compactor : TableCompactor) :
    (lakeCatalog env).compactTable args compactor = compactTable env args compactor := by
  rw [Catalog.compactTable, compactTable]
  refine congrArg (Fallible.attempt (loadTable env) >>= ·) ?_
  funext loaded
  cases loaded with
  | error e => rfl
  | ok tbl =>
    dsimp only
    rw [Catalog.compactLoaded, compactLoaded]
    refine congrArg (planFiles env tbl >>= ·) ?_
    funext tasksBefore
    dsimp only
    rw [compactionAttempts_lakeCatalog]
    rfl

/-! ## The endings of the attempts -/

/-- An attempt returns, or raises: over a lost race or for another reason, with its
overwrite committed or not. -/
inductive AttemptEnd
  | returned
  | failed (conflict committed : Bool)
  deriving DecidableEq

def isConflict (e : Exc) : Bool := e.name = commitFailed.name

namespace Catalog

section

variable (cat : Catalog σ τ δ φ)

/-- What the catalog answers behind a commit: to the refresh, to the scan that is counted and
to the plan. -/
def checkEnd (recordsBefore : ℕ) (s : σ) : AttemptEnd × σ :=
  match cat.refresh s with
  | (.error e, s) => (.failed (isConflict e) true, s)
  | (.ok tbl, s) =>
    match cat.toArrow tbl s with
    | (.error e, s) => (.failed (isConflict e) true, s)
    | (.ok arrowData, s) =>
      if cat.numRows arrowData ≠ recordsBefore then (.failed false true, s)
      else match cat.planFiles tbl s with
        | (.error e, s) => (.failed (isConflict e) true, s)
        | (.ok _, s) => (.returned, s)

/-- What it answers from the overwrite on. -/
def overwriteEnd (tbl : τ) (arrowData : δ) (s : σ) : AttemptEnd × σ :=
  match cat.overwrite tbl arrowData s with
  | (.error e, s') => (.failed (isConflict e) (cat.commits tbl arrowData s), s')
  | (.ok _, s) => cat.checkEnd (cat.numRows arrowData) s

/-- What it answers in an attempt. -/
def attemptEnd (s : σ) : AttemptEnd × σ :=
  match cat.refresh s with
  | (.error e, s) => (.failed (isConflict e) false, s)
  | (.ok tbl, s) =>
    match cat.toArrow tbl s with
    | (.error e, s) => (.failed (isConflict e) false, s)
    | (.ok arrowData, s) =>
      if cat.numRows arrowData = 0 then (.returned, s) else cat.overwriteEnd tbl arrowData s

/-- The endings of at most `attempts` attempts. -/
def attemptEnds : ℕ → σ → List AttemptEnd
  | 0, _ => []
  | attempts + 1, s =>
    match cat.attemptEnd s with
    | (.failed true committed, s) => .failed true committed :: attemptEnds attempts s
    | (ending, _) => [ending]

end

/-- A run over the counting catalog that ends so, `n` commits having been counted before. -/
def Ends (n : ℕ) (run : Except Exc CompactionResult × (σ × ℕ)) : AttemptEnd × σ → Prop
  | (.returned, _) => ∃ result, run.1 = .ok result ∧ result.success = true
  | (.failed conflict committed, s) => ∃ e, run.1 = .error e ∧ isConflict e = conflict ∧
      run.2 = (s, if committed then n + 1 else n)

section

variable {cat : Catalog σ τ δ φ} {α : Type} {x : Fallible σ α} {s t : σ} {n : ℕ}

theorem uncounted_ok {a : α} (h : x s = (.ok a, t)) : uncounted x (s, n) = (.ok a, (t, n)) := by
  rw [uncounted, h]

theorem uncounted_error {e : Exc} (h : x s = (.error e, t)) :
    uncounted x (s, n) = (.error e, (t, n)) := by
  rw [uncounted, h]

theorem counted_ok {committed : σ → Bool} {a : α} (h : x s = (.ok a, t))
    (hcommitted : committed s = true) : counted committed x (s, n) = (.ok a, (t, n + 1)) := by
  rw [counted, h, if_pos hcommitted]

theorem counted_error {e : Exc} (committed : σ → Bool) (h : x s = (.error e, t)) :
    counted committed x (s, n) = (.error e, (t, if committed s then n + 1 else n)) := by
  rw [counted, h]

theorem checkCompaction_ends (args : CompactionArgs) (filesBefore bytesBefore recordsBefore : ℕ) :
    Ends n (cat.counting.checkCompaction args filesBefore bytesBefore recordsBefore (s, n + 1))
      (cat.checkEnd recordsBefore s) := by
  unfold checkCompaction checkEnd
  rcases hrefresh : cat.refresh s with ⟨e | tbl, s₁⟩
  · have hstep : cat.counting.refresh (s, n + 1) = _ := uncounted_error hrefresh
    rw [bind_error hstep]
    exact ⟨e, rfl, rfl, rfl⟩
  have hstep : cat.counting.refresh (s, n + 1) = _ := uncounted_ok hrefresh
  rw [bind_ok hstep]
  dsimp only
  rcases harrow : cat.toArrow tbl s₁ with ⟨e | arrowData, s₂⟩
  · have hstep : cat.counting.toArrow tbl (s₁, n + 1) = _ := uncounted_error harrow
    rw [bind_error hstep]
    exact ⟨e, rfl, rfl, rfl⟩
  have hstep : cat.counting.toArrow tbl (s₁, n + 1) = _ := uncounted_ok harrow
  rw [bind_ok hstep]
  dsimp only
  by_cases hcount : cat.numRows arrowData ≠ recordsBefore
  · have hcount' : cat.counting.numRows arrowData ≠ recordsBefore := hcount
    rw [if_pos hcount, if_pos hcount']
    exact ⟨_, rfl, rfl, rfl⟩
  have hcount' : ¬cat.counting.numRows arrowData ≠ recordsBefore := hcount
  rw [if_neg hcount, if_neg hcount']
  rcases hplan : cat.planFiles tbl s₂ with ⟨e | tasksAfter, s₃⟩
  · have hstep : cat.counting.planFiles tbl (s₂, n + 1) = _ := uncounted_error hplan
    rw [bind_error hstep]
    exact ⟨e, rfl, rfl, rfl⟩
  have hstep : cat.counting.planFiles tbl (s₂, n + 1) = _ := uncounted_ok hplan
  rw [bind_ok hstep]
  exact ⟨_, rfl, rfl⟩

theorem tryCompaction_ends (args : CompactionArgs) (filesBefore bytesBefore : ℕ) :
    Ends n (cat.counting.tryCompaction args filesBefore bytesBefore (s, n)) (cat.attemptEnd s) := by
  unfold tryCompaction attemptEnd
  rcases hrefresh : cat.refresh s with ⟨e | tbl, s₁⟩
  · have hstep : cat.counting.refresh (s, n) = _ := uncounted_error hrefresh
    rw [bind_error hstep]
    exact ⟨e, rfl, rfl, rfl⟩
  have hstep : cat.counting.refresh (s, n) = _ := uncounted_ok hrefresh
  rw [bind_ok hstep]
  dsimp only
  rcases harrow : cat.toArrow tbl s₁ with ⟨e | arrowData, s₂⟩
  · have hstep : cat.counting.toArrow tbl (s₁, n) = _ := uncounted_error harrow
    rw [bind_error hstep]
    exact ⟨e, rfl, rfl, rfl⟩
  have hstep : cat.counting.toArrow tbl (s₁, n) = _ := uncounted_ok harrow
  rw [bind_ok hstep]
  dsimp only
  by_cases hempty : cat.numRows arrowData = 0
  · have hempty' : cat.counting.numRows arrowData = 0 := hempty
    rw [if_pos hempty, if_pos hempty']
    exact ⟨_, rfl, rfl⟩
  have hempty' : ¬cat.counting.numRows arrowData = 0 := hempty
  rw [if_neg hempty, if_neg hempty']
  unfold overwriteEnd
  rcases hoverwrite : cat.overwrite tbl arrowData s₂ with ⟨e | tbl', s₃⟩
  · have hstep : cat.counting.overwrite tbl arrowData (s₂, n) = _ :=
      counted_error (cat.commits tbl arrowData) hoverwrite
    rw [bind_error hstep]
    exact ⟨e, rfl, rfl, rfl⟩
  have hcommits : cat.commits tbl arrowData s₂ = true := cat.commits_of_ok _ _ _ _ _ hoverwrite
  have hstep : cat.counting.overwrite tbl arrowData (s₂, n) = _ := counted_ok hoverwrite hcommits
  rw [bind_ok hstep]
  exact checkCompaction_ends args filesBefore bytesBefore _

/-- A compaction succeeds where one of its attempts returns, and else has committed what the
attempts did that raised behind their commit. -/
theorem compactionAttempts_ends (args : CompactionArgs) (filesBefore bytesBefore attempts : ℕ)
    (lastError : Option Exc) (s : σ) (n : ℕ) :
    ∃ result t m, cat.counting.compactionAttempts args filesBefore bytesBefore attempts lastError
        (s, n) = (.ok result, (t, m)) ∧
      (result.success = true ↔ .returned ∈ cat.attemptEnds attempts s) ∧
      (result.success = false → n ≤ m ∧
        (n < m ↔ ∃ conflict, .failed conflict true ∈ cat.attemptEnds attempts s)) := by
  induction attempts generalizing lastError s n with
  | zero => exact ⟨_, s, n, rfl, by simp [attemptEnds, compactionFailed], by simp [attemptEnds]⟩
  | succ attempts ih =>
    have hend : Ends n (cat.counting.tryCompaction args filesBefore bytesBefore (s, n))
        (cat.attemptEnd s) := tryCompaction_ends args filesBefore bytesBefore
    rw [compactionAttempts, attempt_bind, attemptEnds]
    generalize cat.counting.tryCompaction args filesBefore bytesBefore (s, n) = run at hend ⊢
    generalize cat.attemptEnd s = ending at hend ⊢
    rcases run with ⟨outcome, s', n'⟩
    rcases ending with ⟨_ | ⟨_ | _, committed⟩, s₁⟩
    · obtain ⟨result, rfl, hsuccess⟩ := hend
      refine ⟨result, s', n', rfl, by simp [hsuccess], ?_⟩
      intro hfailed
      rw [hsuccess] at hfailed
      cases hfailed
    · -- another error ends the compaction
      obtain ⟨e, rfl, hconflict, hstate⟩ := hend
      have hname : ¬e.name = commitFailed.name := of_decide_eq_false hconflict
      obtain ⟨rfl, rfl⟩ := Prod.mk.inj hstate
      dsimp only
      rw [if_neg hname]
      refine ⟨_, s', _, rfl, by simp [compactionFailed], ?_⟩
      cases committed <;> simp
    · obtain ⟨e, rfl, hconflict, hstate⟩ := hend
      have hname : e.name = commitFailed.name := of_decide_eq_true hconflict
      obtain ⟨rfl, rfl⟩ := Prod.mk.inj hstate
      dsimp only
      rw [if_pos hname]
      obtain ⟨result, t, m, hrun, hsuccess, hfails⟩ := ih (some e) s' (if committed then n + 1 else n)
      refine ⟨result, t, m, hrun, by simpa using hsuccess, ?_⟩
      intro hfailed
      obtain ⟨hle, hcommits⟩ := hfails hfailed
      cases committed with
      | false =>
        refine ⟨hle, ?_⟩
        simpa using hcommits
      | true =>
        have hlt : n < m := Nat.lt_of_succ_le hle
        exact ⟨hlt.le, iff_of_true hlt ⟨true, List.mem_cons_self⟩⟩

end

/-! ## A whole compaction -/

section

variable (cat : Catalog σ τ δ φ) (args : CompactionArgs) (compactor : TableCompactor) (s : σ)

/-- A result without success comes without an overwrite. -/
def FailureLeavesAlone : Prop :=
  ∀ result t commits, cat.counting.compactTable args compactor (s, 0) = (.ok result, (t, commits)) →
    result.success = false → commits = 0

/-- The endings of the attempts from `s` on. -/
def endings (s : σ) : List AttemptEnd :=
  cat.attemptEnds (args.maxRetries.getD compactor.maxRetries).toNat s

/-- Where the table has the files to be compacted, no attempt raises behind its commit unless
an attempt returns. -/
def CommitsEndWell : Prop :=
  ∀ tbl s₁ tasks s₂, cat.loadTable s = (.ok tbl, s₁) → cat.planFiles tbl s₁ = (.ok tasks, s₂) →
    args.minFileCount ≤ tasks.length →
    (∃ conflict, .failed conflict true ∈ cat.endings args compactor s₂) →
      .returned ∈ cat.endings args compactor s₂

/-- A compaction that reports a failure has committed nothing just in case all goes well behind
a commit, or a later attempt returns. -/
theorem failed_compaction_iff :
    cat.FailureLeavesAlone args compactor s ↔ cat.CommitsEndWell args compactor s := by
  unfold FailureLeavesAlone CommitsEndWell compactTable
  rw [attempt_bind]
  rcases hload : cat.loadTable s with ⟨e | tbl, s₁⟩
  · have hcounted : cat.counting.loadTable (s, 0) = (.error e, (s₁, 0)) := uncounted_error hload
    refine iff_of_true ?_ fun _ _ _ _ h => nomatch (Prod.mk.inj h).1
    rw [hcounted]
    dsimp only
    intro result t commits hrun _
    split_ifs at hrun
    · cases hrun
      rfl
    · cases hrun
  have hcounted : cat.counting.loadTable (s, 0) = (.ok tbl, (s₁, 0)) := uncounted_ok hload
  rw [hcounted]
  dsimp only
  unfold compactLoaded
  rcases hplan : cat.planFiles tbl s₁ with ⟨e | tasks, s₂⟩
  · have hcounted : cat.counting.planFiles tbl (s₁, 0) = (.error e, (s₂, 0)) := uncounted_error hplan
    refine iff_of_true ?_ ?_
    · rw [bind_error hcounted]
      intro result t commits hrun
      cases hrun
    · rintro tbl' s₁' tasks s₂' h h'
      cases h
      rw [hplan] at h'
      cases h'
  have hcounted : cat.counting.planFiles tbl (s₁, 0) = (.ok tasks, (s₂, 0)) := uncounted_ok hplan
  rw [bind_ok hcounted]
  by_cases hfew : (tasks.length : ℤ) < args.minFileCount
  · rw [if_pos hfew]
    refine iff_of_true ?_ ?_
    · intro result t commits hrun hfailed
      cases hrun
      cases hfailed
    · intro tbl' s₁' tasks' s₂' h h' henough
      cases h
      rw [hplan] at h'
      cases h'
      exact absurd hfew (not_lt.mpr henough)
  rw [if_neg hfew]
  obtain ⟨result, t, m, hrun, hsuccess, hfails⟩ := cat.compactionAttempts_ends args
    tasks.length (cat.counting.totalBytes tasks) (args.maxRetries.getD compactor.maxRetries).toNat
    none s₂ 0
  constructor
  · rintro h tbl' s₁' tasks' s₂' hload' hplan' - hcommitted
    cases hload'
    rw [hplan] at hplan'
    cases hplan'
    rw [endings, ← hsuccess]
    by_contra hfailed
    rw [Bool.not_eq_true] at hfailed
    have hsome := (hfails hfailed).2.mpr hcommitted
    rw [h result t m hrun hfailed] at hsome
    exact absurd hsome (lt_irrefl 0)
  · intro h result' t' commits hrun' hfailed
    rw [hrun] at hrun'
    cases hrun'
    by_contra hsome
    have hcommitted := (hfails hfailed).2.mp (Nat.pos_of_ne_zero hsome)
    have hreturned := h tbl s₁ tasks s₂ rfl hplan (not_lt.mp hfew) hcommitted
    rw [endings, ← hsuccess, hfailed] at hreturned
    cases hreturned

end

end Catalog

/-! ### Two data files -/

/-- Another writer appends a row between the overwrite and the refresh behind it. -/
def lateAppend : Surroundings Unit := ⟨oneFile, fun n => if n = 5 then [[()]] else [], noFault⟩

/-- The refresh behind the overwrite fails. -/
def lateFault : Surroundings Unit :=
  alone oneFile fun n => if n = 5 then some ⟨"ConnectionError", false, "timeout"⟩ else none

def compactionArgs : CompactionArgs where
  tableName := "bronze.events"

theorem not_failureLeavesAlone {cat : Catalog σ τ δ φ} {args : CompactionArgs} {s : σ}
    (hfailed : (cat.counting.compactTable args {} (s, 0)).1.toOption.map CompactionResult.success =
      some false)
    (hcommits : (cat.counting.compactTable args {} (s, 0)).2.2 ≠ 0) :
    ¬cat.FailureLeavesAlone args {} s := by
  intro halone
  rcases hrun : cat.counting.compactTable args {} (s, 0) with ⟨e | result, t, commits⟩
  · rw [hrun] at hfailed
    cases hfailed
  · rw [hrun] at hfailed hcommits
    exact hcommits (halone result t commits hrun (Option.some.inj hfailed))

/-- Either way the overwrite is committed, and the compaction reports a failure. -/
theorem committed_and_failed :
    ¬(lakeCatalog lateAppend).FailureLeavesAlone compactionArgs {} appendedLake ∧
      ¬(lakeCatalog lateFault).FailureLeavesAlone compactionArgs {} appendedLake :=
  ⟨not_failureLeavesAlone (by decide +kernel) (by decide +kernel),
    not_failureLeavesAlone (by decide +kernel) (by decide +kernel)⟩

end IceStream.Iceberg
