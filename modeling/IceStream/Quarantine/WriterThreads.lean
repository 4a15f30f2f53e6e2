import IceStream.Lib.CommitLog
import IceStream.Lib.Stepping
import IceStream.Quarantine.Writer
import Mathlib.Logic.Function.Basic

/-!
# The quarantine writer under concurrent callers

Any number of threads share one writer. A step is one locked block, one Arrow
conversion or one append attempt; everything between two steps of a thread may
be interleaved with steps of the others.
-/

namespace IceStream.Quarantine
open Python Stepping

variable {R : Type}

/-- A record as handed over by one call of `write_record`, so that two calls
with equal records stay apart. -/
structure Handed (R : Type) where
  call : ℕ
  record : R
  deriving DecidableEq

inductive Call
  | writeRecord
  | flush
  | close
  deriving DecidableEq

inductive Outcome
  | recorded (success : Bool)
  | flushed (count : ℕ) (success : Bool)
  | raised (e : Exc)
  deriving DecidableEq

/-- What a call returns when its `flush` returns `(count, success)`. -/
def Call.returns : Call → ℕ → Bool → Outcome
  | .writeRecord, _, success => .recorded success
  | .flush, count, success => .flushed count success
  | .close, count, success => .flushed count success

/-- Where a thread stands between two of its steps. -/
inductive Phase (R : Type)
  | idle (last : Option Outcome)
  | flushing (call : Call)
  | building (call : Call) (snapshot : List (Handed R))
  | writing (call : Call) (snapshot : List (Handed R)) (attempt : ℕ)
  | written (call : Call) (snapshot : List (Handed R))
  | failed (call : Call)

namespace Phase

/-- The rows a thread may still append. -/
def unwritten : Phase R → Option (List (Handed R))
  | .building _ snapshot => some snapshot
  | .writing _ snapshot _ => some snapshot
  | _ => none

/-- The rows a thread has appended and not trimmed yet. -/
def untrimmed : Phase R → Option (List (Handed R))
  | .written _ snapshot => some snapshot
  | _ => none

end Phase

structure Threads (R : Type) where
  writer : Writer (Handed R)
  table : List (Handed R)
  handed : List (Handed R)
  phase : ℕ → Phase R

inductive Step (R : Type)
  | writeRecord (thread : ℕ) (record : R) (immediate : Bool) (now : Float)
  | flush (thread : ℕ)
  | close (thread : ℕ)
  | snapshot (thread : ℕ)
  | build (thread : ℕ)
  | attempt (thread : ℕ) (success : Bool)
  | finish (thread : ℕ) (now : Float)

namespace Threads

def init (now : Float) : Threads R := ⟨.init now, [], [], fun _ => .idle none⟩

def moveTo (s : Threads R) (thread : ℕ) (phase : Phase R) : Threads R :=
  { s with phase := Function.update s.phase thread phase }

def appendRows (s : Threads R) (rows : List (Handed R)) : Threads R :=
  { s with table := s.table ++ rows, writer := s.writer.appended }

def trimRows (s : Threads R) (count : ℕ) (now : Float) : Threads R :=
  { s with writer := s.writer.flushed count now }

def step (cfg : WriterConfig) (arrow : List R → Except Exc Unit) (s : Threads R) :
    Step R → Option (Threads R)
  | .writeRecord thread record immediate now =>
    match s.phase thread with
    | .idle _ =>
      let handed : Handed R := ⟨s.handed.length, record⟩
      let writer := s.writer.buffered handed
      let s' := { s with writer := writer, handed := s.handed ++ [handed] }
      some (s'.moveTo thread (if writer.shouldFlush cfg immediate now then .flushing .writeRecord
        else .idle (some (.recorded true))))
    | _ => none
  | .flush thread =>
    match s.phase thread with
    | .idle _ => some (s.moveTo thread (.flushing .flush))
    | _ => none
  | .close thread =>
    match s.phase thread with
    | .idle _ => some (s.moveTo thread (.flushing .close))
    | _ => none
  | .snapshot thread =>
    match s.phase thread with
    | .flushing call =>
      if s.writer.buffer.isEmpty then some (s.moveTo thread (.idle (some (call.returns 0 true))))
      else some (s.moveTo thread (.building call s.writer.buffer))
    | _ => none
  | .build thread =>
    match s.phase thread with
    | .building call snapshot =>
      match arrow (snapshot.map Handed.record) with
      | .error e => some (s.moveTo thread (.idle (some (.raised e))))
      | .ok () => some (s.moveTo thread (.writing call snapshot 0))
    | _ => none
  | .attempt thread success =>
    match s.phase thread with
    | .writing call snapshot attempt =>
      if success then
        some ((s.appendRows snapshot).moveTo thread (.written call snapshot))
      else if attempt + 1 < maxRetries then
        some (s.moveTo thread (.writing call snapshot (attempt + 1)))
      else
        some (s.moveTo thread (.failed call))
    | _ => none
  | .finish thread now =>
    match s.phase thread with
    | .written call snapshot =>
      some ((s.trimRows snapshot.length now).moveTo thread
        (.idle (some (call.returns snapshot.length true))))
    | .failed call => some (s.moveTo thread (.idle (some (call.returns 0 false))))
    | _ => none

/-- No record handed over is lost, and none is in the table twice. -/
def Intact (s : Threads R) : Prop :=
  (∀ r ∈ s.handed, r ∈ s.writer.buffer ∨ r ∈ s.table) ∧ s.table.Nodup

/-- No thread is between its append and its trim. -/
def Settled (s : Threads R) : Prop := ∀ thread, (s.phase thread).untrimmed = none

/-- An append goes through only while its snapshot still heads the buffer and
no other flush has yet to trim what it appended. -/
def AppendIsFresh (s : Threads R) : Step R → Prop
  | .attempt thread true =>
    s.Settled ∧ ∀ rows, (s.phase thread).unwritten = some rows → rows <+: s.writer.buffer
  | _ => True

/-- The log behind the shared state: the buffer is what is not trimmed, the
table is what is committed, and every snapshot in flight is a segment. -/
structure Represents (s : Threads R) (log : CommitLog (Handed R)) : Prop where
  entries : s.handed = log.entries
  buffer : s.writer.buffer = log.pending
  table : s.table = log.durable
  serial : s.handed.map Handed.call = List.range s.handed.length
  unwritten : ∀ thread rows, (s.phase thread).unwritten = some rows →
    ∃ a b, a ≤ log.trimmed ∧ a < b ∧ b ≤ log.entries.length ∧ rows = log.segment a b
  untrimmed : ∀ thread rows, (s.phase thread).untrimmed = some rows →
    log.trimmed < log.committed ∧ rows = log.segment log.trimmed log.committed ∧
      ∀ other, other ≠ thread → (s.phase other).untrimmed = none
  settled : s.Settled → log.trimmed = log.committed

theorem represents_init (now : Float) : Represents (init now : Threads R) .empty where
  entries := rfl
  buffer := rfl
  table := rfl
  serial := rfl
  unwritten _ _ h := by cases h
  untrimmed _ _ h := by cases h
  settled _ := rfl

section Represents

variable {s : Threads R} {log : CommitLog (Handed R)} (h : Represents s log)
include h

theorem Represents.entries_nodup : log.entries.Nodup := by
  rw [← h.entries]
  apply List.Nodup.of_map Handed.call
  rw [h.serial]
  exact List.nodup_range

theorem Represents.intact : s.Intact := by
  constructor
  · intro r hr
    rw [h.entries] at hr
    rw [h.buffer, h.table]
    exact CommitLog.mem_pending_or_durable hr
  · rw [h.table]
    exact CommitLog.durable_nodup h.entries_nodup

/-- A thread that has nothing to trim may move to a phase that has nothing to
trim and holds a segment at most. -/
theorem Represents.moveTo {thread : ℕ} {phase : Phase R}
    (hfrom : (s.phase thread).untrimmed = none) (hto : phase.untrimmed = none)
    (hrows : ∀ rows, phase.unwritten = some rows →
      ∃ a b, a ≤ log.trimmed ∧ a < b ∧ b ≤ log.entries.length ∧ rows = log.segment a b) :
    Represents (s.moveTo thread phase) log := by
  have hsame : ∀ other, ((s.moveTo thread phase).phase other).untrimmed =
      (s.phase other).untrimmed := by
    intro other
    by_cases ho : other = thread
    · subst ho
      simp [Threads.moveTo, hto, hfrom]
    · simp [Threads.moveTo, ho]
  refine ⟨h.entries, h.buffer, h.table, h.serial, ?_, ?_, ?_⟩
  · intro other rows ho
    by_cases he : other = thread
    · subst he
      simp only [Threads.moveTo, Function.update_self] at ho
      exact hrows rows ho
    · simp only [Threads.moveTo, Function.update_of_ne he] at ho
      exact h.unwritten other rows ho
  · intro other rows ho
    rw [hsame] at ho
    obtain ⟨hlt, hseg, hothers⟩ := h.untrimmed other rows ho
    exact ⟨hlt, hseg, fun o hne => (hsame o).trans (hothers o hne)⟩
  · intro hset
    exact h.settled fun o => (hsame o).symm.trans (hset o)

theorem Represents.buffered (record : R) :
    Represents { s with
      writer := s.writer.buffered ⟨s.handed.length, record⟩
      handed := s.handed ++ [⟨s.handed.length, record⟩] }
      (log.append ⟨s.handed.length, record⟩) := by
  refine ⟨?_, ?_, ?_, ?_, ?_, ?_, h.settled⟩
  · show _ = log.entries ++ _
    rw [h.entries]
  · rw [CommitLog.pending_append, Writer.buffered_buffer, h.buffer]
  · rw [CommitLog.durable_append]
    exact h.table
  · rw [List.map_append, h.serial, List.length_append, List.length_singleton, List.range_succ]
    rfl
  · intro thread rows hrows
    obtain ⟨a, b, ha, hab, hb, hseg⟩ := h.unwritten thread rows hrows
    refine ⟨a, b, ha, hab, ?_, ?_⟩
    · show b ≤ (log.entries ++ _).length
      rw [List.length_append]
      omega
    · rw [CommitLog.segment_append _ hab.le hb]
      exact hseg
  · intro thread rows hrows
    obtain ⟨hlt, hseg, hothers⟩ := h.untrimmed thread rows hrows
    refine ⟨hlt, ?_, hothers⟩
    show rows = (log.append _).segment log.trimmed log.committed
    rw [CommitLog.segment_append _ hlt.le log.committed_le]
    exact hseg

/-- A fresh append commits the segment it holds. -/
theorem Represents.append {thread : ℕ} {call : Call} {rows : List (Handed R)}
    (hrows : (s.phase thread).unwritten = some rows) (hset : s.Settled)
    (hpre : rows <+: s.writer.buffer) :
    ∃ log', Represents ((s.appendRows rows).moveTo thread (.written call rows)) log' := by
  obtain ⟨a, b, -, hab, hb, hseg⟩ := h.unwritten thread rows hrows
  have ha : a = log.trimmed := by
    apply CommitLog.start_eq_trimmed h.entries_nodup hab hb
    rw [← hseg, ← h.buffer]
    exact hpre
  have hmarks := h.settled hset
  have hlow : log.committed ≤ b := by omega
  refine ⟨log.commit b hlow hb, h.entries, h.buffer, ?_, h.serial, ?_, ?_, ?_⟩
  · rw [CommitLog.durable_commit, ← hmarks, ← ha, ← hseg, ← h.table]
    rfl
  · intro other rows' ho
    by_cases he : other = thread
    · subst he
      simp [Threads.moveTo, Phase.unwritten] at ho
    · simp only [Threads.moveTo, Function.update_of_ne he] at ho
      exact h.unwritten other rows' ho
  · intro other rows' ho
    by_cases he : other = thread
    · subst he
      simp only [Threads.moveTo, Function.update_self, Phase.untrimmed,
        Option.some.injEq] at ho
      subst ho
      refine ⟨?_, ?_, ?_⟩
      · show log.trimmed < b
        omega
      · show rows = log.segment log.trimmed b
        rw [← ha]
        exact hseg
      · intro o hne
        simp only [Threads.moveTo, Function.update_of_ne hne]
        exact hset o
    · simp only [Threads.moveTo, Function.update_of_ne he] at ho
      have hnone : (s.phase other).untrimmed = some rows' := ho
      rw [hset other] at hnone
      cases hnone
  · intro hset'
    have hself := hset' thread
    simp [Threads.moveTo, Phase.untrimmed] at hself

/-- An append that is not fresh puts a committed record in the table again. -/
theorem Represents.not_nodup_of_stale {thread : ℕ} {rows : List (Handed R)}
    (hrows : (s.phase thread).unwritten = some rows)
    (hstale : ¬(s.Settled ∧ rows <+: s.writer.buffer)) : ¬(s.table ++ rows).Nodup := by
  obtain ⟨a, b, hle, hab, hb, hseg⟩ := h.unwritten thread rows hrows
  have ha : a < log.committed := by
    by_contra hge
    have hle' := log.trimmed_le
    have ha : a = log.trimmed := by omega
    have hmarks : log.trimmed = log.committed := by omega
    apply hstale
    constructor
    · intro other
      rcases ho : (s.phase other).untrimmed with _ | rows'
      · rfl
      · have hlt := (h.untrimmed other rows' ho).1
        omega
    · rw [hseg, h.buffer, ha]
      exact log.segment_prefix_pending b
  obtain ⟨x, hx, hxd⟩ := CommitLog.exists_mem_segment_and_durable hab hb ha
  intro hnodup
  rw [hseg, h.table] at hnodup
  exact (List.nodup_append.mp hnodup).2.2 x hxd x hx rfl

theorem Represents.trim {thread : ℕ} {rows : List (Handed R)} {last : Option Outcome} {now : Float}
    (hrows : (s.phase thread).untrimmed = some rows) :
    Represents ((s.trimRows rows.length now).moveTo thread (.idle last)) log.trim := by
  obtain ⟨hlt, hseg, hothers⟩ := h.untrimmed thread rows hrows
  have hlen : rows.length = log.committed - log.trimmed := by
    rw [hseg, CommitLog.length_segment log.committed_le]
  have hnone : ∀ other,
      (((s.trimRows rows.length now).moveTo thread (.idle last)).phase other).untrimmed = none := by
    intro other
    by_cases he : other = thread
    · subst he
      simp [Threads.moveTo, Phase.untrimmed]
    · simp only [Threads.moveTo, Function.update_of_ne he]
      exact hothers other he
  refine ⟨h.entries, ?_, h.table, h.serial, ?_, ?_, fun _ => rfl⟩
  · rw [CommitLog.pending_trim, ← hlen, ← h.buffer]
    rfl
  · intro other rows' ho
    by_cases he : other = thread
    · subst he
      simp [Threads.moveTo, Phase.unwritten] at ho
    · simp only [Threads.moveTo, Function.update_of_ne he] at ho
      obtain ⟨a, b, ha, hab, hb, hseg'⟩ := h.unwritten other rows' ho
      exact ⟨a, b, ha.trans log.trimmed_le, hab, hb, hseg'⟩
  · intro other rows' ho
    rw [hnone other] at ho
    cases ho

end Represents

/-- One step keeps the shared state a log, provided an append is fresh. -/
theorem step_represents {cfg : WriterConfig} {arrow : List R → Except Exc Unit}
    {s t : Threads R} {a : Step R} (hs : ∃ log, Represents s log)
    (ht : step cfg arrow s a = some t) (hfresh : s.AppendIsFresh a) :
    ∃ log, Represents t log := by
  obtain ⟨log, h⟩ := hs
  cases a with
  | writeRecord thread record immediate now =>
    simp only [step] at ht
    split at ht
    · rename_i last hidle
      obtain rfl := Option.some.inj ht
      refine ⟨_, (h.buffered record).moveTo ?_ ?_ ?_⟩
      · show (s.phase thread).untrimmed = none
        rw [hidle]
        rfl
      · split <;> rfl
      · intro rows hrows
        split at hrows <;> cases hrows
    · cases ht
  | flush thread =>
    simp only [step] at ht
    split at ht
    · rename_i last hidle
      obtain rfl := Option.some.inj ht
      exact ⟨log, h.moveTo (by rw [hidle]; rfl) rfl (fun _ hrows => by cases hrows)⟩
    · cases ht
  | close thread =>
    simp only [step] at ht
    split at ht
    · rename_i last hidle
      obtain rfl := Option.some.inj ht
      exact ⟨log, h.moveTo (by rw [hidle]; rfl) rfl (fun _ hrows => by cases hrows)⟩
    · cases ht
  | snapshot thread =>
    simp only [step] at ht
    split at ht
    · rename_i call hphase
      have hfrom : (s.phase thread).untrimmed = none := by
        rw [hphase]
        rfl
      split at ht
      · obtain rfl := Option.some.inj ht
        exact ⟨log, h.moveTo hfrom rfl (fun _ hrows => by cases hrows)⟩
      · rename_i hne
        obtain rfl := Option.some.inj ht
        refine ⟨log, h.moveTo hfrom rfl ?_⟩
        intro rows hrows
        obtain rfl := Option.some.inj hrows
        -- the snapshot is the segment of everything still pending
        refine ⟨log.trimmed, log.entries.length, le_rfl, ?_, le_rfl, ?_⟩
        · rw [List.isEmpty_iff, h.buffer, CommitLog.pending, List.drop_eq_nil_iff] at hne
          omega
        · rw [h.buffer]
          exact log.pending_eq_segment
    · cases ht
  | build thread =>
    simp only [step] at ht
    split at ht
    · rename_i call snapshot hphase
      have hfrom : (s.phase thread).untrimmed = none := by
        rw [hphase]
        rfl
      split at ht
      · obtain rfl := Option.some.inj ht
        exact ⟨log, h.moveTo hfrom rfl (fun _ hrows => by cases hrows)⟩
      · obtain rfl := Option.some.inj ht
        refine ⟨log, h.moveTo hfrom rfl fun rows hrows => ?_⟩
        apply h.unwritten thread rows
        rw [hphase]
        exact hrows
    · cases ht
  | attempt thread success =>
    simp only [step] at ht
    split at ht
    · rename_i call snapshot attempt hphase
      have hfrom : (s.phase thread).untrimmed = none := by
        rw [hphase]
        rfl
      have hrows : (s.phase thread).unwritten = some snapshot := by
        rw [hphase]
        rfl
      cases success with
      | true =>
        obtain rfl := Option.some.inj ht
        exact h.append hrows hfresh.1 (hfresh.2 snapshot hrows)
      | false =>
        simp only [Bool.false_eq_true, ↓reduceIte] at ht
        split at ht
        · obtain rfl := Option.some.inj ht
          refine ⟨log, h.moveTo hfrom rfl fun rows hrows' => ?_⟩
          obtain rfl := Option.some.inj hrows'
          exact h.unwritten thread _ hrows
        · obtain rfl := Option.some.inj ht
          exact ⟨log, h.moveTo hfrom rfl (fun _ hrows => by cases hrows)⟩
    · cases ht
  | finish thread now =>
    simp only [step] at ht
    split at ht
    · rename_i call snapshot hphase
      obtain rfl := Option.some.inj ht
      refine ⟨log.trim, h.trim ?_⟩
      rw [hphase]
      rfl
    · rename_i call hphase
      obtain rfl := Option.some.inj ht
      exact ⟨log, h.moveTo (by rw [hphase]; rfl) rfl (fun _ hrows => by cases hrows)⟩
    · cases ht

/-- In a state behind which there is a log, a step breaks `Intact` exactly by an
append that is not fresh. -/
theorem step_intact_iff {cfg : WriterConfig} {arrow : List R → Except Exc Unit}
    {s t : Threads R} {a : Step R} (hs : ∃ log, Represents s log)
    (ht : step cfg arrow s a = some t) : t.Intact ↔ s.AppendIsFresh a := by
  constructor
  · intro hintact
    obtain ⟨log, h⟩ := hs
    cases a with
    | attempt thread success =>
      cases success with
      | false => trivial
      | true =>
        simp only [step] at ht
        split at ht
        · rename_i call snapshot attempt hphase
          have hrows : (s.phase thread).unwritten = some snapshot := by
            rw [hphase]
            rfl
          obtain rfl := Option.some.inj ht
          -- rows that are in the table already would be there twice
          by_contra hstale
          apply h.not_nodup_of_stale hrows
          · rintro ⟨hset, hpre⟩
            apply hstale
            refine ⟨hset, fun rows hrows' => ?_⟩
            rw [hrows] at hrows'
            exact Option.some.inj hrows' ▸ hpre
          · exact hintact.2
        · cases ht
    | _ => trivial
  · intro hfresh
    obtain ⟨log, h⟩ := step_represents hs ht hfresh
    exact h.intact

/-- Over every interleaving, nothing is lost or duplicated exactly as long as
every append that goes through is fresh. -/
theorem intact_iff_appends_fresh (cfg : WriterConfig) (arrow : List R → Except Exc Unit)
    (now : Float) (steps : List (Step R)) :
    AllSteps (step cfg arrow) (fun _ _ t => t.Intact) (init now) steps ↔
      AllSteps (step cfg arrow) (fun s a _ => s.AppendIsFresh a) (init now) steps := by
  apply allSteps_iff_of_invariant (I := fun s => ∃ log, Represents s log)
  · intro s a t hs ht
    exact step_intact_iff hs ht
  · intro s a t hs ht hfresh
    exact step_represents hs ht hfresh
  · exact ⟨_, represents_init now⟩

/-! ## A flush that nothing interrupts -/

/-- The shared state of the threads is that of a writer with one caller. -/
def Matches (s : Threads R) (w : WriterWorld (Handed R)) : Prop :=
  s.writer = w.writer ∧ s.table = w.table

theorem step_attempt {cfg : WriterConfig} {arrow : List R → Except Exc Unit} {s : Threads R}
    {thread : ℕ} {call : Call} {rows : List (Handed R)} {attempt : ℕ}
    (hphase : s.phase thread = .writing call rows attempt) (success : Bool) :
    step cfg arrow s (.attempt thread success) = some (
      if success then
        (s.appendRows rows).moveTo thread (.written call rows)
      else if attempt + 1 < maxRetries then s.moveTo thread (.writing call rows (attempt + 1))
      else s.moveTo thread (.failed call)) := by
  simp only [step, hphase]
  split
  · rfl
  · split <;> rfl

/-- The first attempt that goes through ends the retry loop. -/
theorem exec_attempt_ok (cfg : WriterConfig) (arrow : List R → Except Exc Unit)
    {port : TablePort (Handed R)} {thread : ℕ} {call : Call} {rows : List (Handed R)}
    (remaining : ℕ) {attempt : ℕ} {s : Threads R} {w : WriterWorld (Handed R)}
    (hmatch : s.Matches w) (hphase : s.phase thread = .writing call rows attempt)
    (hok : port.attempt w.attempts = true) :
    ∃ steps s', exec (step cfg arrow) s steps = some s' ∧
      s'.Matches (appendWithRetries port rows (remaining + 1) w).2 ∧
      (appendWithRetries port rows (remaining + 1) w).1 = .ok (rows.length, true) ∧
        s'.phase thread = .written call rows := by
  refine ⟨[.attempt thread true], (s.appendRows rows).moveTo thread (.written call rows), ?_, ?_⟩
  · rw [exec_cons, step_attempt hphase]
    rfl
  · simp [appendWithRetries, hok, Matches, moveTo, appendRows, hmatch.1, hmatch.2]

/-- The retry loop is a run of append attempts of the calling thread. -/
theorem exec_appendWithRetries (cfg : WriterConfig) (arrow : List R → Except Exc Unit)
    (port : TablePort (Handed R)) {thread : ℕ} {call : Call} {rows : List (Handed R)}
    (remaining attempt : ℕ) (hcount : attempt + (remaining + 1) = maxRetries)
    {s : Threads R} {w : WriterWorld (Handed R)} (hmatch : s.Matches w)
    (hphase : s.phase thread = .writing call rows attempt) :
    ∃ steps s', exec (step cfg arrow) s steps = some s' ∧
      s'.Matches (appendWithRetries port rows (remaining + 1) w).2 ∧
      ((appendWithRetries port rows (remaining + 1) w).1 = .ok (rows.length, true) ∧
          s'.phase thread = .written call rows ∨
        (appendWithRetries port rows (remaining + 1) w).1 = .ok (0, false) ∧
          s'.phase thread = .failed call) := by
  induction remaining generalizing attempt s w with
  | zero =>
    have hlast : ¬attempt + 1 < maxRetries := by omega
    cases hok : port.attempt w.attempts with
    | true =>
      obtain ⟨steps, s', hexec, hmatch', hend⟩ := exec_attempt_ok cfg arrow 0 hmatch hphase hok
      exact ⟨steps, s', hexec, hmatch', .inl hend⟩
    | false =>
      refine ⟨[.attempt thread false], s.moveTo thread (.failed call), ?_, ?_⟩
      · rw [exec_cons, step_attempt hphase, if_neg Bool.false_ne_true, if_neg hlast]
        rfl
      · simp [appendWithRetries, hok, Matches, moveTo, hmatch.1, hmatch.2]
  | succ remaining ih =>
    have hmore : attempt + 1 < maxRetries := by omega
    cases hok : port.attempt w.attempts with
    | true =>
      obtain ⟨steps, s', hexec, hmatch', hend⟩ :=
        exec_attempt_ok cfg arrow (remaining + 1) hmatch hphase hok
      exact ⟨steps, s', hexec, hmatch', .inl hend⟩
    | false =>
      have hnext : step cfg arrow s (.attempt thread false) = _ := step_attempt hphase false
      rw [if_neg Bool.false_ne_true, if_pos hmore] at hnext
      obtain ⟨steps, s', hexec, hmatch', hend⟩ := ih (attempt + 1) (by omega)
        (s := s.moveTo thread (.writing call rows (attempt + 1)))
        (w := { w with attempts := w.attempts + 1 }) hmatch (by simp [moveTo])
      have hloop : appendWithRetries port rows (remaining + 1 + 1) w =
          appendWithRetries port rows (remaining + 1) { w with attempts := w.attempts + 1 } := by
        simp [appendWithRetries, hok]
      refine ⟨.attempt thread false :: steps, s', ?_, ?_⟩
      · rw [exec_cons, hnext]
        exact hexec
      · rw [hloop]
        exact ⟨hmatch', hend⟩

/-- `flush` is the run in which its thread takes every step. -/
theorem exec_flush (cfg : WriterConfig) (arrow : List R → Except Exc Unit)
    (port : TablePort (Handed R)) (harrow : ∀ rows, port.arrow rows = arrow (rows.map Handed.record))
    {thread : ℕ} {call : Call} {s : Threads R} {w : WriterWorld (Handed R)} (hmatch : s.Matches w)
    (hphase : s.phase thread = .flushing call) :
    ∃ steps s', exec (step cfg arrow) s steps = some s' ∧ s'.Matches (flush port w).2 ∧
      s'.phase thread = .idle (some (match (flush port w).1 with
        | .ok (count, success) => call.returns count success
        | .error e => .raised e)) := by
  by_cases hempty : w.writer.buffer = []
  · refine ⟨[.snapshot thread], s.moveTo thread (.idle (some (call.returns 0 true))), ?_, ?_⟩
    · simp [exec_cons, step, hphase, hmatch.1, hempty]
    · rw [flush_of_empty port hempty]
      simp [Matches, moveTo, hmatch.1, hmatch.2]
  · -- snapshot and batch first, then the attempts, then the trim or the failure
    have hsnap : step cfg arrow s (.snapshot thread) =
        some (s.moveTo thread (.building call w.writer.buffer)) := by
      simp [step, hphase, hmatch.1, hempty]
    cases hbuild : port.arrow w.writer.buffer with
    | error e =>
      refine ⟨[.snapshot thread, .build thread], (s.moveTo thread
        (.building call w.writer.buffer)).moveTo thread (.idle (some (.raised e))), ?_, ?_⟩
      · rw [harrow] at hbuild
        rw [exec_cons, hsnap]
        simp [exec_cons, step, moveTo, hbuild]
      · rw [flush_of_arrow_error port hempty hbuild]
        simp [Matches, moveTo, hmatch.1, hmatch.2]
    | ok _ =>
      have hready : (exec (step cfg arrow) s [.snapshot thread, .build thread]) = some
          ((s.moveTo thread (.building call w.writer.buffer)).moveTo thread
            (.writing call w.writer.buffer 0)) := by
        rw [harrow] at hbuild
        rw [exec_cons, hsnap]
        simp [exec_cons, step, moveTo, hbuild]
      have hwriting : ((s.moveTo thread (.building call w.writer.buffer)).moveTo thread
          (.writing call w.writer.buffer 0)).phase thread = .writing call w.writer.buffer 0 := by
        simp [moveTo]
      obtain ⟨steps, s₁, hexec, hmatch₁, hend⟩ := exec_appendWithRetries cfg arrow port
        4 0 rfl (s := (s.moveTo thread (.building call w.writer.buffer)).moveTo thread
          (.writing call w.writer.buffer 0)) (w := w) hmatch hwriting
      rcases happend : appendWithRetries port w.writer.buffer (4 + 1) w with ⟨result, w'⟩
      rw [happend] at hmatch₁ hend
      obtain ⟨hresult, hphase₁⟩ | ⟨hresult, hphase₁⟩ := hend
      · obtain rfl : result = _ := hresult
        refine ⟨[.snapshot thread, .build thread] ++ (steps ++
          [.finish thread (port.clock w'.ticks)]),
          (s₁.trimRows w.writer.buffer.length (port.clock w'.ticks)).moveTo thread
            (.idle (some (call.returns w.writer.buffer.length true))), ?_, ?_⟩
        · rw [exec_append, hready, Option.bind_some, exec_append, hexec, Option.bind_some,
            exec_cons]
          simp [step, hphase₁]
        · rw [flush_of_append port hempty hbuild happend]
          simp [Matches, moveTo, trimRows, hmatch₁.1, hmatch₁.2]
      · obtain rfl : result = _ := hresult
        refine ⟨[.snapshot thread, .build thread] ++ (steps ++ [.finish thread 0]),
          s₁.moveTo thread (.idle (some (call.returns 0 false))), ?_, ?_⟩
        · rw [exec_append, hready, Option.bind_some, exec_append, hexec, Option.bind_some,
            exec_cons]
          simp [step, hphase₁]
        · rw [flush_of_append_failed port hempty hbuild happend]
          simp [Matches, moveTo, hmatch₁.1, hmatch₁.2]

/-- Thread 1 snapshots while thread 0 is writing; both appends go through, and
the second trim drops the record that came in between. -/
def overlappingFlushes : List (Step String) :=
  [.writeRecord 0 "r1" true 0, .snapshot 0, .build 0, .flush 1, .snapshot 1, .build 1,
    .attempt 0 true, .attempt 1 true, .finish 0 0, .writeRecord 2 "r2" false 0, .finish 1 0]

theorem overlapping_flushes_lose_and_duplicate :
    (exec (step {} fun _ => .ok ()) (init 0) overlappingFlushes).map
        (fun s => (s.handed, s.writer.buffer, s.table)) =
      some ([⟨0, "r1"⟩, ⟨1, "r2"⟩], [], [⟨0, "r1"⟩, ⟨0, "r1"⟩]) ∧
    ¬AllSteps (step {} fun _ => .ok ()) (fun _ _ t => t.Intact) (init 0) overlappingFlushes := by
  have hrun : (exec (step {} fun _ => .ok ()) (init 0) overlappingFlushes).map
      (fun s => (s.handed, s.writer.buffer, s.table)) =
      some ([⟨0, "r1"⟩, ⟨1, "r2"⟩], [], [⟨0, "r1"⟩, ⟨0, "r1"⟩]) := by decide +kernel
  refine ⟨hrun, fun hall => ?_⟩
  obtain ⟨s, hs, hfields⟩ := Option.map_eq_some_iff.mp hrun
  have hintact : s.Intact := by
    apply hall.preserves (I := Intact) (fun _ _ _ _ _ hq => hq) _ hs
    exact (represents_init 0).intact
  have htable : s.table = [⟨0, "r1"⟩, ⟨0, "r1"⟩] := congrArg (fun p => p.2.2) hfields
  have hnodup := hintact.2
  rw [htable] at hnodup
  exact absurd hnodup (by decide)

end Threads
end IceStream.Quarantine
