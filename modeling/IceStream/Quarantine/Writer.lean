import IceStream.Lib.Python
import Mathlib.Data.Int.Notation
import Mathlib.Data.Nat.Notation

/-!
# The quarantine writer, one caller at a time

The table is a list of rows; `attempt n` is the outcome of the `n`-th try to
load the table and append to it, and an append that fails adds nothing.
-/

namespace IceStream.Quarantine
open Python

variable {R : Type}

structure WriterConfig where
  batchSize : ℤ := 50
  flushIntervalSeconds : Float := 5

/-- What the lock of a `QuarantineWriter` guards. -/
structure Writer (R : Type) where
  buffer : List R
  lastFlushTime : Float
  appendCount : ℕ

namespace Writer

def init (now : Float) : Writer R := ⟨[], now, 0⟩

def buffered (w : Writer R) (record : R) : Writer R := { w with buffer := w.buffer ++ [record] }

def shouldFlush (cfg : WriterConfig) (w : Writer R) (immediate : Bool) (now : Float) : Bool :=
  immediate || decide (cfg.batchSize ≤ w.buffer.length) ||
    decide (cfg.flushIntervalSeconds ≤ now - w.lastFlushTime)

def appended (w : Writer R) : Writer R := { w with appendCount := w.appendCount + 1 }

/-- The buffer is trimmed by count, whatever it holds by now. -/
def flushed (w : Writer R) (count : ℕ) (now : Float) : Writer R :=
  { w with buffer := w.buffer.drop count, lastFlushTime := now }

@[simp] theorem buffered_buffer (w : Writer R) (record : R) :
    (w.buffered record).buffer = w.buffer ++ [record] := rfl

@[simp] theorem appended_buffer (w : Writer R) : w.appended.buffer = w.buffer := rfl

@[simp] theorem flushed_buffer (w : Writer R) (count : ℕ) (now : Float) :
    (w.flushed count now).buffer = w.buffer.drop count := rfl

end Writer

def maxRetries : ℕ := 5

/-- What the writer's surroundings answer: the Arrow conversion, the outcome of
each append attempt and each reading of the clock. -/
structure TablePort (R : Type) where
  arrow : List R → Except Exc Unit
  attempt : ℕ → Bool
  clock : ℕ → Float

structure WriterWorld (R : Type) where
  writer : Writer R
  table : List R
  attempts : ℕ
  ticks : ℕ

namespace WriterWorld

def init (port : TablePort R) : WriterWorld R := ⟨.init (port.clock 0), [], 0, 1⟩

end WriterWorld

abbrev WriterM (R : Type) := Fallible (WriterWorld R)

def time (port : TablePort R) : WriterM R Float := fun s =>
  (.ok (port.clock s.ticks), { s with ticks := s.ticks + 1 })

/-- The retry loop of `write_batch`, with `remaining` tries to go. -/
def appendWithRetries (port : TablePort R) (records : List R) : ℕ → WriterM R (ℕ × Bool)
  | 0 => pure (0, false)
  | remaining + 1 => fun s =>
    if port.attempt s.attempts then
      (.ok (records.length, true),
        { s with
          table := s.table ++ records
          writer := s.writer.appended
          attempts := s.attempts + 1 })
    else
      appendWithRetries port records remaining { s with attempts := s.attempts + 1 }

/-- The conversion to Arrow stands before the retry loop, so it raises. -/
def writeBatch (port : TablePort R) (records : List R) : WriterM R (ℕ × Bool) :=
  if records.isEmpty then pure (0, true)
  else do
    match port.arrow records with
    | .error e => Fallible.raise e
    | .ok () => appendWithRetries port records maxRetries

def flush (port : TablePort R) : WriterM R (ℕ × Bool) := do
  let recordsToFlush ← Fallible.read fun s => s.writer.buffer
  if recordsToFlush.isEmpty then pure (0, true)
  else do
    let (count, success) ← writeBatch port recordsToFlush
    if success then
      let now ← time port
      Fallible.update fun s => { s with writer := s.writer.flushed recordsToFlush.length now }
      pure (count, true)
    else
      pure (0, false)

def close (port : TablePort R) : WriterM R (ℕ × Bool) := flush port

def writeRecord (cfg : WriterConfig) (port : TablePort R) (record : R) (immediate : Bool) :
    WriterM R Bool := do
  Fallible.update fun s => { s with writer := s.writer.buffered record }
  -- the clock is only read when neither of the cheaper tests decides
  let writer ← Fallible.read fun s => s.writer
  let now ← if immediate || decide (cfg.batchSize ≤ writer.buffer.length)
    then pure writer.lastFlushTime else time port
  if writer.shouldFlush cfg immediate now then
    let (_, success) ← flush port
    pure success
  else
    pure true

/-! ## What the calls do -/

section

variable (port : TablePort R) {s : WriterWorld R} {records : List R}

/-- After an attempt that fails, the rest of them. -/
theorem appendWithRetries_of_failed (remaining : ℕ) (h : port.attempt s.attempts = false) :
    appendWithRetries port records (remaining + 1) s =
      appendWithRetries port records remaining { s with attempts := s.attempts + 1 } := by
  simp [appendWithRetries, h]

/-- The retry loop ends with all rows appended by some attempt, or with none. -/
theorem appendWithRetries_cases (records : List R) (s : WriterWorld R) (remaining : ℕ) :
    (∃ n, port.attempt n = true ∧ appendWithRetries port records remaining s =
      (.ok (records.length, true),
        ⟨s.writer.appended, s.table ++ records, n + 1, s.ticks⟩)) ∨
    (∃ n, appendWithRetries port records remaining s =
      (.ok (0, false), { s with attempts := n })) := by
  induction remaining generalizing s with
  | zero => exact .inr ⟨s.attempts, rfl⟩
  | succ remaining ih =>
    cases hok : port.attempt s.attempts with
    | true =>
      left
      refine ⟨s.attempts, hok, ?_⟩
      simp [appendWithRetries, hok]
    | false =>
      rw [appendWithRetries_of_failed port remaining hok]
      exact ih _

theorem flush_of_empty (h : s.writer.buffer = []) : flush port s = (.ok (0, true), s) := by
  simp only [flush, Fallible.read_bind, h, List.isEmpty_nil, ↓reduceIte, Fallible.pure_apply]

theorem flush_of_arrow_error {e : Exc} (hne : s.writer.buffer ≠ [])
    (h : port.arrow s.writer.buffer = .error e) : flush port s = (.error e, s) := by
  have hempty : s.writer.buffer.isEmpty = false := by simpa using hne
  have hbatch : writeBatch port s.writer.buffer s = (.error e, s) := by
    simp only [writeBatch, hempty, Bool.false_eq_true, ↓reduceIte, h, Fallible.raise_apply]
  simp only [flush, Fallible.read_bind, hempty, Bool.false_eq_true, ↓reduceIte]
  exact Fallible.bind_error hbatch

theorem writeBatch_of_arrow_ok (hne : records ≠ []) (h : port.arrow records = .ok ()) :
    writeBatch port records = appendWithRetries port records maxRetries := by
  have hempty : records.isEmpty = false := by simpa using hne
  simp only [writeBatch, hempty, Bool.false_eq_true, ↓reduceIte, h]

theorem flush_of_append {s' : WriterWorld R} {count : ℕ} (hne : s.writer.buffer ≠ [])
    (h : port.arrow s.writer.buffer = .ok ())
    (happend : appendWithRetries port s.writer.buffer maxRetries s = (.ok (count, true), s')) :
    flush port s = (.ok (count, true),
      { s' with
        writer := s'.writer.flushed s.writer.buffer.length (port.clock s'.ticks)
        ticks := s'.ticks + 1 }) := by
  have hempty : s.writer.buffer.isEmpty = false := by simpa using hne
  rw [← writeBatch_of_arrow_ok port hne h] at happend
  simp only [flush, Fallible.read_bind, hempty, Bool.false_eq_true, ↓reduceIte]
  rw [Fallible.bind_ok happend]
  rfl

/-- A batch is written at once when the first attempt goes through. -/
theorem appendWithRetries_of_attempt (remaining : ℕ) (h : port.attempt s.attempts = true) :
    appendWithRetries port records (remaining + 1) s =
      (.ok (records.length, true),
        { s with
          table := s.table ++ records
          writer := s.writer.appended
          attempts := s.attempts + 1 }) := by
  simp [appendWithRetries, h]

theorem flush_of_attempt (hne : s.writer.buffer ≠ []) (harrow : port.arrow s.writer.buffer = .ok ())
    (hattempt : port.attempt s.attempts = true) :
    ∃ s', flush port s = (.ok (s.writer.buffer.length, true), s') ∧
      s'.table = s.table ++ s.writer.buffer ∧ s'.writer.buffer = [] := by
  have happend : appendWithRetries port s.writer.buffer maxRetries s = _ :=
    appendWithRetries_of_attempt port 4 hattempt
  refine ⟨_, flush_of_append port hne harrow happend, rfl, ?_⟩
  simp

/-- An immediate record goes out with everything buffered before it. -/
theorem writeRecord_immediate (cfg : WriterConfig) (record : R) :
    writeRecord cfg port record true s =
      (flush port >>= fun result => pure result.2) { s with writer := s.writer.buffered record } := by
  simp only [writeRecord, Fallible.update_bind, Fallible.read_bind, Bool.true_or, ↓reduceIte,
    Fallible.pure_bind, Writer.shouldFlush]

theorem writeRecord_of_attempt (cfg : WriterConfig) {record : R}
    (harrow : port.arrow (s.writer.buffer ++ [record]) = .ok ())
    (hattempt : port.attempt s.attempts = true) :
    ∃ s', writeRecord cfg port record true s = (.ok true, s') ∧
      s'.table = s.table ++ (s.writer.buffer ++ [record]) ∧ s'.writer.buffer = [] := by
  have hne : s.writer.buffer ++ [record] ≠ [] := by simp
  let held : WriterWorld R := { s with writer := s.writer.buffered record }
  obtain ⟨s', hflush, htable, hbuffer⟩ :
      ∃ s', flush port held = (.ok (held.writer.buffer.length, true), s') ∧
        s'.table = held.table ++ held.writer.buffer ∧ s'.writer.buffer = [] :=
    flush_of_attempt port hne harrow hattempt
  refine ⟨s', ?_, htable, hbuffer⟩
  rw [writeRecord_immediate, Fallible.bind_ok hflush]
  rfl

/-- A record the conversion refuses stays in the buffer. -/
theorem writeRecord_of_arrow_error (cfg : WriterConfig) {record : R} {e : Exc}
    (harrow : port.arrow (s.writer.buffer ++ [record]) = .error e) :
    writeRecord cfg port record true s =
      (.error e, { s with writer := s.writer.buffered record }) := by
  have hne : s.writer.buffer ++ [record] ≠ [] := by simp
  rw [writeRecord_immediate]
  apply Fallible.bind_error
  exact flush_of_arrow_error port hne harrow

/-- The appends of a batch end well: the conversion and one of the attempts go through. -/
def GoesOut (records : List R) (attempts : ℕ) : Prop :=
  port.arrow records = .ok () ∧ ∃ k < maxRetries, port.attempt (attempts + k) = true

theorem appendWithRetries_of_some (records : List R) {remaining : ℕ}
    (h : ∃ k < remaining, port.attempt (s.attempts + k) = true) :
    ∃ n, appendWithRetries port records remaining s =
      (.ok (records.length, true), ⟨s.writer.appended, s.table ++ records, n, s.ticks⟩) := by
  induction remaining generalizing s with
  | zero =>
    obtain ⟨k, hk, -⟩ := h
    exact absurd hk (Nat.not_lt_zero k)
  | succ remaining ih =>
    cases hnow : port.attempt s.attempts with
    | true =>
      refine ⟨s.attempts + 1, ?_⟩
      simp [appendWithRetries, hnow]
    | false =>
      have hlater : ∃ k < remaining, port.attempt (s.attempts + 1 + k) = true := by
        obtain ⟨k, hk, hattempt⟩ := h
        cases k with
        | zero =>
          rw [Nat.add_zero, hnow] at hattempt
          cases hattempt
        | succ k =>
          refine ⟨k, Nat.lt_of_succ_lt_succ hk, ?_⟩
          rw [Nat.add_assoc, Nat.add_comm 1 k]
          exact hattempt
      obtain ⟨n, hrest⟩ := ih (s := { s with attempts := s.attempts + 1 }) hlater
      refine ⟨n, ?_⟩
      rw [appendWithRetries_of_failed port remaining hnow]
      exact hrest

theorem appendWithRetries_of_none (records : List R) {remaining : ℕ}
    (h : ∀ k < remaining, port.attempt (s.attempts + k) = false) :
    ∃ n, appendWithRetries port records remaining s = (.ok (0, false), { s with attempts := n }) := by
  induction remaining generalizing s with
  | zero => exact ⟨s.attempts, rfl⟩
  | succ remaining ih =>
    have hnow : port.attempt s.attempts = false := h 0 (Nat.succ_pos remaining)
    have hlater : ∀ k < remaining, port.attempt (s.attempts + 1 + k) = false := by
      intro k hk
      rw [Nat.add_assoc, Nat.add_comm 1 k]
      exact h (k + 1) (Nat.succ_lt_succ hk)
    obtain ⟨n, hrest⟩ := ih (s := { s with attempts := s.attempts + 1 }) hlater
    refine ⟨n, ?_⟩
    rw [appendWithRetries_of_failed port remaining hnow]
    exact hrest

theorem flush_of_append_failed {s' : WriterWorld R} (hne : s.writer.buffer ≠ [])
    (h : port.arrow s.writer.buffer = .ok ())
    (happend : appendWithRetries port s.writer.buffer maxRetries s = (.ok (0, false), s')) :
    flush port s = (.ok (0, false), s') := by
  have hempty : s.writer.buffer.isEmpty = false := by simpa using hne
  rw [← writeBatch_of_arrow_ok port hne h] at happend
  simp only [flush, Fallible.read_bind, hempty, Bool.false_eq_true, ↓reduceIte]
  rw [Fallible.bind_ok happend]
  rfl

/-- A flush that goes out appends the whole buffer. -/
theorem flush_of_goesOut (hne : s.writer.buffer ≠ [])
    (h : GoesOut port s.writer.buffer s.attempts) :
    ∃ s', flush port s = (.ok (s.writer.buffer.length, true), s') ∧
      s'.table = s.table ++ s.writer.buffer ∧ s'.writer.buffer = [] := by
  obtain ⟨n, happend⟩ := appendWithRetries_of_some port s.writer.buffer h.2
  refine ⟨_, flush_of_append port hne h.1 happend, rfl, ?_⟩
  simp

/-- One that does not leaves table and buffer as they are, and does not report success. -/
theorem flush_of_not_goesOut (hne : s.writer.buffer ≠ [])
    (h : ¬GoesOut port s.writer.buffer s.attempts) :
    ∃ s', (flush port s).2 = s' ∧ (∀ count, (flush port s).1 ≠ .ok (count, true)) ∧
      s'.table = s.table ∧ s'.writer.buffer = s.writer.buffer := by
  cases harrow : port.arrow s.writer.buffer with
  | error e =>
    refine ⟨s, ?_, ?_, rfl, rfl⟩
    · rw [flush_of_arrow_error port hne harrow]
    · intro count
      rw [flush_of_arrow_error port hne harrow]
      intro hsame
      cases hsame
  | ok _ =>
    have hnone : ∀ k < maxRetries, port.attempt (s.attempts + k) = false := by
      intro k hk
      by_contra hattempt
      exact h ⟨harrow, k, hk, Bool.eq_true_of_not_eq_false hattempt⟩
    obtain ⟨n, happend⟩ := appendWithRetries_of_none port s.writer.buffer hnone
    have hflush := flush_of_append_failed port hne harrow happend
    refine ⟨{ s with attempts := n }, ?_, ?_, rfl, rfl⟩
    · rw [hflush]
    · intro count
      rw [hflush]
      intro hsame
      cases hsame

theorem writeRecord_of_goesOut (cfg : WriterConfig) {record : R}
    (h : GoesOut port (s.writer.buffer ++ [record]) s.attempts) :
    ∃ s', writeRecord cfg port record true s = (.ok true, s') ∧
      s'.table = s.table ++ (s.writer.buffer ++ [record]) ∧ s'.writer.buffer = [] := by
  have hne : s.writer.buffer ++ [record] ≠ [] := by simp
  let held : WriterWorld R := { s with writer := s.writer.buffered record }
  obtain ⟨s', hflush, htable, hbuffer⟩ :
      ∃ s', flush port held = (.ok (held.writer.buffer.length, true), s') ∧
        s'.table = held.table ++ held.writer.buffer ∧ s'.writer.buffer = [] :=
    flush_of_goesOut port hne h
  refine ⟨s', ?_, htable, hbuffer⟩
  rw [writeRecord_immediate, Fallible.bind_ok hflush]
  rfl

theorem writeRecord_of_not_goesOut (cfg : WriterConfig) {record : R}
    (h : ¬GoesOut port (s.writer.buffer ++ [record]) s.attempts) :
    (writeRecord cfg port record true s).1 ≠ .ok true ∧
      (writeRecord cfg port record true s).2.table = s.table := by
  have hne : s.writer.buffer ++ [record] ≠ [] := by simp
  let held : WriterWorld R := { s with writer := s.writer.buffered record }
  obtain ⟨s', hstate, hresult, htable, -⟩ :
      ∃ s', (flush port held).2 = s' ∧ (∀ count, (flush port held).1 ≠ .ok (count, true)) ∧
        s'.table = held.table ∧ s'.writer.buffer = held.writer.buffer :=
    flush_of_not_goesOut port hne h
  rw [writeRecord_immediate]
  change ((flush port >>= fun result => pure result.2) held).1 ≠ .ok true ∧
    ((flush port >>= fun result => pure result.2) held).2.table = s.table
  rcases hflush : flush port held with ⟨e | ⟨count, success⟩, s''⟩
  · rw [hflush] at hstate
    rw [Fallible.bind_error hflush]
    refine ⟨fun hsame => (by cases hsame), ?_⟩
    rw [← htable, ← hstate]
  · rw [hflush] at hstate hresult
    rw [Fallible.bind_ok hflush]
    refine ⟨?_, ?_⟩
    · intro hsame
      have hsuccess : success = true := Except.ok.inj hsame
      rw [hsuccess] at hresult
      exact hresult count rfl
    · rw [← htable, ← hstate]
      rfl

/-- Only the conversion to Arrow makes a flush raise. -/
theorem flush_total (harrow : ∀ records, port.arrow records = .ok ()) (s : WriterWorld R) :
    ∃ result s', flush port s = (.ok result, s') := by
  by_cases hempty : s.writer.buffer = []
  · exact ⟨_, _, flush_of_empty port hempty⟩
  · obtain ⟨n, -, happend⟩ | ⟨n, happend⟩ :=
      appendWithRetries_cases port s.writer.buffer s maxRetries
    · exact ⟨_, _, flush_of_append port hempty (harrow _) happend⟩
    · exact ⟨_, _, flush_of_append_failed port hempty (harrow _) happend⟩

theorem writeRecord_total (harrow : ∀ records, port.arrow records = .ok ()) (cfg : WriterConfig)
    (record : R) (s : WriterWorld R) :
    ∃ written s', writeRecord cfg port record true s = (.ok written, s') := by
  obtain ⟨result, s', hflush⟩ :=
    flush_total port harrow { s with writer := s.writer.buffered record }
  refine ⟨result.2, s', ?_⟩
  rw [writeRecord_immediate, Fallible.bind_ok hflush]
  rfl

end

end IceStream.Quarantine
