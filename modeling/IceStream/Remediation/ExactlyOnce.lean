import IceStream.Remediation.LakehouseSink

/-!
# Appending exactly once

An attempt that raises is made again, also when what raised came after the append.
-/

namespace IceStream.Remediation
open Python

variable {β : Type}

/-- The attempt after this one is reached, if there is one. -/
def CommitAnswers.Retried (answers : CommitAnswers) : Prop :=
  answers.pause.isOk ∧ answers.refreshAgain.isOk

/-- The append of this attempt counts, with `remaining` attempts to come: the handle is refreshed
behind it, and the snapshot is read or its reading can be given up. -/
def CommitAnswers.Settled (answers : CommitAnswers) (remaining : ℕ) : Prop :=
  answers.refresh.isOk ∧
    (answers.currentSnapshot.isOk ∨ remaining ≠ 0 ∧ answers.Retried)

/-- There is an attempt to make, and the first append to succeed counts. -/
def CommitsOnce (attempts : ℕ → CommitAnswers) (maxRetries : ℕ) : Prop :=
  maxRetries ≠ 0 ∧ ∀ n < maxRetries,
    (∀ m < n, ¬(attempts m).append.isOk ∧ (attempts m).Retried) →
      (attempts n).append.isOk → (attempts n).Settled (maxRetries - 1 - n)

/-- What a caller relies on: all of the events were appended once, or none were. -/
def ExactlyOnce (sink : IcebergLakehouseSink) (around : SinkSurroundings β)
    (events : List Dict) : Prop :=
  if (sink.writeEvents around events).1.success then
    ∃ batch, around.batch events = .ok batch ∧ (sink.writeEvents around events).2 = [batch]
  else (sink.writeEvents around events).2 = []

/-! ## One attempt -/

section

variable {answers : CommitAnswers} {batch : β} {s : CommitState β}

theorem tryCommit_of_append_error {e : Exc} (h : answers.append = .error e) :
    tryCommit answers batch s = (.error e, s) :=
  Fallible.bind_error (raising_error h s)

theorem tryCommit_of_refresh_error {e : Exc} (happend : answers.append = .ok ())
    (h : answers.refresh = .error e) :
    tryCommit answers batch s = (.error e, { s with appended := s.appended ++ [batch] }) := by
  rw [tryCommit, Fallible.bind_ok (raising_ok happend s), Fallible.update_bind,
    Fallible.bind_error (raising_error h _)]

theorem tryCommit_of_snapshot_error {e : Exc} (happend : answers.append = .ok ())
    (hrefresh : answers.refresh = .ok ()) (h : answers.currentSnapshot = .error e) :
    tryCommit answers batch s =
      (.error e, { s with appended := s.appended ++ [batch], committed := true }) := by
  rw [tryCommit, Fallible.bind_ok (raising_ok happend s), Fallible.update_bind,
    Fallible.bind_ok (raising_ok hrefresh _), Fallible.update_bind,
    Fallible.bind_error (raising_error h _)]

theorem tryCommit_of_ok {snapshotId : Option ℕ} (happend : answers.append = .ok ())
    (hrefresh : answers.refresh = .ok ()) (h : answers.currentSnapshot = .ok snapshotId) :
    tryCommit answers batch s = (.ok (), {
      appended := s.appended ++ [batch], committed := true, snapshotId := snapshotId }) := by
  rw [tryCommit, Fallible.bind_ok (raising_ok happend s), Fallible.update_bind,
    Fallible.bind_ok (raising_ok hrefresh _), Fallible.update_bind,
    Fallible.bind_ok (raising_ok h _)]
  rfl

/-- What a failure leads to: another attempt, where one remains, or the end of the call. -/
theorem afterFailure_cases (answers : CommitAnswers) (remaining : ℕ) (e : Exc)
    (s : CommitState β) :
    (remaining ≠ 0 ∧ answers.Retried ∧ afterFailure answers remaining e s = (.ok (), s)) ∨
    (¬(remaining ≠ 0 ∧ answers.Retried) ∧
      ∃ e', afterFailure answers remaining e s = (.error e', s)) := by
  by_cases hlast : remaining = 0
  · refine .inr ⟨fun h => h.1 hlast, e, ?_⟩
    rw [afterFailure, if_pos hlast]
    rfl
  rw [afterFailure, if_neg hlast]
  cases hpause : answers.pause with
  | error e' =>
    refine .inr ⟨fun h => ?_, e', rfl⟩
    have hok := h.2.1
    rw [hpause] at hok
    cases hok
  | ok =>
    cases hagain : answers.refreshAgain with
    | error e' =>
      refine .inr ⟨fun h => ?_, e', rfl⟩
      have hok := h.2.2
      rw [hagain] at hok
      cases hok
    | ok =>
      refine .inl ⟨hlast, ⟨?_, ?_⟩, rfl⟩
      · rw [hpause]
        rfl
      · rw [hagain]
        rfl

end

/-! ## The loop -/

section

variable (attempts : ℕ → CommitAnswers) (batch : β)

/-- The loop ends once the batch is committed. -/
theorem commitLoop_of_committed {s : CommitState β} (h : s.committed = true) (made remaining : ℕ) :
    commitLoop attempts batch made remaining s = (.ok (), s) := by
  cases remaining with
  | zero => rfl
  | succ remaining => rw [commitLoop, Fallible.read_bind, if_pos h]; rfl

theorem commitLoop_succ {s : CommitState β} (h : s.committed = false) (made remaining : ℕ) :
    commitLoop attempts batch made (remaining + 1) s =
      (Fallible.catching (tryCommit (attempts made) batch) (afterFailure (attempts made) remaining)
        >>= fun _ => commitLoop attempts batch (made + 1) remaining) s := by
  rw [commitLoop, Fallible.read_bind, if_neg (by simp [h])]

/-- An attempt, by what it appends and what comes of it. -/
theorem commitLoop_cases {s : CommitState β} (h : s.committed = false) (made remaining : ℕ) :
    let answers := attempts made
    let rest := commitLoop attempts batch (made + 1) remaining
    let loop := commitLoop attempts batch made (remaining + 1) s
    let goesOn := remaining ≠ 0 ∧ answers.Retried
    (¬answers.append.isOk ∧ goesOn ∧ loop = rest s) ∨
    (¬answers.append.isOk ∧ ¬goesOn ∧ ∃ e, loop = (.error e, s)) ∨
    (answers.append.isOk ∧ ¬answers.refresh.isOk ∧ goesOn ∧
      loop = rest { s with appended := s.appended ++ [batch] }) ∨
    (answers.append.isOk ∧ ¬answers.refresh.isOk ∧ ¬goesOn ∧
      ∃ e, loop = (.error e, { s with appended := s.appended ++ [batch] })) ∨
    (answers.append.isOk ∧ answers.Settled remaining ∧
      ∃ s', loop = (.ok (), s') ∧ s'.appended = s.appended ++ [batch]) ∨
    (answers.append.isOk ∧ ¬answers.Settled remaining ∧
      ∃ e s', loop = (.error e, s') ∧ s'.appended = s.appended ++ [batch]) := by
  intro answers rest loop goesOn
  have hloop : loop = _ := commitLoop_succ attempts batch h made remaining
  cases happend : answers.append with
  | error e =>
    have htry : tryCommit answers batch s = _ := tryCommit_of_append_error happend
    obtain ⟨hremains, hretried, hafter⟩ | ⟨hends, e', hafter⟩ :=
      afterFailure_cases answers remaining e s
    · refine .inl ⟨nofun, ⟨hremains, hretried⟩, ?_⟩
      rw [hloop, Fallible.bind_ok ((Fallible.catching_error htry).trans hafter)]
    · refine .inr (.inl ⟨nofun, hends, e', ?_⟩)
      rw [hloop, Fallible.bind_error ((Fallible.catching_error htry).trans hafter)]
  | ok =>
    cases hrefresh : answers.refresh with
    | error e =>
      have htry : tryCommit answers batch s = _ := tryCommit_of_refresh_error happend hrefresh
      obtain ⟨hremains, hretried, hafter⟩ | ⟨hends, e', hafter⟩ :=
        afterFailure_cases answers remaining e { s with appended := s.appended ++ [batch] }
      · refine .inr (.inr (.inl ⟨rfl, nofun, ⟨hremains, hretried⟩, ?_⟩))
        rw [hloop, Fallible.bind_ok ((Fallible.catching_error htry).trans hafter)]
      · refine .inr (.inr (.inr (.inl ⟨rfl, nofun, hends, e', ?_⟩)))
        rw [hloop, Fallible.bind_error ((Fallible.catching_error htry).trans hafter)]
    | ok =>
      have hrefreshed : answers.refresh.isOk := by rw [hrefresh]; rfl
      cases hsnapshot : answers.currentSnapshot with
      | ok snapshotId =>
        have htry : tryCommit answers batch s = _ := tryCommit_of_ok happend hrefresh hsnapshot
        refine .inr (.inr (.inr (.inr (.inl ⟨rfl, ⟨hrefreshed, .inl ?_⟩, _,
          (hloop.trans (Fallible.bind_ok (Fallible.catching_ok htry))).trans
            (commitLoop_of_committed _ _ rfl _ _), rfl⟩))))
        rw [hsnapshot]
        rfl
      | error e =>
        have htry : tryCommit answers batch s = _ :=
          tryCommit_of_snapshot_error happend hrefresh hsnapshot
        obtain ⟨hremains, hretried, hafter⟩ | ⟨hends, e', hafter⟩ := afterFailure_cases answers
          remaining e { s with appended := s.appended ++ [batch], committed := true }
        · refine .inr (.inr (.inr (.inr (.inl
            ⟨rfl, ⟨hrefreshed, .inr ⟨hremains, hretried⟩⟩, _, (hloop.trans (Fallible.bind_ok
              ((Fallible.catching_error htry).trans hafter))).trans
                (commitLoop_of_committed _ _ rfl _ _), rfl⟩))))
        · refine .inr (.inr (.inr (.inr (.inr ⟨rfl, fun hsettled => ?_, e', _,
            hloop.trans (Fallible.bind_error ((Fallible.catching_error htry).trans hafter)),
            rfl⟩))))
          obtain hread | hgoesOn := hsettled.2
          · rw [hsnapshot] at hread
            cases hread
          · exact hends hgoesOn

/-- The batches stay, and success that was not there yet appends one more. -/
theorem commitLoop_appends {s : CommitState β} (h : s.committed = false) (made remaining : ℕ) :
    s.appended.length ≤ (commitLoop attempts batch made remaining s).2.appended.length ∧
      (remaining ≠ 0 → (commitLoop attempts batch made remaining s).1.isOk →
        s.appended.length < (commitLoop attempts batch made remaining s).2.appended.length) := by
  induction remaining generalizing made s with
  | zero => exact ⟨le_rfl, fun hremains => absurd rfl hremains⟩
  | succ remaining ih =>
    obtain ⟨-, hgoesOn, hloop⟩ | ⟨-, -, e, hloop⟩ | ⟨-, -, hgoesOn, hloop⟩ | ⟨-, -, -, e, hloop⟩ |
        ⟨-, -, s', hloop, happended⟩ | ⟨-, -, e, s', hloop, happended⟩ :=
      commitLoop_cases attempts batch h made remaining
    · have hrest := ih h (made + 1)
      rw [hloop]
      exact ⟨hrest.1, fun _ => hrest.2 hgoesOn.1⟩
    · rw [hloop]
      exact ⟨le_rfl, fun _ hok => nomatch hok⟩
    · have hrest := ih (s := { s with appended := s.appended ++ [batch] }) h (made + 1)
      rw [hloop]
      simp only [List.length_append, List.length_singleton] at hrest
      exact ⟨by omega, fun _ _ => by omega⟩
    · rw [hloop]
      simp
    · rw [hloop]
      simp [happended]
    · rw [hloop]
      simp [happended]

variable {attempts batch}

/-- The next attempt counts as the first, behind one that appended nothing and goes on. -/
theorem commitsOnce_succ {remaining : ℕ} (hgoesOn : remaining ≠ 0)
    (hfailed : ¬(attempts 0).append.isOk) (hretried : (attempts 0).Retried) :
    CommitsOnce attempts (remaining + 1) ↔
      CommitsOnce (fun n => attempts (n + 1)) remaining := by
  constructor
  · rintro ⟨-, h⟩
    refine ⟨hgoesOn, fun n hn hbefore happend => ?_⟩
    have hsettled := h (n + 1) (by omega) (fun m hm => ?_) happend
    · rwa [show remaining + 1 - 1 - (n + 1) = remaining - 1 - n by omega] at hsettled
    · cases m with
      | zero => exact ⟨hfailed, hretried⟩
      | succ m => exact hbefore m (by omega)
  · rintro ⟨-, h⟩
    refine ⟨by omega, fun n hn hbefore happend => ?_⟩
    cases n with
    | zero => exact absurd happend hfailed
    | succ n =>
      have hsettled := h n (by omega) (fun m hm => hbefore (m + 1) (by omega)) happend
      rwa [show remaining - 1 - n = remaining + 1 - 1 - (n + 1) by omega] at hsettled

/-- The result of the loop says what it appended. -/
def Tells (batch : β) (run : Except Exc Unit × CommitState β) : Prop :=
  if run.1.isOk then run.2.appended = [batch] else run.2.appended = []

theorem not_tells {s : CommitState β} (h : s.committed = false) (happended : s.appended ≠ [])
    {remaining : ℕ} (hremains : remaining ≠ 0) (made : ℕ) :
    ¬Tells batch (commitLoop attempts batch made remaining s) := by
  obtain ⟨hle, hlt⟩ := commitLoop_appends attempts batch h made remaining
  have hpos := List.length_pos_iff.mpr happended
  intro htells
  rw [Tells] at htells
  split_ifs at htells with hok
  · have hmore := hlt hremains hok
    rw [htells, List.length_singleton] at hmore
    omega
  · rw [htells, List.length_nil] at hle
    omega

theorem commitLoop_shift (made remaining : ℕ) :
    commitLoop attempts batch (made + 1) remaining =
      commitLoop (fun n => attempts (n + 1)) batch made remaining := by
  induction remaining generalizing made with
  | zero => rfl
  | succ remaining ih => rw [commitLoop, commitLoop, ih]

variable (attempts batch) in
theorem tells_iff (maxRetries : ℕ) :
    Tells batch (commitLoop attempts batch 0 maxRetries {}) ↔ CommitsOnce attempts maxRetries := by
  induction maxRetries generalizing attempts with
  | zero => exact iff_of_false (fun h => nomatch h) fun h => h.1 rfl
  | succ remaining ih =>
    have hnow : CommitsOnce attempts (remaining + 1) → (attempts 0).append.isOk →
        (attempts 0).Settled remaining := fun h =>
      h.2 0 (Nat.succ_pos _) (fun m hm => absurd hm (Nat.not_lt_zero m))
    obtain ⟨hfailed, hgoesOn, hloop⟩ | ⟨hfailed, hends, e, hloop⟩ |
        ⟨happend, hrefresh, hgoesOn, hloop⟩ | ⟨happend, hrefresh, hends, e, hloop⟩ |
        ⟨happend, hsettled, s', hloop, happended⟩ | ⟨happend, hsettled, e, s', hloop, happended⟩ :=
      commitLoop_cases attempts batch (s := {}) rfl 0 remaining
    · rw [hloop, commitLoop_shift, ih, commitsOnce_succ hgoesOn.1 hfailed hgoesOn.2]
    · rw [hloop]
      refine iff_of_true rfl ⟨Nat.succ_ne_zero _, fun n hn hbefore happend => ?_⟩
      cases n with
      | zero => exact absurd happend hfailed
      | succ n => exact absurd ⟨by omega, (hbefore 0 (Nat.succ_pos n)).2⟩ hends
    · rw [hloop]
      exact iff_of_false (not_tells rfl (by simp) hgoesOn.1 _)
        fun h => hrefresh (hnow h happend).1
    · rw [hloop]
      exact iff_of_false (fun h => by simp [Tells, Except.isOk, Except.toBool] at h)
        fun h => hrefresh (hnow h happend).1
    · rw [hloop]
      refine iff_of_true happended ⟨Nat.succ_ne_zero _, fun n hn hbefore _ => ?_⟩
      cases n with
      | zero => exact hsettled
      | succ n => exact absurd happend (hbefore 0 (Nat.succ_pos n)).1
    · rw [hloop]
      refine iff_of_false (fun h => ?_) fun h => hsettled (hnow h happend)
      have hnone : s'.appended = [] := h
      rw [happended] at hnone
      cases hnone

end

/-! ## The call -/

/-- A call says truly whether it appended the events when the batch cannot be made, or an attempt
is to be made and the first append to succeed is refreshed behind and, its snapshot unread, need
not be reported as a failure. -/
theorem exactlyOnce_iff (sink : IcebergLakehouseSink) (around : SinkSurroundings β)
    {events : List Dict} (hevents : events ≠ []) :
    ExactlyOnce sink around events ↔
      ¬(around.batch events).isOk ∨ CommitsOnce around.attempts sink.maxRetries := by
  cases hbatch : around.batch events with
  | error e =>
    obtain ⟨result, hresult, hwrite⟩ := sink.writeEvents_of_batch_error hevents hbatch
    rw [ExactlyOnce, hwrite, if_neg (by simp [hresult])]
    exact iff_of_true rfl (.inl nofun)
  | ok batch =>
    have hmade : ¬¬(Except.ok batch : Except Exc β).isOk = true := not_not_intro rfl
    rw [or_iff_right hmade, ← tells_iff around.attempts batch, ExactlyOnce]
    rcases hloop : commitLoop around.attempts batch 0 sink.maxRetries {} with ⟨e | _, s⟩
    · obtain ⟨result, hresult, hwrite⟩ := sink.writeEvents_of_loop_error hevents hbatch hloop
      rw [hwrite, if_neg (by simp [hresult])]
      rfl
    · obtain ⟨result, hresult, hwrite⟩ := sink.writeEvents_of_loop_ok hevents hbatch hloop
      rw [hwrite, if_pos hresult]
      constructor
      · rintro ⟨batch', hbatch', happended⟩
        rw [hbatch] at hbatch'
        cases hbatch'
        exact happended
      · exact fun h => ⟨batch, hbatch, h⟩

/-- A table that raises only in the first attempt, where that says so. -/
def answering (first : CommitAnswers) : SinkSurroundings Unit where
  platform := .ascii
  now := 0
  opening := { schema := .ok bronzeCheckoutEventsSchema }
  fromPydict := fun _ => .ok ()
  attempts n := if n = 0 then first else {}

def oneEvent : List Dict := [[(text "event_id", .str (text "e1"))]]

/-- After a conflict the events are appended by the second attempt. -/
theorem exactlyOnce_after_conflict :
    ExactlyOnce {} (answering { append := .error (valueError []) }) oneEvent := by
  have hevents : oneEvent ≠ [] := List.cons_ne_nil _ _
  rw [exactlyOnce_iff {} (answering { append := .error (valueError []) }) hevents]
  refine .inr ⟨by decide, fun n _ _ happend => ?_⟩
  cases n with
  | zero => cases happend
  | succ n => exact ⟨rfl, .inl rfl⟩

/-- The append goes through and the refresh behind it does not. -/
theorem appended_twice :
    ¬ExactlyOnce {} (answering { refresh := .error (valueError []) }) oneEvent := by
  intro h
  rw [ExactlyOnce, if_pos (by decide +kernel)] at h
  obtain ⟨batch, -, happended⟩ := h
  have htwice := congrArg List.length happended
  rw [List.length_singleton] at htwice
  revert htwice
  decide +kernel

end IceStream.Remediation
