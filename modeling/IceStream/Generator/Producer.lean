import IceStream.Lib.JsonBytes
import IceStream.Lib.Stepping
import IceStream.Generator.DataGenerator
import Mathlib.Algebra.Order.Group.Multiset

/-!
# The producer

An event is counted, serialised and handed to the Kafka client, which reports later on whether it
was delivered. Threads may be in the middle of sending when a report comes.
-/

namespace IceStream.Generator
open Python Fallible Stepping

/-! ## The counters -/

/-- The counters behind the lock, and the latencies of the deliveries. -/
structure EventProducer where
  generatedCount : ℕ := 0
  publishedCount : ℕ := 0
  failedCount : ℕ := 0
  validCount : ℕ := 0
  injectedErrorCount : ℕ := 0
  latencySamples : List Float := []

@[irreducible] def maxSamples : ℕ := 10000

theorem maxSamples_pos : 0 < maxSamples := by
  rw [maxSamples]
  norm_num

namespace EventProducer

/-- What `send_event` counts before anything else. -/
def counted (isCorrupted : Bool) (p : EventProducer) : EventProducer :=
  if isCorrupted then { p with
    generatedCount := p.generatedCount + 1
    injectedErrorCount := p.injectedErrorCount + 1 }
  else { p with
    generatedCount := p.generatedCount + 1
    validCount := p.validCount + 1 }

/-- `_delivery_callback` -/
def deliveryCallback (err : Bool) (latency : Float) (p : EventProducer) : EventProducer :=
  if err then { p with failedCount := p.failedCount + 1 }
  else
    let samples := if maxSamples ≤ p.latencySamples.length then p.latencySamples.drop 1
      else p.latencySamples
    { p with
      publishedCount := p.publishedCount + 1
      latencySamples := samples ++ [latency] }

section counted
variable (isCorrupted : Bool) (p : EventProducer)

theorem counted_generatedCount : (p.counted isCorrupted).generatedCount = p.generatedCount + 1 := by
  cases isCorrupted <;> rfl

theorem counted_injectedErrorCount : (p.counted isCorrupted).injectedErrorCount =
    p.injectedErrorCount + if isCorrupted then 1 else 0 := by
  cases isCorrupted <;> rfl

theorem counted_validCount : (p.counted isCorrupted).validCount =
    p.validCount + if isCorrupted then 0 else 1 := by
  cases isCorrupted <;> rfl

theorem counted_failedCount : (p.counted isCorrupted).failedCount = p.failedCount := by
  cases isCorrupted <;> rfl

theorem counted_publishedCount : (p.counted isCorrupted).publishedCount = p.publishedCount := by
  cases isCorrupted <;> rfl

theorem counted_latencySamples : (p.counted isCorrupted).latencySamples = p.latencySamples := by
  cases isCorrupted <;> rfl

end counted

section deliveryCallback
variable (err : Bool) (latency : Float) (p : EventProducer)

theorem deliveryCallback_generatedCount :
    (p.deliveryCallback err latency).generatedCount = p.generatedCount := by
  cases err <;> rfl

theorem deliveryCallback_injectedErrorCount :
    (p.deliveryCallback err latency).injectedErrorCount = p.injectedErrorCount := by
  cases err <;> rfl

theorem deliveryCallback_validCount :
    (p.deliveryCallback err latency).validCount = p.validCount := by
  cases err <;> rfl

theorem deliveryCallback_failedCount : (p.deliveryCallback err latency).failedCount =
    p.failedCount + if err then 1 else 0 := by
  cases err <;> rfl

theorem deliveryCallback_publishedCount : (p.deliveryCallback err latency).publishedCount =
    p.publishedCount + if err then 0 else 1 := by
  cases err <;> rfl

variable {p}

/-- The oldest sample makes room. -/
theorem deliveryCallback_samples
    (h : p.latencySamples.length = min p.publishedCount maxSamples) :
    (p.deliveryCallback err latency).latencySamples.length =
      min (p.deliveryCallback err latency).publishedCount maxSamples := by
  have hpos := maxSamples_pos
  cases err with
  | true => exact h
  | false =>
    by_cases hfull : maxSamples ≤ p.latencySamples.length
    · simp only [deliveryCallback, Bool.false_eq_true, if_false, if_pos hfull, List.length_append,
        List.length_drop, List.length_singleton]
      omega
    · simp only [deliveryCallback, Bool.false_eq_true, if_false, if_neg hfull, List.length_append,
        List.length_singleton]
      omega

end deliveryCallback

end EventProducer

/-! ## Sending -/

structure Message where
  topic : Text
  value : Bytes
  key : Option Text
  sendTime : Float

/-- The bytes of the event, with the customer for a key. -/
def message (u : Unicode) (topic : Text) (event : Dict) (sendTime : Float) : Message :=
  let key := (event.getD "customer_id" (.str "")).toText u
  ⟨topic, dumpsUtf8 (.obj event), if key = [] then none else some key, sendTime⟩

/-- How the client answers a `produce`: its queue may be full, or it may raise something else. -/
inductive Produced
  | accepted
  | bufferError
  | raised (e : Exc)

/-- A delivery report about one of the messages that wait for theirs. -/
structure Report where
  index : ℕ
  err : Bool
  time : Float

/-- The counters, and the messages that the client has taken and not reported yet. -/
structure ProducerState where
  counters : EventProducer := {}
  queue : List Message := []

namespace ProducerState

/-- A report about a message is its last. -/
def served (s : ProducerState) (r : Report) : ProducerState :=
  match s.queue[r.index]? with
  | some m =>
    ⟨s.counters.deliveryCallback r.err (r.time - m.sendTime), s.queue.eraseIdx r.index⟩
  | none => s

/-- `poll` and `flush`, with the reports that come in. -/
def serve (reports : List Report) : Fallible ProducerState Unit := update fun s => reports.foldl served s

def fullQueue : Exc := ⟨"BufferError", false, "Local: Queue full"⟩

/-- `self.producer.produce` -/
def produce (m : Message) : Produced → Fallible ProducerState Unit
  | .accepted => update fun s => { s with queue := s.queue ++ [m] }
  | .bufferError => raise fullQueue
  | .raised e => raise e

/-- What a call of `send_event` finds around it. -/
structure SendReadings where
  sendTime : Float
  first : Produced
  polled : List Report := []
  flushed : List Report := []
  second : Produced := .accepted
  polledAgain : List Report := []

/-- `send_event`; a full queue is flushed, and the message produced once more. -/
def sendEvent (u : Unicode) (topic : Text) (event : Dict) (isCorrupted : Bool) (r : SendReadings) :
    Fallible ProducerState Unit := do
  update fun s => { s with counters := s.counters.counted isCorrupted }
  let m := message u topic event r.sendTime
  catching (do produce m r.first; serve r.polled) fun e =>
    if e.name = "BufferError" then do
      serve r.flushed
      produce m r.second
      serve r.polledAgain
    else raise e

end ProducerState

/-! ## Threads -/

/-- Whether a call has found the queue full before. -/
inductive Attempt
  | first
  | second
  deriving DecidableEq

/-- The producer among its threads: the calls that have not handed over their message, the
messages that they gave up on, and those that have been reported, with what the reports said. -/
structure Sending where
  state : ProducerState := {}
  calls : List (Message × Attempt) := []
  raised : List Message := []
  reported : List (Message × Bool) := []

inductive ProducerStep
  /-- A thread has counted its event. -/
  | call (m : Message) (isCorrupted : Bool)
  /-- The client takes the message of a call. -/
  | accept (i : ℕ)
  /-- The queue is full: the call tries again, or gives up. -/
  | refuse (i : ℕ)
  /-- The call gives up. -/
  | giveUp (i : ℕ)
  /-- Some thread serves a report. -/
  | report (r : Report)

/-- The message of a call, and whether it is corrupted. -/
def ProducerStep.called : ProducerStep → List (Message × Bool)
  | .call m isCorrupted => [(m, isCorrupted)]
  | .accept _ => []
  | .refuse _ => []
  | .giveUp _ => []
  | .report _ => []

namespace Sending

def step (w : Sending) : ProducerStep → Option Sending
  | .call m isCorrupted => some { w with
      state := { w.state with counters := w.state.counters.counted isCorrupted }
      calls := w.calls ++ [(m, .first)] }
  | .accept i => match w.calls[i]? with
    | some c => some { w with
        state := { w.state with queue := w.state.queue ++ [c.1] }
        calls := w.calls.eraseIdx i }
    | none => none
  | .refuse i => match w.calls[i]? with
    | some (m, .first) => some { w with calls := w.calls.eraseIdx i ++ [(m, .second)] }
    | some (m, .second) => some { w with
        calls := w.calls.eraseIdx i
        raised := w.raised ++ [m] }
    | none => none
  | .giveUp i => match w.calls[i]? with
    | some c => some { w with
        calls := w.calls.eraseIdx i
        raised := w.raised ++ [c.1] }
    | none => none
  | .report r => match w.state.queue[r.index]? with
    | some m => some { w with
        state := w.state.served r
        reported := w.reported ++ [(m, r.err)] }
    | none => none

/-- The messages of a run's calls. -/
def called (as : List ProducerStep) : List (Message × Bool) := as.flatMap ProducerStep.called

/-- Where the messages are. -/
def placed (w : Sending) : Multiset Message :=
  (w.calls.map Prod.fst : Multiset Message) + w.raised + w.state.queue + (w.reported.map Prod.fst)

theorem placed_eraseIdx {w : Sending} {i : ℕ} {c : Message × Attempt} (h : w.calls[i]? = some c) :
    ((w.calls.map Prod.fst : List Message) : Multiset Message) =
      {c.1} + (((w.calls.eraseIdx i).map Prod.fst : List Message) : Multiset Message) := by
  obtain ⟨hi, rfl⟩ := List.getElem?_eq_some_iff.mp h
  have hperm := (List.getElem_cons_eraseIdx_perm hi).map Prod.fst
  rw [List.map_cons] at hperm
  exact (Multiset.coe_eq_coe.mpr hperm).symm

theorem queue_eraseIdx {queue : List Message} {i : ℕ} {m : Message} (h : queue[i]? = some m) :
    (queue : Multiset Message) = {m} + (queue.eraseIdx i : Multiset Message) := by
  obtain ⟨hi, rfl⟩ := List.getElem?_eq_some_iff.mp h
  exact (Multiset.coe_eq_coe.mpr (List.getElem_cons_eraseIdx_perm hi)).symm

/-- What a step does: the call, and where its message goes. -/
inductive Moved (w : Sending) : ProducerStep → Sending → Prop
  | call (m : Message) (isCorrupted : Bool) : Moved w (.call m isCorrupted) { w with
      state := { w.state with counters := w.state.counters.counted isCorrupted }
      calls := w.calls ++ [(m, .first)] }
  | accept {i : ℕ} {c : Message × Attempt} (h : w.calls[i]? = some c) : Moved w (.accept i) { w with
      state := { w.state with queue := w.state.queue ++ [c.1] }
      calls := w.calls.eraseIdx i }
  | refuse {i : ℕ} {m : Message} (h : w.calls[i]? = some (m, .first)) : Moved w (.refuse i) { w with
      calls := w.calls.eraseIdx i ++ [(m, .second)] }
  | refuseAgain {i : ℕ} {m : Message} (h : w.calls[i]? = some (m, .second)) :
      Moved w (.refuse i) { w with
        calls := w.calls.eraseIdx i
        raised := w.raised ++ [m] }
  | giveUp {i : ℕ} {c : Message × Attempt} (h : w.calls[i]? = some c) : Moved w (.giveUp i) { w with
      calls := w.calls.eraseIdx i
      raised := w.raised ++ [c.1] }
  | report {r : Report} {m : Message} (h : w.state.queue[r.index]? = some m) :
      Moved w (.report r) { w with
        state := ⟨w.state.counters.deliveryCallback r.err (r.time - m.sendTime),
          w.state.queue.eraseIdx r.index⟩
        reported := w.reported ++ [(m, r.err)] }

theorem moved_of_step {w w' : Sending} {a : ProducerStep} (h : step w a = some w') :
    Moved w a w' := by
  cases a with
  | call m isCorrupted =>
    obtain rfl := Option.some.inj h
    exact .call m isCorrupted
  | accept i =>
    rw [step] at h
    cases hc : w.calls[i]? with
    | none =>
      rw [hc] at h
      cases h
    | some c =>
      rw [hc] at h
      obtain rfl := Option.some.inj h
      exact .accept hc
  | refuse i =>
    rw [step] at h
    cases hc : w.calls[i]? with
    | none =>
      rw [hc] at h
      cases h
    | some c =>
      obtain ⟨m, attempt⟩ := c
      rw [hc] at h
      cases attempt with
      | first =>
        obtain rfl := Option.some.inj h
        exact .refuse hc
      | second =>
        obtain rfl := Option.some.inj h
        exact .refuseAgain hc
  | giveUp i =>
    rw [step] at h
    cases hc : w.calls[i]? with
    | none =>
      rw [hc] at h
      cases h
    | some c =>
      rw [hc] at h
      obtain rfl := Option.some.inj h
      exact .giveUp hc
  | report r =>
    rw [step] at h
    cases hm : w.state.queue[r.index]? with
    | none =>
      rw [hm] at h
      cases h
    | some m =>
      rw [hm] at h
      obtain rfl := Option.some.inj h
      have hserved : w.state.served r = ⟨w.state.counters.deliveryCallback r.err
          (r.time - m.sendTime), w.state.queue.eraseIdx r.index⟩ := by
        rw [ProducerState.served, hm]
      rw [hserved]
      exact .report hm

/-- A step moves a message from one place to another, or brings a new one. -/
theorem placed_of_moved {w w' : Sending} {a : ProducerStep} (h : Moved w a w') :
    w'.placed = w.placed + (a.called.map Prod.fst : List Message) := by
  cases h with
  | call m isCorrupted =>
    simp only [placed, ProducerStep.called, List.map_append, List.map_cons, List.map_nil, ← Multiset.coe_add]
    abel
  | accept hc =>
    simp only [placed, ProducerStep.called, List.map_nil, ← Multiset.coe_add, placed_eraseIdx hc,
      Multiset.coe_singleton, Multiset.coe_nil]
    abel
  | refuse hc =>
    simp only [placed, ProducerStep.called, List.map_append, List.map_cons, List.map_nil, ← Multiset.coe_add,
      placed_eraseIdx hc, Multiset.coe_singleton, Multiset.coe_nil]
    abel
  | refuseAgain hc =>
    simp only [placed, ProducerStep.called, List.map_nil, ← Multiset.coe_add, placed_eraseIdx hc,
      Multiset.coe_singleton, Multiset.coe_nil]
    abel
  | giveUp hc =>
    simp only [placed, ProducerStep.called, List.map_nil, ← Multiset.coe_add, placed_eraseIdx hc,
      Multiset.coe_singleton, Multiset.coe_nil]
    abel
  | report hm =>
    simp only [placed, ProducerStep.called, List.map_append, List.map_cons, List.map_nil, ← Multiset.coe_add,
      queue_eraseIdx hm, Multiset.coe_singleton, Multiset.coe_nil]
    abel

/-! ## The counters of a run -/

/-- How many of the messages have the mark. -/
def marked (mark : Bool) (messages : List (Message × Bool)) : ℕ :=
  messages.countP fun p => p.2 == mark

theorem marked_append (mark : Bool) (messages others : List (Message × Bool)) :
    marked mark (messages ++ others) = marked mark messages + marked mark others :=
  List.countP_append

theorem marked_add (messages : List (Message × Bool)) :
    marked true messages + marked false messages = messages.length := by
  induction messages with
  | nil => rfl
  | cons p messages ih =>
    have hcons : ∀ mark, marked mark (p :: messages) = marked mark [p] + marked mark messages :=
      fun mark => marked_append mark [p] messages
    have hone : marked true [p] + marked false [p] = 1 := by
      obtain ⟨m, mark⟩ := p
      cases mark
      · rfl
      · rfl
    rw [hcons, hcons, List.length_cons]
    omega

/-- The counters tell what was called and what was reported. -/
structure Counted (calls : List (Message × Bool)) (w : Sending) : Prop where
  placed : ((calls.map Prod.fst : List Message) : Multiset Message) = w.placed
  generated : w.state.counters.generatedCount = calls.length
  injected : w.state.counters.injectedErrorCount = marked true calls
  valid : w.state.counters.validCount = marked false calls
  failed : w.state.counters.failedCount = marked true w.reported
  published : w.state.counters.publishedCount = marked false w.reported
  samples : w.state.counters.latencySamples.length =
    min w.state.counters.publishedCount maxSamples

theorem counted_of_moved {w w' : Sending} {a : ProducerStep} {calls : List (Message × Bool)}
    (h : Counted calls w) (hmoved : Moved w a w') : Counted (calls ++ a.called) w' := by
  have hplaced : (((calls ++ a.called).map Prod.fst : List Message) : Multiset Message) =
      w'.placed := by
    rw [List.map_append, ← Multiset.coe_add, h.placed, placed_of_moved hmoved]
  cases hmoved with
  | call m isCorrupted =>
    exact {
      placed := hplaced
      generated := by
        rw [EventProducer.counted_generatedCount, h.generated, ProducerStep.called, List.length_append,
          List.length_singleton]
      injected := by
        rw [EventProducer.counted_injectedErrorCount, h.injected, ProducerStep.called, marked_append]
        cases isCorrupted <;> rfl
      valid := by
        rw [EventProducer.counted_validCount, h.valid, ProducerStep.called, marked_append]
        cases isCorrupted <;> rfl
      failed := (EventProducer.counted_failedCount _ _).trans h.failed
      published := (EventProducer.counted_publishedCount _ _).trans h.published
      samples := by
        rw [EventProducer.counted_latencySamples, EventProducer.counted_publishedCount]
        exact h.samples }
  | accept hc =>
    rw [ProducerStep.called, List.append_nil] at hplaced ⊢
    exact { h with placed := hplaced }
  | refuse hc =>
    rw [ProducerStep.called, List.append_nil] at hplaced ⊢
    exact { h with placed := hplaced }
  | refuseAgain hc =>
    rw [ProducerStep.called, List.append_nil] at hplaced ⊢
    exact { h with placed := hplaced }
  | giveUp hc =>
    rw [ProducerStep.called, List.append_nil] at hplaced ⊢
    exact { h with placed := hplaced }
  | @report r m hm =>
    rw [ProducerStep.called, List.append_nil] at hplaced ⊢
    exact {
      placed := hplaced
      generated := (EventProducer.deliveryCallback_generatedCount _ _ _).trans h.generated
      injected := (EventProducer.deliveryCallback_injectedErrorCount _ _ _).trans h.injected
      valid := (EventProducer.deliveryCallback_validCount _ _ _).trans h.valid
      failed := by
        rw [EventProducer.deliveryCallback_failedCount, h.failed, marked_append]
        cases r.err <;> rfl
      published := by
        rw [EventProducer.deliveryCallback_publishedCount, h.published, marked_append]
        cases r.err <;> rfl
      samples := EventProducer.deliveryCallback_samples _ _ h.samples }

theorem counted_start : Counted [] {} where
  placed := rfl
  generated := rfl
  injected := rfl
  valid := rfl
  failed := rfl
  published := rfl
  samples := rfl

theorem counted_of_exec {as : List ProducerStep} {w : Sending} (h : exec step {} as = some w) :
    Counted (called as) w := by
  refine exec_follows (I := fun as w => Counted (called as) w) ?_ counted_start h
  intro as s a t hs hstep
  rw [called, List.flatMap_append, List.flatMap_singleton]
  exact counted_of_moved hs (moved_of_step hstep)

/-- Where the events are that were counted. -/
theorem Counted.generated_eq {calls : List (Message × Bool)} {w : Sending} (h : Counted calls w) :
    w.state.counters.generatedCount = w.calls.length + w.raised.length + w.state.queue.length +
      w.state.counters.publishedCount + w.state.counters.failedCount := by
  have hcard := congrArg Multiset.card h.placed
  simp only [Sending.placed, Multiset.card_add, Multiset.coe_card, List.length_map] at hcard
  have hreported := marked_add w.reported
  rw [h.generated, h.published, h.failed]
  omega

theorem Counted.kinds {calls : List (Message × Bool)} {w : Sending} (h : Counted calls w) :
    w.state.counters.injectedErrorCount + w.state.counters.validCount =
      w.state.counters.generatedCount := by
  rw [h.injected, h.valid, h.generated, marked_add]

/-- One message is published, and the other given up on when the queue is full again. -/
def oneOfEach : List ProducerStep :=
  let m : Message := ⟨"checkout-events", [], none, 1⟩
  [.call m false, .call m true, .accept 0, .refuse 0, .report ⟨0, false, 2⟩, .refuse 0]

/-- The threads can get from one state to the other, with these calls on the way. -/
def Runs (w : Sending) (calls : List (Message × Bool)) (w' : Sending) : Prop :=
  ∃ as, exec step w as = some w' ∧ called as = calls

theorem Runs.refl (w : Sending) : Runs w [] w := ⟨[], rfl, rfl⟩

theorem Runs.one {w w' : Sending} {a : ProducerStep} (h : step w a = some w') :
    Runs w a.called w' := by
  refine ⟨[a], ?_, List.flatMap_singleton ..⟩
  rw [exec_cons, h, Option.bind_some, exec_nil]

theorem Runs.trans {w w' w'' : Sending} {calls others : List (Message × Bool)}
    (h : Runs w calls w') (h' : Runs w' others w'') : Runs w (calls ++ others) w'' := by
  obtain ⟨as, has, rfl⟩ := h
  obtain ⟨bs, hbs, rfl⟩ := h'
  refine ⟨as ++ bs, ?_, List.flatMap_append ..⟩
  rw [exec_append, has, Option.bind_some, hbs]

/-- The calls of the others stay as they are. -/
theorem eraseIdx_concat {α : Type} (cs : List α) (c : α) : (cs ++ [c]).eraseIdx cs.length = cs := by
  rw [List.eraseIdx_append_of_length_le le_rfl, Nat.sub_self, List.eraseIdx_zero, List.tail_cons,
    List.append_nil]

variable (w : Sending) (m : Message)

/-- `w`, with one more call. -/
def calling (attempt : Attempt) : Sending := { w with calls := w.calls ++ [(m, attempt)] }

theorem calling_calls (attempt : Attempt) :
    (w.calling m attempt).calls[w.calls.length]? = some (m, attempt) :=
  List.getElem?_concat_length

theorem runs_accept (attempt : Attempt) : Runs (w.calling m attempt) []
    { w with state := { w.state with queue := w.state.queue ++ [m] } } := by
  refine Runs.one (a := .accept w.calls.length) ?_
  rw [step, calling_calls]
  simp only [calling, eraseIdx_concat]

theorem runs_giveUp (attempt : Attempt) :
    Runs (w.calling m attempt) [] { w with raised := w.raised ++ [m] } := by
  refine Runs.one (a := .giveUp w.calls.length) ?_
  rw [step, calling_calls]
  simp only [calling, eraseIdx_concat]

theorem runs_refuse : Runs (w.calling m .first) [] (w.calling m .second) := by
  refine Runs.one (a := .refuse w.calls.length) ?_
  rw [step, calling_calls]
  simp only [calling, eraseIdx_concat]

/-- Reports are served one after the other; a report about no message is none. -/
theorem runs_reports (reports : List Report) : ∃ reported, Runs w []
    { w with state := reports.foldl ProducerState.served w.state, reported := reported } := by
  induction reports generalizing w with
  | nil => exact ⟨w.reported, Runs.refl w⟩
  | cons r reports ih =>
    rw [List.foldl_cons]
    cases hm : w.state.queue[r.index]? with
    | none =>
      have hserved : w.state.served r = w.state := by rw [ProducerState.served, hm]
      rw [hserved]
      exact ih w
    | some m =>
      have hstep : step w (.report r) = some { w with
          state := w.state.served r
          reported := w.reported ++ [(m, r.err)] } := by
        rw [step, hm]
      obtain ⟨reported, hrun⟩ := ih _
      exact ⟨reported, (Runs.one hstep).trans hrun⟩

/-! ## `send_event` is such a run -/

/-- What a call that ended so gave up on. -/
def gaveUp (m : Message) : Except Exc Unit → List Message
  | .ok () => []
  | .error _ => [m]

/-- `w` after a call that left the producer so. -/
def afterCall (x : Except Exc Unit × ProducerState) (reported : List (Message × Bool)) : Sending :=
  ⟨x.2, w.calls, w.raised ++ gaveUp m x.1, reported⟩

theorem produce_cases (p : Produced) (s : ProducerState) :
    ProducerState.produce m p s = (.ok (), { s with queue := s.queue ++ [m] }) ∨
      ∃ e, ProducerState.produce m p s = (.error e, s) := by
  cases p with
  | accepted => exact .inl rfl
  | bufferError => exact .inr ⟨ProducerState.fullQueue, rfl⟩
  | raised e => exact .inr ⟨e, rfl⟩

/-- The second half of an attempt: the message is taken, or the call raises. -/
theorem runs_produce (attempt : Attempt) (p : Produced) (reports : List Report) :
    ∃ reported, Runs (w.calling m attempt) []
      (w.afterCall m ((do ProducerState.produce m p; ProducerState.serve reports) w.state)
        reported) := by
  obtain hrun | ⟨e, hrun⟩ := produce_cases m p w.state
  · rw [bind_ok hrun]
    obtain ⟨reported, hreports⟩ := runs_reports
      { w with state := { w.state with queue := w.state.queue ++ [m] } } reports
    refine ⟨reported, ?_⟩
    have hafter := (runs_accept w m attempt).trans hreports
    rwa [← List.append_nil w.raised] at hafter
  · rw [bind_error hrun]
    exact ⟨w.reported, runs_giveUp w m attempt⟩

theorem sendEvent_runs (u : Unicode) (topic : Text) (event : Dict) (isCorrupted : Bool)
    (r : ProducerState.SendReadings) :
    let m := message u topic event r.sendTime
    ∃ reported, Runs w [(m, isCorrupted)]
      (w.afterCall m (ProducerState.sendEvent u topic event isCorrupted r w.state) reported) := by
  intro m
  let w₁ : Sending :=
    { w with state := { w.state with counters := w.state.counters.counted isCorrupted } }
  have hcall : Runs w [(m, isCorrupted)] (w₁.calling m .first) :=
    Runs.one (a := .call m isCorrupted) rfl
  have hsend : ProducerState.sendEvent u topic event isCorrupted r w.state =
      catching (do ProducerState.produce m r.first; ProducerState.serve r.polled)
        (fun e => if e.name = "BufferError" then do
            ProducerState.serve r.flushed
            ProducerState.produce m r.second
            ProducerState.serve r.polledAgain
          else raise e) w₁.state := rfl
  rw [hsend]
  obtain hrun | ⟨e, hrun⟩ := produce_cases m r.first w₁.state
  · have htry : (do ProducerState.produce m r.first; ProducerState.serve r.polled) w₁.state =
        (.ok (), r.polled.foldl ProducerState.served
          { w₁.state with queue := w₁.state.queue ++ [m] }) := bind_ok hrun
    obtain ⟨reported, htaken⟩ := runs_produce w₁ m .first r.first r.polled
    refine ⟨reported, ?_⟩
    rw [catching_ok htry, ← htry]
    exact hcall.trans htaken
  · rw [catching_error (bind_error hrun)]
    by_cases hfull : e.name = "BufferError"
    · rw [if_pos hfull]
      obtain ⟨flushed, hflush⟩ := runs_reports (w₁.calling m .second) r.flushed
      let w₂ : Sending :=
        { w₁ with state := r.flushed.foldl ProducerState.served w₁.state, reported := flushed }
      obtain ⟨reported, htaken⟩ := runs_produce w₂ m .second r.second r.polledAgain
      exact ⟨reported, ((hcall.trans (runs_refuse w₁ m)).trans hflush).trans htaken⟩
    · rw [if_neg hfull]
      exact ⟨w.reported, hcall.trans (runs_giveUp w₁ m .first)⟩

end Sending

end IceStream.Generator
