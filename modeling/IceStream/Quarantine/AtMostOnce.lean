import IceStream.Quarantine.Routing
import Mathlib.Data.Finset.Card

/-!
# Rows and counts when writes fail

A record whose write failed waits in the writer's buffer, and the router has not
seen its id. Whatever goes out next takes it along.
-/

namespace IceStream.Quarantine
open Python Stepping

inductive QuarantineAction
  | route (call : RouteCall)
  | flush
  | close

namespace RouterWorld

variable (router : QuarantineRouter) (port : TablePort QuarantineRecord)

def step (s : RouterWorld) : QuarantineAction → Option RouterWorld
  | .route call => some (router.routeInvalidEvent port call s).2
  | .flush => some (QuarantineRouter.flushWriter port s).2
  | .close => some (onWriter (close port) s).2

def ids (s : RouterWorld) : List Text := s.table.map QuarantineRecord.quarantineId

/-- The table has one row an id, and the counter counts the ids. -/
structure AtMostOnce (s : RouterWorld) : Prop where
  nodup : s.ids.Nodup
  counted : s.quarantineEventsTotal = s.ids.toFinset.card

instance (s : RouterWorld) : Decidable s.AtMostOnce :=
  decidable_of_iff (s.ids.Nodup ∧ s.quarantineEventsTotal = s.ids.toFinset.card)
    ⟨fun h => ⟨h.1, h.2⟩, fun h => ⟨h.nodup, h.counted⟩⟩

/-- The action appends to the table. -/
def Appends (s : RouterWorld) : QuarantineAction → Prop
  | .route call => router.IsNew s.seenQuarantineIds call ∧
      GoesOut port (s.buffer ++ [router.record call]) s.storage.attempts
  | .flush | .close => s.buffer ≠ [] ∧ GoesOut port s.buffer s.storage.attempts

/-- Nothing goes out while a record whose write failed is waiting. -/
def NothingWaits (s : RouterWorld) (a : QuarantineAction) : Prop :=
  s.Appends router port a → s.buffer = []

/-! ## What an action does -/

/-- What an action does to the table, the ids seen and the counter. -/
inductive Does (s t : RouterWorld) (a : QuarantineAction) : Prop
  | nothing (hno : ¬s.Appends router port a) (htable : t.table = s.table)
      (hseen : t.seenQuarantineIds = s.seenQuarantineIds)
      (htotal : t.quarantineEventsTotal = s.quarantineEventsTotal)
  | writes (call : RouteCall) (hnew : router.IsNew s.seenQuarantineIds call) (happends : s.Appends router port a)
      (htable : t.table = s.table ++ (s.buffer ++ [router.record call]))
      (hseen : t.seenQuarantineIds = router.quarantineId call :: s.seenQuarantineIds)
      (htotal : t.quarantineEventsTotal = s.quarantineEventsTotal + 1)
  | flushes (hwaits : s.buffer ≠ []) (happends : s.Appends router port a)
      (htable : t.table = s.table ++ s.buffer)
      (hseen : t.seenQuarantineIds = s.seenQuarantineIds)
      (htotal : t.quarantineEventsTotal = s.quarantineEventsTotal)

variable {router port} {s t : RouterWorld} {a : QuarantineAction}

theorem does_route (call : RouteCall) :
    s.Does router port (router.routeInvalidEvent port call s).2 (.route call) := by
  by_cases hvalid : call.failedResults = []
  · rw [route_of_valid port s hvalid]
    exact .nothing (fun h => h.1.1 hvalid) rfl rfl rfl
  by_cases hseed : Encodable (router.dedupSeed call)
  swap
  · rw [route_of_unencodable port s hvalid hseed]
    exact .nothing (fun h => hseed h.1.2.1) rfl rfl rfl
  by_cases hseen : router.quarantineId call ∈ s.seenQuarantineIds
  · rw [route_of_seen port s hvalid hseed hseen]
    exact .nothing (fun h => h.1.2.2 hseen) rfl rfl rfl
  by_cases hout : GoesOut port (s.buffer ++ [router.record call]) s.storage.attempts
  · obtain ⟨w, hroute, htable, -⟩ := route_of_goesOut port s ⟨hvalid, hseed, hseen⟩ hout
    rw [hroute]
    exact .writes call ⟨hvalid, hseed, hseen⟩ ⟨⟨hvalid, hseed, hseen⟩, hout⟩ htable rfl rfl
  · obtain ⟨w, hroute, htable⟩ := route_of_not_goesOut port s ⟨hvalid, hseed, hseen⟩ hout
    rw [hroute]
    exact .nothing (fun h => hout h.2) htable rfl rfl

theorem does_flush (ha : s.Appends router port a ↔
    s.buffer ≠ [] ∧ GoesOut port s.buffer s.storage.attempts) :
    s.Does router port (QuarantineRouter.flushWriter port s).2 a := by
  by_cases hempty : s.buffer = []
  · rw [flush_of_drained hempty]
    exact .nothing (fun h => (ha.mp h).1 hempty) rfl rfl rfl
  by_cases hout : GoesOut port s.buffer s.storage.attempts
  · obtain ⟨w, hflush, htable, -⟩ := flush_of_goesOut port hempty hout
    rw [QuarantineRouter.flushWriter, onWriter, hflush]
    exact .flushes hempty (ha.mpr ⟨hempty, hout⟩) htable rfl rfl
  · obtain ⟨w, hflush, -, htable, -⟩ := flush_of_not_goesOut port hempty hout
    rw [QuarantineRouter.flushWriter, onWriter, hflush]
    exact .nothing (fun h => hout (ha.mp h).2) htable rfl rfl

theorem does_of_step (ht : s.step router port a = some t) : s.Does router port t a := by
  cases a with
  | route call =>
    obtain rfl := Option.some.inj ht
    exact does_route call
  | flush =>
    obtain rfl := Option.some.inj ht
    exact does_flush Iff.rfl
  | close =>
    obtain rfl := Option.some.inj ht
    exact does_flush Iff.rfl

/-! ## The law -/

/-- The ids seen are those in the table, once each and counted. -/
structure Tallied (s : RouterWorld) : Prop where
  nodup : s.ids.Nodup
  total : s.quarantineEventsTotal = s.table.length
  seen : ∀ q, q ∈ s.seenQuarantineIds ↔ q ∈ s.ids

theorem Tallied.atMostOnce (h : s.Tallied) : s.AtMostOnce := by
  refine ⟨h.nodup, ?_⟩
  rw [List.toFinset_card_of_nodup h.nodup, ids, List.length_map]
  exact h.total

/-- More rows than the counter says is more than it may be. -/
theorem not_atMostOnce_of_lt (h : s.quarantineEventsTotal < s.table.length) : ¬s.AtMostOnce := by
  intro honce
  have hcount := honce.counted
  rw [List.toFinset_card_of_nodup honce.nodup, ids, List.length_map] at hcount
  omega

theorem Does.tallied (hs : s.Tallied) (h : s.Does router port t a)
    (hwaits : s.NothingWaits router port a) : t.Tallied := by
  cases h with
  | nothing hno htable hseen htotal =>
    have hids : t.ids = s.ids := by rw [ids, ids, htable]
    refine ⟨hids ▸ hs.nodup, ?_, ?_⟩
    · rw [htotal, htable, hs.total]
    · intro q
      rw [hseen, hids]
      exact hs.seen q
  | writes call hnew happends htable hseen htotal =>
    rw [hwaits happends, List.nil_append] at htable
    have hids : t.ids = s.ids ++ [router.quarantineId call] := by
      rw [ids, htable, List.map_append]
      rfl
    have hfresh : router.quarantineId call ∉ s.ids := fun hmem => hnew.2.2 ((hs.seen _).mpr hmem)
    constructor
    · rw [hids, ← List.concat_eq_append]
      exact hs.nodup.concat hfresh
    · rw [htotal, htable, hs.total, List.length_append, List.length_singleton]
    · intro q
      rw [hseen, hids, List.mem_cons, List.mem_append, List.mem_singleton, hs.seen q]
      exact or_comm
  | flushes hne happends htable hseen htotal => exact absurd (hwaits happends) hne

theorem Does.atMostOnce_iff (hs : s.Tallied) (h : s.Does router port t a) :
    t.AtMostOnce ↔ s.NothingWaits router port a := by
  constructor
  · intro honce happends
    by_contra hne
    have hlength : 0 < s.buffer.length := List.length_pos_of_ne_nil hne
    cases h with
    | nothing hno htable hseen htotal => exact hno happends
    | writes call hnew happends htable hseen htotal =>
      -- one call is counted, and at least two rows come in
      apply not_atMostOnce_of_lt _ honce
      rw [htotal, htable, hs.total, List.length_append, List.length_append, List.length_singleton]
      omega
    | flushes hne happends htable hseen htotal =>
      apply not_atMostOnce_of_lt _ honce
      rw [htotal, htable, hs.total, List.length_append]
      omega
  · intro hwaits
    exact (h.tallied hs hwaits).atMostOnce

theorem tallied_init : (RouterWorld.init port).Tallied := by
  refine ⟨List.nodup_nil, rfl, ?_⟩
  intro q
  exact Iff.rfl

/-- Over every run and every pattern of failing writes, the table holds a row an id and the
counter counts the ids exactly as long as nothing goes out while a failed record waits. -/
theorem at_most_once_iff (router : QuarantineRouter) (port : TablePort QuarantineRecord)
    (actions : List QuarantineAction) :
    AllSteps (step router port) (fun _ _ t => t.AtMostOnce) (.init port) actions ↔
      AllSteps (step router port) (fun s a _ => s.NothingWaits router port a) (.init port)
        actions := by
  apply allSteps_iff_of_invariant (I := Tallied)
  · intro s a t hs ht
    exact (does_of_step ht).atMostOnce_iff hs
  · intro s a t hs ht hwaits
    exact (does_of_step ht).tallied hs hwaits
  · exact tallied_init

/-! ### An event whose first write fails -/

/-- A table whose first five attempts fail. -/
def failingTable : TablePort QuarantineRecord where
  arrow := arrowColumns
  attempt n := decide (5 ≤ n)
  clock _ := 0

theorem not_at_most_once {actions : List QuarantineAction}
    (h : (exec (step exampleRouter failingTable) (.init failingTable) actions).any
      (fun s => ¬s.AtMostOnce) = true) :
    ¬AllSteps (step exampleRouter failingTable) (fun _ _ t => t.AtMostOnce) (.init failingTable)
      actions := by
  intro hall
  obtain ⟨t, ht, hnot⟩ := (Option.any_eq_true _ _).mp h
  apply of_decide_eq_true hnot
  exact hall.preserves (I := AtMostOnce) (fun _ _ _ _ _ hq => hq) tallied_init.atMostOnce ht

/-- Routed again, the event is written twice; flushed, it is not counted. -/
theorem failed_event_twice_or_uncounted :
    ¬AllSteps (step exampleRouter failingTable) (fun _ _ t => t.AtMostOnce) (.init failingTable)
        [.route textIdCall.toRouteCall, .route textIdCall.toRouteCall] ∧
      ¬AllSteps (step exampleRouter failingTable) (fun _ _ t => t.AtMostOnce) (.init failingTable)
        [.route textIdCall.toRouteCall, .flush] := by
  constructor
  · apply not_at_most_once
    decide +kernel
  · apply not_at_most_once
    decide +kernel

end RouterWorld
end IceStream.Quarantine
