import IceStream.Backend.RateLimiter

/-!
# What the rate limiter lets through

The log of a client tracks the requests of that client that were let through, so
no window holds more of them than the limit and only a full window rejects.
-/

namespace IceStream.Backend
open Python SlidingLog

namespace RateLimiterMiddleware

/-- The request reached the next application. -/
def Served.isPassed (s : Served) : Bool :=
  match s.answer with
  | .ok .passed => true
  | _ => false

/-- A request of the client that the limiter let through. -/
def Served.admittedTo (client : Text) (s : Served) : Bool :=
  s.arrival.limited && s.arrival.client == client && s.isPassed

/-- When requests of the client were let through. -/
def admitted (client : Text) (served : List Served) : List ℚ :=
  (served.filter (Served.admittedTo client)).map (·.arrival.now)

theorem admitted_append (client : Text) (served served' : List Served) :
    admitted client (served ++ served') = admitted client served ++ admitted client served' := by
  rw [admitted, List.filter_append, List.map_append]
  rfl

theorem admitted_of_not {client : Text} {s : Served} (h : s.admittedTo client = false) :
    admitted client [s] = [] := by
  rw [admitted, List.filter_cons_of_neg (by simp [h])]
  rfl

theorem admitted_of_admittedTo {client : Text} {s : Served} (h : s.admittedTo client = true) :
    admitted client [s] = [s.arrival.now] := by
  rw [admitted, List.filter_cons_of_pos h]
  rfl

variable {limiter : RateLimiterMiddleware} {history : IpHistory} {a : Arrival}

/-! ## One request -/

/-- What one request adds to a run. -/
abbrev served1 (limiter : RateLimiterMiddleware) (history : IpHistory) (a : Arrival) : Served :=
  ⟨a, (limiter.dispatch a history).1⟩

theorem dispatch_unlimited (h : a.limited = false) :
    limiter.dispatch a history = (.ok .passed, history) := by
  rw [dispatch, h]
  rfl

/-- There is room in the window. -/
theorem dispatch_room (h : a.limited = true)
    (hroom : (live limiter.windowSeconds a.now (history a.client)).length <
      limiter.requestsPerMinute) :
    limiter.dispatch a history = (.ok .passed, Function.update history a.client
      (live limiter.windowSeconds a.now (history a.client) ++ [a.now])) := by
  rw [dispatch, h]
  simp only [Bool.not_true, Bool.false_eq_true, if_false, Fallible.read_bind]
  rw [if_neg (not_le.mpr hroom)]
  rfl

/-- The window is full; its oldest entry decides when to come again. -/
theorem dispatch_full {oldest : ℚ} {rest : List ℚ} (h : a.limited = true)
    (hlive : live limiter.windowSeconds a.now (history a.client) = oldest :: rest)
    (hfull : limiter.requestsPerMinute ≤ (oldest :: rest).length) :
    limiter.dispatch a history =
      (.ok (tooManyRequests (retrySeconds limiter.windowSeconds a.now oldest)),
        Function.update history a.client (oldest :: rest)) := by
  rw [dispatch, h]
  simp only [Bool.not_true, Bool.false_eq_true, if_false, Fallible.read_bind]
  rw [hlive, if_pos hfull]
  rfl

/-- With a positive limit a full window is not empty. -/
theorem exists_oldest (hlimit : 1 ≤ limiter.requestsPerMinute) {log : List ℚ}
    (hfull : limiter.requestsPerMinute ≤ log.length) : ∃ oldest rest, log = oldest :: rest := by
  cases log with
  | nil =>
    rw [List.length_nil] at hfull
    omega
  | cons oldest rest => exact ⟨oldest, rest, rfl⟩

/-- A request that is limited passes where there is room. -/
theorem isPassed_iff_room (hlimit : 1 ≤ limiter.requestsPerMinute) (h : a.limited = true) :
    (limiter.served1 history a).isPassed = true ↔
      (live limiter.windowSeconds a.now (history a.client)).length <
        limiter.requestsPerMinute := by
  by_cases hroom : (live limiter.windowSeconds a.now (history a.client)).length <
    limiter.requestsPerMinute
  · refine iff_of_true ?_ hroom
    simp [Served.isPassed, dispatch_room h hroom]
  · refine iff_of_false ?_ hroom
    obtain ⟨oldest, rest, hlive⟩ := exists_oldest hlimit (not_lt.mp hroom)
    rw [hlive, not_lt] at hroom
    simp [Served.isPassed, dispatch_full h hlive hroom, tooManyRequests]

/-- A request leaves the logs of other clients as they are. -/
theorem dispatch_other {client : Text} (h : a.client ≠ client) :
    (limiter.dispatch a history).2 client = history client := by
  rw [dispatch]
  by_cases hlimited : a.limited = true
  · simp only [hlimited, Bool.not_true, Bool.false_eq_true, if_false, Fallible.read_bind]
    split
    · cases (live limiter.windowSeconds a.now (history a.client)).head? with
      | none => rfl
      | some oldest => exact Function.update_of_ne (Ne.symm h) ..
    · exact Function.update_of_ne (Ne.symm h) ..
  · rw [Bool.not_eq_true] at hlimited
    simp [hlimited]

/-- The answer, and what becomes of the client's log, depend on that log alone. -/
theorem dispatch_congr {history' : IpHistory} (h : history a.client = history' a.client) :
    (limiter.dispatch a history).1 = (limiter.dispatch a history').1 ∧
      (limiter.dispatch a history).2 a.client = (limiter.dispatch a history').2 a.client := by
  rw [dispatch]
  by_cases hlimited : a.limited = true
  · simp only [hlimited, Bool.not_true, Bool.false_eq_true, if_false, Fallible.read_bind, h]
    split
    · cases (live limiter.windowSeconds a.now (history' a.client)).head? with
      | none => exact ⟨rfl, h⟩
      | some oldest => exact ⟨rfl, by simp⟩
    · exact ⟨rfl, by simp⟩
  · rw [Bool.not_eq_true] at hlimited
    simp [hlimited, h]

/-! ## The logs track what was let through -/

/-- Every client's log tracks the requests of that client that were let through. -/
def Accounts (limiter : RateLimiterMiddleware) (served : List Served) (history : IpHistory)
    (now : ℚ) : Prop :=
  ∀ client, Tracks limiter.requestsPerMinute.toNat limiter.windowSeconds
    (admitted client served) (history client) now

theorem accounts_nil (limiter : RateLimiterMiddleware) (now : ℚ) :
    Accounts limiter [] (fun _ => []) now := fun _ => Tracks.nil ..

theorem Accounts.wait {served : List Served} {now later : ℚ}
    (h : Accounts limiter served history now) (hle : now ≤ later) :
    Accounts limiter served history later := fun client => (h client).wait hle

/-- One request keeps the account. -/
theorem Accounts.step (hlimit : 1 ≤ limiter.requestsPerMinute) {served : List Served} {now : ℚ}
    (h : Accounts limiter served history now) (hle : now ≤ a.now) :
    Accounts limiter (served ++ [limiter.served1 history a]) (limiter.dispatch a history).2
      a.now := by
  intro client
  rw [admitted_append]
  by_cases hclient : a.client = client
  · obtain rfl := hclient
    by_cases hlimited : a.limited = true
    · by_cases hroom : (live limiter.windowSeconds a.now (history a.client)).length <
        limiter.requestsPerMinute
      · have hrun := dispatch_room hlimited hroom
        have hadmitted : (limiter.served1 history a).admittedTo a.client = true := by
          simp [Served.admittedTo, hlimited, (isPassed_iff_room hlimit hlimited).mpr hroom]
        rw [admitted_of_admittedTo hadmitted, hrun]
        dsimp only
        rw [Function.update_self]
        exact (h a.client).accept hle (by omega)
      · obtain ⟨oldest, rest, hlive⟩ := exists_oldest hlimit (not_lt.mp hroom)
        rw [hlive, not_lt] at hroom
        have hrun := dispatch_full hlimited hlive hroom
        have hnot : (limiter.served1 history a).admittedTo a.client = false := by
          simp [Served.admittedTo, Served.isPassed, hrun, tooManyRequests]
        rw [admitted_of_not hnot, List.append_nil, hrun]
        dsimp only
        rw [Function.update_self, ← hlive]
        exact (h a.client).refuse hle
    · rw [Bool.not_eq_true] at hlimited
      rw [admitted_of_not (by simp [Served.admittedTo, hlimited]), List.append_nil,
        dispatch_unlimited hlimited]
      exact (h a.client).wait hle
  · have hnot : (limiter.served1 history a).admittedTo client = false := by
      simp [Served.admittedTo, hclient]
    rw [admitted_of_not hnot, List.append_nil, dispatch_other hclient]
    exact (h client).wait hle

/-- A run keeps the account. -/
theorem Accounts.run (hlimit : 1 ≤ limiter.requestsPerMinute) {served : List Served} {now : ℚ}
    (h : Accounts limiter served history now) {arrivals : List Arrival} {later : ℚ}
    (hordered : arrivals.Pairwise (·.now ≤ ·.now)) (hnow : ∀ a ∈ arrivals, now ≤ a.now)
    (hlater : now ≤ later ∧ ∀ a ∈ arrivals, a.now ≤ later) :
    Accounts limiter (served ++ limiter.serve history arrivals) (limiter.after history arrivals)
      later := by
  induction arrivals generalizing served history now with
  | nil =>
    rw [serve, List.append_nil]
    exact h.wait hlater.1
  | cons a rest ih =>
    have hstep := h.step hlimit (hnow a List.mem_cons_self)
    have hrest := ih hstep (List.Pairwise.of_cons hordered)
      (fun b hb => List.rel_of_pairwise_cons hordered hb)
      ⟨hlater.2 a List.mem_cons_self, fun b hb => hlater.2 b (List.mem_cons_of_mem a hb)⟩
    rw [List.append_assoc] at hrest
    exact hrest

/-- Requests in order of their times, from the start. -/
theorem accounts_serve (hlimit : 1 ≤ limiter.requestsPerMinute) {arrivals : List Arrival}
    {later : ℚ} (hordered : arrivals.Pairwise (·.now ≤ ·.now))
    (hlater : ∀ a ∈ arrivals, a.now ≤ later) :
    Accounts limiter (limiter.serve (fun _ => []) arrivals)
      (limiter.after (fun _ => []) arrivals) later := by
  cases arrivals with
  | nil => exact accounts_nil limiter later
  | cons a rest =>
    refine (accounts_nil limiter a.now).run hlimit hordered ?_ ⟨hlater a List.mem_cons_self, hlater⟩
    intro b hb
    obtain rfl | hb := List.mem_cons.mp hb
    · exact le_rfl
    · exact List.rel_of_pairwise_cons hordered hb

/-! ## Runs -/

theorem serve_append (limiter : RateLimiterMiddleware) (history : IpHistory)
    (arrivals arrivals' : List Arrival) :
    limiter.serve history (arrivals ++ arrivals') = limiter.serve history arrivals ++
      limiter.serve (limiter.after history arrivals) arrivals' := by
  induction arrivals generalizing history with
  | nil => rfl
  | cons a rest ih => exact congrArg _ (ih _)

theorem map_arrival_serve (limiter : RateLimiterMiddleware) (history : IpHistory)
    (arrivals : List Arrival) : (limiter.serve history arrivals).map (·.arrival) = arrivals := by
  induction arrivals generalizing history with
  | nil => rfl
  | cons a rest ih => exact congrArg _ (ih _)

/-- Each request is looked at where those before it left the logs. -/
theorem serve_eq_append_cons {arrivals : List Arrival} {earlier later : List Served} {x : Served}
    (h : limiter.serve history arrivals = earlier ++ x :: later) :
    ∃ before rest, arrivals = before ++ x.arrival :: rest ∧
      earlier = limiter.serve history before ∧
      x = limiter.served1 (limiter.after history before) x.arrival := by
  induction arrivals generalizing history earlier with
  | nil => simp [serve] at h
  | cons a rest ih =>
    cases earlier with
    | nil =>
      obtain ⟨rfl, -⟩ := List.cons.inj h
      exact ⟨[], rest, rfl, rfl, rfl⟩
    | cons y earlier =>
      obtain ⟨rfl, htail⟩ := List.cons.inj h
      obtain ⟨before, rest', rfl, rfl, hx⟩ := ih htail
      exact ⟨a :: before, rest', rfl, rfl, hx⟩

/-- A client's log only sees that client's requests. -/
theorem serve_filter (limiter : RateLimiterMiddleware) (client : Text) {history history' : IpHistory}
    (h : history client = history' client) (arrivals : List Arrival) :
    (limiter.serve history arrivals).filter (·.arrival.client == client) =
      limiter.serve history' (arrivals.filter (·.client == client)) := by
  induction arrivals generalizing history history' with
  | nil => rfl
  | cons a rest ih =>
    rw [serve]
    by_cases hclient : a.client = client
    · obtain rfl := hclient
      obtain ⟨hanswer, hlog⟩ := dispatch_congr h
      rw [List.filter_cons_of_pos (by simp), List.filter_cons_of_pos (by simp), serve, hanswer,
        ih hlog]
    · rw [List.filter_cons_of_neg (by simpa using hclient),
        List.filter_cons_of_neg (by simpa using hclient)]
      exact ih ((dispatch_other hclient).trans h)

/-- A request that is not passed on finds a full window. -/
theorem full_of_not_passed (hlimit : 1 ≤ limiter.requestsPerMinute) {served : List Served}
    (h : Accounts limiter served history a.now)
    (hnot : (limiter.served1 history a).isPassed = false) :
    a.limited = true ∧
      ((within limiter.windowSeconds a.now (admitted a.client served)).length : ℤ) =
        limiter.requestsPerMinute := by
  by_cases hlimited : a.limited = true
  · refine ⟨hlimited, ?_⟩
    have hroom := mt (isPassed_iff_room hlimit hlimited).mpr (Bool.not_eq_true _ ▸ hnot)
    have hle := (h a.client).length_live_le le_rfl
    rw [← (h a.client).live_eq le_rfl]
    omega
  · rw [Bool.not_eq_true] at hlimited
    simp [Served.isPassed, dispatch_unlimited hlimited] at hnot

/-- No window holds more requests of one client that were let through than the limit, only a
full window rejects, and a client's answers are those it would get alone. -/
theorem rate_limit_exact (limiter : RateLimiterMiddleware) (hlimit : 1 ≤ limiter.requestsPerMinute)
    (arrivals : List Arrival) (hordered : arrivals.Pairwise (·.now ≤ ·.now)) :
    (∀ client t, ((within limiter.windowSeconds t
        (admitted client (limiter.serve (fun _ => []) arrivals))).length : ℤ) ≤
      limiter.requestsPerMinute) ∧
    (∀ earlier x later, limiter.serve (fun _ => []) arrivals = earlier ++ x :: later →
      x.isPassed = false → x.arrival.limited = true ∧
      ((within limiter.windowSeconds x.arrival.now
        (admitted x.arrival.client earlier)).length : ℤ) = limiter.requestsPerMinute) ∧
    ∀ client, (limiter.serve (fun _ => []) arrivals).filter (·.arrival.client == client) =
      limiter.serve (fun _ => []) (arrivals.filter (·.client == client)) := by
  refine ⟨?_, ?_, fun client => serve_filter limiter client rfl arrivals⟩
  · intro client t
    have hfew : ∀ later : ℚ, (∀ a ∈ arrivals, a.now ≤ later) →
        ((within limiter.windowSeconds t
          (admitted client (limiter.serve (fun _ => []) arrivals))).length : ℤ) ≤
            limiter.requestsPerMinute := by
      intro later hlater
      have h := (accounts_serve hlimit hordered hlater client).few t
      omega
    cases harrivals : arrivals.getLast? with
    | none =>
      obtain rfl := List.getLast?_eq_none_iff.mp harrivals
      exact hfew 0 (by simp)
    | some last =>
      obtain ⟨init, rfl⟩ := List.getLast?_eq_some_iff.mp harrivals
      refine hfew last.now fun a ha => ?_
      obtain ha | ha := List.mem_append.mp ha
      · exact (List.pairwise_append.mp hordered).2.2 a ha last List.mem_cons_self
      · rw [List.mem_singleton.mp ha]
  · intro earlier x later hserve hnot
    obtain ⟨before, rest, rfl, rfl, hx⟩ := serve_eq_append_cons hserve
    have hsplit := List.pairwise_append.mp hordered
    have hlater : ∀ a ∈ before, a.now ≤ x.arrival.now :=
      fun a ha => hsplit.2.2 a ha x.arrival List.mem_cons_self
    rw [hx] at hnot
    exact full_of_not_passed hlimit (accounts_serve hlimit hsplit.1 hlater) hnot

/-- A request to pause the pipeline. -/
def pauseAt (now : ℚ) : Arrival :=
  ⟨⟨"/pipeline/pause", "POST", some "10.0.0.1", none⟩, now, []⟩

def burst : List Arrival := [pauseAt 0, pauseAt 10, pauseAt 20, pauseAt 60]

/-- Of two requests a minute, the third waits until the first has left. -/
theorem rate_limit_exact_burst :
    ((⟨2, 60⟩ : RateLimiterMiddleware).serve (fun _ => []) burst).map Served.isPassed =
      [true, true, false, true] ∧
    ∀ client t, ((within 60 t (admitted client
      ((⟨2, 60⟩ : RateLimiterMiddleware).serve (fun _ => []) burst))).length : ℤ) ≤ 2 := by
  refine ⟨by decide +kernel, ?_⟩
  exact (rate_limit_exact ⟨2, 60⟩ (by decide) burst (by decide +kernel)).1

/-! ## Coming again after the advertised time -/

/-- When the oldest request that counts against this one was let through. -/
def oldestCounted (limiter : RateLimiterMiddleware) (earlier : List Served) (a : Arrival) :
    Option ℚ :=
  (within limiter.windowSeconds a.now (admitted a.client earlier)).head?

/-- How long the oldest counted request still counts. -/
def remaining (limiter : RateLimiterMiddleware) (a : Arrival) (oldest : ℚ) : ℚ :=
  limiter.windowSeconds - (a.now - oldest)

/-- Rejected with `Retry-After: r` and quiet until then, the client is let through: other
requests may come between. -/
def RetrySuffices (limiter : RateLimiterMiddleware) (before : List Arrival) (x : Arrival) : Prop :=
  ∀ (r : ℤ) (between : List Arrival) (y : Arrival),
    (limiter.dispatch x (limiter.after (fun _ => []) before)).1 = .ok (tooManyRequests r) →
    (before ++ x :: (between ++ [y])).Pairwise (·.now ≤ ·.now) →
    (∀ b ∈ between, b.limited = true → b.client ≠ x.client) →
    y.client = x.client → y.limited = true → y.now = x.now + r →
    (limiter.served1 (limiter.after (fun _ => []) (before ++ x :: between)) y).isPassed = true

theorem tooManyRequests_inj {r r' : ℤ} (h : tooManyRequests r = tooManyRequests r') : r = r' := by
  simp only [tooManyRequests, HttpResponse.json.injEq, List.cons.injEq, Prod.mk.injEq] at h
  exact Json.int.inj h.2.1.2.2.1.2

theorem after_append (limiter : RateLimiterMiddleware) (history : IpHistory)
    (arrivals arrivals' : List Arrival) :
    limiter.after history (arrivals ++ arrivals') =
      limiter.after (limiter.after history arrivals) arrivals' := by
  induction arrivals generalizing history with
  | nil => rfl
  | cons a rest ih => exact ih _

/-- While a client is quiet, its log stays. -/
theorem after_quiet {client : Text} {arrivals : List Arrival}
    (h : ∀ b ∈ arrivals, b.limited = true → b.client ≠ client) :
    limiter.after history arrivals client = history client := by
  induction arrivals generalizing history with
  | nil => rfl
  | cons b rest ih =>
    have hhead : (limiter.dispatch b history).2 client = history client := by
      by_cases hlimited : b.limited = true
      · exact dispatch_other (h b List.mem_cons_self hlimited)
      · rw [Bool.not_eq_true] at hlimited
        rw [dispatch_unlimited hlimited]
    exact (ih fun c hc => h c (List.mem_cons_of_mem b hc)).trans hhead

/-- Truncated, a wait suffices where nothing is cut off or the floor of a second covers it. -/
theorem le_floor_max_iff {wait : ℚ} :
    wait ≤ (⌊max 1 wait⌋ : ℤ) ↔ wait ≤ 1 ∨ ∃ k : ℤ, wait = k := by
  by_cases hwait : wait ≤ 1
  · rw [max_eq_left hwait, Int.floor_one, Int.cast_one]
    exact iff_of_true hwait (Or.inl hwait)
  · rw [max_eq_right (not_le.mp hwait).le]
    constructor
    · intro h
      exact Or.inr ⟨⌊wait⌋, le_antisymm h (Int.floor_le wait)⟩
    · intro h
      obtain h | ⟨k, rfl⟩ := h
      · exact absurd h hwait
      · rw [Int.floor_intCast]

/-- What a rejected request leaves behind: a full log in order, its oldest entry in front. -/
theorem rejected_log (hlimit : 1 ≤ limiter.requestsPerMinute) {served : List Served}
    (h : Accounts limiter served history a.now)
    (hnot : (limiter.served1 history a).isPassed = false) :
    ∃ oldest rest, oldestCounted limiter served a = some oldest ∧
      (oldest :: rest).Pairwise (· ≤ ·) ∧
      ((oldest :: rest).length : ℤ) = limiter.requestsPerMinute ∧
      limiter.dispatch a history =
        (.ok (tooManyRequests (retrySeconds limiter.windowSeconds a.now oldest)),
          Function.update history a.client (oldest :: rest)) := by
  obtain ⟨hlimited, hfull⟩ := full_of_not_passed hlimit h hnot
  have hlive := (h a.client).live_eq le_rfl
  obtain ⟨oldest, rest, hwithin⟩ := exists_oldest hlimit hfull.ge
  have hordered : (oldest :: rest).Pairwise (· ≤ ·) := by
    rw [← hwithin, within]
    exact (h a.client).ordered.filter _
  rw [hwithin] at hlive hfull
  refine ⟨oldest, rest, ?_, hordered, hfull, dispatch_full hlimited hlive hfull.ge⟩
  rw [oldestCounted, hwithin, List.head?_cons]

/-- Where a client finds a full log, it is let through once the oldest entry has left. -/
theorem isPassed_iff_remaining (hlimit : 1 ≤ limiter.requestsPerMinute) {x : Arrival}
    {oldest wait : ℚ} {rest : List ℚ} (hsorted : (oldest :: rest).Pairwise (· ≤ ·))
    (hlength : ((oldest :: rest).length : ℤ) = limiter.requestsPerMinute)
    (hlog : history a.client = oldest :: rest) (hlimited : a.limited = true)
    (hnow : a.now = x.now + wait) :
    (limiter.served1 history a).isPassed = true ↔ remaining limiter x oldest ≤ wait := by
  rw [isPassed_iff_room hlimit hlimited, hlog, ← hlength, Nat.cast_lt, length_live_lt_iff hsorted,
    hnow, remaining]
  constructor <;> intro h <;> linarith

/-- The advertised time suffices exactly where the oldest request that counts leaves the window
within a second or after a whole number of them. -/
theorem retrySuffices_iff (limiter : RateLimiterMiddleware)
    (hlimit : 1 ≤ limiter.requestsPerMinute) (before : List Arrival) (x : Arrival)
    (hordered : (before ++ [x]).Pairwise (·.now ≤ ·.now))
    (hrejected : (limiter.served1 (limiter.after (fun _ => []) before) x).isPassed = false) :
    RetrySuffices limiter before x ↔
      ∀ oldest ∈ oldestCounted limiter (limiter.serve (fun _ => []) before) x,
        remaining limiter x oldest ≤ 1 ∨ ∃ k : ℤ, remaining limiter x oldest = k := by
  have hsplit := List.pairwise_append.mp hordered
  have haccounts := accounts_serve hlimit hsplit.1
    fun a ha => hsplit.2.2 a ha x List.mem_cons_self
  obtain ⟨oldest, rest, holdest, hsorted, hlength, hrun⟩ := rejected_log hlimit haccounts hrejected
  have hlog : ∀ between : List Arrival, (∀ b ∈ between, b.limited = true → b.client ≠ x.client) →
      limiter.after (fun _ => []) (before ++ x :: between) x.client = oldest :: rest := by
    intro between hquiet
    rw [after_append, after, after_quiet hquiet, hrun]
    exact Function.update_self ..
  have hcondition : (∀ o ∈ oldestCounted limiter (limiter.serve (fun _ => []) before) x,
      remaining limiter x o ≤ 1 ∨ ∃ k : ℤ, remaining limiter x o = k) ↔
        remaining limiter x oldest ≤ retrySeconds limiter.windowSeconds x.now oldest := by
    rw [holdest, retrySeconds, ← remaining, le_floor_max_iff]
    simp
  rw [hcondition]
  constructor
  · intro h
    obtain ⟨hlimited, -⟩ := full_of_not_passed hlimit haccounts hrejected
    let y : Arrival :=
      { x with now := x.now + retrySeconds limiter.windowSeconds x.now oldest }
    have hone : (1 : ℤ) ≤ retrySeconds limiter.windowSeconds x.now oldest :=
      Int.le_floor.mpr (by exact_mod_cast le_max_left ..)
    have hle : x.now ≤ y.now := by
      have hone' : (1 : ℚ) ≤ retrySeconds limiter.windowSeconds x.now oldest := by
        exact_mod_cast hone
      dsimp only [y]
      linarith
    have hquiet : ∀ b ∈ ([] : List Arrival), b.limited = true → b.client ≠ x.client := by simp
    have hagain := isPassed_iff_remaining hlimit (a := y) (x := x) hsorted hlength
      (hlog [] hquiet) hlimited rfl
    refine hagain.mp (h _ [] y (by rw [hrun]) ?_ hquiet rfl hlimited rfl)
    rw [List.nil_append, List.append_cons, List.pairwise_append]
    refine ⟨hordered, List.pairwise_singleton .., ?_⟩
    intro a ha b hb
    obtain rfl := List.mem_singleton.mp hb
    obtain ha | ha := List.mem_append.mp ha
    · exact (hsplit.2.2 a ha x List.mem_cons_self).trans hle
    · rw [List.mem_singleton.mp ha]
      exact hle
  · intro h r between y hanswer _ hquiet hclient hlimited hnow
    rw [hrun] at hanswer
    rw [← tooManyRequests_inj (Except.ok.inj hanswer)] at hnow
    refine (isPassed_iff_remaining hlimit hsorted hlength ?_ hlimited hnow).mpr h
    rw [hclient]
    exact hlog between hquiet

/-- Ten seconds after a request at a whole second, the advertised fifty suffice. -/
theorem retrySuffices_whole : RetrySuffices ⟨1, 60⟩ [pauseAt 0] (pauseAt 10) := by
  refine (retrySuffices_iff ⟨1, 60⟩ (by decide) [pauseAt 0] (pauseAt 10) (by decide +kernel)
    (by decide +kernel)).mpr ?_
  have holdest : oldestCounted ⟨1, 60⟩
      ((⟨1, 60⟩ : RateLimiterMiddleware).serve (fun _ => []) [pauseAt 0]) (pauseAt 10) = some 0 := by
    decide +kernel
  intro oldest h
  rw [holdest] at h
  obtain rfl := Option.some.inj h
  refine Or.inr ⟨50, ?_⟩
  norm_num [remaining, pauseAt]

/-- Half a second after the only request that counts, 59.5 seconds are left and 59 advertised. -/
theorem not_retrySuffices_half : ¬RetrySuffices ⟨1, 60⟩ [pauseAt (1 / 2)] (pauseAt 1) := by
  intro h
  have hanswer : ((⟨1, 60⟩ : RateLimiterMiddleware).dispatch (pauseAt 1)
      (after ⟨1, 60⟩ (fun _ => []) [pauseAt (1 / 2)])).1 = .ok (tooManyRequests 59) := by
    rw [@dispatch_full _ _ _ (1 / 2) [] (by decide +kernel) (by decide +kernel) (by decide)]
    have hseconds : retrySeconds 60 1 (1 / 2) = 59 := by decide +kernel
    exact congrArg (fun r => Except.ok (tooManyRequests r)) hseconds
  have hpassed := h 59 [] (pauseAt 60) hanswer (by decide +kernel) (by simp) rfl
    (by decide +kernel) (by norm_num [pauseAt])
  revert hpassed
  decide +kernel

end RateLimiterMiddleware
end IceStream.Backend
