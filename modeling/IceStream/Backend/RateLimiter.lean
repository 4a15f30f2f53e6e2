import IceStream.Lib.SlidingLog
import IceStream.Lib.Json
import IceStream.Lib.JsonNumbers
import IceStream.Lib.Text
import Mathlib.Algebra.Order.Ring.Rat
import Mathlib.Data.Rat.Floor

/-!
# The rate limiter

The middleware keeps, for each client, the times of the requests it let through.
Times are rational: differences of the clock's floats are exact.
-/

namespace IceStream.Backend
open Python SlidingLog

/-- `PROTECTED_PATHS` -/
def protectedPaths : List Text :=
  ["/pipeline/pause", "/pipeline/resume", "/pipeline/recover", "/pipeline/remediate"]

structure RateLimiterMiddleware where
  requestsPerMinute : ℤ
  windowSeconds : ℚ

/-- What the middleware reads of a request: `client` is the peer's host. -/
structure HttpRequest where
  path : Text
  method : Text
  client : Option Text
  forwardedFor : Option Text

/-- A request, the time at which it is looked at and `DISABLE_RATE_LIMIT` at that time. -/
structure Arrival where
  request : HttpRequest
  now : ℚ
  disableRateLimit : Text := []

/-- `passed` stands for the response of the next application. -/
inductive HttpResponse
  | passed
  | json (statusCode : ℕ) (content : Dict) (headers : List (Text × Text))

/-- `_ip_history`: a client that was never seen has an empty list. -/
abbrev IpHistory := Text → List ℚ

/-- `t.rstrip("/")` -/
def rstripSlashes (t : Text) : Text := (t.reverse.dropWhile (·.val == 0x2F)).reverse

/-- `_is_protected` -/
def isProtected (path : Text) : Bool :=
  let pathLower := rstripSlashes path
  protectedPaths.contains pathLower ||
    decide (text "/incidents/" <+: pathLower) &&
      (decide (text "/acknowledge" <:+ pathLower) || decide (text "/resolve" <:+ pathLower))

/-- The address the limit is counted for. -/
def HttpRequest.clientIp (request : HttpRequest) : Text :=
  match request.forwardedFor with
  | some (c :: rest) => strip ((c :: rest).takeWhile (·.val != 0x2C))
  | _ => request.client.getD "unknown_ip"

namespace Arrival

/-- The request is not passed on before the limit is looked at. -/
def limited (a : Arrival) : Bool :=
  (isProtected a.request.path && upperText a.request.method == text "POST") &&
    !(lowerText a.disableRateLimit == text "true" || lowerText a.disableRateLimit == text "1")

abbrev client (a : Arrival) : Text := a.request.clientIp

end Arrival

def indexError : Exc := ⟨"IndexError", false, "list index out of range"⟩

/-- `int(x)` of a number that is not negative -/
def retrySeconds (windowSeconds now oldest : ℚ) : ℤ := ⌊max 1 (windowSeconds - (now - oldest))⌋

def tooManyRequests (retryAfter : ℤ) : HttpResponse :=
  .json 429
    [("detail", .str "Too Many Requests: Rate limit exceeded for control operation."),
      ("error", .str "RATE_LIMIT_EXCEEDED"), ("retry_after_seconds", .int retryAfter)]
    [("Retry-After", text (toString retryAfter))]

namespace RateLimiterMiddleware

variable (limiter : RateLimiterMiddleware)

/-- `dispatch` -/
def dispatch (a : Arrival) : Fallible IpHistory HttpResponse :=
  if !a.limited then pure .passed
  else do
    let timestamps ← Fallible.read fun history => live limiter.windowSeconds a.now (history a.client)
    if limiter.requestsPerMinute ≤ timestamps.length then
      match timestamps.head? with
      | none => Fallible.raise indexError
      | some oldest => do
        Fallible.update fun history => Function.update history a.client timestamps
        pure (tooManyRequests (retrySeconds limiter.windowSeconds a.now oldest))
    else do
      Fallible.update fun history => Function.update history a.client (timestamps ++ [a.now])
      pure .passed

/-! ## Serving a sequence of requests -/

/-- A request with its answer. -/
structure Served where
  arrival : Arrival
  answer : Except Exc HttpResponse

def serve (history : IpHistory) : List Arrival → List Served
  | [] => []
  | a :: rest => ⟨a, (limiter.dispatch a history).1⟩ :: serve (limiter.dispatch a history).2 rest

/-- The logs after the requests. -/
def after (history : IpHistory) : List Arrival → IpHistory
  | [] => history
  | a :: rest => after (limiter.dispatch a history).2 rest

end RateLimiterMiddleware
end IceStream.Backend
