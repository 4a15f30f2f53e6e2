import IceStream.Lib.Convert
import IceStream.Lib.Preserves
import IceStream.Lib.Text
import Mathlib.Data.List.Infix

/-!
# The Flink controller

`pause_job` and `resume_job` talk to the JobManager over REST and to the
container runtime. What these answer is up to the ports; each controller keeps
the path of its last savepoint in its memory.
-/

namespace IceStream.Remediation
open Python

structure HttpRequest where
  method : String
  url : Text
  data : Option String := none
  timeout : ℕ

/-- A response; its body is there or cannot be read. -/
structure HttpResponse where
  status : ℕ
  body : Except Exc Bytes

/-- What `subprocess.run` gives back. -/
structure CompletedProcess where
  returnCode : ℤ
  stdout : Text

structure FlinkPorts (φ : Type) where
  urlopen : HttpRequest → Fallible φ HttpResponse
  runCommand : List Text → Fallible φ CompletedProcess
  sqlPath : Text
  sqlExists : φ → Bool
  readSql : Fallible φ Text
  getenv : String → φ → Option Text
  /-- The script on the standard input of the SQL client. -/
  submit : Text → Fallible φ Unit
  unicode : Unicode
  nestingLimit : ℕ

structure FlinkConfig where
  flinkUrl : Text := "http://localhost:8081"
  jobmanagerContainer : Text := "icestream-flink-jobmanager"
  savepointsDir : Text := "s3://checkpoints/flink-savepoints/"

/-! ## What an answer says -/

def ofExcept {φ α : Type} (x : Except Exc α) : Fallible φ α := fun s => (x, s)

/-- `v.get(k, default)`, where `v` need not be a `dict`. -/
def getKey (v : Json) (k : String) (default : Json) : Except Exc Json := match v with
  | .obj kvs => .ok (Dict.getD kvs (text k) default)
  | v => .error (attributeError (text s!"'{v.typeName}' object has no attribute 'get'"))

/-- `v[k]` -/
def item (v : Json) (k : String) : Except Exc Json := match v with
  | .obj kvs => match Dict.get? kvs (text k) with
    | some w => .ok w
    | none => .error ⟨"KeyError", false, text s!"'{k}'"⟩
  | v => .error (typeError (text s!"'{v.typeName}' object is not subscriptable"))

/-- `sub in v`, for a text `sub`. -/
def inJson (sub : Text) : Json → Except Exc Bool
  | .str s => .ok (sub <:+: s)
  | .arr xs => .ok (xs.any fun | .str s => s = sub | _ => false)
  | .obj kvs => .ok (Dict.has kvs sub)
  | v => .error (typeError (text s!"argument of type '{v.typeName}' is not iterable"))

/-- `v in (words…)` -/
def isOneOf (words : List String) : Json → Bool
  | .str s => words.any fun word => text word = s
  | _ => false

/-- The comprehension's condition on a job of the overview. -/
def isIceStreamJob (j : Json) : Except Exc Bool := do
  if !isOneOf ["RUNNING", "INITIALIZING", "CREATED", "RESTARTING"] (← getKey j "state" .null) then
    return false
  if ← inJson "checkout_events" (← getKey j "name" (.str [])) then return true
  if ← inJson "icestream" (← getKey j "name" (.str [])) then return true
  inJson "insert-into" (← getKey j "name" (.str []))

/-- `t or …`: a text that is there and not empty. -/
def givenText : Option Text → Option Text
  | some [] => none
  | given => given

def filterJobs : List Json → Except Exc (List Json)
  | [] => .ok []
  | j :: js => do
    let active ← isIceStreamJob j
    let rest ← filterJobs js
    pure (if active then j :: rest else rest)

variable {φ : Type}

namespace FlinkController

variable (ports : FlinkPorts φ) (cfg : FlinkConfig)

def readBody (resp : HttpResponse) : Fallible φ Text :=
  ofExcept (resp.body >>= decodeUtf8)

/-- `_rest_request` -/
def restRequest (method : String) (path : Text) (payload : Option Json := none)
    (timeout : ℕ := 5) : Fallible φ Json :=
  Fallible.catching (do
    let cleanPath := if text "/" <+: path then path else text "/" ++ path
    let base := (cfg.flinkUrl.reverse.dropWhile (· = codePoint 0x2F)).reverse
    let resp ← ports.urlopen {
      method := method
      url := base ++ cleanPath
      data := payload.map (Json.dumps false)
      timeout := timeout }
    if resp.status ∈ [200, 201, 202] then
      let body ← readBody resp
      if body.isEmpty then pure (.obj []) else ofExcept (loads ports.nestingLimit body)
    else pure .null) fun _ => pure .null

def getActiveJobId : Fallible φ (Option Text) :=
  Fallible.catching (do
    let data ← restRequest ports cfg "GET" "/jobs/overview"
    if data.truthy then
      let jobs ← ofExcept ((← ofExcept (getKey data "jobs" (.arr []))).iter)
      match ← ofExcept (filterJobs jobs) with
      | [] => pure none
      | job :: _ => return some (Json.toText ports.unicode (← ofExcept (item job "jid")))
    else pure none) fun _ => pure none

def getJobStatus (jobId : Text) : Fallible φ (Option Text) :=
  Fallible.catching (do
    let data ← restRequest ports cfg "GET" (text "/jobs/" ++ jobId)
    if data.truthy then
      return some (Json.toText ports.unicode (← ofExcept (getKey data "state" .null)))
    else pure none) fun _ => pure none

/-! ## Stopping a job -/

/-- Where a stop with savepoint stands. -/
inductive SavepointPoll
  | pending
  | completed (location : Json)
  | failed

def pollSavepoint (url : Text) : Fallible φ SavepointPoll :=
  Fallible.catching (do
    let resp ← ports.urlopen { method := "GET", url := url, timeout := 5 }
    if resp.status = 200 then
      let pData ← ofExcept (loads ports.nestingLimit (← readBody resp))
      let statusId ← ofExcept (getKey (← ofExcept (getKey pData "status" (.obj []))) "id" .null)
      if isOneOf ["COMPLETED"] statusId then
        let operation ← ofExcept (getKey pData "operation" (.obj []))
        return .completed (← ofExcept (getKey operation "location" .null))
      else if isOneOf ["FAILED", "FAILURE"] statusId then
        -- the warning reads the cause; where it cannot, the polling goes on
        let operation ← ofExcept (getKey pData "operation" (.obj []))
        let _ ← ofExcept (getKey operation "failure-cause" .null)
        return .failed
      else return .pending
    else return .pending) fun _ => pure .pending

/-- The location of the savepoint, once one of the polls says it is complete. -/
def pollLoop (url : Text) : ℕ → Fallible φ (Option Json)
  | 0 => pure none
  | polls + 1 => do
    match ← pollSavepoint ports url with
    | .pending => pollLoop url polls
    | .completed location => pure (some location)
    | .failed => pure none

/-- `POST /jobs/:jobid/stop` and its polls -/
def stopWithSavepoint (jobId : Text) : Fallible φ (Option Json) :=
  Fallible.catching (do
    let resp ← ports.urlopen {
      method := "POST"
      url := cfg.flinkUrl ++ text "/jobs/" ++ jobId ++ text "/stop"
      data := some (Json.dumps false
        (.obj [("drain", .bool false), ("targetDirectory", .str cfg.savepointsDir)]))
      timeout := 10 }
    if resp.status ∈ [200, 202] then
      let stopData ← ofExcept (loads ports.nestingLimit (← readBody resp))
      let triggerId ← ofExcept (getKey stopData "request-id" .null)
      if triggerId.truthy then
        pollLoop ports (cfg.flinkUrl ++ text "/jobs/" ++ jobId ++ text "/savepoints/" ++
          Json.toText ports.unicode triggerId) 15
      else pure none
    else pure none) fun _ => pure none

def restCancel (jobId : Text) : Fallible φ Bool :=
  Fallible.catching (do
    let resp ← ports.urlopen {
      method := "PATCH"
      url := cfg.flinkUrl ++ text "/jobs/" ++ jobId ++ text "?mode=cancel"
      timeout := 5 }
    pure (resp.status ∈ [200, 202])) fun _ => pure false

def cliCancel (jobId : Text) : Fallible φ Bool :=
  Fallible.catching (do
    let res ← ports.runCommand ["docker", "exec", cfg.jobmanagerContainer,
      "/opt/flink/bin/flink", "cancel", jobId]
    pure (res.returnCode = 0 ∨ text "Cancelled job" <:+: res.stdout)) fun _ => pure false

/-- The savepoint of a stop that succeeded, by whichever of the three ways; `none` when
all of them failed. -/
def stopJob (jobId : Text) : Fallible φ (Option Json) := do
  match ← stopWithSavepoint ports cfg jobId with
  | some savepointPath => pure (some savepointPath)
  | none =>
    if ← restCancel ports cfg jobId then pure (some .null)
    else if ← cliCancel ports cfg jobId then pure (some .null)
    else pure none

/-- The state in which the job is found to have stopped. -/
def confirmStopped (jobId : Text) : ℕ → Fallible φ (Option Text)
  | 0 => pure none
  | polls + 1 => do
    let st ← getJobStatus ports cfg jobId
    let final := (givenText st).getD "CANCELED"
    if st ∈ [some (text "CANCELED"), some (text "SUSPENDED"), some (text "FINISHED"),
        some (text "FAILED")] then pure (some final)
    else if (← getActiveJobId ports cfg) ≠ some jobId then pure (some final)
    else confirmStopped jobId polls

/-! ## The script of a job -/

/-- The text of the SQL file with the credentials in it. -/
def withCredentials (user pwd sql : Text) : Text :=
  replaceText "$\x7bMINIO_ROOT_PASSWORD\x7d" pwd (replaceText "$\x7bMINIO_ROOT_USER\x7d" user sql)

def enforcerSetting : Text := "SET 'table.exec.sink.not-null-enforcer'"

def enforcerStatement : Text := "SET 'table.exec.sink.not-null-enforcer' = 'DROP';"

def savepointDirective (savepoint : Text) : Text :=
  text "SET 'execution.savepoint.path' = '" ++ savepoint ++ text "';\n" ++
    text "SET 'execution.savepoint.ignore-unclaimed-state' = 'false';\n"

/-- The script with the directive behind the enforcer's setting, or else before everything. -/
def injectSavepoint (savepoint script : Text) : Text :=
  if enforcerSetting <:+: script then
    replaceText enforcerStatement
      (enforcerStatement ++ text "\n" ++ savepointDirective savepoint) script
  else savepointDirective savepoint ++ script

def withExit (script : Text) : Text :=
  if text "EXIT;" <:+ strip script then script else script ++ text "\nEXIT;\n"

/-- What goes to the SQL client for a target savepoint, if there is one. -/
def renderScript (u : Unicode) (target : Json) (template : Text) : Text :=
  withExit (if target.truthy then injectSavepoint (target.toText u) template else template)

/-- The file as it is when the job is submitted, with the credentials of the environment. -/
def loadTemplate : Fallible φ Text := do
  let env (name : String) (default : Text) : Fallible φ Text :=
    Fallible.read fun w => (givenText (ports.getenv name w)).getD default
  let user ← env "MINIO_ROOT_USER" (← env "MINIO_ACCESS_KEY" "icestream_minio")
  let pwd ← env "MINIO_ROOT_PASSWORD" (← env "MINIO_SECRET_KEY" "change-me-minio-secret")
  return withCredentials user pwd (← ports.readSql)

/-- The job found running after a submission. -/
def confirmRunning : ℕ → Fallible φ (Option Text)
  | 0 => pure none
  | polls + 1 => do
    match givenText (← getActiveJobId ports cfg) with
    | some jobId => pure (some jobId)
    | none => confirmRunning polls

end FlinkController

/-! ## The two calls -/

/-- What happens to the job. -/
inductive FlinkAction
  | stopped (controller : ℕ) (savepoint : Json)
  /-- The script given to the SQL client, and what it was made from. -/
  | submitted (controller : ℕ) (template script : Text)
  /-- After a submission a job was found running. -/
  | confirmed (controller : ℕ)

/-- The controllers of one cluster: their memories, what happened, the latest first, and
the cluster itself. -/
structure FlinkWorld (φ : Type) where
  lastSavepointPath : ℕ → Json
  past : List FlinkAction
  outside : φ

abbrev FlinkM (φ : Type) := Fallible (FlinkWorld φ)

namespace FlinkWorld

def onOutside {α : Type} (x : Fallible φ α) : FlinkM φ α := fun w =>
  ((x w.outside).1, { w with outside := (x w.outside).2 })

def log (action : FlinkAction) : FlinkM φ Unit :=
  Fallible.update fun w => { w with past := action :: w.past }

/-- `self._last_savepoint_path = savepoint` -/
def remember (controller : ℕ) (savepoint : Json) : FlinkM φ Unit :=
  Fallible.update fun w =>
    { w with lastSavepointPath := Function.update w.lastSavepointPath controller savepoint }

end FlinkWorld

namespace FlinkController
open FlinkWorld

variable (ports : FlinkPorts φ) (cfg : FlinkConfig) (controller : ℕ)

def pauseJob : FlinkM φ Dict := do
  match givenText (← onOutside (getActiveJobId ports cfg)) with
  | none => pure [
      ("status", .str "SKIPPED"),
      ("message", .str "No active Flink job running"),
      ("job_id", .null),
      ("savepoint_path", .null)]
  | some jobId => match ← onOutside (stopJob ports cfg jobId) with
    | none => pure [
        ("status", .str "FAILED"),
        ("error", .str (text "Failed to cancel Flink job '" ++ jobId ++
          text "' via REST API or CLI")),
        ("job_id", .str jobId),
        ("savepoint_path", .null)]
    | some savepointPath => do
      remember controller savepointPath
      log (.stopped controller savepointPath)
      match ← onOutside (confirmStopped ports cfg jobId 10) with
      | some final => pure [
          ("status", .str "SUCCESS"),
          ("job_id", .str jobId),
          ("final_state", .str final),
          ("savepoint_path", savepointPath)]
      | none => pure [
          ("status", .str "FAILED"),
          ("error", .str (text "Flink job '" ++ jobId ++ text
            "' cancellation request sent, but job state did not transition within timeout")),
          ("job_id", .str jobId),
          ("savepoint_path", savepointPath)]

/-- The submission, with the exception that ends it. -/
def submitJob (target : Json) : FlinkM φ (Except Exc Unit) :=
  Fallible.attempt (do
    let template ← onOutside (loadTemplate ports)
    let script := renderScript ports.unicode target template
    log (.submitted controller template script)
    onOutside (ports.submit script))

/-- `resume_job` once it is clear that no job is running. -/
def startJob (target : Json) : FlinkM φ Dict := do
  if !(← Fallible.read fun w => ports.sqlExists w.outside) then
    pure [
      ("status", .str "FAILED"),
      ("error", .str (text "SQL file not found at '" ++ ports.sqlPath ++ text "'")),
      ("job_id", .null)]
  else match ← submitJob ports controller target with
  | .error e => pure [
      ("status", .str "FAILED"),
      ("error", .str (text "Job submission failed: " ++ e.message)),
      ("job_id", .null)]
  | .ok () => match ← onOutside (confirmRunning ports cfg 15) with
    | some jobId => do
      remember controller .null
      log (.confirmed controller)
      pure [
        ("status", .str "SUCCESS"),
        ("job_id", .str jobId),
        ("final_state", .str "RUNNING"),
        ("resumed_from_savepoint", target)]
    | none => pure [
        ("status", .str "FAILED"),
        ("error", .str "Flink job submitted, but active job was not detected within timeout"),
        ("job_id", .null)]

def resumeJob (savepointPath : Json := .null) : FlinkM φ Dict := do
  match givenText (← onOutside (getActiveJobId ports cfg)) with
  | some activeId => pure [
      ("status", .str "SKIPPED"),
      ("message", .str (text "Flink job '" ++ activeId ++ text "' is already running")),
      ("job_id", .str activeId)]
  | none =>
    let last ← Fallible.read fun w => w.lastSavepointPath controller
    startJob ports cfg controller (savepointPath.orElse last)

end FlinkController
end IceStream.Remediation
