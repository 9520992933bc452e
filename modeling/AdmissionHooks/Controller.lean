import AdmissionHooks.Registration
import AdmissionHooks.Settings.Basic

/-!
# The controller

The handlers that run when the controller starts and when it stops. Starting loads a client
configuration and registers the webhooks; a failure of the registration is permanent, so that the
controller ends and is not left half started. Stopping deregisters what a start that succeeded has
registered, and only tells of failures.
-/

namespace AdmissionHooks

structure ClientConfiguration where
  host : Option String
  caFile : Option String := none
  deriving DecidableEq, Repr

/-- How the two sources of a client configuration answer. -/
structure ClientSources where
  inCluster : Except Failure ClientConfiguration
  kubeconfig : Except Failure ClientConfiguration

namespace ClientSources

def logger : String := "kube_policy.utils.kubernetes"

def debugRecord (message : String) : Log.Record := recordOf logger Log.Level.debug message []

def failedRecord (logger : String) (e : Failure) : Log.Record :=
  recordOf logger Log.Level.error ("Failed to load Kubernetes configuration: " ++ e.message) []

def loadFile (s : ClientSources) (file : Option String) : Action σ ClientConfiguration := do
  Action.call (.loadKubeconfig (nonEmpty file))
  match s.kubeconfig with
  | .ok c => do
      Action.log (debugRecord "Loaded kubeconfig from local environment")
      return c
  | .error e => do
      if e.isConfiguration then
        Action.log (failedRecord logger e)
      Action.fail e

/-- Loads a client configuration; the file is tried only when the cluster has none to give. -/
def load (s : ClientSources) (file : Option String) : Action σ ClientConfiguration := do
  Action.call .loadInCluster
  match s.inCluster with
  | .ok c => do
      Action.log (debugRecord "Loaded in-cluster Kubernetes configuration")
      return c
  | .error e => if e.isConfiguration then s.loadFile file else Action.fail e

end ClientSources

namespace Registrar

def ofSettings (s : Settings) (c : ClientConfiguration) : Registrar where
  space := some s.space
  serviceName := some s.serviceName
  deploymentName := some s.deploymentName
  address := some s.address
  tls := TlsAuthority.ofFile c.caFile

end Registrar

/-- A stretch of a handler's log, written in the handler's own surroundings or in a copy of them. -/
inductive Stretch where
  | own (records : List Log.Record)
  | copied (records : List Log.Record)
  deriving Repr

def Stretch.records : Stretch → List Log.Record
  | .own rs => rs
  | .copied rs => rs

/-- What a handler leaves behind. The memo holds the registrar of a start that succeeded. -/
structure Handled where
  outcome : Except Failure Unit
  memo : Option Registrar
  cluster : Cluster
  calls : List Call
  log : List Stretch

def Handled.records (h : Handled) : List Log.Record := h.log.flatMap Stretch.records

namespace Controller

def logger : String := "kube_policy.operator"

def record (level : Log.Level) (message : String) : Log.Record := recordOf logger level message []

def startingRecord : Log.Record := record Log.Level.info "Starting kube-policy operator..."

def addressRecord (s : Settings) : Log.Record :=
  record Log.Level.info ("Debug mode: webhooks point at https://" ++ s.address)

def unavailable (e : Failure) : Failure :=
  .permanent (.str ("Kubernetes configuration unavailable: " ++ e.message))

def registrationFailed (e : Failure) : String := "Webhook registration failed: " ++ e.message

def registrationRecord (e : Failure) : Log.Record :=
  recordOf logger Log.Level.error (registrationFailed e) [(.errorType, .str e.name)]

def createRegistrar (s : Settings) (sources : ClientSources) : Action σ Registrar := do
  let c ← sources.load (some s.kubeconfig)
  return Registrar.ofSettings s c

def prepare (s : Settings) (sources : ClientSources) : Action Cluster Registrar := do
  Action.log startingRecord
  if s.mode = .debug then
    Action.log (addressRecord s)
  match ← (createRegistrar s sources).attempt with
  | .ok r => return r
  | .error e =>
      if e.isConfiguration then do
        Action.log (ClientSources.failedRecord logger e)
        Action.fail (unavailable e)
      else Action.fail e

/-- The end of an iteration cannot leave a handler as such; it is told as a failure of the runtime. -/
def leaving : Failure → Failure
  | .runtime "StopIteration" _ => .raised "RuntimeError" "coroutine raised StopIteration"
  | e => e

def conclude : Except Failure Unit → Except Failure Unit × List Log.Record
  | .ok () => (.ok (), [])
  | .error e =>
      if e.isReport then (.error (.permanent (.str (registrationFailed e))), [registrationRecord e])
      else (.error (leaving e), [])

def startup (s : Settings) (sources : ClientSources) (files : FileSystem) (memo : Option Registrar)
    (c : Cluster) : Handled :=
  let prepared := (prepare s sources).run c
  match prepared.outcome with
  | .error e => ⟨.error (leaving e), memo, prepared.state, prepared.calls, [.own prepared.records]⟩
  | .ok r =>
      let registered := (r.register files).run ⟨prepared.state, none⟩
      let ending := conclude registered.outcome
      let memo := match ending.1 with
        | .ok () => some r
        | .error _ => memo
      ⟨ending.1, memo, registered.state.cluster, prepared.calls ++ registered.calls,
        [.own prepared.records, .copied registered.records, .own ending.2]⟩

def stoppingRecord : Log.Record := record Log.Level.info "Shutting down kube-policy operator..."

def nothingRecord : Log.Record :=
  record Log.Level.info "No webhooks were registered, nothing to clean up"

def ignoredRecord (e : Failure) : Log.Record :=
  record Log.Level.warning ("Ignoring webhook deregistration error: " ++ e.message)

def deregisteredRecord : Log.Record := record Log.Level.info "Admission webhooks deregistered"

def closing : Except Failure (List Failure) → List Log.Record
  | .error _ => []
  | .ok [] => [deregisteredRecord]
  | .ok reports => reports.map ignoredRecord

def cleanup (memo : Option Registrar) (c : Cluster) : Handled :=
  match memo with
  | none => ⟨.ok (), memo, c, [], [.own [stoppingRecord, nothingRecord]]⟩
  | some r =>
      let done := r.deregister.run c
      ⟨(done.outcome.map fun _ => ()).mapError leaving, memo, done.state, done.calls,
        [.own [stoppingRecord], .copied done.records, .own (closing done.outcome)]⟩

/-- How the process ends: by itself, with a status, or with a value in place of one. -/
inductive Exit where
  | none
  | status (n : Nat)
  | value (v : Json)
  deriving DecidableEq, Repr

def interruptedRecord : Log.Record := record Log.Level.info "Received shutdown signal"

def endedRecord (e : Failure) : Log.Record :=
  record Log.Level.error ("Operator failed with error: " ++ e.message)

def exitOf : Option Failure → Except Failure Exit × List Log.Record
  | none => (.ok .none, [])
  | some (.runtime "KeyboardInterrupt" _) => (.ok (.status 0), [interruptedRecord])
  | some (.runtime "SystemExit" v) => (.ok (.value v), [])
  | some e => if e.isStop then (.error e, []) else (.ok (.status 1), [endedRecord e])

end Controller

end AdmissionHooks
