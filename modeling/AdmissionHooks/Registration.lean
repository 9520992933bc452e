import AdmissionHooks.Builder
import AdmissionHooks.CertificateAuthority

/-!
# Registration

A client registers one configuration of each kind. Registering starts from nothing: what an
earlier run left under the client's two names is deleted first. There is no way back, so what was
created before a failure stays. Deregistering tries both kinds whatever happens to the first, and
gives the failed deletions back as reports.
-/

namespace AdmissionHooks

structure Registrar where
  space : Option String
  serviceName : Option String
  deploymentName : Option String
  address : Option String := none
  labels : Labels := appLabels
  tls : TlsAuthority := {}
  deriving DecidableEq, Repr

namespace Registrar

def logger : String := "kube_policy.webhooks.registration"

def secretName (r : Registrar) : String := rootCaSecretName (shown r.serviceName) (shown r.space)

def authority (r : Registrar) : AuthorityLookup := ⟨some r.secretName, r.space, r.tls⟩

def builder (r : Registrar) : Builder where
  space := r.space
  serviceName := r.serviceName
  address := r.address
  owner := some ⟨r.deploymentName, r.space⟩
  labels := r.labels

def mode (r : Registrar) : Mode := Mode.ofAddress r.address

def configurationName (r : Registrar) (k : Kind) : String := k.configurationName r.mode

def resourceFields (k : Kind) (name : String) : List (Log.Field × Json) :=
  [(.resourceType, .str k.resource), (.resourceName, .str name)]

def failureFields (k : Kind) (name operation : String) (e : Failure) : List (Log.Field × Json) :=
  resourceFields k name ++ [(.operation, .str operation), (.httpStatus, e.status)]

def openingRecord (r : Registrar) : Log.Record :=
  match r.mode with
  | .debug =>
      recordOf logger Log.Level.info ("Registering webhook with url https://" ++ shown r.address)
        [(.mode, .str Mode.debug.name)]
  | .production =>
      recordOf logger Log.Level.info
        ("Registering webhook with service " ++ shown r.space ++ "/" ++ shown r.serviceName)
        [(.mode, .str Mode.production.name), (.space, Json.optional .str r.space)]

def deletedRecord (k : Kind) (name : String) : Log.Record :=
  recordOf logger Log.Level.debug ("Deleted " ++ k.resource ++ " " ++ name) (resourceFields k name)

def notDeletedRecord (k : Kind) (name : String) (e : Failure) : Log.Record :=
  recordOf logger Log.Level.debug e.message (failureFields k name "delete" e)

def createdRecord (k : Kind) (name : String) : Log.Record :=
  recordOf logger Log.Level.info ("Created " ++ k.resource ++ " " ++ name) (resourceFields k name)

def notCreatedRecord (k : Kind) (name : String) (e : Failure) : Log.Record :=
  recordOf logger Log.Level.error (createFailed k.resource name ++ ": " ++ e.reason.displayText)
    (failureFields k name "create" e)

def closingRecord (r : Registrar) : Log.Record :=
  recordOf logger Log.Level.info
    ("Registered admission webhooks " ++ r.configurationName .mutating ++ " and " ++
      r.configurationName .validating)
    [(.mode, .str r.mode.name), (.operation, .str "register")]

/-- Deletes the configuration of a kind; a failed request is given back as a report. -/
def remove (r : Registrar) (k : Kind) : Action Cluster (Option Failure) := do
  let name := r.configurationName k
  match ← (Action.delete k name).attempt with
  | .ok () => do
      Action.log (deletedRecord k name)
      return none
  | .error e =>
      if e.isRequestFailure then do
        let report := Failure.wrap (deleteFailed k.resource name) e
        Action.log (notDeletedRecord k name report)
        return some report
      else Action.fail e

/-- Deletes both configurations and gives the reports of the failed requests, in order. -/
def deregister (r : Registrar) : Action Cluster (List Failure) := do
  let first ← r.remove .mutating
  let second ← r.remove .validating
  return first.toList ++ second.toList

/-- Sends a configuration of a kind; a failed request ends the registration with a report. -/
def send (k : Kind) (body : Configuration) : Action Cluster Unit := do
  match ← (Action.create k body).attempt with
  | .ok () => Action.log (createdRecord k body.name)
  | .error e =>
      if e.isRequestFailure then do
        let report := Failure.wrap (createFailed k.resource body.name) e
        Action.log (notCreatedRecord k body.name report)
        Action.fail report
      else Action.fail e

def place (r : Registrar) (k : Kind) (bundle : Bytes) (owner : OwnerResolution) :
    Action Site Unit := do
  let body ← r.builder.build k bundle (some owner)
  (send k body).atSite

def register (r : Registrar) (files : FileSystem) : Action Site Unit := do
  Action.log r.openingRecord
  let _ ← r.deregister.atSite
  let bundle ← (r.authority.resolve files).atSite
  let owner ← r.builder.resolveOwner.atSite
  r.place .mutating bundle owner
  r.place .validating bundle owner
  Action.log r.closingRecord

end Registrar

end AdmissionHooks
