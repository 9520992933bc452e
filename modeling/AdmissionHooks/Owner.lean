import AdmissionHooks.Cluster

/-!
# Owners

Configurations in production are owned by the deployment of the controller, so that they go when
it goes. A lookup that fails is no failure of the registration: it leaves the configurations
without an owner.
-/

namespace AdmissionHooks

inductive OwnerStatus where
  | resolved
  | lookupFailed
  | notApplicable
  deriving DecidableEq, Repr

namespace OwnerStatus

def name : OwnerStatus → String
  | .resolved => "resolved"
  | .lookupFailed => "lookup_failed"
  | .notApplicable => "not_applicable"

def all : List OwnerStatus := [.resolved, .lookupFailed, .notApplicable]

def unknown (v : Json) : Failure :=
  .raised "ValueError" (String.ofList v.nested ++ " is not a valid OwnerStatus")

def ofValue (v : Json) : Except Failure OwnerStatus :=
  match v with
  | .str name =>
      match all.find? (·.name == name) with
      | some s => .ok s
      | none => .error (unknown v)
  | v => .error (unknown v)

end OwnerStatus

/-- A part that may not be left out. -/
def required (part : String) (value : Option String) : Except Failure String :=
  match value with
  | some text => .ok text
  | none => .error (.raised "ValueError" ("Invalid value for `" ++ part ++ "`, must not be `None`"))

namespace OwnerReference

/-- The reference made of four parts, none of which may be left out. -/
def ofParts (apiVersion kind name uid : Option String) : Except Failure OwnerReference := do
  let apiVersion ← required "api_version" apiVersion
  let kind ← required "kind" kind
  let name ← required "name" name
  let uid ← required "uid" uid
  return ⟨apiVersion, kind, name, uid⟩

end OwnerReference

structure OwnerResolution where
  status : OwnerStatus
  reference : Option OwnerReference := none
  failure : Option Failure := none
  deriving Repr

namespace OwnerResolution

def notApplicable : OwnerResolution := { status := .notApplicable }

def isResolved (r : OwnerResolution) : Bool := r.status == .resolved

/-- The owners to be written on a configuration; nothing at all where ownership does not apply. -/
def owners (r : OwnerResolution) : Option (List OwnerReference) :=
  match r.status with
  | .notApplicable => none
  | _ => some r.reference.toList

end OwnerResolution

structure OwnerLookup where
  deploymentName : Option String
  space : Option String
  deriving DecidableEq, Repr

namespace OwnerLookup

def logger : String := "kube_policy.webhooks.owner"

def fullName (o : OwnerLookup) : String := shown o.space ++ "/" ++ shown o.deploymentName

def warning (message : String) : Log.Record :=
  recordOf logger Log.Level.warning message [(.ownerStatus, .str OwnerStatus.lookupFailed.name)]

def failedRead (o : OwnerLookup) (e : Failure) : Log.Record :=
  warning ("Failed to read deployment " ++ o.fullName ++
    ", webhook configurations will have no owner: " ++ e.briefly)

def incomplete (o : OwnerLookup) : Log.Record :=
  warning ("Deployment " ++ o.fullName ++
    " has no name/uid, webhook configurations will have no owner")

def incompleteMetadata : Failure :=
  .raised "ValueError" "deployment metadata is missing name or uid"

def reference? (m : Option Metadata) : Option OwnerReference := do
  let m ← m
  let name ← m.name
  let uid ← m.uid
  if name.isEmpty || uid.isEmpty then none
  else some ⟨deploymentApiVersion, deploymentKind, name, uid⟩

/-- Looks the owner up; only a request to stop is passed on. -/
def resolve (o : OwnerLookup) : Action Cluster OwnerResolution := do
  match ← (Action.readDeployment o.deploymentName o.space).attempt with
  | .error e =>
      if e.isStop then Action.fail e
      else do
        Action.log (o.failedRead e)
        return { status := .lookupFailed, failure := some e }
  | .ok metadata =>
      match reference? metadata with
      | some reference => return { status := .resolved, reference := some reference }
      | none => do
          Action.log o.incomplete
          return { status := .lookupFailed, failure := some incompleteMetadata }

end OwnerLookup

end AdmissionHooks
