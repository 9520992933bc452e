import AdmissionHooks.Base64.Encoder
import AdmissionHooks.Owner

/-!
# Building configurations

One shape serves both kinds. In production the API server calls the service in the cluster and the
configuration has an owner; in debug it calls an address outside and there is none. Every object's
creation is intercepted, and nothing else. A configuration without a bundle is not built, nor is
one for a service that lacks a name or a namespace.
-/

namespace AdmissionHooks

def Mode.ofAddress (address : Option String) : Mode :=
  if (address.getD "").isEmpty then .production else .debug

structure Builder where
  space : Option String
  serviceName : Option String
  address : Option String := none
  owner : Option OwnerLookup := none
  labels : Labels := appLabels
  deriving DecidableEq, Repr

/-- The cluster together with the owner that the latest built configuration was given. -/
structure Site where
  cluster : Cluster
  lastOwner : Option OwnerResolution := none

def Action.atSite (x : Action Cluster α) : Action Site α :=
  x.within Site.cluster fun c s => { s with cluster := c }

def creationRules : List Rule :=
  [⟨ruleOperations, ruleApiGroups, ruleApiVersions, ruleResources⟩]

namespace Builder

def logger : String := "kube_policy.webhooks.builder"

def mode (b : Builder) : Mode := Mode.ofAddress b.address

def url (b : Builder) (path : String) : String := "https://" ++ shown b.address ++ path

def configurationName (b : Builder) (k : Kind) : String := k.configurationName b.mode

def withoutBundle (name : String) : Failure :=
  .report (.build (.str ("Cannot build webhook configuration " ++ name ++ ": " ++ noCaData)) .null)
    (some Failure.noCa)

/-- The owner of the configurations; in debug there is none. -/
def resolveOwner (b : Builder) : Action Cluster OwnerResolution :=
  match b.mode, b.owner with
  | .debug, _ => return OwnerResolution.notApplicable
  | .production, none => return OwnerResolution.notApplicable
  | .production, some o => o.resolve

def ownerOr (b : Builder) (given : Option OwnerResolution) : Action Cluster OwnerResolution :=
  match given with
  | some owner => return owner
  | none => b.resolveOwner

/-- Where the API server finds the webhook. A service is found by its name and its namespace. -/
def target (b : Builder) (k : Kind) : Except Failure Target :=
  match b.mode with
  | .debug => .ok (.url (b.url k.path))
  | .production => do
      let name ← required "name" b.serviceName
      let space ← required "namespace" b.space
      return .service space name k.path

def addressRecord (b : Builder) (k : Kind) : Log.Record :=
  recordOf logger Log.Level.debug ("Debug webhook configured with url " ++ b.url k.path)
    [(.mode, .str Mode.debug.name), (.url, .str (b.url k.path))]

def webhook (k : Kind) (target : Target) (bundle : Bytes) : Webhook where
  name := k.webhookName
  target := target
  caBundle := Base64.encode bundle
  rules := creationRules
  reviewVersions := reviewVersions
  sideEffects := sideEffects

def configuration (b : Builder) (k : Kind) (target : Target) (bundle : Bytes)
    (owner : OwnerResolution) : Configuration where
  kind := k
  name := b.configurationName k
  labels := b.labels
  owners := owner.owners
  webhooks := [webhook k target bundle]

/-- Builds the configuration of a kind, with the given owner or else one looked up. -/
def build (b : Builder) (k : Kind) (bundle : Bytes) (given : Option OwnerResolution) :
    Action Site Configuration := do
  if bundle.isEmpty then
    Action.fail (withoutBundle (b.configurationName k))
  else
    let owner ← (b.ownerOr given).atSite
    Action.modify fun s => { s with lastOwner := some owner }
    if b.mode = .debug then
      Action.log (b.addressRecord k)
    let target ← Action.ofExcept (b.target k)
    return b.configuration k target bundle owner

end Builder

end AdmissionHooks
