import AdmissionHooks.Names

/-!
# Webhook configurations

What is sent to the API server, and its wire form. A member that does not apply is left out of the
wire form; an empty list stays.
-/

namespace AdmissionHooks

structure OwnerReference where
  apiVersion : String
  kind : String
  name : String
  uid : String
  deriving DecidableEq, Repr

structure Rule where
  operations : List String
  apiGroups : List String
  apiVersions : List String
  resources : List String
  deriving DecidableEq, Repr

/-- Where the API server calls the webhook: at an address, or through a service. -/
inductive Target where
  | url (url : String)
  | service (space name path : String)
  deriving DecidableEq, Repr

/-- A webhook with the certificate bundle, in base64, that its server is trusted by. -/
structure Webhook where
  name : String
  target : Target
  caBundle : String
  rules : List Rule
  reviewVersions : List String
  sideEffects : String
  deriving DecidableEq, Repr

structure Configuration where
  kind : Kind
  name : String
  labels : Labels
  owners : Option (List OwnerReference)
  webhooks : List Webhook
  deriving DecidableEq, Repr

namespace Json

def texts (items : List String) : Json := .arr (items.map .str)

end Json

def OwnerReference.wire (o : OwnerReference) : Json :=
  .obj [("apiVersion", .str o.apiVersion), ("kind", .str o.kind), ("name", .str o.name),
    ("uid", .str o.uid)]

def Rule.wire (r : Rule) : Json :=
  .obj [("operations", .texts r.operations), ("apiGroups", .texts r.apiGroups),
    ("apiVersions", .texts r.apiVersions), ("resources", .texts r.resources)]

def Target.members : Target → List (String × Json)
  | .url u => [("url", .str u)]
  | .service space name path =>
      [("service", .obj [("namespace", .str space), ("name", .str name), ("path", .str path)])]

def Webhook.wire (w : Webhook) : Json :=
  .obj [("name", .str w.name),
    ("clientConfig", .obj (("caBundle", .str w.caBundle) :: w.target.members)),
    ("rules", .arr (w.rules.map Rule.wire)),
    ("admissionReviewVersions", .texts w.reviewVersions),
    ("sideEffects", .str w.sideEffects)]

namespace Configuration

def apiVersion : String := "admissionregistration.k8s.io/v1"

def ownerMembers (c : Configuration) : List (String × Json) :=
  match c.owners with
  | none => []
  | some owners => [("ownerReferences", .arr (owners.map OwnerReference.wire))]

def wire (c : Configuration) : Json :=
  .obj [("apiVersion", .str apiVersion), ("kind", .str c.kind.resource),
    ("metadata",
      .obj ([("name", .str c.name), ("labels", .obj c.labels)] ++ c.ownerMembers)),
    ("webhooks", .arr (c.webhooks.map Webhook.wire))]

end Configuration

end AdmissionHooks
