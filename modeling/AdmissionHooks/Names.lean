import AdmissionHooks.Json.Basic

/-!
# Fixed names

The identifiers that the registration writes to a cluster, and the wording that several parts
share.
-/

namespace AdmissionHooks

def version : String := "0.1.0"

/-- One of the two admission configurations that are registered. -/
inductive Kind where
  | mutating
  | validating
  deriving DecidableEq, Repr

/-- Whether the API server reaches the webhook through the service in the cluster or at an
address outside it. -/
inductive Mode where
  | production
  | debug
  deriving DecidableEq, Repr

def Mode.name : Mode → String
  | .production => "production"
  | .debug => "debug"

namespace Kind

def all : List Kind := [.mutating, .validating]

def resource : Kind → String
  | .mutating => "MutatingWebhookConfiguration"
  | .validating => "ValidatingWebhookConfiguration"

def configurationName : Kind → Mode → String
  | .mutating, .production => "kube-policy-mutating-webhook-cfg"
  | .mutating, .debug => "kube-policy-mutating-webhook-cfg-debug"
  | .validating, .production => "kube-policy-validating-webhook-cfg"
  | .validating, .debug => "kube-policy-validating-webhook-cfg-debug"

def webhookName : Kind → String
  | .mutating => "mutate.kube-policy.io"
  | .validating => "validate.kube-policy.io"

def path : Kind → String
  | .mutating => "/mutate"
  | .validating => "/validate"

theorem configurationName_mode_inj {k : Kind} {m n : Mode}
    (h : k.configurationName m = k.configurationName n) : m = n := by
  cases k <;> cases m <;> cases n <;> first | rfl | exact absurd h (by decide)

end Kind

structure ByKind (α : Type) where
  mutating : α
  validating : α
  deriving DecidableEq, Repr

namespace ByKind

def get (b : ByKind α) : Kind → α
  | .mutating => b.mutating
  | .validating => b.validating

def set (b : ByKind α) (k : Kind) (a : α) : ByKind α :=
  match k with
  | .mutating => { b with mutating := a }
  | .validating => { b with validating := a }

@[simp] theorem get_set_self (b : ByKind α) (k : Kind) (a : α) : (b.set k a).get k = a := by
  cases k <;> rfl

theorem get_set_of_ne (b : ByKind α) {k l : Kind} (a : α) (h : l ≠ k) :
    (b.set k a).get l = b.get l := by
  cases k <;> cases l <;> first | rfl | exact absurd rfl h

@[simp] theorem set_get_self (b : ByKind α) (k : Kind) : b.set k (b.get k) = b := by
  cases k <;> rfl

end ByKind

abbrev Labels := List (String × Json)

def appLabelKey : String := "app"

def appLabelValue : String := "kube-policy"

def appLabels : Labels := [(appLabelKey, .str appLabelValue)]

def reviewVersions : List String := ["v1"]

def sideEffects : String := "None"

def ruleOperations : List String := ["CREATE"]

def ruleApiGroups : List String := ["*"]

def ruleApiVersions : List String := ["*"]

def ruleResources : List String := ["*/*"]

def rootCaSecretSuffix : String := "kube-policy-tls-ca"

def rootCaSecretKey : String := "rootCA.crt"

/-- The secret is named after the service address whose certificate it signs. -/
def rootCaSecretName (service space : String) : String :=
  service ++ "." ++ space ++ ".svc." ++ rootCaSecretSuffix

def deploymentApiVersion : String := "apps/v1"

def deploymentKind : String := "Deployment"

def noCaData : String := "Unable to extract CA data from configuration"

def createFailed (resource name : String) : String := "Failed to create " ++ resource ++ " " ++ name

def deleteFailed (resource name : String) : String := "Failed to delete " ++ resource ++ " " ++ name

end AdmissionHooks
