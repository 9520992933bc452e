import AdmissionHooks.Json.Display
import AdmissionHooks.Names

/-!
# Failures

What can go wrong, as causes: an answer of the API server, a request that got no answer, a missing
client configuration, a failure of the runtime, and the reports of the registration itself, which
carry a category and an advice and may hold the failure that caused them. `message` is the text
shown to an operator, `quoted` the form in which a failure stands inside a list. What a failure was
raised with may be any value: in most cases it is a text, for a status a number, and nothing where it
was left out.
-/

namespace AdmissionHooks

inductive Report where
  | general (text category advice : Json)
  | ca (text advice : Json)
  | build (text advice : Json)
  | service (service text : String) (advice : Json)
  | api (text : String) (reason status : Json)
  deriving DecidableEq, Repr

/-- A failure. The API server answers with a status; a request without an answer has the name of
its transport failure; a runtime failure has the name of its class. The detail is what it was raised
with. -/
inductive Failure where
  | api (status reason body : Json)
  | transport (name : String) (detail : Json)
  | retriesExceeded (url reason : Json)
  | runtime (name : String) (detail : Json)
  | configuration (detail : Json)
  | permanent (detail : Json)
  | report (report : Report) (cause : Option Failure)
  deriving Repr, Inhabited

def shown : Option String → String
  | none => "None"
  | some s => s

/-- The advice given, unless it counts as nothing. -/
def orAdvice (advice : Json) (otherwise : String) : Json :=
  if advice.isVoid then .str otherwise else advice

/-- The text with the reason behind it, unless that counts as nothing. -/
def withReason (text : String) (reason : Json) : String :=
  if reason.isVoid then text else text ++ " (reason: " ++ reason.displayText ++ ")"

namespace Report

def apiService : String := "Kubernetes API"

def name : Report → String
  | .general .. => "OperatorError"
  | .ca .. => "CAResolutionError"
  | .build .. => "BuildError"
  | .service .. => "ExternalServiceError"
  | .api .. => "KubernetesAPIError"

def category : Report → Json
  | .general _ c _ => c
  | .ca .. => .str "ca"
  | .build .. => .str "build"
  | .service .. => .str "external"
  | .api .. => .str "external"

def text : Report → Json
  | .general t _ _ => t
  | .ca t _ => t
  | .build t _ => t
  | .service s t _ => .str (s ++ " error: " ++ t)
  | .api t r _ => .str (apiService ++ " error: " ++ withReason t r)

def advice : Report → Json
  | .general _ _ a => a
  | .ca _ a => orAdvice a "Create the root CA secret or configure a CA in the kubeconfig"
  | .build _ a => a
  | .service s _ a => orAdvice a ("Check " ++ s ++ " connectivity and credentials")
  | .api .. => .str "Check RBAC permissions and cluster connectivity"

def message (r : Report) : String :=
  let told := r.text.displayText
  if r.advice.isVoid then told else told ++ "\nAction required: " ++ r.advice.displayText

def status : Report → Json
  | .api _ _ s => s
  | _ => .null

def reason : Report → Json
  | .api _ r _ => r
  | _ => .null

/-- Only an API answer with status 404 says that something was not found. -/
def isNotFound (r : Report) : Bool := r.status matches .int 404

end Report

namespace Failure

def transportAliases : List (String × String) := [("ConnectionError", "ProtocolError")]

def runtimeAliases : List (String × String) :=
  [("EnvironmentError", "OSError"), ("IOError", "OSError")]

def firstName (aliases : List (String × String)) (name : String) : String :=
  (aliases.lookup name).getD name

def ofTransportName (name : String) (detail : Json) : Failure :=
  .transport (firstName transportAliases name) detail

def ofRuntimeName (name : String) (detail : Json) : Failure :=
  .runtime (firstName runtimeAliases name) detail

def raised (name text : String) : Failure := .runtime name (.str text)

/-- The failure of looking a key up, which is shown between quotes. -/
def missingKey (key : String) : Failure := raised "KeyError" key

def name : Failure → String
  | .api .. => "ApiException"
  | .transport n _ => n
  | .retriesExceeded .. => "MaxRetryError"
  | .runtime n _ => n
  | .configuration _ => "ConfigException"
  | .permanent _ => "PermanentError"
  | .report r _ => r.name

/-- The place of the class, written before its name in the record of a failure. -/
def origin : Failure → String
  | .api .. => "kubernetes.client.exceptions."
  | .transport .. => "urllib3.exceptions."
  | .retriesExceeded .. => "urllib3.exceptions."
  | .runtime .. => ""
  | .configuration _ => "kubernetes.config.config_exception."
  | .permanent _ => "kopf._core.actions.execution."
  | .report .. => "kube_policy.errors.operator_errors."

def apiMessage (status reason body : Json) : String :=
  let head := "(" ++ status.displayText ++ ")\nReason: " ++ reason.displayText ++ "\n"
  if body.isVoid then head else head ++ "HTTP response body: " ++ body.displayText ++ "\n"

/-- A host that stands where the scheme of an address is expected is no scheme. -/
def proxySchemeText (scheme : Json) : String :=
  if scheme matches .null | .str "localhost" then
    "Proxy URL had no scheme, should start with http:// or https://"
  else
    "Proxy URL had unsupported scheme " ++ scheme.displayText ++ ", should use http:// or https://"

def transportText (name : String) (detail : Json) : Json :=
  if name = "LocationParseError" then .str ("Failed to parse: " ++ detail.displayText)
  else if name = "URLSchemeUnknown" then .str ("Not supported URL scheme " ++ detail.displayText)
  else if name = "ProxySchemeUnknown" then .str (proxySchemeText detail)
  else detail

def retriesText (url reason : Json) : String :=
  "None: Max retries exceeded with url: " ++ url.displayText ++ " (Caused by " ++
    String.ofList reason.nested ++ ")"

/-- What a failure was raised with: an answer of the API server with nothing. -/
def argument? : Failure → Option Json
  | .api .. => none
  | .transport n d => some (transportText n d)
  | .retriesExceeded url reason => some (.str (retriesText url reason))
  | .runtime _ d => some d
  | .configuration d => some d
  | .permanent d => some d
  | .report r _ => some r.text

/-- A failure as it stands inside a list: its name and what it was raised with. -/
def quoted (e : Failure) : List Char :=
  e.name.toList ++ '(' :: (e.argument?.map Json.nested).getD [] ++ [')']

def message : Failure → String
  | .api status reason body => apiMessage status reason body
  | .transport n d => (transportText n d).displayText
  | .retriesExceeded url reason => retriesText url reason
  | .runtime n d => if n = "KeyError" then String.ofList d.nested else d.displayText
  | .configuration d => d.displayText
  | .permanent d => d.displayText
  | .report r _ => r.message

def cause? : Failure → Option Failure
  | .report _ c => c
  | _ => none

/-- What the transport raises beside failures of requests: warnings, and a refused proxy. -/
def besideRequests : List String :=
  ["ProxySchemeUnsupported", "HTTPWarning", "SecurityWarning", "InsecureRequestWarning",
    "NotOpenSSLWarning", "SystemTimeWarning", "InsecurePlatformWarning", "DependencyWarning"]

/-- Whether the failure came from a request: an answer of the API server, or none at all. -/
def isRequestFailure : Failure → Bool
  | .api .. => true
  | .transport n _ => !besideRequests.contains n
  | .retriesExceeded .. => true
  | _ => false

def isReport : Failure → Bool
  | .report .. => true
  | _ => false

def isConfiguration : Failure → Bool
  | .configuration _ => true
  | _ => false

/-- The runtime's requests to stop, which are no failures of a task. -/
def stopNames : List String := ["BaseException", "GeneratorExit", "KeyboardInterrupt", "SystemExit"]

def isStop : Failure → Bool
  | .runtime n _ => stopNames.contains n
  | _ => false

/-- The reason that the API server gave, or the whole message of any other failure. -/
def briefly : Failure → String
  | .api _ reason _ => reason.displayText
  | e => e.message

/-- The report of a failed answer keeps its reason and its status. -/
def ofAnswer (text : String) (status reason : Json) (e : Failure) : Failure :=
  .report (.api text reason status) (some e)

/-- The report of a request without an answer has the name of the failure as its reason. -/
def ofTransport (text : String) (e : Failure) : Failure :=
  .report (.api text (.str e.name) .null) (some e)

/-- The failure of asking a value of a type for something that it does not have. -/
def withoutMember (typeName member : String) : Failure :=
  raised "AttributeError" ("'" ++ typeName ++ "' object has no attribute '" ++ member ++ "'")

def lacks (e : Failure) (member : String) : Failure := withoutMember e.name member

/-- The report of a failed answer, made of any failure that has a reason and a status. -/
def wrapAnswer (text : String) (e : Failure) : Except Failure Failure :=
  match e with
  | .api status reason _ => .ok (ofAnswer text status reason e)
  | .report (.api _ reason status) _ => .ok (ofAnswer text status reason e)
  | .retriesExceeded .. => .error (e.lacks "status")
  | e => .error (e.lacks "reason")

def wrap (text : String) (e : Failure) : Failure :=
  match e with
  | .api status reason _ => ofAnswer text status reason e
  | e => ofTransport text e

def withoutFailure (text : String) : Failure :=
  .report (.api text (.str Json.null.typeName) .null) none

/-- The statuses, reasons and not-found marks of reports; other failures have none. -/
def status : Failure → Json
  | .report r _ => r.status
  | _ => .null

def reason : Failure → Json
  | .report r _ => r.reason
  | _ => .null

def isNotFound : Failure → Bool
  | .report r _ => r.isNotFound
  | _ => false

@[simp] theorem isReport_wrap (text : String) (e : Failure) : (wrap text e).isReport = true := by
  cases e <;> rfl

@[simp] theorem cause?_wrap (text : String) (e : Failure) : (wrap text e).cause? = some e := by
  cases e <;> rfl

def notFound : Failure := .api (.int 404) (.str "Not Found") .null

def conflict : Failure := .api (.int 409) (.str "Conflict") .null

def noCa : Failure := .report (.ca (.str noCaData) .null) none

/-- Failures to read a source text, which are never told without a detail. -/
def readingNames : List String := ["SyntaxError", "IndentationError", "TabError"]

def told (e : Failure) : String :=
  match e with
  | .runtime n d =>
      if readingNames.contains n && d.isVoid then "<no detail available>" else e.message
  | e => e.message

/-- The line that tells of a failure: its class, and what it says unless that is nothing. -/
def summary (e : Failure) : String :=
  let shown := e.origin ++ e.name
  if e.told.isEmpty then shown else shown ++ ": " ++ e.told

end Failure

end AdmissionHooks
