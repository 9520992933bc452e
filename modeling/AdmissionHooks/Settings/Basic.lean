import AdmissionHooks.Builder
import AdmissionHooks.Settings.EnvFile
import AdmissionHooks.Settings.Reference

/-!
# Settings

Eight settings, each with a variable that it is read from and a default. A value given directly
comes first, then the environment, then the file of variables. The case of a name does not count:
of several that are the same the first one given counts, and the last one among variables. A value
that its setting cannot take is refused, all such at once and in the order of the settings.
-/

namespace AdmissionHooks

inductive Setting where
  | space
  | deploymentName
  | serviceName
  | address
  | kubeconfig
  | logLevel
  | jsonLogs
  | correlationIds
  deriving DecidableEq, Repr

namespace Setting

def all : List Setting :=
  [.space, .deploymentName, .serviceName, .address, .kubeconfig, .logLevel, .jsonLogs,
    .correlationIds]

def variableName : Setting → String
  | .space => "KUBE_POLICY_NAMESPACE"
  | .deploymentName => "KUBE_POLICY_DEPLOYMENT_NAME"
  | .serviceName => "KUBE_POLICY_SERVICE_NAME"
  | .address => "KUBE_POLICY_SERVER_IP"
  | .kubeconfig => "KUBECONFIG"
  | .logLevel => "LOG_LEVEL"
  | .jsonLogs => "JSON_LOGS"
  | .correlationIds => "CORRELATION_IDS"

def default : Setting → Json
  | .space => .str "kube-policy"
  | .deploymentName => .str "kube-policy-deployment"
  | .serviceName => .str "kube-policy-svc"
  | .address => .str ""
  | .kubeconfig => .str ""
  | .logLevel => .str "INFO"
  | .jsonLogs => .bool true
  | .correlationIds => .bool true

def isFlag : Setting → Bool
  | .jsonLogs => true
  | .correlationIds => true
  | _ => false

end Setting

inductive Refusal where
  | notText
  | notFlag
  | unclearFlag
  deriving DecidableEq, Repr

namespace Refusal

def name : Refusal → String
  | .notText => "string_type"
  | .notFlag => "bool_type"
  | .unclearFlag => "bool_parsing"

def message : Refusal → String
  | .notText => "Input should be a valid string"
  | .notFlag => "Input should be a valid boolean"
  | .unclearFlag => "Input should be a valid boolean, unable to interpret input"

end Refusal

structure Refused where
  setting : Setting
  refusal : Refusal
  value : Json
  deriving Repr

/-- Where settings come from: values given directly, the environment, and the text of the file of
variables, if there is one. -/
structure SettingSources where
  given : List (String × Json) := []
  environment : List (String × String) := []
  fileText : Option String := none

namespace SettingSources

def environmentVariables (s : SettingSources) : List (String × String) := Variables.ofList s.environment

def file (s : SettingSources) : EnvFile :=
  match s.fileText with
  | none => {}
  | some text => EnvFile.ofText text

def fileVariables (s : SettingSources) : List (String × Option String) :=
  Reference.resolveAll s.environmentVariables s.file.entries

def fileLogger : String := "dotenv.main"

def unclearRecord (line : Nat) : Log.Record :=
  recordOf fileLogger Log.Level.warning
    ("python-dotenv could not parse statement starting at line " ++ toString line) []

def records (s : SettingSources) : List Log.Record := s.file.unclear.map unclearRecord

end SettingSources

structure Settings where
  space : String
  deploymentName : String
  serviceName : String
  address : String
  kubeconfig : String
  logLevel : String
  jsonLogs : Bool
  correlationIds : Bool
  deriving DecidableEq, Repr

namespace Settings

def falseWords : List String := ["0", "off", "f", "false", "n", "no"]

def trueWords : List String := ["1", "on", "t", "true", "y", "yes"]

/-- Numbers beyond 64 bits count as another kind of value. -/
def isWord64 (n : Int) : Bool := decide (-(Int.pow 2 63) ≤ n) && decide (n < Int.pow 2 63)

def readFlag : Json → Except Refusal Bool
  | .bool b => .ok b
  | .str s =>
      let word := String.ofList (s.toList.map Text.smallAscii)
      if falseWords.contains word then .ok false
      else if trueWords.contains word then .ok true
      else .error .unclearFlag
  | .int n =>
      if n = 0 then .ok false
      else if n = 1 then .ok true
      else if isWord64 n then .error .unclearFlag
      else .error .notFlag
  | _ => .error .notFlag

def readText : Json → Except Refusal String
  | .str s => .ok s
  | _ => .error .notText

/-- The value of a setting before it is read: from the first source that has one. A variable of the
file that has no value leaves the setting at its default. -/
def rawValue (sources : SettingSources) (s : Setting) : Json :=
  match Variables.first? sources.given s.variableName with
  | some v => v
  | none =>
      match Variables.last? sources.environmentVariables s.variableName with
      | some text => .str text
      | none =>
          match (Variables.last? sources.fileVariables s.variableName).join with
          | some text => .str text
          | none => s.default

def refusal? (s : Setting) (v : Json) : Option Refusal :=
  if s.isFlag then
    match readFlag v with
    | .ok _ => none
    | .error e => some e
  else
    match readText v with
    | .ok _ => none
    | .error e => some e

def refused (sources : SettingSources) : List Refused :=
  Setting.all.filterMap fun s =>
    let v := rawValue sources s
    (refusal? s v).map fun e => ⟨s, e, v⟩

def textOf (v : Json) : String := (readText v).toOption.getD ""

def flagOf (v : Json) : Bool := (readFlag v).toOption.getD false

def ofValues (value : Setting → Json) : Settings where
  space := textOf (value .space)
  deploymentName := textOf (value .deploymentName)
  serviceName := textOf (value .serviceName)
  address := Text.trim (textOf (value .address))
  kubeconfig := textOf (value .kubeconfig)
  logLevel := textOf (value .logLevel)
  jsonLogs := flagOf (value .jsonLogs)
  correlationIds := flagOf (value .correlationIds)

def load (sources : SettingSources) : Except (List Refused) Settings :=
  match refused sources with
  | [] => .ok (ofValues (rawValue sources))
  | failed => .error failed

def mode (s : Settings) : Mode := Mode.ofAddress (some s.address)

end Settings

end AdmissionHooks
