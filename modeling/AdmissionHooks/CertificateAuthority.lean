import AdmissionHooks.Base64.Decoder
import AdmissionHooks.Cluster
import AdmissionHooks.Files

/-!
# The certificate authority

The bundle that webhooks are trusted by. It is read from the root secret; when the secret gives
nothing, the client's own authority is used, from its file if it has one and else from its inline
data. An empty bundle counts as none, and having none is a failure.
-/

namespace AdmissionHooks

structure TlsAuthority where
  file : Option String := none
  data : Option Bytes := none
  deriving DecidableEq, Repr

/-- An optional text, where the empty text counts as none. -/
def nonEmpty (s : Option String) : Option String := s.filter fun t => !t.isEmpty

def TlsAuthority.ofFile (file : Option String) : TlsAuthority := { file := nonEmpty file }

structure AuthorityLookup where
  secretName : Option String
  space : Option String
  tls : TlsAuthority
  deriving DecidableEq, Repr

namespace AuthorityLookup

def logger : String := "kube_policy.webhooks.ca"

def fullName (a : AuthorityLookup) : String := shown a.space ++ "/" ++ shown a.secretName

def debugRecord (message : String) (fields : List (Log.Field × Json)) : Log.Record :=
  recordOf logger Log.Level.debug message fields

def warning (message : String) : Log.Record := recordOf logger Log.Level.warning message []

def failedRead (a : AuthorityLookup) (e : Failure) : Log.Record :=
  match e with
  | .api status reason _ =>
      if status matches .int 404 then debugRecord ("Root CA secret " ++ a.fullName ++ " not found") []
      else warning ("Failed to read root CA secret " ++ a.fullName ++ ": " ++ reason.displayText)
  | e =>
      warning ("Failed to reach API server for root CA secret " ++ a.fullName ++ ": " ++ e.message)

def withoutEntry (a : AuthorityLookup) : Log.Record :=
  debugRecord ("Secret " ++ a.fullName ++ " has no '" ++ rootCaSecretKey ++ "' entry") []

def invalidEntry (a : AuthorityLookup) (e : Base64.DecodeError) : Log.Record :=
  warning ("Secret " ++ a.fullName ++ " holds invalid base64 under '" ++ rootCaSecretKey ++ "': " ++
    e.message)

/-- The text under the root key, unless it is empty. -/
def entry? (data : SecretData) : Option String :=
  nonEmpty ((data.getD []).lookup rootCaSecretKey)

def decodeEntry (a : AuthorityLookup) (data : SecretData) : Action Cluster Bytes :=
  match entry? data with
  | none => do
      Action.log a.withoutEntry
      return []
  | some text =>
      match Base64.decode text with
      | .ok bytes => return bytes
      | .error e => do
          Action.log (a.invalidEntry e)
          return []

/-- The bundle of the secret, empty when there is none to be had. -/
def readSecret (a : AuthorityLookup) : Action Cluster Bytes := do
  match ← (Action.readSecret a.secretName a.space).attempt with
  | .ok data => a.decodeEntry data
  | .error e =>
      if e.isRequestFailure then do
        Action.log (a.failedRead e)
        return []
      else Action.fail e

def unreadableFile (path : String) (e : FileError) : Log.Record :=
  warning ("Failed to read CA file " ++ path ++ ": " ++ e.message path)

/-- A path with a null character cannot be opened at all. -/
def nullInPath : Failure := .raised "ValueError" "embedded null byte"

def readFile (files : FileSystem) (path : String) : Action Cluster Bytes :=
  if path.toList.contains '\x00' then Action.fail nullInPath
  else
    match files.open? path with
    | .ok content => return content
    | .error e => do
        Action.log (unreadableFile path e)
        return []

/-- The client's own bundle. Inline data counts only when no file is named. -/
def readClient (a : AuthorityLookup) (files : FileSystem) : Action Cluster Bytes :=
  match nonEmpty a.tls.file with
  | some path => readFile files path
  | none => return a.tls.data.getD []

def fromSecret (a : AuthorityLookup) : Log.Record :=
  debugRecord ("Using CA from secret " ++ a.fullName) [(.caSource, .str "secret")]

def fromClient : Log.Record :=
  debugRecord "Using CA from the API client configuration" [(.caSource, .str "client_config")]

/-- The bundle for the webhooks, never empty. -/
def resolve (a : AuthorityLookup) (files : FileSystem) : Action Cluster Bytes := do
  let found ← a.readSecret
  if !found.isEmpty then
    Action.log a.fromSecret
    return found
  let own ← a.readClient files
  if !own.isEmpty then
    Action.log fromClient
    return own
  Action.fail Failure.noCa

end AuthorityLookup

end AdmissionHooks
