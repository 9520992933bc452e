import AdmissionHooks.Daemon
import Std.Time.DateTime.Timestamp

/-!
# Command line

Runs the daemon once: settings from the environment and from the file of entries in the working
directory, then the log, then the handler of the start. The command line has no connection to a
cluster, so both sources of a client configuration answer that they have none, and the daemon ends
as it does outside a cluster.
-/

open AdmissionHooks

namespace AdmissionHooks.CommandLine

def readEnvFile : IO (Option String) := do
  try
    return some (← IO.FS.readFile Daemon.envFileName)
  catch _ => return none

def namesOf (fileText : Option String) : List String :=
  (EnvFile.ofText (fileText.getD "")).entries.flatMap fun e =>
    Reference.names (e.2.getD "").toList

def readEnvironment (names : List String) : IO (List (String × String)) := do
  let found ← names.mapM fun name => do
    return (← IO.getEnv name).map fun v => (name, v)
  return found.filterMap id

def now : IO Instant := do
  let t ← Std.Time.Timestamp.now
  return Instant.ofEpoch (t.toNanosecondsSinceUnixEpoch.toInt.toNat / 1000)

def drawId : IO String := do
  return String.ofList (Text.digits 16 Log.Correlation.idLength (← IO.rand 0 (Nat.pow 16 8 - 1)))

def noSources : ClientSources where
  inCluster := .error (.configuration (.str "Service host/port is not set."))
  kubeconfig := .error (.configuration (.str "Invalid kube-config file. No configuration found."))

def refusedLine (r : Refused) : String := r.setting.variableName ++ ": " ++ r.refusal.message

def failureOf : Except Failure Unit → Option Failure
  | .ok () => none
  | .error e => some e

def statusOf : Except Failure Controller.Exit → UInt32
  | .ok .none => 0
  | .ok (.status n) => UInt32.ofNat n
  | _ => 1

def run (d : Daemon) : IO UInt32 := do
  let configured := d.configureLogging
  match configured.1.outcome with
  | .error e => do
      IO.eprintln e.message
      return 1
  | .ok () => do
      let started := configured.2.startup
      let finished := started.2.finish (failureOf started.1.outcome)
      IO.eprint finished.2.journal.output
      return statusOf finished.1.outcome

end AdmissionHooks.CommandLine

open AdmissionHooks.CommandLine in
def main : IO UInt32 := do
  let fileText ← readEnvFile
  let names := Setting.all.map Setting.variableName ++ namesOf fileText
  let sources : SettingSources :=
    { environment := ← readEnvironment names, fileText := fileText }
  match Settings.load sources with
  | .error refused =>
      for r in refused do
        IO.eprintln (refusedLine r)
      return 1
  | .ok settings =>
      let supply ← (List.range 16).mapM fun _ => drawId
      let daemon : Daemon :=
        { settings := settings
          sources := noSources
          journal := { correlation := { supply := supply } }
          now := ← now }
      run (daemon.enter sources)
