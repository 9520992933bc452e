import AdmissionHooks.Controller
import AdmissionHooks.Log.Setup

/-!
# The daemon

The controller as a process with its surroundings: settings, sources, files, the cluster, what the
handlers remember, and the log. A handler runs in a copy of the surroundings of the process, and the
requests that it makes run in a further copy. Settings are loaded when the process starts, and when
they are loaded again the file of variables is replaced with them.
-/

namespace AdmissionHooks

structure Daemon where
  settings : Settings
  sources : ClientSources
  files : Files := {}
  cluster : Cluster := {}
  memo : Option Registrar := none
  journal : Log.Journal := {}
  now : Instant

/-- What one step of the process shows: its outcome, its calls, and those of its records that the
level of the log lets pass. -/
structure Shown (α : Type) where
  outcome : Except Failure α
  calls : List Call := []
  records : List Log.Record := []

namespace Daemon

def envFileName : String := ".env"

/-- Places the file of variables in the working directory and logs what is amiss in it. -/
def enter (p : Daemon) (sources : SettingSources) : Daemon :=
  let files := match sources.fileText with
    | some text => p.files.put envFileName text.toUTF8.toList
    | none => p.files.remove envFileName
  { p with files := files, journal := p.journal.writeAll p.now sources.records }

/-- Loads the settings again; refused ones leave the old settings in force. -/
def reload (p : Daemon) (sources : SettingSources) : Except (List Refused) Unit × Daemon :=
  let p := p.enter sources
  match Settings.load sources with
  | .error refused => (.error refused, p)
  | .ok settings => (.ok (), { p with settings := settings })

def writeStretch (now : Instant) (j : Log.Journal) : Stretch → Log.Journal
  | .own rs => j.writeAll now rs
  | .copied rs => j.inCopy fun j => j.writeAll now rs

def writeHandled (now : Instant) (j : Log.Journal) (h : Handled) : Log.Journal :=
  j.inCopy fun j => h.log.foldl (writeStretch now) j

def passing (p : Daemon) (rs : List Log.Record) : List Log.Record :=
  rs.filter p.journal.setup.passes

def absorb (p : Daemon) (h : Handled) : Shown Unit × Daemon :=
  (⟨h.outcome, h.calls, p.passing h.records⟩,
    { p with
      memo := h.memo
      cluster := h.cluster
      journal := writeHandled p.now p.journal h })

def startup (p : Daemon) : Shown Unit × Daemon :=
  p.absorb (Controller.startup p.settings p.sources p.files p.memo p.cluster)

def cleanup (p : Daemon) : Shown Unit × Daemon :=
  p.absorb (Controller.cleanup p.memo p.cluster)

def configureLogging (p : Daemon) : Shown Unit × Daemon :=
  let level := Log.Level.ofText (Text.capitals p.settings.logLevel)
  let done := p.journal.setup.configure level p.settings.jsonLogs p.settings.correlationIds
  (⟨done.1, [], []⟩, { p with journal := { p.journal with setup := done.2 } })

/-- What the event loop is started with: it serves the whole cluster and manages no webhook server
of its own. -/
structure LoopOptions where
  clusterWide : Bool := true
  server : Option String := none
  managed : Option String := none
  deriving DecidableEq, Repr

def finish (p : Daemon) (ended : Option Failure) : Shown Controller.Exit × Daemon :=
  let ending := Controller.exitOf ended
  (⟨ending.1, [], p.passing ending.2⟩,
    { p with journal := p.journal.writeAll p.now ending.2 })

def serve (p : Daemon) (ended : Option Failure) :
    Shown (Controller.Exit × List LoopOptions) × Daemon :=
  let configured := p.configureLogging
  match configured.1.outcome with
  | .error e => (⟨.error e, [], []⟩, configured.2)
  | .ok () =>
      let finished := configured.2.finish ended
      (⟨finished.1.outcome.map fun exit => (exit, [{}]), finished.1.calls, finished.1.records⟩,
        finished.2)

end Daemon

end AdmissionHooks
