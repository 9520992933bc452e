import AdmissionHooks.Log.Correlation
import AdmissionHooks.Log.Lineage
import AdmissionHooks.Parameters

/-!
# Log setup

The root of the log has a level and handlers, and three foreign loggers have levels of their own.
Setting the log up removes every handler, installs one with the chosen layout, and then chooses
the level, which may be refused. A record is written when the level of its logger, or of the nearest
logger above it that has one, lets it pass. While there is no handler for it at all, a record that
warns of something is written as its bare message.
-/

namespace AdmissionHooks.Log

/-- The layout of a line: JSON, or plain with or without the correlation id. -/
inductive Layout where
  | json
  | plain (correlated : Bool)
  deriving DecidableEq, Repr

namespace Layout

def ofFlags (json correlated : Bool) : Layout := if json then .json else .plain correlated

def format : Layout → String
  | .json => "%(message)s"
  | .plain true => "%(asctime)s - %(correlation_id)s - %(name)s - %(levelname)s - %(message)s"
  | .plain false => "%(asctime)s - %(name)s - %(levelname)s - %(message)s"

def separator : String := " - "

def missingAttribute (name : String) : Failure :=
  .raised "ValueError" ("Formatting field not found in record: " ++ Text.quote name)

/-- The parts of a plain line. A layout with the id needs it on the record. -/
def plainParts (correlated : Bool) (r : Record) (now : Instant) (message : Message) :
    Except Failure (List String) :=
  let rest := [r.logger, Level.name r.level, message.plain]
  if correlated then
    match r.value? Record.correlationName with
    | none => .error (missingAttribute Record.correlationName)
    | some id => .ok (now.clock :: String.ofList id.display :: rest)
  else .ok (now.clock :: rest)

/-- A plain line; the story of a failure starts on a line of its own. -/
def withIncident (line : String) : Option Incident → String
  | none => line
  | some i =>
      if line.toList.getLast? = some '\n' then line ++ i.text else line ++ "\n" ++ i.text

def plainLine (correlated : Bool) (r : Record) (now : Instant) : Except Failure String := do
  let message ← r.fullMessage
  let parts ← plainParts correlated r now message
  return withIncident (String.intercalate separator parts) r.incident

/-- The message and the story alone. -/
def bareLine (r : Record) : Except Failure String :=
  r.fullMessage.map fun message => withIncident message.plain r.incident

def line (l : Layout) (r : Record) (now : Instant) (limits : Json.Limits := {}) :
    Except Failure String :=
  match l with
  | .json => r.jsonLine now limits
  | .plain correlated => plainLine correlated r now

end Layout

/-- A handler of the root: one that does nothing, or one that writes lines, with the filter that
marks each record with the correlation id or without it. -/
inductive Handler where
  | silent
  | writer (layout : Layout) (correlated : Bool)
  deriving DecidableEq, Repr

namespace Handler

def ofFlags (json correlated : Bool) : Handler := .writer (Layout.ofFlags json correlated) correlated

def prepare (correlated : Bool) (c : Correlation) (r : Record) : Record × Correlation :=
  if correlated then c.stamp r else (r, c)

/-- The line for a record, with the ids as they are afterwards. -/
def handle (h : Handler) (now : Instant) (c : Correlation) (r : Record)
    (limits : Json.Limits := {}) : Option (Except Failure String) × Correlation :=
  match h with
  | .silent => (none, c)
  | .writer layout correlated =>
      let prepared := prepare correlated c r
      (some (layout.line prepared.1 now limits), prepared.2)

end Handler

def foreign : List String := ["kopf", "kubernetes", "urllib3"]

/-- Loggers with a handler of their own, which writes nothing here. -/
def attended : List String :=
  ["kopf.objects", "urllib3", "requests", "charset_normalizer", "oauthlib", "requests_oauthlib",
    "websocket"]

/-- The setup of the log, and the loggers that were asked to write. -/
structure Setup where
  level : Level := Level.debug
  handlers : List Handler := []
  foreignLevels : List (String × Level) := foreign.map (·, Level.unset)
  attended : List String := Log.attended
  loggers : List String := []
  deriving DecidableEq, Repr

namespace Setup

section

variable {α : Type} [BEq α]

/-- Takes out each handler, on a walk over the list as it was before. -/
def cleared (handlers : List α) : List α := handlers.foldl List.erase handlers

def replaced (handlers : List α) (h : α) : List α := cleared handlers ++ [h]

theorem cleared_eq_nil [LawfulBEq α] (handlers : List α) : cleared handlers = [] := by
  unfold cleared
  induction handlers with
  | nil => rfl
  | cons h handlers ih => rw [List.foldl_cons, List.erase_cons_head, ih]

@[simp] theorem replaced_eq [LawfulBEq α] (handlers : List α) (h : α) :
    replaced handlers h = [h] := by
  rw [replaced, cleared_eq_nil]
  rfl

end

def install (s : Setup) (h : Handler) : Setup := { s with handlers := replaced s.handlers h }

def setLevel (s : Setup) (n : Level) : Setup :=
  { s with level := n, foreignLevels := foreign.map (·, Level.warning) }

@[simp] theorem handlers_install (s : Setup) (h : Handler) : (s.install h).handlers = [h] :=
  replaced_eq s.handlers h

/-- Sets the log up. A level that was refused stays as it is, after the handler was replaced. -/
def configure (s : Setup) (level : Except Failure Level) (json correlated : Bool) :
    Except Failure Unit × Setup :=
  let s := s.install (Handler.ofFlags json correlated)
  match level with
  | .error e => (.error e, s)
  | .ok n => (.ok (), s.setLevel n)

def parameters : Parameters where
  operation := "setup_structured_logging"
  optional := ["log_level", "enable_json_formatting", "correlation_id_enabled"]

/-- A flag among the given parameters; whatever counts as nothing switches it off. -/
def flag (given : List (String × Json)) (name : String) : Bool :=
  match given.lookup name with
  | none => true
  | some v => !v.isVoid

def configureBy (s : Setup) (given : List (String × Json)) : Except Failure Unit × Setup :=
  match parameters.check (given.map (·.1)) with
  | .error e => (.error e, s)
  | .ok () =>
      s.configure (Level.ofValue ((given.lookup "log_level").getD (.str "INFO")))
        (flag given "enable_json_formatting") (flag given "correlation_id_enabled")

/-- The name under which a logger writes; the root has one too. -/
def loggerName (name : String) : String := if name.isEmpty then "root" else name

def known (s : Setup) : List String := foreign ++ s.attended ++ s.loggers

def meet (s : Setup) (logger : String) : Setup := { s with loggers := logger :: s.loggers }

def ownLevel? (s : Setup) (logger : String) : Option Level :=
  (s.foreignLevels.lookup logger).filter (· != Level.unset)

/-- The level of a logger: its own or that of the nearest logger above it, or else the root's. -/
def levelOf (s : Setup) (logger : String) : Level :=
  ((lineage s.known logger).findSome? s.ownLevel?).getD s.level

/-- Only records with a positive level are written at all. -/
def passes (s : Setup) (r : Record) : Bool :=
  decide (0 < r.level) && decide (s.levelOf r.logger ≤ r.level)

/-- Whether no handler sees the records of a logger. -/
def isUnattended (s : Setup) (logger : String) : Bool :=
  s.handlers.isEmpty && !(lineage s.known logger).any s.attended.contains

end Setup

/-- The log of a process: how it is set up, the ids, what can be printed, and the text written so
far. -/
structure Journal where
  setup : Setup := {}
  correlation : Correlation := {}
  limits : Json.Limits := {}
  output : String := ""
  deriving DecidableEq, Repr

namespace Journal

/-- What a handler adds to the output; a line that cannot be made adds nothing. -/
def linesOf : Option (Except Failure String) → String
  | some (.ok line) => line ++ "\n"
  | _ => ""

/-- A handler keeps to itself why a line could not be made, unless it ran out of calls. -/
def escaping? : Option (Except Failure String) → Option Failure
  | some (.error e) => if e.name = "RecursionError" then some e else none
  | _ => none

def handle (j : Journal) (now : Instant) (r : Record) (h : Handler) :
    Except Failure Unit × Journal :=
  let done := h.handle now j.correlation r j.limits
  let j := { j with correlation := done.2, output := j.output ++ linesOf done.1 }
  match escaping? done.1 with
  | some e => (.error e, j)
  | none => (.ok (), j)

/-- Hands a record to one handler after the other, up to one that fails. -/
def handleAll (now : Instant) (r : Record) (j : Journal) :
    List Handler → Except Failure Unit × Journal
  | [] => (.ok (), j)
  | h :: handlers =>
      let done := j.handle now r h
      match done.1 with
      | .error e => (.error e, done.2)
      | .ok () => handleAll now r done.2 handlers

/-- Writes a record that no handler sees: a warning, or what is worse. -/
def writeBare (j : Journal) (r : Record) : Journal :=
  if Level.warning ≤ r.level then
    { j with output := j.output ++ linesOf (some (Layout.bareLine r)) }
  else j

def write (j : Journal) (now : Instant) (r : Record) : Except Failure Unit × Journal :=
  if j.setup.passes r then
    if j.setup.isUnattended r.logger then (.ok (), j.writeBare r)
    else j.handleAll now r j.setup.handlers
  else (.ok (), j)

/-- Writes a record from outside, whose attributes may not stand in the place of its parts. -/
def log (j : Journal) (now : Instant) (r : Record) : Except Failure Unit × Journal :=
  let j := { j with setup := j.setup.meet r.logger }
  match r.misplaced? with
  | some name =>
      if j.setup.passes r then (.error (Record.misplacedFailure name), j) else (.ok (), j)
  | none => j.write now r

def flush (j : Journal) : String × Journal := (j.output, { j with output := "" })

/-- Writes records of the process itself. They tell of texts and numbers, so a handler that runs out
of calls over one is not reckoned with. -/
def writeAll (j : Journal) (now : Instant) (rs : List Record) : Journal :=
  rs.foldl (fun j r => (j.write now r).2) j

def inCopy (j : Journal) (f : Journal → Journal) : Journal :=
  let after := f j
  { after with correlation := Correlation.leave j.correlation after.correlation }

end Journal

end AdmissionHooks.Log
