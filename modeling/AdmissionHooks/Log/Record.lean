import AdmissionHooks.Instant
import AdmissionHooks.Log.Level
import AdmissionHooks.Log.Message

/-!
# Log records and the JSON line

A record has a message, possibly with arguments, attributes by name, and the failure that it tells
of, with its traceback and the failures before it. The JSON line of a record has the five general
members, the failure if there is one, and then the fields that the record has among its attributes,
in the order of the fields; a value that is too large or too deep ends it. An attribute under
the name of one of the record's own parts stands in the place of that part; such a name is refused
when a record is logged. Other attributes do not show.
-/

namespace AdmissionHooks.Log

inductive Field where
  | resourceType
  | resourceName
  | space
  | operation
  | mode
  | url
  | caSource
  | ownerStatus
  | errorType
  | httpStatus
  deriving DecidableEq, Repr

namespace Field

def name : Field → String
  | .resourceType => "resource_type"
  | .resourceName => "resource_name"
  | .space => "namespace"
  | .operation => "operation"
  | .mode => "mode"
  | .url => "url"
  | .caSource => "ca_source"
  | .ownerStatus => "owner_status"
  | .errorType => "error_type"
  | .httpStatus => "http_status"

def all : List Field :=
  [.resourceType, .resourceName, .space, .operation, .mode, .url, .caSource, .ownerStatus,
    .errorType, .httpStatus]

theorem mem_all (f : Field) : f ∈ all := by cases f <;> decide

theorem name_inj {f g : Field} (h : f.name = g.name) : f = g := by
  cases f <;> cases g <;> first | rfl | exact absurd h (by decide)

end Field

/-- A failure as it was met: with the entries of its traceback, the outermost call first, each with
its line breaks. -/
structure Raised where
  failure : Failure
  entries : List String := []
  deriving Repr

/-- How a failure followed from the one before it: because of it, or while it was dealt with. -/
inductive Tie where
  | cause
  | context
  deriving DecidableEq, Repr

def Tie.sentence : Tie → String
  | .cause => "\nThe above exception was the direct cause of the following exception:\n\n"
  | .context => "\nDuring handling of the above exception, another exception occurred:\n\n"

namespace Raised

def account (r : Raised) : String :=
  let told := r.failure.summary ++ "\n"
  if r.entries.isEmpty then told
  else "Traceback (most recent call last):\n" ++ String.join r.entries ++ told

/-- A failure with those that it followed from, latest first. Earlier ones are told first. -/
def story (r : Raised) : List (Tie × Raised) → String
  | [] => r.account
  | (tie, before) :: earlier => before.story earlier ++ tie.sentence ++ r.account

end Raised

/-- What a record tells of a failure: the failure with those that it followed from, or that there
is none. -/
inductive Incident where
  | absent
  | raised (last : Raised) (earlier : List (Tie × Raised))
  deriving Repr

namespace Incident

/-- A failure and its causes, none of which has a traceback. -/
def failure (e : Failure) (causes : List Failure) : Incident :=
  .raised { failure := e } (causes.map fun cause => (.cause, { failure := cause }))

/-- Drops one line break at the end. -/
def dropBreak (s : String) : String :=
  let cs := s.toList
  if cs.getLast? = some '\n' then String.ofList cs.dropLast else s

def text : Incident → String
  | .absent => "NoneType: None"
  | .raised last earlier => dropBreak (last.story earlier)

def withoutItems (typeName : String) : Failure :=
  .raised "TypeError" ("'" ++ typeName ++ "' object is not subscriptable")

def outOfRange (typeName : String) : Failure :=
  .raised "IndexError" (typeName ++ " index out of range")

/-- The incident that a list tells of by its second and third item, the failure and its way. -/
def ofItems (items : List Json) : Except Failure Incident :=
  match items with
  | _ :: .null :: .null :: _ => .ok .absent
  | _ :: v :: .null :: _ => .error (.withoutMember v.typeName "__suppress_context__")
  | _ :: _ :: v :: _ => .error (.withoutMember v.typeName "tb_frame")
  | _ => .error (outOfRange "list")

/-- The incident that a JSON value stands for, if it is one. -/
def ofJson : Json → Except Failure Incident
  | .arr items => ofItems items
  | .str s =>
      if s.length ≤ 2 then .error (outOfRange "string")
      else .error (.withoutMember "str" "tb_frame")
  | .obj _ => .error (.runtime "KeyError" (.int 2))
  | v => .error (withoutItems v.typeName)

/-- The incident that a value stands for; nothing stands for none. -/
def ofValue? : Value → Except Failure (Option Incident)
  | .plain v => if v.isVoid then .ok none else (ofJson v).map some
  | .failure e => .error (withoutItems e.name)

end Incident

structure Record where
  logger : String
  level : Level
  message : String
  arguments : List Json := []
  attributes : List (String × Value) := []
  incident : Option Incident := none
  deriving Repr

namespace Record

def correlationName : String := "correlation_id"

def partNames : List String :=
  ["message", "asctime", "name", "msg", "args", "levelname", "levelno", "pathname", "filename",
    "module", "exc_info", "exc_text", "stack_info", "lineno", "funcName", "created", "msecs",
    "relativeCreated", "thread", "threadName", "processName", "process"]

def value? (r : Record) (name : String) : Option Value := r.attributes.lookup name

def attribute? (r : Record) (name : String) : Option Json := (r.value? name).map Value.json

def withAttribute (r : Record) (name : String) (v : Json) : Record :=
  { r with attributes := (name, .plain v) :: r.attributes }

@[simp] theorem attribute?_withAttribute_self (r : Record) (name : String) (v : Json) :
    (r.withAttribute name v).attribute? name = some v := by
  simp [attribute?, value?, withAttribute, Value.json]

/-- The first attribute that would stand in the place of a part. -/
def misplaced? (r : Record) : Option String :=
  (r.attributes.map (·.1)).find? partNames.contains

def misplacedFailure (name : String) : Failure :=
  .missingKey ("Attempt to overwrite " ++ Text.quote name ++ " in LogRecord")

def field? (r : Record) (f : Field) : Option Json := r.attribute? f.name

def fieldMembers (r : Record) : List (String × Json) :=
  Field.all.filterMap fun f => (r.field? f).map fun v => (f.name, v)

/-- A message that cannot be made is a failure of the runtime. -/
def failureOf (e : MessageError) : Failure := .raised e.kind e.message

def template (r : Record) : String :=
  match r.value? "msg" with
  | none => r.message
  | some v => String.ofList v.display

def fullArguments (r : Record) : Arguments :=
  match r.value? "args" with
  | none => .ofRow r.arguments
  | some v => .single v

/-- The name under which a record makes its message. -/
def makerName : String := "getMessage"

def uncallable (v : Value) : Failure :=
  .raised "TypeError" ("'" ++ v.typeName ++ "' object is not callable")

/-- The message of a record. An attribute that hides how it is made is asked in its place, and no
value can answer. -/
def fullMessage (r : Record) : Except Failure Message :=
  match r.value? makerName with
  | some v => .error (uncallable v)
  | none => (render r.template r.fullArguments).mapError failureOf

/-- The name of the level, and that of the logger, as a line shows them. -/
def shownLevel (r : Record) : Json := (r.attribute? "levelname").getD (.str (Level.name r.level))

def shownLogger (r : Record) : Json := (r.attribute? "name").getD (.str r.logger)

def fullIncident (r : Record) : Except Failure (Option Incident) :=
  match r.value? "exc_info" with
  | none => .ok r.incident
  | some v => Incident.ofValue? v

/-- The id that a line shows: the one on the record, or nothing. -/
def correlation (r : Record) : Json := (r.attribute? correlationName).getD (.str "")

def incidentMembers : Option Incident → List (String × Json)
  | none => []
  | some i => [("exception", .str i.text)]

def openingMembers (r : Record) (now : Instant) : List (String × Json) :=
  [("timestamp", .str now.timestamp), ("level", r.shownLevel), ("logger", r.shownLogger)]

def closingMembers (r : Record) (incident : Option Incident) : List (String × Json) :=
  (correlationName, r.correlation) :: incidentMembers incident ++ r.fieldMembers

/-- The line's object for a record whose message and incident are known. -/
def jsonObject (r : Record) (now : Instant) (message : String) (incident : Option Incident) :
    Json :=
  .obj (r.openingMembers now ++ ("message", .str message) :: r.closingMembers incident)

/-- The line for a record whose message and incident are known. -/
def lineOf (r : Record) (now : Instant) (message : Message) (incident : Option Incident) :
    List Char :=
  Json.joinObject ((r.openingMembers now).map Json.printMember ++
    ("message", message.quoted) :: (r.closingMembers incident).map Json.printMember)

/-- A message of characters alone makes the line of an object. -/
theorem lineOf_ofText (r : Record) (now : Instant) (message : String)
    (incident : Option Incident) :
    r.lineOf now (Message.ofText message) incident =
      (r.jsonObject now message incident).print := by
  rw [jsonObject, ← Json.joinObject_map, lineOf, Message.quoted_ofText]
  simp [Json.printMember, Json.print]

/-- What ends the printing of a line: something among its values, of which a message is none. -/
def obstacle? (r : Record) (now : Instant) (incident : Option Incident) (limits : Json.Limits) :
    Option Json.Obstacle :=
  (Json.obj (r.openingMembers now ++ r.closingMembers incident)).obstacle? limits limits.levels

def obstacleFailure (limits : Json.Limits) : Json.Obstacle → Failure
  | .longInteger =>
      .raised "ValueError" ("Exceeds the limit (" ++ toString limits.digits ++
        " digits) for integer string conversion; use sys.set_int_max_str_digits() to increase " ++
        "the limit")
  | .tooDeep =>
      .raised "RecursionError" "maximum recursion depth exceeded while encoding a JSON object"

def jsonLine (r : Record) (now : Instant) (limits : Json.Limits := {}) :
    Except Failure String := do
  let message ← r.fullMessage
  let incident ← r.fullIncident
  match r.obstacle? now incident limits with
  | some obstacle => .error (obstacleFailure limits obstacle)
  | none => return String.ofList (r.lineOf now message incident)

end Record

end AdmissionHooks.Log
