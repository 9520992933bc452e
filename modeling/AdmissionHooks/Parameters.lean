import AdmissionHooks.Failure

/-!
# Parameters by name

An operation takes some parameters that are required and some that are not, and is refused when it
is given one that it does not take or is not given one that it requires. The first that it does
not take counts before all that are missing. An operation that makes a thing has that thing as a
parameter of its own, which is set from the start and so is not taken by name either.
-/

namespace AdmissionHooks

structure Parameters where
  operation : String
  required : List String := []
  optional : List String := []
  /-- The parameter that stands for what is made. -/
  subject : Option String := none
  deriving DecidableEq, Repr

namespace Parameters

def ofFailure (name : String) (required optional : List String) : Parameters :=
  ⟨name ++ ".__init__", required, optional, some "self"⟩

def names (p : Parameters) : List String := p.required ++ p.optional

def untaken? (p : Parameters) (given : List String) : Option String :=
  given.find? fun name => !p.names.contains name

def missing (p : Parameters) (given : List String) : List String :=
  p.required.filter fun name => !given.contains name

/-- Why a parameter is not taken: it is set already, or the operation does not know it. -/
def untakenFailure (p : Parameters) (name : String) : Failure :=
  let complaint :=
    if p.subject = some name then "multiple values for" else "an unexpected keyword"
  Failure.raised "TypeError" (p.operation ++ "() got " ++ complaint ++ " argument '" ++ name ++ "'")

def enumerated : List String → String
  | [] => ""
  | [a] => a
  | [a, b] => a ++ " and " ++ b
  | names =>
      String.intercalate ", " names.dropLast ++ ", and " ++ (names.getLast?).getD ""

example : enumerated ["'a'", "'b'", "'c'"] = "'a', 'b', and 'c'" := by decide

def missingFailure (p : Parameters) (names : List String) : Failure :=
  Failure.raised "TypeError"
    (p.operation ++ "() missing " ++ toString names.length ++ " required positional argument" ++
      (if names.length = 1 then "" else "s") ++ ": " ++
      enumerated (names.map fun name => "'" ++ name ++ "'"))

def check (p : Parameters) (given : List String) : Except Failure Unit :=
  match p.untaken? given with
  | some name => .error (p.untakenFailure name)
  | none =>
      match p.missing given with
      | [] => .ok ()
      | names => .error (p.missingFailure names)

end Parameters

/-! ## Failures that take parameters -/

def Report.parameters (name : String) : Parameters :=
  let made := Parameters.ofFailure name
  if name = "CAResolutionError" then made ["message"] ["user_action"]
  else if name = "BuildError" then made ["message"] ["cause", "user_action"]
  else if name = "ExternalServiceError" then made ["service", "message"] ["user_action", "cause"]
  else if name = "KubernetesAPIError" then made ["message"] ["reason", "status", "cause"]
  else made ["message", "category"] ["user_action", "cause"]

namespace Failure

/-- Failures that take more than a detail, with the parameters that they take. The detail stands
for the first of them. -/
def demanding : List (String × Parameters) :=
  let pool := Parameters.ofFailure "PoolError" ["pool", "message"] []
  let request := Parameters.ofFailure "RequestError" ["pool", "url", "message"] []
  let own (name : String) (required optional : List String) : String × Parameters :=
    (name, Parameters.ofFailure name required optional)
  [("PoolError", pool), ("EmptyPoolError", pool), ("FullPoolError", pool),
    ("ClosedPoolError", pool), ("RequestError", request), ("ReadTimeoutError", request),
    own "MaxRetryError" ["pool", "url"] ["reason"],
    own "HostChangedError" ["pool", "url"] ["retries"],
    own "ProxyError" ["message", "error"] [],
    own "NewConnectionError" ["conn", "message"] [],
    own "NameResolutionError" ["host", "conn", "reason"] [],
    own "IncompleteRead" ["partial", "expected"] [],
    own "InvalidChunkLength" ["response", "length"] [],
    own "HeaderParsingError" ["defects", "unparsed_data"] []]

def makeTransport (name : String) (detail : Json) : Except Failure Failure :=
  match demanding.lookup name with
  | none => .ok (ofTransportName name detail)
  | some p => (p.check (p.required.take 1)).map fun _ => ofTransportName name detail

/-- Runtime failures that take more than a detail, with what is said of the lack. -/
def unmakeable : List (String × String) :=
  let group := "BaseExceptionGroup.__new__() takes exactly 2 arguments (1 given)"
  [("UnicodeDecodeError", "function takes exactly 5 arguments (1 given)"),
    ("UnicodeEncodeError", "function takes exactly 5 arguments (1 given)"),
    ("UnicodeTranslateError", "function takes exactly 4 arguments (1 given)"),
    ("BaseExceptionGroup", group), ("ExceptionGroup", group)]

def makeRuntime (name : String) (detail : Json) : Except Failure Failure :=
  match unmakeable.lookup name with
  | none => .ok (ofRuntimeName name detail)
  | some text => .error (raised "TypeError" text)

end Failure

end AdmissionHooks
