import AdmissionHooks.Failure

/-!
# Values in messages

An argument of a message, or an attribute of a record, is a JSON value or a failure. A failure is
shown by its message, and between other values by its name and what it was raised with.
-/

namespace AdmissionHooks.Log

inductive Value where
  | plain (v : Json)
  | failure (e : Failure)
  deriving Repr

namespace Value

def typeName : Value → String
  | .plain v => v.typeName
  | .failure e => e.name

def isVoid : Value → Bool
  | .plain v => v.isVoid
  | .failure _ => false

def whole? : Value → Option Int
  | .plain v => v.whole?
  | .failure _ => none

def display : Value → List Char
  | .plain v => v.display
  | .failure e => e.message.toList

def nested : Value → List Char
  | .plain v => v.nested
  | .failure e => e.quoted

def plainNested (v : Value) : List Char :=
  v.nested.flatMap fun c => if c.toNat < 0x80 then [c] else Text.escapeHidden c

/-- The value that is written into a line; a failure is written as its message. -/
def json : Value → Json
  | .plain v => v
  | .failure e => .str e.message

example : String.ofList (plainNested (.plain (.str "\u00e9"))) = "'\\xe9'" := by decide +kernel
example : String.ofList (nested (.failure (Failure.missingKey "k"))) = "KeyError('k')" := by
  decide +kernel

end Value

end AdmissionHooks.Log
