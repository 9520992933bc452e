import AdmissionHooks.Json.Printer
import AdmissionHooks.Text.Quoted

/-!
# Values as they are shown

A value has a text in which it stands in a message: texts stand as they are, everything else as it
would inside a list, where texts are quoted.
-/

namespace AdmissionHooks

namespace Json

/-- Whether a value counts as nothing: no value, no truth, no number, or empty. -/
def isVoid : Json → Bool
  | .null => true
  | .bool b => !b
  | .int n => n == 0
  | .str s => s.isEmpty
  | .arr items => items.isEmpty
  | .obj members => members.isEmpty

def typeName : Json → String
  | .null => "NoneType"
  | .bool _ => "bool"
  | .int _ => "int"
  | .str _ => "str"
  | .arr _ => "list"
  | .obj _ => "dict"

/-- The whole number that a value is; truth counts as one. -/
def whole? : Json → Option Int
  | .int n => some n
  | .bool b => some (if b then 1 else 0)
  | _ => none

open Text (quoteChars)

mutual

/-- A value inside a list or a mapping, where texts are quoted. -/
def nested : Json → List Char
  | .null => "None".toList
  | .bool true => "True".toList
  | .bool false => "False".toList
  | .int n => printInt n
  | .str s => quoteChars s.toList
  | .arr [] => ['[', ']']
  | .arr (v :: items) => '[' :: nested v ++ nestedItems items
  | .obj [] => ['\x7b', '\x7d']
  | .obj ((name, v) :: members) =>
      '\x7b' :: quoteChars name.toList ++ ':' :: ' ' :: nested v ++ nestedMembers members

def nestedItems : List Json → List Char
  | [] => [']']
  | v :: items => ',' :: ' ' :: nested v ++ nestedItems items

def nestedMembers : List (String × Json) → List Char
  | [] => ['\x7d']
  | (name, v) :: members =>
      ',' :: ' ' :: quoteChars name.toList ++ ':' :: ' ' :: nested v ++ nestedMembers members

end

/-- A value as it stands in a message; only a text is shown without quotes. -/
def display : Json → List Char
  | .str s => s.toList
  | v => nested v

def displayText (v : Json) : String := String.ofList (display v)

example : displayText (.arr [.str "it's", .null, .bool true]) = "[\"it's\", None, True]" := by
  decide +kernel

end Json

end AdmissionHooks
