import AdmissionHooks.Json.Basic
import AdmissionHooks.Text.Digits

/-!
# JSON on one line

The printed form uses the visible ASCII characters and the space only: every other character is
written by its UTF-16 units, so no text inside a value can break the line. Items are separated by
a comma and a space, a name from its value by a colon and a space.

Not every value can be printed. An integer may have too many digits, and lists and objects may stand
deeper inside each other than the calls that are left to the printer; whichever of the two it comes
to first ends the printing.
-/

namespace AdmissionHooks.Json

open Text (digits)

def escapeUnit (n : Nat) : List Char := '\\' :: 'u' :: digits 16 4 n

/-- The two halves of a code point beyond the 16-bit range. -/
def highHalf (n : Nat) : Nat := 0xD800 + (n - 0x10000) / 0x400

def lowHalf (n : Nat) : Nat := 0xDC00 + (n - 0x10000) % 0x400

def isHighHalf (n : Nat) : Bool := 0xD800 ≤ n && n < 0xDC00

def isLowHalf (n : Nat) : Bool := 0xDC00 ≤ n && n < 0xE000

def escapeCode (n : Nat) : List Char :=
  if n < 0x10000 then escapeUnit n else escapeUnit (highHalf n) ++ escapeUnit (lowHalf n)

def escapeChar (c : Char) : List Char :=
  if c = '"' then ['\\', '"']
  else if c = '\\' then ['\\', '\\']
  else if c = '\n' then ['\\', 'n']
  else if c = '\r' then ['\\', 'r']
  else if c = '\t' then ['\\', 't']
  else if c = '\x08' then ['\\', 'b']
  else if c = '\x0c' then ['\\', 'f']
  else if 0x20 ≤ c.toNat ∧ c.toNat ≤ 0x7E then [c]
  else escapeCode c.toNat

def printText (s : String) : List Char := '"' :: s.toList.flatMap escapeChar ++ ['"']

def printInt : Int → List Char
  | .ofNat n => Nat.toDigits 10 n
  | .negSucc n => '-' :: Nat.toDigits 10 (n + 1)

mutual

def print : Json → List Char
  | .null => ['n', 'u', 'l', 'l']
  | .bool true => ['t', 'r', 'u', 'e']
  | .bool false => ['f', 'a', 'l', 's', 'e']
  | .int n => printInt n
  | .str s => printText s
  | .arr [] => ['[', ']']
  | .arr (v :: items) => '[' :: print v ++ printItems items
  | .obj [] => ['\x7b', '\x7d']
  | .obj ((name, v) :: members) =>
      '\x7b' :: printText name ++ ':' :: ' ' :: print v ++ printMembers members

def printItems : List Json → List Char
  | [] => [']']
  | v :: items => ',' :: ' ' :: print v ++ printItems items

def printMembers : List (String × Json) → List Char
  | [] => ['\x7d']
  | (name, v) :: members =>
      ',' :: ' ' :: printText name ++ ':' :: ' ' :: print v ++ printMembers members

end

/-- The members of an object whose values have been printed, from the second one on. -/
def joinMembers : List (String × List Char) → List Char
  | [] => ['\x7d']
  | (name, shown) :: members =>
      ',' :: ' ' :: printText name ++ ':' :: ' ' :: shown ++ joinMembers members

def joinObject : List (String × List Char) → List Char
  | [] => ['\x7b', '\x7d']
  | (name, shown) :: members =>
      '\x7b' :: printText name ++ ':' :: ' ' :: shown ++ joinMembers members

def printMember (m : String × Json) : String × List Char := (m.1, print m.2)

theorem joinMembers_map (members : List (String × Json)) :
    joinMembers (members.map printMember) = printMembers members := by
  induction members with
  | nil => rfl
  | cons m members ih => simp [joinMembers, printMember, printMembers, ih]

theorem joinObject_map (members : List (String × Json)) :
    joinObject (members.map printMember) = print (.obj members) := by
  cases members with
  | nil => rfl
  | cons m members => simp [joinObject, printMember, print, joinMembers_map]

def line (v : Json) : String := String.ofList v.print

example : line (.arr [.int (-1), .str "\u007f\n", .obj [("é", .arr [])]]) =
    "[-1, \"\\u007f\\n\", \x7b\"\\u00e9\": []\x7d]" := by decide
example : line (.str "😀") = "\"\\ud83d\\ude00\"" := by decide

/-! ## Limits -/

/-- The most digits of an integer, and the most levels of lists and objects inside each other. How
many levels there are depends on the calls that the printer is reached by; these are what some ten
calls leave of a thousand. -/
structure Limits where
  digits : Nat := 4300
  levels : Nat := 990
  deriving DecidableEq, Repr

inductive Obstacle where
  | longInteger
  | tooDeep
  deriving DecidableEq, Repr

def digitCount (n : Int) : Nat := (Nat.toDigits 10 n.natAbs).length

mutual

/-- What the printing of a value comes to first that ends it, with the levels that are left. -/
def obstacle? (limits : Limits) (levels : Nat) : Json → Option Obstacle
  | .int n => if limits.digits < digitCount n then some .longInteger else none
  | .arr items =>
      if levels = 0 then some .tooDeep else itemsObstacle? limits (levels - 1) items
  | .obj members =>
      if levels = 0 then some .tooDeep else membersObstacle? limits (levels - 1) members
  | _ => none

def itemsObstacle? (limits : Limits) (levels : Nat) : List Json → Option Obstacle
  | [] => none
  | v :: items => (obstacle? limits levels v).or (itemsObstacle? limits levels items)

def membersObstacle? (limits : Limits) (levels : Nat) : List (String × Json) → Option Obstacle
  | [] => none
  | (_, v) :: members => (obstacle? limits levels v).or (membersObstacle? limits levels members)

end

end AdmissionHooks.Json
