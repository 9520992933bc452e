import AdmissionHooks.Log.Glyph
import AdmissionHooks.Log.Template
import AdmissionHooks.Log.Value
import AdmissionHooks.Text.Numeral

/-!
# Messages

A message is made of a template and its arguments: a row of values that the placeholders take in
turn, or a single value, which may be a mapping whose members are taken by name. A message without
arguments is no template and stays as it is. Every value of a row has to be taken.
-/

namespace AdmissionHooks.Log

open Text Text.Numeral

inductive Arguments where
  | row (items : List Value)
  | single (v : Value)
  deriving Repr

namespace Arguments

/-- The arguments of a record; a mapping that stands alone and has members is meant by name. -/
def ofRow : List Json → Arguments
  | [.obj (m :: members)] => .single (.plain (.obj (m :: members)))
  | items => .row (items.map .plain)

def isVoid : Arguments → Bool
  | .row items => items.isEmpty
  | .single v => v.isVoid

def pending : Arguments → List Value
  | .row items => items
  | .single v => [v]

def source? : Arguments → Option Json
  | .single (.plain (.obj members)) => some (.obj members)
  | .single (.plain (.arr items)) => some (.arr items)
  | _ => none

end Arguments

inductive MessageError where
  | leftover
  | missing
  | noNumber (letter : Char) (typeName : String)
  | noReal (typeName : String)
  | noCharacter
  | noAmount
  | noMapping
  | namedItem
  | noMember (name : String)
  | unclosedKey
  | incomplete
  | unsupported (letter : Char) (index : Nat)
  | wide
  | precise
  | wideArgument
  | preciseArgument
  | preciseWhole
  | endless
  | outsideCharacters
  | outsideReals
  deriving DecidableEq, Repr

namespace MessageError

def kind : MessageError → String
  | .noMember _ => "KeyError"
  | .unclosedKey | .incomplete | .unsupported .. | .wide | .precise => "ValueError"
  | .endless => "MemoryError"
  | .wideArgument | .preciseArgument | .preciseWhole | .outsideCharacters | .outsideReals =>
      "OverflowError"
  | _ => "TypeError"

/-- The letters that ask for whole numbers in other bases. -/
def isBaseLetter (c : Char) : Bool := c == 'o' || c == 'x' || c == 'X'

def message : MessageError → String
  | .leftover => "not all arguments converted during string formatting"
  | .missing => "not enough arguments for format string"
  | .noNumber c t =>
      "%" ++ c.toString ++ " format: " ++
        (if isBaseLetter c then "an integer" else "a real number") ++ " is required, not " ++ t
  | .noReal t => "must be real number, not " ++ t
  | .noCharacter => "%c requires int or char"
  | .noAmount => "* wants int"
  | .noMapping => "format requires a mapping"
  | .namedItem => "list indices must be integers or slices, not str"
  | .noMember name => name
  | .unclosedKey => "incomplete format key"
  | .incomplete => "incomplete format"
  | .unsupported c index =>
      "unsupported format character '" ++
        (if 31 ≤ c.toNat ∧ c.toNat ≤ 126 then c.toString else "?") ++ "' (0x" ++
        String.ofList (Nat.toDigits 16 c.toNat) ++ ") at index " ++ toString index
  | .wide => "width too big"
  | .precise => "precision too big"
  | .wideArgument => "Python int too large to convert to C ssize_t"
  | .preciseArgument => "Python int too large to convert to C int"
  | .preciseWhole => "precision too large"
  | .endless => ""
  | .outsideCharacters => "%c arg not in range(0x110000)"
  | .outsideReals => "int too large to convert to float"

end MessageError

namespace Placeholder

/-! ## Filling -/

/-- What a value is shown as before it is filled to a width: a number has a front, its sign and the
mark of its base, behind which it may be filled with zeros. -/
structure Shown where
  front : List Char := []
  body : Message
  zeroable : Bool := false
  deriving DecidableEq, Repr

def sign (m : Marks) (negative : Bool) : List Char :=
  if negative then ['-'] else if m.signed then ['+'] else if m.spaced then [' '] else []

def Shown.ofChars (cs : List Char) : Shown := { body := Message.ofChars cs }

def Shown.ofNumber (m : Marks) (w : Written) : Shown :=
  ⟨sign m w.negative ++ w.marker, Message.ofChars w.digits, true⟩

def repeated (c : Char) (count : Nat) : Message := List.replicate count (.char c)

/-- Fills to a width: with blanks, or with zeros behind the front of a number. -/
def Shown.fill (s : Shown) (m : Marks) (width : Nat) : Message :=
  let front := Message.ofChars s.front
  let missing := width - (front.length + s.body.length)
  if m.onRight then front ++ s.body ++ repeated ' ' missing
  else if m.zeroed && s.zeroable then front ++ repeated '0' missing ++ s.body
  else repeated ' ' missing ++ front ++ s.body

/-! ## Values -/

def cut (precision : Option Nat) (cs : List Char) : List Char :=
  match precision with
  | none => cs
  | some n => cs.take n

def capitalDigits (w : Written) : Written :=
  { w with marker := w.marker.map Char.toUpper, digits := w.digits.map Char.toUpper }

/-- The count of digits up to which a whole number is written. -/
def digitsBound : Nat := (1 <<< 31) - 4

def writeWhole (letter : Char) (marked : Bool) (precision : Option Nat) (n : Int) : Written :=
  let count := precision.getD 0
  let marker (mark : Char) := if marked then ['0', mark] else []
  if letter = 'o' then ofInt 8 count (marker 'o') n
  else if letter = 'x' then ofInt 16 count (marker 'x') n
  else if letter = 'X' then capitalDigits (ofInt 16 count (marker 'x') n)
  else ofInt 10 count [] n

def whole (letter : Char) (marked : Bool) (precision : Option Nat) (v : Value) :
    Except MessageError Written :=
  match v.whole? with
  | none => .error (.noNumber letter v.typeName)
  | some n =>
      if digitsBound < precision.getD 0 then .error .preciseWhole
      else .ok (writeWhole letter marked precision n)

def defaultPlaces : Nat := 6

def writeReal (letter : Char) (keepPoint : Bool) (precision : Option Nat) (n : Int)
    (near : Nat) : Written :=
  let places := precision.getD defaultPlaces
  let shown :=
    if letter = 'e' ∨ letter = 'E' then scientific keepPoint letter places near
    else if letter = 'g' then general keepPoint 'e' places near
    else if letter = 'G' then general keepPoint 'E' places near
    else fixed keepPoint places near
  { negative := decide (n < 0), digits := shown }

def real (letter : Char) (keepPoint : Bool) (precision : Option Nat) (v : Value) :
    Except MessageError Written :=
  match v.whole? with
  | none => .error (.noReal v.typeName)
  | some n =>
      match approximate? n.natAbs with
      | none => .error .outsideReals
      | some near => .ok (writeReal letter keepPoint precision n near)

def characterBound : Int := 0x110000

/-- A glyph, given by a text of one character or by its number. -/
def glyph (v : Value) : Except MessageError Glyph :=
  match v with
  | .plain (.str s) =>
      match s.toList with
      | [c] => .ok (.char c)
      | _ => .error .noCharacter
  | v =>
      match v.whole? with
      | none => .error .noCharacter
      | some n =>
          if 0 ≤ n ∧ n < characterBound then .ok (Glyph.ofNumber n.toNat)
          else .error .outsideCharacters

def convert (m : Marks) (precision : Option Nat) (letter : Char) (index : Nat) (v : Value) :
    Except MessageError Shown :=
  if letter = 's' then .ok (.ofChars (cut precision v.display))
  else if letter = 'r' then .ok (.ofChars (cut precision v.nested))
  else if letter = 'a' then .ok (.ofChars (cut precision v.plainNested))
  else if ['d', 'i', 'u', 'o', 'x', 'X'].contains letter then
    (whole letter m.marked precision v).map (.ofNumber m)
  else if ['e', 'E', 'f', 'F', 'g', 'G'].contains letter then
    (real letter m.marked precision v).map (.ofNumber m)
  else if letter = 'c' then (glyph v).map fun g => { body := [g] }
  else .error (.unsupported letter index)

/-! ## Taking arguments -/

def take : List Value → Except MessageError (Value × List Value)
  | [] => .error .missing
  | v :: rest => .ok (v, rest)

def member (source : Option Json) (name : String) : Except MessageError Json :=
  match source with
  | none => .error .noMapping
  | some (.obj members) =>
      match Json.member? (.obj members) name with
      | some v => .ok v
      | none => .error (.noMember name)
  | some _ => .error .namedItem

/-- The values that the rest of a message takes in turn, once the key is known. -/
def select (source : Option Json) (pending : List Value) : Key → Except MessageError (List Value)
  | .none => .ok pending
  | .named name => (member source (String.ofList name)).map fun v => [.plain v]
  | .unclosed => if source.isNone then .error .noMapping else .error .unclosedKey

structure Bounds where
  bits : Nat
  tooBig : MessageError
  tooBigArgument : MessageError

/-- The first number that does not fit. -/
def Bounds.limit (b : Bounds) : Nat := 1 <<< b.bits

def widthBounds : Bounds := ⟨63, .wide, .wideArgument⟩

def precisionBounds : Bounds := ⟨31, .precise, .preciseArgument⟩

/-- The number that an amount stands for, and the values that are left. -/
def measure (b : Bounds) (pending : List Value) :
    Amount → Except MessageError (Option Int × List Value)
  | .none => .ok (none, pending)
  | .number n => if n < b.limit then .ok (some n, pending) else .error b.tooBig
  | .argument => do
      let (v, rest) ← take pending
      match v.whole? with
      | none => .error .noAmount
      | some n =>
          if -(b.limit : Int) ≤ n ∧ n < b.limit then .ok (some n, rest)
          else .error b.tooBigArgument

/-- The width that no message can reach. -/
def widthBound : Nat := 1 <<< 31

/-- The width that a number asks for. The least number of a word has no width: it is its own
opposite there. -/
def widthOf (n : Int) : Nat := if n = -(widthBounds.limit : Int) then 0 else n.natAbs

/-- What a placeholder shows, and the values that are left. A negative width fills on the right. -/
def resolve (p : Placeholder) (source : Option Json) (pending : List Value) :
    Except MessageError (Message × List Value) := do
  let pending ← select source pending p.key
  let (width, pending) ← measure widthBounds pending p.width
  let (precision, pending) ← measure precisionBounds pending p.precision
  match p.letter with
  | none => .error .incomplete
  | some letter => do
      let (v, pending) ← take pending
      let width := width.getD 0
      let marks := { p.marks with onRight := p.marks.onRight || decide (width < 0) }
      let shown ← convert marks (precision.map Int.toNat) letter p.index v
      if widthBound ≤ widthOf width then .error .endless
      else return (shown.fill marks (widthOf width), pending)

end Placeholder

def compose (source : Option Json) : List Value → List Piece → Except MessageError Message
  | pending, [] => if pending.isEmpty || source.isSome then .ok [] else .error .leftover
  | pending, .text c :: rest => (compose source pending rest).map (.char c :: ·)
  | pending, .placeholder p :: rest => do
      let (shown, pending) ← p.resolve source pending
      (compose source pending rest).map (shown ++ ·)

def render (template : String) (args : Arguments) : Except MessageError Message :=
  if args.isVoid then .ok (Message.ofText template)
  else compose args.source? args.pending (Template.pieces template.toList)

theorem render_of_isVoid (template : String) {args : Arguments} (h : args.isVoid = true) :
    render template args = .ok (Message.ofText template) := by
  simp [render, h]

example : render "%5d|%-5s|" (.ofRow [.int 42, .str "ab"]) =
    .ok (Message.ofText "   42|ab   |") := by cbv
example : render "%%" (.ofRow [.str "x"]) = .error .leftover := by cbv
example : render "100%" (.ofRow [.null]) = .error .incomplete := by cbv
example : render "%(a)s" (.ofRow [.obj [("a", .str "b")]]) = .ok (Message.ofText "b") := by cbv
example : render "%c" (.ofRow [.int 0xDFFF]) = .ok [.half 0xDFFF] := by cbv

end AdmissionHooks.Log
