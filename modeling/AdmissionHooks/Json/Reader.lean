import AdmissionHooks.Json.Printer

/-!
# Reading JSON

`read?` reads a whole text as one value. Blank space is skipped between the parts of a value, the
escapes of a text are undone in two steps (characters to UTF-16 units, units to code points), and
a number with a fraction or an exponent is refused.
-/

namespace AdmissionHooks.Json

open Text (digitValue? readDigits?)

def isSpace (c : Char) : Bool := c = ' ' || c = '\n' || c = '\r' || c = '\t'

def skipSpace (cs : List Char) : List Char := cs.dropWhile isSpace

def shortEscape? : Char → Option Nat
  | '"' => some 0x22
  | '\\' => some 0x5C
  | '/' => some 0x2F
  | 'b' => some 0x08
  | 'f' => some 0x0C
  | 'n' => some 0x0A
  | 'r' => some 0x0D
  | 't' => some 0x09
  | _ => none

/-- The units of a text up to its closing quote, and what follows the quote. A character written
as itself gives its code point. -/
def readUnits : List Char → Option (List Nat × List Char)
  | [] => none
  | '"' :: rest => some ([], rest)
  | '\\' :: 'u' :: a :: b :: c :: d :: rest => do
      let unit ← readDigits? 16 [a, b, c, d]
      let (units, rest) ← readUnits rest
      some (unit :: units, rest)
  | '\\' :: c :: rest => do
      let unit ← shortEscape? c
      let (units, rest) ← readUnits rest
      some (unit :: units, rest)
  | c :: rest =>
      if c.toNat < 0x20 then none else do
      let (units, rest) ← readUnits rest
      some (c.toNat :: units, rest)

/-- Joins the halves of each pair; a half that stands alone is refused. -/
def joinUnits : List Nat → Option (List Char)
  | [] => some []
  | n :: rest =>
      if isHighHalf n then
        match rest with
        | [] => none
        | m :: rest =>
            if isLowHalf m then
              (joinUnits rest).map (Char.ofNat (0x10000 + (n - 0xD800) * 0x400 + (m - 0xDC00)) :: ·)
            else none
      else if isLowHalf n then none
      else (joinUnits rest).map (Char.ofNat n :: ·)

/-- The text whose opening quote has been read. -/
def readText (cs : List Char) : Option (String × List Char) := do
  let (units, rest) ← readUnits cs
  let text ← joinUnits units
  some (String.ofList text, rest)

/-- The digits of a number, without a zero in front of another digit. -/
def readNatural (cs : List Char) : Option (Nat × List Char) :=
  let shown := cs.takeWhile Char.isDigit
  let rest := cs.dropWhile Char.isDigit
  match shown, rest with
  | [], _ => none
  | '0' :: _ :: _, _ => none
  | _, '.' :: _ => none
  | _, 'e' :: _ => none
  | _, 'E' :: _ => none
  | _, _ => some (Nat.ofDigitChars 10 shown 0, rest)

def readNumber : List Char → Option (Json × List Char)
  | '-' :: cs => (readNatural cs).map fun r => (.int (-r.1), r.2)
  | cs => (readNatural cs).map fun r => (.int r.1, r.2)

mutual

/-- One value at the start of a text. The fuel bounds the depth of the recursion. -/
def readValue : Nat → List Char → Option (Json × List Char)
  | 0, _ => none
  | fuel + 1, cs =>
      match skipSpace cs with
      | 'n' :: 'u' :: 'l' :: 'l' :: rest => some (.null, rest)
      | 't' :: 'r' :: 'u' :: 'e' :: rest => some (.bool true, rest)
      | 'f' :: 'a' :: 'l' :: 's' :: 'e' :: rest => some (.bool false, rest)
      | '"' :: rest => (readText rest).map fun r => (.str r.1, r.2)
      | '[' :: rest =>
          match skipSpace rest with
          | ']' :: rest => some (.arr [], rest)
          | rest => do
              let (v, rest) ← readValue fuel rest
              let (items, rest) ← readItems fuel rest
              some (.arr (v :: items), rest)
      | '\x7b' :: rest =>
          match skipSpace rest with
          | '\x7d' :: rest => some (.obj [], rest)
          | rest => do
              let (member, rest) ← readMember fuel rest
              let (members, rest) ← readMembers fuel rest
              some (.obj (member :: members), rest)
      | rest => readNumber rest

/-- The items of an array after the first, through the closing bracket. -/
def readItems : Nat → List Char → Option (List Json × List Char)
  | 0, _ => none
  | fuel + 1, cs =>
      match skipSpace cs with
      | ']' :: rest => some ([], rest)
      | ',' :: rest => do
          let (v, rest) ← readValue fuel rest
          let (items, rest) ← readItems fuel rest
          some (v :: items, rest)
      | _ => none

def readMember : Nat → List Char → Option ((String × Json) × List Char)
  | 0, _ => none
  | fuel + 1, cs =>
      match skipSpace cs with
      | '"' :: rest => do
          let (name, rest) ← readText rest
          match skipSpace rest with
          | ':' :: rest => do
              let (v, rest) ← readValue fuel rest
              some ((name, v), rest)
          | _ => none
      | _ => none

/-- The members of an object after the first, through the closing brace. -/
def readMembers : Nat → List Char → Option (List (String × Json) × List Char)
  | 0, _ => none
  | fuel + 1, cs =>
      match skipSpace cs with
      | '\x7d' :: rest => some ([], rest)
      | ',' :: rest => do
          let (member, rest) ← readMember fuel rest
          let (members, rest) ← readMembers fuel rest
          some (member :: members, rest)
      | _ => none

end

def read? (s : String) : Option Json := do
  let cs := s.toList
  let (v, rest) ← readValue (cs.length + 1) cs
  if (skipSpace rest).isEmpty then some v else none

end AdmissionHooks.Json
