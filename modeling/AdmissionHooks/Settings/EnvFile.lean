import AdmissionHooks.Text.Blank

/-!
# Files of variables

A file holds statements, `NAME=value` with an optional word `export` in front, and comments after a
number sign. Blanks around the equals sign do not count. A value without quotes ends at a blank
that is followed by a number sign, and loses the blanks at its end. Between quotes everything
counts, also the ends of lines; a backslash keeps the next character inside and writes the controls
inside double quotes. A name may stand alone, without a value, or between single quotes. A statement
of another form is left out together with the rest of its line, and its line is remembered.
-/

namespace AdmissionHooks

/-- The variables that a text sets, in order and without a value where none is given, and the lines
on which the statements start that are left out. -/
structure EnvFile where
  entries : List (String × Option String) := []
  unclear : List Nat := []
  deriving DecidableEq, Repr

namespace EnvFile

open Text (isBlank trimRight)

/-- Writes every line break as a single line feed. -/
def unifyBreaks : List Char → List Char
  | [] => []
  | '\r' :: '\n' :: rest => '\n' :: unifyBreaks rest
  | '\r' :: rest => '\n' :: unifyBreaks rest
  | c :: rest => c :: unifyBreaks rest

def byteOrderMark : Char := '\ufeff'

/-- Drops one mark of the byte order at the start. -/
def skipMark : List Char → List Char
  | [] => []
  | c :: rest => if c = byteOrderMark then rest else c :: rest

def isInlineBlank (c : Char) : Bool := isBlank c && c != '\n'

def isInline (c : Char) : Bool := c != '\n'

def skipInline (cs : List Char) : List Char := cs.dropWhile isInlineBlank

def skipLine (cs : List Char) : List Char := (cs.dropWhile isInline).drop 1

/-- What a part of a statement gives, with the text behind it; or only that text, if the part is
not there. -/
abbrev Part (α : Type) := Except (List Char) (α × List Char)

/-- Skips the word in front of a statement, if blanks follow it. -/
def skipExport (cs : List Char) : List Char :=
  match cs with
  | 'e' :: 'x' :: 'p' :: 'o' :: 'r' :: 't' :: c :: rest =>
      if isInlineBlank c then skipInline rest else cs
  | _ => cs

def isNameChar (c : Char) : Bool := !(isBlank c || c == '=' || c == '#')

/-- The name at the start of a statement; a comment has none. -/
def readName (cs : List Char) : Part (Option (List Char)) :=
  match cs with
  | '#' :: _ => .ok (none, cs)
  | '\'' :: inside =>
      match inside.takeWhile (· != '\''), inside.dropWhile (· != '\'') with
      | c :: name, _ :: rest => .ok (some (c :: name), rest)
      | _, _ => .error cs
  | cs =>
      match cs.takeWhile isNameChar with
      | [] => .error cs
      | name => .ok (some name, cs.dropWhile isNameChar)

/-- A value without quotes: all before a blank with a number sign behind it. -/
def bareValue : List Char → List Char
  | [] => []
  | c :: rest =>
      if isBlank c && (rest.dropWhile isBlank).head? = some '#' then []
      else c :: bareValue rest

/-- The inside of a quoted value and what follows the closing quote. A backslash keeps the
character behind it inside. -/
def quotedValue (mark : Char) : List Char → Option (List Char × List Char)
  | [] => none
  | ['\\'] => none
  | '\\' :: c :: rest => (quotedValue mark rest).map fun r => ('\\' :: c :: r.1, r.2)
  | c :: rest =>
      if c = mark then some ([], rest) else (quotedValue mark rest).map fun r => (c :: r.1, r.2)

def singleEscape? : Char → Option Char
  | '\\' => some '\\'
  | '\'' => some '\''
  | _ => none

def doubleEscape? : Char → Option Char
  | '\\' => some '\\'
  | '\'' => some '\''
  | '"' => some '"'
  | 'a' => some '\x07'
  | 'b' => some '\x08'
  | 'f' => some '\x0c'
  | 'n' => some '\n'
  | 'r' => some '\r'
  | 't' => some '\t'
  | 'v' => some '\x0b'
  | _ => none

def unescape (escape? : Char → Option Char) : List Char → List Char
  | [] => []
  | '\\' :: c :: rest =>
      match escape? c with
      | some d => d :: unescape escape? rest
      | none => '\\' :: unescape escape? (c :: rest)
  | c :: rest => c :: unescape escape? rest

def readQuoted (escape? : Char → Option Char) (mark : Char) (inside : List Char) :
    Part (List Char) :=
  match quotedValue mark inside with
  | some (value, rest) => .ok (unescape escape? value, rest)
  | none => .error (mark :: inside)

/-- The value behind an equals sign. Blanks at its start count only before a number sign. -/
def readValue (cs : List Char) : Part (List Char) :=
  match skipInline cs with
  | '\'' :: inside => readQuoted singleEscape? '\'' inside
  | '"' :: inside => readQuoted doubleEscape? '"' inside
  | start =>
      let line := if start.head? = some '#' then cs else start
      .ok (trimRight (bareValue (line.takeWhile isInline)), start.dropWhile isInline)

/-- What follows the end of a line, which may have a comment. -/
def endLine (cs : List Char) : Part Unit :=
  match skipInline cs with
  | [] => .ok ((), [])
  | '#' :: rest => .ok ((), skipLine rest)
  | '\n' :: rest => .ok ((), rest)
  | rest => .error rest

/-- The value of a statement whose name has been read, if an equals sign follows. -/
def readSetting (cs : List Char) : Part (Option (List Char)) :=
  match skipInline cs with
  | '=' :: rest => (readValue rest).map fun r => (some r.1, r.2)
  | rest => .ok (none, rest)

def readStatement (cs : List Char) :
    Except (List Char) (Option (String × Option String) × List Char) := do
  let (name, rest) ← readName (skipExport cs)
  let (value, rest) ← readSetting rest
  let ((), rest) ← endLine rest
  return (name.map fun n => (String.ofList n, value.map String.ofList), rest)

/-- Reads the statements of a text, of which the given count of lines has been read. -/
def readStatements : Nat → Nat → List Char → EnvFile
  | 0, _, _ => {}
  | fuel + 1, lines, cs =>
      match cs.dropWhile isBlank with
      | [] => {}
      | start =>
          let next (rest : List Char) :=
            readStatements fuel (lines + (cs.count '\n' - rest.count '\n')) rest
          match readStatement start with
          | .ok (entry, rest) =>
              let others := next rest
              { others with entries := entry.toList ++ others.entries }
          | .error rest =>
              let others := next (skipLine rest)
              { others with unclear := (lines + 1) :: others.unclear }

def ofText (text : String) : EnvFile :=
  let cs := skipMark (unifyBreaks text.toList)
  readStatements (cs.length + 1) 0 cs

example : ofText "export A = b c # d\r\nB=\"x\\n#\" # y\n# C=1\nD='a\\n'" =
    ⟨[("A", some "b c"), ("B", some "x\n#"), ("D", some "a\\n")], []⟩ := by decide +kernel
example : ofText "A='x\n\n'B\nC\nD= # e" = ⟨[("C", none), ("D", some "")], [1]⟩ := by
  decide +kernel

end EnvFile

end AdmissionHooks
