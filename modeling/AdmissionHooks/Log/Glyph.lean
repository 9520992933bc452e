import AdmissionHooks.Json.Printer

/-!
# Glyphs

A message is a row of glyphs. A glyph is a character, or half of a pair of UTF-16 units: a half is no
character, but an argument that gives a character by its number can bring one in. A line of JSON
shows a half as any other unit; a plain line, which cannot hold it, shows its escape.
-/

namespace AdmissionHooks.Log

inductive Glyph where
  | char (c : Char)
  | half (unit : Nat)
  deriving DecidableEq, Repr

namespace Glyph

def ofNumber (n : Nat) : Glyph :=
  if Json.isHighHalf n || Json.isLowHalf n then .half n else .char (Char.ofNat n)

def escaped : Glyph → List Char
  | .char c => Json.escapeChar c
  | .half n => Json.escapeUnit n

def plain : Glyph → List Char
  | .char c => [c]
  | .half n => Json.escapeUnit n

end Glyph

abbrev Message := List Glyph

namespace Message

def ofChars (cs : List Char) : Message := cs.map .char

def ofText (s : String) : Message := ofChars s.toList

def quoted (m : Message) : List Char := '"' :: m.flatMap Glyph.escaped ++ ['"']

def plain (m : Message) : String := String.ofList (m.flatMap Glyph.plain)

theorem quoted_ofText (s : String) : (ofText s).quoted = Json.printText s := by
  simp [quoted, ofText, ofChars, Json.printText, List.flatMap_map, Glyph.escaped]

theorem plain_ofText (s : String) : (ofText s).plain = s := by
  simp [plain, ofText, ofChars, List.flatMap_map, Glyph.plain, List.flatMap_singleton']

end Message

end AdmissionHooks.Log
