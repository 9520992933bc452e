import AdmissionHooks.Base64.Alphabet

/-!
# Strict base64 decoding

Only the alphabet and the padding sign are accepted, and padding only at the end. After full
groups any number of padding signs may follow; a last group of two or three symbols needs exactly
the signs that fill it. Bits left over in a padded group are dropped.
-/

namespace AdmissionHooks.Base64

inductive DecodeError where
  | notAscii
  | leadingPadding
  | foreignCharacter
  | discontinuousPadding
  | excessData
  | incorrectPadding
  | loneSymbol (symbols : Nat)
  deriving DecidableEq, Repr

def DecodeError.message : DecodeError → String
  | .notAscii => "string argument should contain only ASCII characters"
  | .leadingPadding => "Leading padding not allowed"
  | .foreignCharacter => "Only base64 data is allowed"
  | .discontinuousPadding => "Discontinuous padding not allowed"
  | .excessData => "Excess data after padding"
  | .incorrectPadding => "Incorrect padding"
  | .loneSymbol symbols =>
      "Invalid base64-encoded string: number of data characters (" ++ toString symbols ++
        ") cannot be 1 more than a multiple of 4"

def fullGroup (a b c d : Nat) : Bytes :=
  [UInt8.ofNat (a * 4 + b / 16), UInt8.ofNat (b % 16 * 16 + c / 4), UInt8.ofNat (c % 4 * 64 + d)]

/-- The bytes of a group that is not full. -/
def partialGroup : List Nat → Bytes
  | [a, b] => [UInt8.ofNat (a * 4 + b / 16)]
  | [a, b, c] => [UInt8.ofNat (a * 4 + b / 16), UInt8.ofNat (b % 16 * 16 + c / 4)]
  | _ => []

/-- Where the decoder stands: the values of the open group, the padding signs that count towards
it, whether any padding sign was seen, and the symbols taken so far. -/
structure Position where
  group : List Nat := []
  pads : Nat := 0
  padded : Bool := false
  symbols : Nat := 0

def Position.finish (p : Position) : Except DecodeError Bytes :=
  match p.group.length with
  | 0 => .ok []
  | 1 => .error (.loneSymbol p.symbols)
  | _ => .error .incorrectPadding

def scan (p : Position) : List Char → Except DecodeError Bytes
  | [] => p.finish
  | c :: rest =>
      if c = '=' then
        if 2 ≤ p.group.length then
          if 4 ≤ p.group.length + (p.pads + 1) then
            if rest.isEmpty then .ok (partialGroup p.group) else .error .excessData
          else scan { p with pads := p.pads + 1, padded := true } rest
        else scan { p with padded := true } rest
      else
        match value? c with
        | none => .error .foreignCharacter
        | some v =>
            if p.padded then .error .discontinuousPadding
            else
              match p.group with
              | [x, y, z] =>
                  (scan ⟨[], 0, false, p.symbols + 1⟩ rest).map (fullGroup x y z v ++ ·)
              | group => scan ⟨group ++ [v], 0, false, p.symbols + 1⟩ rest

def decodeChars (cs : List Char) : Except DecodeError Bytes :=
  if cs.any (fun c => 128 ≤ c.toNat) then .error .notAscii
  else if cs.head? = some '=' then .error .leadingPadding
  else scan {} cs

def decode (s : String) : Except DecodeError Bytes := decodeChars s.toList

end AdmissionHooks.Base64
