import AdmissionHooks.Base64.Alphabet

/-!
# Base64 encoding

Three bytes give four symbols; a last group of one or two bytes is padded to four signs.
-/

namespace AdmissionHooks.Base64

def encodeChars : Bytes → List Char
  | [] => []
  | [a] =>
      let x := a.toNat
      [symbol (x / 4), symbol (x % 4 * 16), '=', '=']
  | [a, b] =>
      let x := a.toNat
      let y := b.toNat
      [symbol (x / 4), symbol (x % 4 * 16 + y / 16), symbol (y % 16 * 4), '=']
  | a :: b :: c :: rest =>
      let x := a.toNat
      let y := b.toNat
      let z := c.toNat
      symbol (x / 4) :: symbol (x % 4 * 16 + y / 16) :: symbol (y % 16 * 4 + z / 64) ::
        symbol (z % 64) :: encodeChars rest

def encode (bytes : Bytes) : String := String.ofList (encodeChars bytes)

example : encode [0x41, 0x42, 0x43, 0xFF] = "QUJD/w==" := by decide

end AdmissionHooks.Base64
