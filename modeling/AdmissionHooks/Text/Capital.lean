/-!
# Capital and small letters

Capital forms as far as they can spell a word of ASCII letters: the letters themselves, the
letters of other alphabets whose capital is one of them, and the ligatures that open up into two or
three. Any other character is kept, and no word of ASCII letters has it. In the same way small
forms are needed only where they are ASCII, which adds the sign of the kelvin.
-/

namespace AdmissionHooks.Text

def capital (c : Char) : List Char :=
  let n := c.toNat
  if 97 ≤ n ∧ n ≤ 122 then [Char.ofNat (n - 32)]
  else if n = 0xDF then ['S', 'S']
  else if n = 0x131 then ['I']
  else if n = 0x17F then ['S']
  else if n = 0xFB00 then ['F', 'F']
  else if n = 0xFB01 then ['F', 'I']
  else if n = 0xFB02 then ['F', 'L']
  else if n = 0xFB03 then ['F', 'F', 'I']
  else if n = 0xFB04 then ['F', 'F', 'L']
  else if n = 0xFB05 ∨ n = 0xFB06 then ['S', 'T']
  else [c]

def capitals (s : String) : String := String.ofList (s.toList.flatMap capital)

def smallAscii (c : Char) : Char :=
  let n := c.toNat
  if 65 ≤ n ∧ n ≤ 90 then Char.ofNat (n + 32) else c

def small (c : Char) : Char := if c = '\u212a' then 'k' else smallAscii c

/-- Whether two names are the same but for the case of their letters. -/
def sameName (a b : String) : Bool := a.toList.map small == b.toList.map small

example : capitals "warn\u0131ng" = "WARNING" := by decide
example : sameName "Kube_Policy" "\u212aUBE_policy" = true := by decide

end AdmissionHooks.Text
