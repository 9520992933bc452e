import AdmissionHooks.Text.Digits

/-!
# Written numbers

A whole number is written in a base, with zeros in front up to a given count of digits. In the
forms with a point it stands for the nearest number of 53 binary digits and is written in plain
digits, with an exponent, or in the shorter of the two ways; a tie of two roundings goes to the even
neighbour.
-/

namespace AdmissionHooks.Text

/-- The nearest whole quotient; a tie goes to the even neighbour. -/
def roundDiv (n d : Nat) : Nat :=
  let q := n / d
  let twice := 2 * (n % d)
  if d < twice ∨ (twice = d ∧ q % 2 = 1) then q + 1 else q

theorem two_mul_roundDiv_le (n d : Nat) : 2 * (roundDiv n d * d) ≤ 2 * n + d := by
  have whole := Nat.div_add_mod n d
  have comm := Nat.mul_comm d (n / d)
  unfold roundDiv
  simp only
  split
  · rename_i h
    have step : (n / d + 1) * d = n / d * d + d := Nat.succ_mul _ _
    omega
  · omega

theorem two_mul_le_roundDiv (n : Nat) {d : Nat} (pos : 0 < d) :
    2 * n ≤ 2 * (roundDiv n d * d) + d := by
  have below := Nat.mod_lt n pos
  have whole := Nat.div_add_mod n d
  have comm := Nat.mul_comm d (n / d)
  unfold roundDiv
  simp only
  split
  · have step : (n / d + 1) * d = n / d * d + d := Nat.succ_mul _ _
    omega
  · omega

namespace Numeral

/-- A number as it is written: its sign, the mark of its base, and its digits. -/
structure Written where
  negative : Bool := false
  marker : List Char := []
  digits : List Char
  deriving DecidableEq, Repr

def zeros (count : Nat) : List Char := List.replicate count '0'

/-- The digits of a number, filled with zeros in front up to the given count. -/
def digitsOf (base count n : Nat) : List Char :=
  let shown := Nat.toDigits base n
  zeros (count - shown.length) ++ shown

def ofInt (base count : Nat) (marker : List Char) (n : Int) : Written :=
  ⟨decide (n < 0), marker, digitsOf base count n.natAbs⟩

/-! ## Forms with a point -/

def precisionBits : Nat := 53

def exponentBound : Nat := 1024

/-- The nearest number with 53 binary digits, unless it is out of bounds. -/
def approximate? (n : Nat) : Option Nat :=
  let shift := (n.log2 + 1) - precisionBits
  let near := roundDiv n (Nat.pow 2 shift) * Nat.pow 2 shift
  if near.log2 < exponentBound then some near else none

/-- The point and the digits behind it; a point with nothing behind it stays only when asked. -/
def fraction (keepPoint : Bool) (cs : List Char) : List Char :=
  if cs.isEmpty && !keepPoint then [] else '.' :: cs

def fixed (keepPoint : Bool) (places n : Nat) : List Char :=
  Nat.toDigits 10 n ++ fraction keepPoint (zeros places)

/-- At most the given count of leading digits, rounded, with the place of the first one. -/
def leading (count n : Nat) : List Char × Nat :=
  let shown := Nat.toDigits 10 n
  if shown.length ≤ count then (shown, shown.length - 1)
  else
    let rounded := Nat.toDigits 10 (roundDiv n (Nat.pow 10 (shown.length - count)))
    (rounded.take count, shown.length - 1 + (rounded.length - count))

def exponent (mark : Char) (place : Nat) : List Char := mark :: '+' :: digitsOf 10 2 place

/-- Digits with zeros behind them up to the given count. -/
def padded (count : Nat) (cs : List Char) : List Char := cs ++ zeros (count - cs.length)

/-- The count of digits of a form with an exponent is one word of 32 bits with a sign. -/
def placesBound : Nat := Nat.pow 2 31 - 1

/-- One digit before the point and the given number of places behind it; a count of digits out of
bounds counts as one digit. -/
def scientific (keepPoint : Bool) (mark : Char) (places n : Nat) : List Char :=
  let places := if places < placesBound then places else 0
  let found := leading (places + 1) n
  found.1.take 1 ++ fraction keepPoint (padded places (found.1.drop 1)) ++ exponent mark found.2

def dropZeros (cs : List Char) : List Char := (cs.reverse.dropWhile (· == '0')).reverse

/-- Plain digits as long as the count of digits allows it, and an exponent beyond; zeros at the end
of the fraction stay only when asked. -/
def general (keepPoint : Bool) (mark : Char) (count n : Nat) : List Char :=
  let count := max count 1
  let found := leading count n
  let behind (start : Nat) :=
    if keepPoint then padded (count - start) (found.1.drop start) else dropZeros (found.1.drop start)
  if found.2 < count then
    found.1.take (found.2 + 1) ++ fraction keepPoint (behind (found.2 + 1))
  else
    found.1.take 1 ++ fraction keepPoint (behind 1) ++ exponent mark found.2

example : String.ofList (scientific false 'e' 1 135) = "1.4e+02" := by decide
example : String.ofList (scientific false 'e' 3 99996) = "1.000e+05" := by decide
example : String.ofList (general false 'e' 6 1234567) = "1.23457e+06" := by decide
example : String.ofList (general true 'e' 6 5) = "5.00000" := by decide
example : approximate? (2 ^ 53 + 1) = some (2 ^ 53) := by decide +kernel

end Numeral

end AdmissionHooks.Text
