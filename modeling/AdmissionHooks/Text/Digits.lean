/-!
# Fixed-width digits

`digits base width n` writes the last `width` digits of `n`, zeros kept in front. `digitValue?`
reads one digit back, in either case of the letters.
-/

namespace AdmissionHooks.Text

def digit (n : Nat) : Char :=
  if n < 10 then Char.ofNat (48 + n) else Char.ofNat (87 + n)

def digits (base : Nat) : Nat → Nat → List Char
  | 0, _ => []
  | width + 1, n => digits base width (n / base) ++ [digit (n % base)]

@[simp] theorem length_digits (base width n : Nat) : (digits base width n).length = width := by
  induction width generalizing n with
  | zero => rfl
  | succ width ih => simp [digits, ih]

def digitValue? (c : Char) : Option Nat :=
  let n := c.toNat
  if 48 ≤ n ∧ n ≤ 57 then some (n - 48)
  else if 97 ≤ n ∧ n ≤ 102 then some (n - 87)
  else if 65 ≤ n ∧ n ≤ 70 then some (n - 55)
  else none

theorem digitValue?_digit {n : Nat} (h : n < 16) : digitValue? (digit n) = some n := by
  have all : ∀ k : Fin 16, digitValue? (digit k) = some k.val := by decide
  exact all ⟨n, h⟩

/-- The number that a run of digits stands for, with nothing for a character that is no digit of
the base. -/
def readDigits? (base : Nat) (cs : List Char) : Option Nat :=
  cs.foldl (fun total c => do
    let n ← total
    let d ← digitValue? c
    if d < base then some (n * base + d) else none) (some 0)

end AdmissionHooks.Text
