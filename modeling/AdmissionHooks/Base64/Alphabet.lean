/-!
# The base64 alphabet

`symbol` and `value?` are inverse to each other on the 64 symbols. The padding sign is not among
them.
-/

namespace AdmissionHooks

abbrev Bytes := List UInt8

namespace Base64

def symbol (n : Nat) : Char :=
  if n < 26 then Char.ofNat (65 + n)
  else if n < 52 then Char.ofNat (71 + n)
  else if n < 62 then Char.ofNat (n - 4)
  else if n = 62 then '+'
  else '/'

def value? (c : Char) : Option Nat :=
  let n := c.toNat
  if 65 ≤ n ∧ n ≤ 90 then some (n - 65)
  else if 97 ≤ n ∧ n ≤ 122 then some (n - 71)
  else if 48 ≤ n ∧ n ≤ 57 then some (n + 4)
  else if c = '+' then some 62
  else if c = '/' then some 63
  else none

theorem value?_symbol {n : Nat} (h : n < 64) : value? (symbol n) = some n := by
  have all : ∀ k : Fin 64, value? (symbol k) = some k.val := by decide
  exact all ⟨n, h⟩

theorem value?_lt {c : Char} {n : Nat} (h : value? c = some n) : n < 64 := by
  unfold value? at h
  simp only at h
  repeat' split at h
  all_goals
    first
    | (injection h with h; omega)
    | contradiction

@[simp] theorem value?_padding : value? '=' = none := by decide

end Base64

end AdmissionHooks
