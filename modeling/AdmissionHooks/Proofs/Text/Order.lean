import AdmissionHooks.Text.Digits

/-!
# Numbers and texts in order

A number that is written as a place and an offset within it compares by the place first and by the
offset second. Two texts whose beginnings are of one length compare by the beginnings first and by
what follows second. The two laws have one form, so digits of fixed width, which are both, compare
as the number that they stand for.
-/

namespace AdmissionHooks

theorem then_congr {o p q : Ordering} (level : o = .eq → p = q) : o.then p = o.then q := by
  cases o with
  | lt => rfl
  | eq => exact level rfl
  | gt => rfl

/-! ## Numbers -/

theorem compare_add_left (k m n : Nat) : compare (k + m) (k + n) = compare m n := by
  simp [Nat.compare_eq_ite_lt]

/-- Places that do not overlap: an offset stays below the next place. -/
theorem compare_place_add {place : Nat → Nat} {m n x y : Nat}
    (grows : ∀ {i j}, i ≤ j → place i ≤ place j) (inside : place m + x < place (m + 1))
    (inside' : place n + y < place (n + 1)) :
    compare (place m + x) (place n + y) = (compare m n).then (compare x y) := by
  cases order : compare m n with
  | lt =>
      have less : m < n := Nat.compare_eq_lt.1 order
      have apart : place (m + 1) ≤ place n := grows less
      exact Nat.compare_eq_lt.2 (by omega)
  | eq =>
      rw [Nat.compare_eq_eq.1 order]
      exact compare_add_left (place n) x y
  | gt =>
      have greater : n < m := Nat.compare_eq_gt.1 order
      have apart : place (n + 1) ≤ place m := grows greater
      exact Nat.compare_eq_gt.2 (by omega)

theorem compare_mul_add {base m n x y : Nat} (inside : x < base) (inside' : y < base) :
    compare (m * base + x) (n * base + y) = (compare m n).then (compare x y) := by
  have grows {i j : Nat} (le : i ≤ j) : i * base ≤ j * base := Nat.mul_le_mul_right base le
  have next (i : Nat) : (i + 1) * base = i * base + base := Nat.succ_mul i base
  apply compare_place_add grows
  · rw [next]
    omega
  · rw [next]
    omega

namespace Text

/-! ## Texts -/

theorem compare_append {as bs : List Char} (even : as.length = bs.length) (cs ds : List Char) :
    compare (as ++ cs) (bs ++ ds) = (compare as bs).then (compare cs ds) := by
  induction as generalizing bs with
  | nil =>
      rw [List.eq_nil_of_length_eq_zero even.symm]
      rfl
  | cons a as ih =>
      cases bs with
      | nil => cases even
      | cons b bs =>
          rw [List.cons_append, List.cons_append, List.compare_cons_cons, List.compare_cons_cons,
            ih (Nat.succ.inj even), Ordering.then_assoc]

theorem compare_cons_self (c : Char) (cs ds : List Char) :
    compare (c :: cs) (c :: ds) = compare cs ds := by
  have level : compare c c = .eq := Std.compare_eq_iff_eq.2 rfl
  rw [List.compare_cons_cons, level, Ordering.eq_then]

theorem compare_eq_lt_iff {cs ds : List Char} : compare cs ds = .lt ↔ cs < ds := by
  induction cs generalizing ds with
  | nil => cases ds <;> simp
  | cons c cs ih =>
      cases ds with
      | nil => simp
      | cons d ds =>
          have first : compare c d = .lt ↔ c < d := compareOfLessAndEq_eq_lt
          rw [List.compare_cons_cons, Ordering.then_eq_lt, first, ih, Std.compare_eq_iff_eq,
            List.cons_lt_cons_iff]

/-! ## Digits -/

theorem compare_digit {m n : Nat} (hm : m < 16) (hn : n < 16) :
    compare (digit m) (digit n) = compare m n := by
  have all : ∀ k l : Fin 16, compare (digit k) (digit l) = compare k.val l.val := by decide
  exact all ⟨m, hm⟩ ⟨n, hn⟩

/-- Digits of one width compare as their numbers: the zeros in front see to it. -/
theorem compare_digits {base width m n : Nat} (pos : 0 < base) (le : base ≤ 16)
    (hm : m < Nat.pow base width) (hn : n < Nat.pow base width) :
    compare (digits base width m) (digits base width n) = compare m n := by
  induction width generalizing m n with
  | zero =>
      have one : Nat.pow base 0 = 1 := rfl
      have same : m = n := by omega
      exact (Nat.compare_eq_eq.2 same).symm
  | succ width ih =>
      -- The last digit is the remainder, and the digits before it are those of the quotient.
      have wider : Nat.pow base (width + 1) = base * Nat.pow base width := Nat.mul_comm _ _
      rw [wider] at hm hn
      have last (k : Nat) : k % base < base := Nat.mod_lt k pos
      have split (k : Nat) : k / base * base + k % base = k := by
        rw [Nat.mul_comm, Nat.div_add_mod]
      calc compare (digits base (width + 1) m) (digits base (width + 1) n)
        _ = (compare (digits base width (m / base)) (digits base width (n / base))).then
              (compare [digit (m % base)] [digit (n % base)]) :=
            compare_append (by simp) _ _
        _ = (compare (m / base) (n / base)).then (compare (m % base) (n % base)) := by
            rw [ih (Nat.div_lt_of_lt_mul hm) (Nat.div_lt_of_lt_mul hn), List.compare_cons_cons,
              compare_digit (Nat.lt_of_lt_of_le (last m) le) (Nat.lt_of_lt_of_le (last n) le)]
            exact congrArg _ Ordering.then_eq
        _ = compare m n := by rw [← compare_mul_add (last m) (last n), split, split]

theorem compare_digits_append {base width m n : Nat} (pos : 0 < base) (le : base ≤ 16)
    (hm : m < Nat.pow base width) (hn : n < Nat.pow base width) (cs ds : List Char) :
    compare (digits base width m ++ cs) (digits base width n ++ ds) =
      (compare m n).then (compare cs ds) := by
  rw [compare_append (by simp), compare_digits pos le hm hn]

end Text

end AdmissionHooks
