import AdmissionHooks.Json.Reader

/-!
# Printed texts

A character of a text is printed as itself, or behind a backslash with one letter, or by its units.
All of these are visible ASCII characters, and the units that are read from them join to the
character, so a text is read back from its printed form whatever characters it has.
-/

namespace AdmissionHooks

namespace Text

theorem readDigits?_append_digit {base d : Nat} (cs : List Char) (h : d < base) (le : base ≤ 16) :
    readDigits? base (cs ++ [digit d]) = (readDigits? base cs).map (· * base + d) := by
  unfold readDigits?
  rw [List.foldl_append, List.foldl_cons, List.foldl_nil, digitValue?_digit (by omega)]
  cases cs.foldl _ (some 0) with
  | none => rfl
  | some n => exact if_pos h

/-- Digits of fixed width are read back as far as the width goes. -/
theorem readDigits?_digits {base : Nat} (pos : 0 < base) (le : base ≤ 16) (width n : Nat) :
    readDigits? base (digits base width n) = some (n % Nat.pow base width) := by
  induction width generalizing n with
  | zero => simp [digits, readDigits?, Nat.mod_one]
  | succ width ih =>
      have wider : Nat.pow base (width + 1) = base * Nat.pow base width := Nat.mul_comm _ _
      rw [digits, readDigits?_append_digit _ (Nat.mod_lt n pos) le, ih, Option.map_some, wider,
        Nat.mod_mul, Nat.mul_comm, Nat.add_comm]

end Text

namespace Json

open Text (digit digits)

/-! ## Escapes -/

/-- A character is printed behind a backslash, as itself, or by its code point. -/
theorem escapeChar_cases (c : Char) :
    (∃ letter, escapeChar c = ['\\', letter] ∧ shortEscape? letter = some c.toNat) ∨
      (escapeChar c = [c] ∧ 0x20 ≤ c.toNat ∧ c.toNat ≤ 0x7E ∧ c ≠ '"' ∧ c ≠ '\\') ∨
      escapeChar c = escapeCode c.toNat := by
  fun_cases escapeChar c with
  | case1 same => exact .inl ⟨_, rfl, by rw [same]; rfl⟩
  | case2 _ same => exact .inl ⟨_, rfl, by rw [same]; rfl⟩
  | case3 _ _ same => exact .inl ⟨_, rfl, by rw [same]; rfl⟩
  | case4 _ _ _ same => exact .inl ⟨_, rfl, by rw [same]; rfl⟩
  | case5 _ _ _ _ same => exact .inl ⟨_, rfl, by rw [same]; rfl⟩
  | case6 _ _ _ _ _ same => exact .inl ⟨_, rfl, by rw [same]; rfl⟩
  | case7 _ _ _ _ _ _ same => exact .inl ⟨_, rfl, by rw [same]; rfl⟩
  | case8 quote slash _ _ _ _ _ visible =>
      exact .inr (.inl ⟨rfl, visible.1, visible.2, quote, slash⟩)
  | case9 => exact .inr (.inr rfl)

theorem visible_of_shortEscape {letter : Char} {n : Nat} (short : shortEscape? letter = some n) :
    (0x20 ≤ letter.toNat ∧ letter.toNat ≤ 0x7E) ∧ n < 0x10000 := by
  unfold shortEscape? at short
  split at short <;> cases short <;> decide

/-! ## Visible characters -/

/-- Visible ASCII characters and blanks alone. -/
def Printable (cs : List Char) : Prop := ∀ c ∈ cs, 0x20 ≤ c.toNat ∧ c.toNat ≤ 0x7E

instance (cs : List Char) : Decidable (Printable cs) :=
  List.decidableBAll (fun c : Char => 0x20 ≤ c.toNat ∧ c.toNat ≤ 0x7E) cs

theorem printable_nil : Printable [] := nofun

@[simp] theorem printable_cons {c : Char} {cs : List Char} :
    Printable (c :: cs) ↔ (0x20 ≤ c.toNat ∧ c.toNat ≤ 0x7E) ∧ Printable cs :=
  List.forall_mem_cons

@[simp] theorem printable_append {cs ds : List Char} :
    Printable (cs ++ ds) ↔ Printable cs ∧ Printable ds :=
  List.forall_mem_append

theorem printable_flatMap {α : Type} {f : α → List Char} {l : List α}
    (each : ∀ a ∈ l, Printable (f a)) : Printable (l.flatMap f) := by
  intro c member
  obtain ⟨a, given, member⟩ := List.mem_flatMap.1 member
  exact each a given c member

theorem printable_digit {n : Nat} (h : n < 16) :
    0x20 ≤ (digit n).toNat ∧ (digit n).toNat ≤ 0x7E := by
  have all : ∀ k : Fin 16, 0x20 ≤ (digit k).toNat ∧ (digit k).toNat ≤ 0x7E := by decide
  exact all ⟨n, h⟩

theorem printable_digits (width n : Nat) : Printable (digits 16 width n) := by
  induction width generalizing n with
  | zero => exact printable_nil
  | succ width ih =>
      rw [digits, printable_append, printable_cons]
      exact ⟨ih _, printable_digit (Nat.mod_lt n (by decide)), printable_nil⟩

theorem printable_escapeUnit (n : Nat) : Printable (escapeUnit n) := by
  rw [escapeUnit, printable_cons, printable_cons]
  exact ⟨by decide, by decide, printable_digits 4 n⟩

theorem printable_escapeChar (c : Char) : Printable (escapeChar c) := by
  rcases escapeChar_cases c with ⟨letter, shown, short⟩ | ⟨shown, plain⟩ | shown
  · rw [shown, printable_cons, printable_cons]
    exact ⟨by decide, (visible_of_shortEscape short).1, printable_nil⟩
  · rw [shown, printable_cons]
    exact ⟨⟨plain.1, plain.2.1⟩, printable_nil⟩
  · rw [shown]
    unfold escapeCode
    split
    · exact printable_escapeUnit _
    · exact printable_append.2 ⟨printable_escapeUnit _, printable_escapeUnit _⟩

theorem printable_printText (s : String) : Printable (printText s) := by
  rw [printText, List.cons_append, printable_cons, printable_append, printable_cons]
  exact ⟨by decide, printable_flatMap fun c _ => printable_escapeChar c, by decide, printable_nil⟩

/-! ## Units -/

/-- The units that a character is written in. -/
def units (c : Char) : List Nat :=
  if c.toNat < 0x10000 then [c.toNat] else [highHalf c.toNat, lowHalf c.toNat]

theorem readUnits_escapeUnit {n : Nat} (h : n < 0x10000) (rest : List Char) :
    readUnits (escapeUnit n ++ rest) = (readUnits rest).map fun r => (n :: r.1, r.2) := by
  have four : Text.readDigits? 16 (digits 16 4 n) = some n := by
    have small : n < Nat.pow 16 4 := h
    rw [Text.readDigits?_digits (by decide) (by decide), Nat.mod_eq_of_lt small]
  match shown : digits 16 4 n, Text.length_digits 16 4 n with
  | [a, b, c, d], _ =>
      rw [shown] at four
      simp only [escapeUnit, shown, List.cons_append, List.nil_append, readUnits, four]
      cases readUnits rest <;> rfl

theorem readUnits_shortEscape {c : Char} {n : Nat} (short : shortEscape? c = some n)
    (rest : List Char) :
    readUnits ('\\' :: c :: rest) = (readUnits rest).map fun r => (n :: r.1, r.2) := by
  rw [readUnits, short]
  · cases readUnits rest <;> rfl
  · rintro a b x d more rfl
    cases short

theorem readUnits_plain {c : Char} (visible : 0x20 ≤ c.toNat) (quote : c ≠ '"')
    (slash : c ≠ '\\') (rest : List Char) :
    readUnits (c :: rest) = (readUnits rest).map fun r => (c.toNat :: r.1, r.2) := by
  rw [readUnits, if_neg (Nat.not_lt.2 visible)]
  · cases readUnits rest <;> rfl
  · exact quote
  · exact fun _ _ _ _ _ same _ => slash same
  · exact fun _ _ same _ => slash same

theorem toNat_lt_codes (c : Char) : c.toNat < 0x110000 := by
  have valid : c.toNat < 0xD800 ∨ 0xDFFF < c.toNat ∧ c.toNat < 0x110000 := c.valid
  omega

theorem highHalf_bounds {n : Nat} (h : n < 0x110000) :
    0xD800 ≤ highHalf n ∧ highHalf n < 0xDC00 := by
  unfold highHalf
  omega

theorem lowHalf_bounds (n : Nat) : 0xDC00 ≤ lowHalf n ∧ lowHalf n < 0xE000 := by
  unfold lowHalf
  omega

/-- An escaped character is read as its units. -/
theorem readUnits_escapeChar (c : Char) (rest : List Char) :
    readUnits (escapeChar c ++ rest) = (readUnits rest).map fun r => (units c ++ r.1, r.2) := by
  rcases escapeChar_cases c with ⟨letter, shown, short⟩ | ⟨shown, plain⟩ | shown
  · have one : units c = [c.toNat] := if_pos (visible_of_shortEscape short).2
    rw [shown, one]
    exact readUnits_shortEscape short rest
  · have one : units c = [c.toNat] := if_pos (by omega)
    rw [shown, one]
    exact readUnits_plain plain.1 plain.2.2.1 plain.2.2.2 rest
  · rw [shown]
    unfold escapeCode units
    split
    next one => exact readUnits_escapeUnit one rest
    next =>
      have high := (highHalf_bounds (toNat_lt_codes c)).2
      have low := (lowHalf_bounds c.toNat).2
      rw [List.append_assoc, readUnits_escapeUnit (by omega), readUnits_escapeUnit (by omega),
        Option.map_map]
      rfl

theorem isHighHalf_iff {n : Nat} : isHighHalf n = true ↔ 0xD800 ≤ n ∧ n < 0xDC00 := by
  simp [isHighHalf]

theorem isLowHalf_iff {n : Nat} : isLowHalf n = true ↔ 0xDC00 ≤ n ∧ n < 0xE000 := by
  simp [isLowHalf]

theorem codeOfHalves {n : Nat} (h : 0x10000 ≤ n) :
    0x10000 + (highHalf n - 0xD800) * 0x400 + (lowHalf n - 0xDC00) = n := by
  unfold highHalf lowHalf
  omega

theorem joinUnits_pair {high low : Nat} (isHigh : isHighHalf high = true)
    (isLow : isLowHalf low = true) (rest : List Nat) :
    joinUnits (high :: low :: rest) =
      (joinUnits rest).map
        (Char.ofNat (0x10000 + (high - 0xD800) * 0x400 + (low - 0xDC00)) :: ·) := by
  simp only [joinUnits, isHigh, isLow, if_true]

theorem joinUnits_single {n : Nat} (notHigh : ¬ isHighHalf n = true) (notLow : ¬ isLowHalf n = true)
    (rest : List Nat) : joinUnits (n :: rest) = (joinUnits rest).map (Char.ofNat n :: ·) := by
  cases rest <;> simp [joinUnits, notHigh, notLow]

/-- The units of a character join to it: those of one unit are no halves. -/
theorem joinUnits_units (c : Char) (rest : List Nat) :
    joinUnits (units c ++ rest) = (joinUnits rest).map (c :: ·) := by
  have valid : c.toNat < 0xD800 ∨ 0xDFFF < c.toNat ∧ c.toNat < 0x110000 := c.valid
  unfold units
  split
  next one =>
    have notHigh : ¬ isHighHalf c.toNat = true := by
      rw [isHighHalf_iff]
      omega
    have notLow : ¬ isLowHalf c.toNat = true := by
      rw [isLowHalf_iff]
      omega
    rw [List.singleton_append, joinUnits_single notHigh notLow, Char.ofNat_toNat]
  next two =>
    have high := isHighHalf_iff.2 (highHalf_bounds (toNat_lt_codes c))
    have low := isLowHalf_iff.2 (lowHalf_bounds c.toNat)
    rw [List.cons_append, List.singleton_append, joinUnits_pair high low,
      codeOfHalves (Nat.not_lt.1 two), Char.ofNat_toNat]

theorem readUnits_escaped (cs rest : List Char) :
    readUnits (cs.flatMap escapeChar ++ '"' :: rest) = some (cs.flatMap units, rest) := by
  induction cs with
  | nil => rfl
  | cons c cs ih =>
      rw [List.flatMap_cons, List.append_assoc, readUnits_escapeChar, ih]
      rfl

theorem joinUnits_flatMap_units (cs : List Char) : joinUnits (cs.flatMap units) = some cs := by
  induction cs with
  | nil => rfl
  | cons c cs ih =>
      rw [List.flatMap_cons, joinUnits_units, ih]
      rfl

/-- A printed text is read back, from behind its opening quote. -/
theorem readText_escaped (s : String) (rest : List Char) :
    readText (s.toList.flatMap escapeChar ++ '"' :: rest) = some (s, rest) := by
  simp only [readText, readUnits_escaped, Option.bind_eq_bind, Option.bind_some,
    joinUnits_flatMap_units, String.ofList_toList]

end Json

end AdmissionHooks
