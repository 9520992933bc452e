import AdmissionHooks.Proofs.Json.Texts

/-!
# Reading what was printed

A value is printed on one line, and reading the line gives the value back: a number ends where its
digits end, the first character tells what kind of value comes, and the fuel of the reader is never
less than the length of what is left to read.
-/

namespace AdmissionHooks.Json

/-! ## Numbers -/

/-- What may follow a number: nothing that a number could go on with. -/
def Ends (rest : List Char) : Prop :=
  ∀ c ∈ rest.head?, c.isDigit = false ∧ c ≠ '.' ∧ c ≠ 'e' ∧ c ≠ 'E'

theorem ends_nil : Ends [] := nofun

theorem ends_cons {c : Char} {rest : List Char}
    (h : c.isDigit = false ∧ c ≠ '.' ∧ c ≠ 'e' ∧ c ≠ 'E') : Ends (c :: rest) := by
  intro d head
  cases head
  exact h

theorem isDigit_of_mem_toDigits {n : Nat} : ∀ c ∈ Nat.toDigits 10 n, c.isDigit = true :=
  fun _ member => Nat.isDigit_of_mem_toDigits (by decide) (by decide) member

theorem digitChar_ne_zero {n : Nat} (pos : 0 < n) (lt : n < 10) : Nat.digitChar n ≠ '0' := by
  have all : ∀ k : Fin 10, 0 < k.val → Nat.digitChar k ≠ '0' := by decide
  exact all ⟨n, lt⟩ pos

theorem head?_toDigits {n : Nat} (pos : 0 < n) : (Nat.toDigits 10 n).head? ≠ some '0' := by
  induction n using Nat.strongRecOn with
  | ind n ih =>
      by_cases small : n < 10
      · rw [Nat.toDigits_of_lt_base small]
        exact fun same => digitChar_ne_zero pos small (Option.some.inj same)
      · have front := ih (n / 10) (by omega) (by omega)
        obtain ⟨c, cs, shown⟩ :=
          List.exists_cons_of_ne_nil (Nat.toDigits_ne_nil (n := n / 10) (b := 10))
        rw [Nat.toDigits_of_base_le (by decide) (by omega), shown]
        rwa [shown] at front

/-- A number of two digits or more does not start with a zero. -/
theorem toDigits_ne_zero_cons {n : Nat} {c : Char} {more : List Char} :
    Nat.toDigits 10 n ≠ '0' :: c :: more := by
  intro same
  rcases Nat.eq_zero_or_pos n with rfl | pos
  · cases same
  · exact head?_toDigits pos (by rw [same]; rfl)

theorem takeWhile_isDigit {rest : List Char} (ends : Ends rest) :
    rest.takeWhile Char.isDigit = [] := by
  cases rest with
  | nil => rfl
  | cons c rest => exact List.takeWhile_cons_of_neg (by simp [(ends c rfl).1])

theorem dropWhile_isDigit {rest : List Char} (ends : Ends rest) :
    rest.dropWhile Char.isDigit = rest := by
  cases rest with
  | nil => rfl
  | cons c rest => exact List.dropWhile_cons_of_neg (by simp [(ends c rfl).1])

theorem readNatural_toDigits (n : Nat) {rest : List Char} (ends : Ends rest) :
    readNatural (Nat.toDigits 10 n ++ rest) = some (n, rest) := by
  have shown : (Nat.toDigits 10 n ++ rest).takeWhile Char.isDigit = Nat.toDigits 10 n := by
    rw [List.takeWhile_append_of_pos isDigit_of_mem_toDigits, takeWhile_isDigit ends,
      List.append_nil]
  have behind : (Nat.toDigits 10 n ++ rest).dropWhile Char.isDigit = rest := by
    rw [List.dropWhile_append_of_pos isDigit_of_mem_toDigits, dropWhile_isDigit ends]
  unfold readNatural
  simp only [shown, behind]
  split
  next none => exact absurd none Nat.toDigits_ne_nil
  next zero => exact absurd zero toDigits_ne_zero_cons
  next => exact absurd rfl (ends '.' rfl).2.1
  next => exact absurd rfl (ends 'e' rfl).2.2.1
  next => exact absurd rfl (ends 'E' rfl).2.2.2
  next => rw [Nat.ofDigitChars_ten_toDigits]

theorem ne_of_isDigit {c d : Char} (digit : c.isDigit = true) (other : d.isDigit = false) :
    c ≠ d := by
  rintro rfl
  rw [digit] at other
  cases other

/-- A number starts with a digit, or with a sign. -/
theorem printInt_cons (n : Int) :
    ∃ c cs, printInt n = c :: cs ∧ (c = '-' ∨ c.isDigit = true) := by
  cases n with
  | ofNat n =>
      obtain ⟨c, cs, shown⟩ := List.exists_cons_of_ne_nil (Nat.toDigits_ne_nil (n := n) (b := 10))
      have digit : c ∈ Nat.toDigits 10 n := by
        rw [shown]
        exact List.mem_cons_self
      exact ⟨c, cs, shown, .inr (isDigit_of_mem_toDigits c digit)⟩
  | negSucc n => exact ⟨_, _, rfl, .inl rfl⟩

theorem readNumber_printInt (n : Int) {rest : List Char} (ends : Ends rest) :
    readNumber (printInt n ++ rest) = some (.int n, rest) := by
  cases n with
  | ofNat n =>
      have read := readNatural_toDigits n ends
      obtain ⟨c, cs, shown⟩ := List.exists_cons_of_ne_nil (Nat.toDigits_ne_nil (n := n) (b := 10))
      have digit : c.isDigit = true := by
        refine isDigit_of_mem_toDigits (n := n) c ?_
        rw [shown]
        exact List.mem_cons_self
      rw [printInt]
      rw [shown, List.cons_append] at read ⊢
      rw [readNumber, read]
      · rfl
      · exact fun others same => ne_of_isDigit digit (by decide) (List.cons.inj same).1
  | negSucc n =>
      rw [printInt, List.cons_append, readNumber, readNatural_toDigits _ ends]
      rfl

/-! ## Values -/

theorem skipSpace_of_head {c : Char} (rest : List Char) (h : isSpace c = false) :
    skipSpace (c :: rest) = c :: rest :=
  List.dropWhile_cons_of_neg (by simp [h])

@[simp] theorem skipSpace_blank (rest : List Char) : skipSpace (' ' :: rest) = skipSpace rest := rfl

theorem isSpace_of_isDigit {c : Char} (digit : c.isDigit = true) : isSpace c = false := by
  have blank := ne_of_isDigit (d := ' ') digit (by decide)
  have feed := ne_of_isDigit (d := '\n') digit (by decide)
  have back := ne_of_isDigit (d := '\r') digit (by decide)
  have tab := ne_of_isDigit (d := '\t') digit (by decide)
  simp [isSpace, blank, feed, back, tab]

/-- A value starts with a character that is neither blank nor the end of a row. -/
theorem print_cons (v : Json) :
    ∃ c cs, v.print = c :: cs ∧ isSpace c = false ∧ c ≠ ']' := by
  fun_cases print v with
  | case1 => exact ⟨_, _, rfl, by decide⟩
  | case2 => exact ⟨_, _, rfl, by decide⟩
  | case3 => exact ⟨_, _, rfl, by decide⟩
  | case4 n =>
      obtain ⟨c, cs, shown, start⟩ := printInt_cons n
      refine ⟨c, cs, shown, ?_⟩
      rcases start with rfl | digit
      · decide
      · exact ⟨isSpace_of_isDigit digit, ne_of_isDigit digit (by decide)⟩
  | case5 s => exact ⟨_, _, rfl, by decide⟩
  | case6 => exact ⟨_, _, rfl, by decide⟩
  | case7 v items => exact ⟨_, _, rfl, by decide⟩
  | case8 => exact ⟨_, _, rfl, by decide⟩
  | case9 name v members => exact ⟨_, _, rfl, by decide⟩

@[simp] theorem readValue_blank (fuel : Nat) (rest : List Char) :
    readValue fuel (' ' :: rest) = readValue fuel rest := by
  cases fuel with
  | zero => rfl
  | succ fuel => rw [readValue, readValue, skipSpace_blank]

@[simp] theorem readMember_blank (fuel : Nat) (rest : List Char) :
    readMember fuel (' ' :: rest) = readMember fuel rest := by
  cases fuel with
  | zero => rfl
  | succ fuel => rw [readMember, readMember, skipSpace_blank]

/-! One step of the reader into each kind of value. -/

theorem readValue_printInt (fuel : Nat) (n : Int) {rest : List Char} (ends : Ends rest) :
    readValue (fuel + 1) (printInt n ++ rest) = some (.int n, rest) := by
  obtain ⟨c, cs, shown, start⟩ := printInt_cons n
  have read := readNumber_printInt n ends
  rw [shown, List.cons_append] at read ⊢
  have blank : isSpace c = false := by
    rcases start with rfl | digit
    · decide
    · exact isSpace_of_isDigit digit
  have other {d : Char} {others : List Char} (noSign : d ≠ '-') (noDigit : d.isDigit = false) :
      c :: (cs ++ rest) ≠ d :: others := by
    intro same
    obtain ⟨rfl, -⟩ := List.cons.inj same
    rcases start with rfl | digit
    · exact noSign rfl
    · exact ne_of_isDigit digit noDigit rfl
  rw [readValue, skipSpace_of_head _ blank]
  split
  next same => exact absurd same (other (by decide) (by decide))
  next same => exact absurd same (other (by decide) (by decide))
  next same => exact absurd same (other (by decide) (by decide))
  next same => exact absurd same (other (by decide) (by decide))
  next same => exact absurd same (other (by decide) (by decide))
  next same => exact absurd same (other (by decide) (by decide))
  next => exact read

theorem readValue_printText (fuel : Nat) (s : String) (rest : List Char) :
    readValue (fuel + 1) (printText s ++ rest) = some (.str s, rest) := by
  rw [printText, List.cons_append, List.cons_append, List.append_assoc, List.singleton_append,
    readValue, skipSpace_of_head _ (by decide)]
  simp only [readText_escaped, Option.map_some]

theorem readValue_arr (fuel : Nat) (v : Json) (rest : List Char) :
    readValue (fuel + 1) ('[' :: (v.print ++ rest)) =
      (readValue fuel (v.print ++ rest)).bind fun first =>
        (readItems fuel first.2).bind fun others =>
          some (.arr (first.1 :: others.1), others.2) := by
  obtain ⟨c, cs, shown, blank, notEnd⟩ := v.print_cons
  rw [shown, List.cons_append, readValue, skipSpace_of_head _ (by decide)]
  simp only [skipSpace_of_head _ blank]
  split
  next same => exact absurd (List.cons.inj same).1 notEnd
  next => rfl

theorem readItems_comma (fuel : Nat) (rest : List Char) :
    readItems (fuel + 1) (',' :: ' ' :: rest) =
      (readValue fuel rest).bind fun first =>
        (readItems fuel first.2).bind fun others => some (first.1 :: others.1, others.2) := by
  rw [readItems, skipSpace_of_head _ (by decide)]
  simp only [readValue_blank]
  rfl

theorem readMember_print {name : String} {v w : Json} {fuel : Nat} {rest more : List Char}
    (read : readValue fuel (v.print ++ rest) = some (w, more)) :
    readMember (fuel + 1) (printText name ++ ':' :: ' ' :: (v.print ++ rest)) =
      some ((name, w), more) := by
  rw [printText, List.cons_append, List.cons_append, List.append_assoc, List.singleton_append,
    readMember, skipSpace_of_head _ (by decide)]
  simp only [readText_escaped, Option.bind_eq_bind, Option.bind_some]
  rw [skipSpace_of_head _ (by decide)]
  simp only [readValue_blank, read, Option.bind_some]

theorem readValue_obj (fuel : Nat) (name : String) (rest : List Char) :
    readValue (fuel + 1) ('\x7b' :: (printText name ++ rest)) =
      (readMember fuel (printText name ++ rest)).bind fun first =>
        (readMembers fuel first.2).bind fun others =>
          some (.obj (first.1 :: others.1), others.2) := by
  rw [printText, List.cons_append, List.cons_append, readValue, skipSpace_of_head _ (by decide)]
  simp only [skipSpace_of_head _ (show isSpace '"' = false by decide)]
  split
  next same => cases same
  next => rfl

theorem readMembers_comma (fuel : Nat) (rest : List Char) :
    readMembers (fuel + 1) (',' :: ' ' :: rest) =
      (readMember fuel rest).bind fun first =>
        (readMembers fuel first.2).bind fun others => some (first.1 :: others.1, others.2) := by
  rw [readMembers, skipSpace_of_head _ (by decide)]
  simp only [readMember_blank]
  rfl

/-! What is left to read is never shorter than the value that stands first in it. -/

theorem printText_pos (s : String) : 2 ≤ (printText s).length := by
  simp [printText]

theorem print_pos (v : Json) : 0 < v.print.length := by
  obtain ⟨c, cs, shown, -⟩ := v.print_cons
  simp [shown]

theorem printItems_pos (items : List Json) : 0 < (printItems items).length := by
  cases items <;> simp [printItems]

theorem printMembers_pos (members : List (String × Json)) : 0 < (printMembers members).length := by
  cases members <;> simp [printMembers]

theorem ends_printItems (items : List Json) (rest : List Char) :
    Ends (printItems items ++ rest) := by
  cases items <;> exact ends_cons (by decide)

theorem ends_printMembers (members : List (String × Json)) (rest : List Char) :
    Ends (printMembers members ++ rest) := by
  obtain _ | ⟨m, members⟩ := members <;> exact ends_cons (by decide)

theorem exists_eq_succ {n fuel : Nat} (pos : 0 < n) (enough : n ≤ fuel) :
    ∃ less, fuel = less + 1 := ⟨fuel - 1, by omega⟩

mutual

theorem readValue_print (v : Json) (fuel : Nat) (rest : List Char)
    (enough : v.print.length ≤ fuel) (ends : Ends rest) :
    readValue fuel (v.print ++ rest) = some (v, rest) := by
  obtain ⟨fuel, rfl⟩ := exists_eq_succ v.print_pos enough
  match v, enough with
  | .null, _ => rfl
  | .bool true, _ => rfl
  | .bool false, _ => rfl
  | .int n, _ => exact readValue_printInt fuel n ends
  | .str s, _ => exact readValue_printText fuel s rest
  | .arr [], _ => rfl
  | .arr (v :: items), enough =>
      simp only [print, List.cons_append, List.append_assoc, List.length_cons,
        List.length_append] at enough ⊢
      have later := printItems_pos items
      rw [readValue_arr, readValue_print v fuel _ (by omega) (ends_printItems items rest),
        Option.bind_some, readItems_printItems items fuel rest (by omega)]
      rfl
  | .obj [], _ => rfl
  | .obj ((name, v) :: members), enough =>
      simp only [print, List.cons_append, List.append_assoc, List.length_cons,
        List.length_append] at enough ⊢
      have named := printText_pos name
      obtain ⟨fuel, rfl⟩ : ∃ less, fuel = less + 1 := ⟨fuel - 1, by omega⟩
      have read := readValue_print v fuel (printMembers members ++ rest) (by omega)
        (ends_printMembers members rest)
      rw [readValue_obj, readMember_print read, Option.bind_some,
        readMembers_printMembers members (fuel + 1) rest (by omega)]
      rfl

theorem readItems_printItems (items : List Json) (fuel : Nat) (rest : List Char)
    (enough : (printItems items).length ≤ fuel) :
    readItems fuel (printItems items ++ rest) = some (items, rest) := by
  obtain ⟨fuel, rfl⟩ := exists_eq_succ (printItems_pos items) enough
  match items, enough with
  | [], _ => rfl
  | v :: items, enough =>
      simp only [printItems, List.cons_append, List.append_assoc, List.length_cons,
        List.length_append] at enough ⊢
      rw [readItems_comma, readValue_print v fuel _ (by omega) (ends_printItems items rest),
        Option.bind_some, readItems_printItems items fuel rest (by omega)]
      rfl

theorem readMembers_printMembers (members : List (String × Json)) (fuel : Nat) (rest : List Char)
    (enough : (printMembers members).length ≤ fuel) :
    readMembers fuel (printMembers members ++ rest) = some (members, rest) := by
  obtain ⟨fuel, rfl⟩ := exists_eq_succ (printMembers_pos members) enough
  match members, enough with
  | [], _ => rfl
  | (name, v) :: members, enough =>
      simp only [printMembers, List.cons_append, List.append_assoc, List.length_cons,
        List.length_append] at enough ⊢
      obtain ⟨fuel, rfl⟩ : ∃ less, fuel = less + 1 := ⟨fuel - 1, by omega⟩
      have read := readValue_print v fuel (printMembers members ++ rest) (by omega)
        (ends_printMembers members rest)
      rw [readMembers_comma, readMember_print read, Option.bind_some,
        readMembers_printMembers members (fuel + 1) rest (by omega)]
      rfl

end

/-- Reading a printed value gives the value back. -/
theorem read?_line (v : Json) : read? v.line = some v := by
  have read := readValue_print v (v.print.length + 1) [] (Nat.le_succ _) ends_nil
  rw [List.append_nil] at read
  unfold read? line
  simp only [String.toList_ofList, read, Option.bind_eq_bind, Option.bind_some]
  rfl

/-! ## Visible characters -/

theorem printable_toDigits (n : Nat) : Printable (Nat.toDigits 10 n) := by
  intro c member
  have digit := Char.isDigit_iff_toNat.1 (isDigit_of_mem_toDigits c member)
  have zero : '0'.toNat = 48 := rfl
  have nine : '9'.toNat = 57 := rfl
  omega

theorem printable_printInt (n : Int) : Printable (printInt n) := by
  cases n with
  | ofNat n => exact printable_toDigits n
  | negSucc n => exact printable_cons.2 ⟨by decide, printable_toDigits (n + 1)⟩

mutual

theorem printable_print (v : Json) : Printable v.print := by
  match v with
  | .null => decide
  | .bool true => decide
  | .bool false => decide
  | .int n => exact printable_printInt n
  | .str s => exact printable_printText s
  | .arr [] => decide
  | .arr (v :: items) =>
      have first := printable_print v
      have others := printable_printItems items
      simp [print, first, others]
  | .obj [] => decide
  | .obj ((name, v) :: members) =>
      have first := printable_print v
      have others := printable_printMembers members
      simp [print, printable_printText name, first, others]

theorem printable_printItems (items : List Json) : Printable (printItems items) := by
  match items with
  | [] => decide
  | v :: items =>
      have first := printable_print v
      have others := printable_printItems items
      simp [printItems, first, others]

theorem printable_printMembers (members : List (String × Json)) :
    Printable (printMembers members) := by
  match members with
  | [] => decide
  | (name, v) :: members =>
      have first := printable_print v
      have others := printable_printMembers members
      simp [printMembers, printable_printText name, first, others]

end

end AdmissionHooks.Json
