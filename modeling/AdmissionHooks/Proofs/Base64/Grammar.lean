import AdmissionHooks.Proofs.Base64.RoundTrip

/-!
# The texts that decode

A text that decodes is a run of symbols and then a run of padding signs. Behind full groups there may
be any number of signs, behind a group of two or three symbols exactly as many as fill it, and a group
of one symbol cannot be filled. The bytes are the bits of the symbols, as far as they make whole bytes.
-/

namespace AdmissionHooks.Base64

/-- The symbols, each at the place of its value. -/
def alphabet : List Char :=
  ['A', 'B', 'C', 'D', 'E', 'F', 'G', 'H', 'I', 'J', 'K', 'L', 'M', 'N', 'O', 'P',
    'Q', 'R', 'S', 'T', 'U', 'V', 'W', 'X', 'Y', 'Z', 'a', 'b', 'c', 'd', 'e', 'f',
    'g', 'h', 'i', 'j', 'k', 'l', 'm', 'n', 'o', 'p', 'q', 'r', 's', 't', 'u', 'v',
    'w', 'x', 'y', 'z', '0', '1', '2', '3', '4', '5', '6', '7', '8', '9', '+', '/']

/-- The lowest bits of a number, highest first. -/
def bits : Nat → Nat → List Bool
  | 0, _ => []
  | width + 1, n => bits width (n / 2) ++ [decide (n % 2 = 1)]

def symbolBits (symbols : List Char) : List Bool :=
  symbols.flatMap fun c => bits 6 (alphabet.idxOf c)

def byteBits (bytes : Bytes) : List Bool := bytes.flatMap fun b => bits 8 b.toNat

/-- The texts that decode, with the symbols of a text and the number of bytes that they stand for. -/
inductive Grammatical : List Char → List Char → Nat → Prop where
  | full {symbols groups} (signs : Nat) (known : ∀ c ∈ symbols, c ∈ alphabet)
      (length : symbols.length = 4 * groups) (started : 0 < groups) :
      Grammatical (symbols ++ List.replicate signs '=') symbols (3 * groups)
  | two {symbols groups} (known : ∀ c ∈ symbols, c ∈ alphabet)
      (length : symbols.length = 4 * groups + 2) :
      Grammatical (symbols ++ ['=', '=']) symbols (3 * groups + 1)
  | three {symbols groups} (known : ∀ c ∈ symbols, c ∈ alphabet)
      (length : symbols.length = 4 * groups + 3) :
      Grammatical (symbols ++ ['=']) symbols (3 * groups + 2)

/-! ## Symbols -/

theorem alphabet_ascii : ∀ c ∈ alphabet, c.toNat < 128 := by
  have all : alphabet.all (fun c => decide (c.toNat < 128)) = true := by decide +kernel
  intro c known
  exact of_decide_eq_true (List.all_eq_true.1 all c known)

theorem value?_eq (c : Char) :
    value? c = if c ∈ alphabet then some (alphabet.idxOf c) else none := by
  by_cases ascii : c.toNat < 128
  · have all : ∀ k : Fin 128, value? (Char.ofNat k) =
        if Char.ofNat k ∈ alphabet then some (alphabet.idxOf (Char.ofNat k)) else none := by
      decide +kernel
    simpa using all ⟨c.toNat, ascii⟩
  · have foreign : c ∉ alphabet := fun known => ascii (alphabet_ascii c known)
    have signs : c ≠ '+' ∧ c ≠ '/' := by
      constructor <;> rintro rfl <;> exact ascii (by decide)
    unfold value?
    simp only [signs.1, signs.2, foreign, if_false]
    rw [if_neg (by omega), if_neg (by omega), if_neg (by omega)]

theorem value?_eq_none_iff {c : Char} : value? c = none ↔ c ∉ alphabet := by
  simp [value?_eq]

theorem value?_eq_some_iff {c : Char} {v : Nat} :
    value? c = some v ↔ c ∈ alphabet ∧ alphabet.idxOf c = v := by
  simp [value?_eq]

theorem idxOf_alphabet_lt {c : Char} (known : c ∈ alphabet) : alphabet.idxOf c < 64 :=
  List.idxOf_lt_length_of_mem known

theorem padding_not_mem_alphabet : '=' ∉ alphabet := by decide +kernel

/-! ## Runs of symbols and of signs -/

/-- A run of symbols and then a run of padding signs. -/
structure Spelled (cs symbols : List Char) (signs : Nat) : Prop where
  text : cs = symbols ++ List.replicate signs '='
  known : ∀ c ∈ symbols, c ∈ alphabet

theorem spelled_nil_iff {symbols : List Char} {signs : Nat} :
    Spelled [] symbols signs ↔ symbols = [] ∧ signs = 0 := by
  constructor
  · rintro ⟨text, -⟩
    simpa using text
  · rintro ⟨rfl, rfl⟩
    exact ⟨rfl, by simp⟩

theorem spelled_padding_iff {rest symbols : List Char} {signs : Nat} :
    Spelled ('=' :: rest) symbols signs ↔
      symbols = [] ∧ ∃ fewer, signs = fewer + 1 ∧ Spelled rest [] fewer := by
  constructor
  · rintro ⟨text, known⟩
    cases symbols with
    | cons c more =>
        obtain ⟨rfl, -⟩ := List.cons.inj text
        exact absurd (known _ List.mem_cons_self) padding_not_mem_alphabet
    | nil =>
        cases signs with
        | zero => cases text
        | succ fewer => exact ⟨rfl, fewer, rfl, (List.cons.inj text).2, by simp⟩
  · rintro ⟨rfl, fewer, rfl, text, -⟩
    refine ⟨?_, by simp⟩
    rw [text]
    rfl

theorem spelled_symbol_iff {c : Char} {rest symbols : List Char} {signs : Nat} (h : c ≠ '=') :
    Spelled (c :: rest) symbols signs ↔
      ∃ more, symbols = c :: more ∧ c ∈ alphabet ∧ Spelled rest more signs := by
  constructor
  · rintro ⟨text, known⟩
    cases symbols with
    | nil =>
        cases signs with
        | zero => cases text
        | succ fewer => exact absurd (List.cons.inj text).1 h
    | cons d more =>
        obtain ⟨rfl, later⟩ := List.cons.inj text
        obtain ⟨first, others⟩ := List.forall_mem_cons.1 known
        exact ⟨more, rfl, first, later, others⟩
  · rintro ⟨more, rfl, first, text, others⟩
    exact ⟨by rw [text]; rfl, List.forall_mem_cons.2 ⟨first, others⟩⟩

/-- The signs fill the last group of the symbols; behind full groups their number is free. -/
def Filled (symbols signs : Nat) : Prop :=
  symbols % 4 = 0 ∨ (symbols % 4 = 2 ∧ signs = 2) ∨ (symbols % 4 = 3 ∧ signs = 1)

/-- The bytes of a list of values, group by group. -/
def unpack : List Nat → Bytes
  | x :: y :: z :: v :: rest => fullGroup x y z v ++ unpack rest
  | group => partialGroup group

/-- The text that a scan still reads is spelled, and with what the scan has read already its signs
fill the last group. -/
def Reads (p : Position) (cs : List Char) (bytes : Bytes) : Prop :=
  ∃ symbols signs, Spelled cs symbols signs ∧ (p.padded = true → symbols = []) ∧
    Filled (p.group.length + symbols.length) (p.pads + signs) ∧
    bytes = unpack (p.group ++ symbols.map alphabet.idxOf)

variable {p : Position} {cs : List Char} {bytes : Bytes}

theorem reads_nil_iff :
    Reads p [] bytes ↔ Filled p.group.length p.pads ∧ bytes = unpack p.group := by
  constructor
  · rintro ⟨symbols, signs, spelled, -, filled, same⟩
    obtain ⟨rfl, rfl⟩ := spelled_nil_iff.1 spelled
    exact ⟨by simpa using filled, by simpa using same⟩
  · rintro ⟨filled, same⟩
    exact ⟨[], 0, spelled_nil_iff.2 ⟨rfl, rfl⟩, fun _ => rfl, by simpa using filled, by simpa using same⟩

/-- After a padding sign, only signs are read. -/
theorem reads_of_padded (padded : p.padded = true) :
    Reads p cs bytes ↔
      ∃ signs, Spelled cs [] signs ∧ Filled p.group.length (p.pads + signs) ∧
        bytes = unpack p.group := by
  constructor
  · rintro ⟨symbols, signs, spelled, none, filled, same⟩
    obtain rfl := none padded
    exact ⟨signs, spelled, by simpa using filled, by simpa using same⟩
  · rintro ⟨signs, spelled, filled, same⟩
    exact ⟨[], signs, spelled, fun _ => rfl, by simpa using filled, by simpa using same⟩

theorem reads_padding_iff :
    Reads p ('=' :: cs) bytes ↔ Reads { p with pads := p.pads + 1, padded := true } cs bytes := by
  rw [reads_of_padded (p := { p with pads := p.pads + 1, padded := true }) rfl]
  constructor
  · rintro ⟨symbols, signs, spelled, -, filled, same⟩
    obtain ⟨rfl, fewer, rfl, later⟩ := spelled_padding_iff.1 spelled
    refine ⟨fewer, later, ?_, by simpa using same⟩
    rw [Nat.add_right_comm, Nat.add_assoc]
    simpa using filled
  · rintro ⟨fewer, later, filled, same⟩
    refine ⟨[], fewer + 1, spelled_padding_iff.2 ⟨rfl, fewer, rfl, later⟩, fun _ => rfl, ?_,
      by simpa using same⟩
    rw [Nat.add_right_comm, Nat.add_assoc] at filled
    simpa using filled

theorem not_reads_symbol_of_padded {c : Char} (symbol : c ≠ '=') (padded : p.padded = true) :
    ¬ Reads p (c :: cs) bytes := by
  rintro ⟨symbols, signs, spelled, none, -, -⟩
  obtain ⟨more, rfl, -, -⟩ := (spelled_symbol_iff symbol).1 spelled
  cases none padded

theorem reads_symbol_iff {c : Char} (symbol : c ≠ '=') (unpadded : p.padded = false) (n : Nat) :
    Reads p (c :: cs) bytes ↔
      c ∈ alphabet ∧ Reads ⟨p.group ++ [alphabet.idxOf c], p.pads, false, n⟩ cs bytes := by
  constructor
  · rintro ⟨symbols, signs, spelled, -, filled, same⟩
    obtain ⟨more, rfl, known, later⟩ := (spelled_symbol_iff symbol).1 spelled
    refine ⟨known, more, signs, later, nofun, ?_, ?_⟩
    · simpa [Nat.add_assoc, Nat.add_comm 1] using filled
    · simpa using same
  · rintro ⟨known, more, signs, later, -, filled, same⟩
    refine ⟨c :: more, signs, (spelled_symbol_iff symbol).2 ⟨more, rfl, known, later⟩, ?_, ?_, ?_⟩
    · intro padded
      rw [unpadded] at padded
      cases padded
    · simpa [Nat.add_assoc, Nat.add_comm 1] using filled
    · simpa using same

/-- A full group gives its bytes, and what is read behind it does not depend on it. -/
theorem reads_fullGroup_iff {x y z v n m : Nat} :
    Reads ⟨[x, y, z, v], 0, false, n⟩ cs bytes ↔
      ∃ more, Reads ⟨[], 0, false, m⟩ cs more ∧ bytes = fullGroup x y z v ++ more := by
  have behind (symbols signs : Nat) : Filled (4 + symbols) signs ↔ Filled symbols signs := by
    unfold Filled
    rw [Nat.add_mod_left]
  constructor
  · rintro ⟨symbols, signs, spelled, -, filled, rfl⟩
    refine ⟨_, ⟨symbols, signs, spelled, nofun, ?_, rfl⟩, rfl⟩
    simpa [behind] using filled
  · rintro ⟨more, ⟨symbols, signs, spelled, -, filled, rfl⟩, rfl⟩
    refine ⟨symbols, signs, spelled, nofun, ?_, rfl⟩
    simpa [behind] using filled

theorem finish_eq_ok_iff (room : p.group.length ≤ 3) :
    p.finish = .ok bytes ↔ p.group = [] ∧ bytes = [] := by
  unfold Position.finish
  match p.group, room with
  | [], _ => simp [eq_comm]
  | [x], _ => simp
  | [x, y], _ => simp
  | [x, y, z], _ => simp

theorem unpack_of_short {group : List Nat} (short : group.length ≤ 3) :
    unpack group = partialGroup group := by
  match group, short with
  | [], _ => rfl
  | [x], _ => rfl
  | [x, y], _ => rfl
  | [x, y, z], _ => rfl

theorem exists_eq_of_three {group : List Nat} (three : group.length = 3) :
    ∃ x y z, group = [x, y, z] := by
  match group, three with
  | [x, y, z], _ => exact ⟨x, y, z, rfl⟩

/-- A scan succeeds exactly on what its position reads. -/
theorem scan_eq_ok_iff (room : p.group.length + p.pads ≤ 3)
    (unpadded : p.padded = false → p.pads = 0) : scan p cs = .ok bytes ↔ Reads p cs bytes := by
  fun_induction scan p cs generalizing bytes with
  | case1 p =>
      rw [reads_nil_iff, finish_eq_ok_iff (by omega), unpack_of_short (by omega)]
      constructor
      · rintro ⟨none, rfl⟩
        rw [none]
        exact ⟨.inl rfl, rfl⟩
      · rintro ⟨filled, same⟩
        have none : p.group = [] := by
          unfold Filled at filled
          exact List.length_eq_zero_iff.1 (by omega)
        exact ⟨none, by rw [same, none]; rfl⟩
  | case2 p rest two four last =>
      obtain rfl := List.isEmpty_iff.1 last
      have filled : Filled p.group.length (p.pads + 1) := by
        unfold Filled
        omega
      rw [reads_padding_iff, reads_nil_iff, unpack_of_short (show p.group.length ≤ 3 by omega)]
      simp [filled, eq_comm]
  | case3 p rest two four more =>
      have excess : ¬ Reads p ('=' :: rest) bytes := by
        rw [reads_padding_iff, reads_of_padded (p := { p with pads := _, padded := true }) rfl]
        rintro ⟨signs, spelled, filled, -⟩
        have none : signs = 0 := by
          unfold Filled at filled
          dsimp only at filled
          omega
        subst none
        exact more (by rw [spelled.text]; rfl)
      simp [excess]
  | case4 p rest two short ih =>
      rw [ih (by dsimp only; omega) (by simp), reads_padding_iff]
  | case5 p rest few ih =>
      rw [ih room (by simp), reads_padding_iff,
        reads_of_padded (p := { p with padded := true }) rfl,
        reads_of_padded (p := { p with pads := _, padded := true }) rfl]
      have uncounted (signs : Nat) :
          Filled p.group.length (p.pads + 1 + signs) ↔ Filled p.group.length (p.pads + signs) := by
        unfold Filled
        omega
      simp only [uncounted]
  | case6 p c rest symbol foreign =>
      have unread : ¬ Reads p (c :: rest) bytes := by
        rintro ⟨symbols, signs, spelled, -, -, -⟩
        obtain ⟨more, -, known, -⟩ := (spelled_symbol_iff symbol).1 spelled
        exact value?_eq_none_iff.1 foreign known
      simp [unread]
  | case7 p c rest symbol v known padded =>
      simp [not_reads_symbol_of_padded symbol padded]
  | case8 p c rest symbol v known padded x y z full ih =>
      obtain ⟨member, rfl⟩ := value?_eq_some_iff.1 known
      have started : p.padded = false := by simpa using padded
      rw [reads_symbol_iff symbol started 0, full, unpadded started]
      change _ ↔ _ ∧ Reads ⟨[x, y, z, alphabet.idxOf c], 0, false, 0⟩ rest bytes
      rw [reads_fullGroup_iff (m := p.symbols + 1)]
      simp only [member, true_and, ← ih (by simp) (fun _ => rfl)]
      cases scan ⟨[], 0, false, p.symbols + 1⟩ rest with
      | error e => simp [Except.map]
      | ok more => simp [Except.map, eq_comm]
  | case9 p c rest symbol v known padded short ih =>
      obtain ⟨member, rfl⟩ := value?_eq_some_iff.1 known
      have started : p.padded = false := by simpa using padded
      have open_ : p.group.length ≠ 3 := by
        intro three
        obtain ⟨x, y, z, group⟩ := exists_eq_of_three three
        exact short x y z group
      have room' : (p.group ++ [alphabet.idxOf c]).length ≤ 3 := by
        rw [List.length_append, List.length_singleton]
        omega
      rw [ih room' fun _ => rfl, reads_symbol_iff symbol started (p.symbols + 1), unpadded started]
      simp [member]

/-! ## Whole texts -/

theorem ascii_of_spelled {symbols : List Char} {signs : Nat} (spelled : Spelled cs symbols signs) :
    ∀ c ∈ cs, c.toNat < 128 := by
  intro c member
  rw [spelled.text] at member
  rcases List.mem_append.1 member with member | member
  · exact alphabet_ascii c (spelled.known c member)
  · rw [List.eq_of_mem_replicate member]
    decide

theorem head?_of_spelled {symbols : List Char} {signs : Nat} (spelled : Spelled cs symbols signs)
    (begun : symbols ≠ []) : cs.head? ≠ some '=' := by
  obtain ⟨c, more, rfl⟩ := List.exists_cons_of_ne_nil begun
  rw [spelled.text]
  intro leading
  cases leading
  exact padding_not_mem_alphabet (spelled.known _ List.mem_cons_self)

theorem decodeChars_eq_ok_iff_scan :
    decodeChars cs = .ok bytes ↔
      (∀ c ∈ cs, c.toNat < 128) ∧ cs.head? ≠ some '=' ∧ scan {} cs = .ok bytes := by
  unfold decodeChars
  by_cases ascii : ∀ c ∈ cs, c.toNat < 128
  · rw [if_neg (by simpa using ascii)]
    by_cases leading : cs.head? = some '='
    · simp [leading]
    · simpa [leading] using fun _ => ascii
  · rw [if_pos (by simpa using ascii)]
    simp [ascii]

theorem exists_grammatical_iff {symbols : List Char} :
    (∃ count, Grammatical cs symbols count) ↔
      symbols ≠ [] ∧ ∃ signs, Spelled cs symbols signs ∧ Filled symbols.length signs := by
  constructor
  · rintro ⟨count, grammatical⟩
    cases grammatical with
    | full signs known length started =>
        exact ⟨List.ne_nil_of_length_pos (by omega), signs, ⟨rfl, known⟩, .inl (by omega)⟩
    | two known length =>
        exact ⟨List.ne_nil_of_length_pos (by omega), 2, ⟨rfl, known⟩, .inr (.inl ⟨by omega, rfl⟩)⟩
    | three known length =>
        exact ⟨List.ne_nil_of_length_pos (by omega), 1, ⟨rfl, known⟩, .inr (.inr ⟨by omega, rfl⟩)⟩
  · rintro ⟨begun, signs, ⟨rfl, known⟩, filled⟩
    have started : 0 < symbols.length := List.length_pos_iff.2 begun
    rcases filled with whole | ⟨two, rfl⟩ | ⟨three, rfl⟩
    · have length : symbols.length = 4 * (symbols.length / 4) := by omega
      exact ⟨_, .full signs known length (by omega)⟩
    · have length : symbols.length = 4 * (symbols.length / 4) + 2 := by omega
      exact ⟨_, .two known length⟩
    · have length : symbols.length = 4 * (symbols.length / 4) + 3 := by omega
      exact ⟨_, .three known length⟩

theorem ne_nil_of_grammatical {symbols : List Char} {count : Nat}
    (grammatical : Grammatical cs symbols count) : cs ≠ [] := by
  obtain ⟨begun, signs, spelled, -⟩ := exists_grammatical_iff.1 ⟨count, grammatical⟩
  rw [spelled.text]
  exact List.append_ne_nil_of_left_ne_nil begun _

/-- A text that is not empty decodes exactly if it is grammatical, to the bytes of its symbols. -/
theorem decodeChars_eq_ok_iff (nonempty : cs ≠ []) :
    decodeChars cs = .ok bytes ↔
      ∃ symbols count, Grammatical cs symbols count ∧ bytes = unpack (symbols.map alphabet.idxOf) := by
  rw [decodeChars_eq_ok_iff_scan, scan_eq_ok_iff (by decide) fun _ => rfl]
  constructor
  · rintro ⟨-, leading, symbols, signs, spelled, -, filled, same⟩
    have begun : symbols ≠ [] := by
      rintro rfl
      cases signs with
      | zero => exact nonempty spelled.text
      | succ fewer => exact leading (by rw [spelled.text]; rfl)
    obtain ⟨count, grammatical⟩ :=
      exists_grammatical_iff.2 ⟨begun, signs, spelled, by simpa using filled⟩
    exact ⟨symbols, count, grammatical, same⟩
  · rintro ⟨symbols, count, grammatical, same⟩
    obtain ⟨begun, signs, spelled, filled⟩ := exists_grammatical_iff.1 ⟨count, grammatical⟩
    exact ⟨ascii_of_spelled spelled, head?_of_spelled spelled begun, symbols, signs, spelled, nofun,
      by simpa using filled, same⟩

/-! ## Bits -/

theorem length_bits (width n : Nat) : (bits width n).length = width := by
  induction width generalizing n with
  | zero => rfl
  | succ width ih => simp [bits, ih]

theorem bits_append (width low high y : Nat) (h : y < Nat.pow 2 low) :
    bits (width + low) (high * Nat.pow 2 low + y) = bits width high ++ bits low y := by
  induction low generalizing y with
  | zero =>
      have none : y = 0 := Nat.lt_one_iff.1 h
      rw [none]
      simp [bits]
  | succ low ih =>
      have twice : high * Nat.pow 2 (low + 1) = high * Nat.pow 2 low * 2 :=
        (Nat.mul_assoc _ _ _).symm
      have half : y / 2 < Nat.pow 2 low := by
        have double : Nat.pow 2 (low + 1) = Nat.pow 2 low * 2 := rfl
        omega
      have shifted : (high * Nat.pow 2 low * 2 + y) / 2 = high * Nat.pow 2 low + y / 2 := by omega
      have last : (high * Nat.pow 2 low * 2 + y) % 2 = y % 2 := by omega
      rw [← Nat.add_assoc, twice]
      simp only [bits, shifted, last]
      rw [ih _ half, List.append_assoc]

/-- A number's bits, cut in two. -/
theorem bits_split (width low n : Nat) :
    bits (width + low) n = bits width (n / Nat.pow 2 low) ++ bits low (n % Nat.pow 2 low) := by
  rw [← bits_append _ _ _ _ (Nat.mod_lt _ (Nat.pow_pos (by decide))), Nat.div_add_mod']

theorem bits_ofNat {n : Nat} (h : n < 256) : bits 8 (UInt8.ofNat n).toNat = bits 8 n := by
  rw [UInt8.toNat_ofNat_of_lt' h]

/-- A group's second value lies across its first two bytes, and its third across its last two. -/
theorem bits_second (y : Nat) : bits 6 y = bits 2 (y / 16) ++ bits 4 (y % 16) := bits_split 2 4 y

theorem bits_third (z : Nat) : bits 6 z = bits 4 (z / 4) ++ bits 2 (z % 4) := bits_split 4 2 z

theorem bits_firstByte (x : Nat) {y : Nat} (hx : x < 64) (hy : y < 64) :
    bits 8 (UInt8.ofNat (x * 4 + y / 16)).toNat = bits 6 x ++ bits 2 (y / 16) := by
  rw [bits_ofNat (by omega)]
  exact bits_append 6 2 x (y / 16) (show y / 16 < 4 by omega)

theorem bits_secondByte (y : Nat) {z : Nat} (hz : z < 64) :
    bits 8 (UInt8.ofNat (y % 16 * 16 + z / 4)).toNat = bits 4 (y % 16) ++ bits 4 (z / 4) := by
  rw [bits_ofNat (by omega)]
  exact bits_append 4 4 (y % 16) (z / 4) (show z / 4 < 16 by omega)

theorem bits_thirdByte (z : Nat) {v : Nat} (hv : v < 64) :
    bits 8 (UInt8.ofNat (z % 4 * 64 + v)).toNat = bits 2 (z % 4) ++ bits 6 v := by
  rw [bits_ofNat (by omega)]
  exact bits_append 2 6 (z % 4) v hv

theorem length_byteBits (bytes : Bytes) : (byteBits bytes).length = 8 * bytes.length := by
  induction bytes with
  | nil => rfl
  | cons b more ih =>
      unfold byteBits at ih ⊢
      rw [List.flatMap_cons, List.length_append, length_bits, ih, List.length_cons]
      omega

theorem byteBits_append (first second : Bytes) :
    byteBits (first ++ second) = byteBits first ++ byteBits second := List.flatMap_append

theorem byteBits_fullGroup {x y z v : Nat} (hx : x < 64) (hy : y < 64) (hz : z < 64)
    (hv : v < 64) : byteBits (fullGroup x y z v) = bits 6 x ++ bits 6 y ++ bits 6 z ++ bits 6 v := by
  simp only [byteBits, fullGroup, List.flatMap_cons, List.flatMap_nil, bits_firstByte x hx hy,
    bits_secondByte y hz, bits_thirdByte z hv, bits_second y, bits_third z, List.append_assoc,
    List.append_nil]

/-- The bytes of a group that is not full are its first bits. -/
theorem byteBits_partialGroup {group : List Nat} (short : group.length ≤ 3)
    (bounded : ∀ v ∈ group, v < 64) :
    byteBits (partialGroup group) =
      (group.flatMap (bits 6)).take (8 * (partialGroup group).length) := by
  match group, short, bounded with
  | [], _, _ => rfl
  | [x], _, _ => rfl
  | [x, y], _, bounded =>
      obtain ⟨hx, hy⟩ : x < 64 ∧ y < 64 := by simpa using bounded
      have whole : [x, y].flatMap (bits 6) = (bits 6 x ++ bits 2 (y / 16)) ++ bits 4 (y % 16) := by
        simp [bits_second y]
      rw [whole, List.take_left' (by simp [length_bits, partialGroup])]
      simp only [byteBits, partialGroup, List.flatMap_cons, List.flatMap_nil, List.append_nil,
        bits_firstByte x hx hy]
  | [x, y, z], _, bounded =>
      obtain ⟨hx, hy, hz⟩ : x < 64 ∧ y < 64 ∧ z < 64 := by simpa using bounded
      have whole : [x, y, z].flatMap (bits 6) =
          ((bits 6 x ++ bits 2 (y / 16)) ++ (bits 4 (y % 16) ++ bits 4 (z / 4))) ++
            bits 2 (z % 4) := by
        simp [bits_second y, bits_third z]
      rw [whole, List.take_left' (by simp [length_bits, partialGroup])]
      simp only [byteBits, partialGroup, List.flatMap_cons, List.flatMap_nil, List.append_nil,
        bits_firstByte x hx hy, bits_secondByte y hz]

/-- The recursion of `unpack` stops at fewer than four values. -/
theorem length_le_of_short {group : List Nat}
    (short : ∀ x y z v rest, group = x :: y :: z :: v :: rest → False) : group.length ≤ 3 := by
  match group, short with
  | [], _ => simp
  | [x], _ => simp
  | [x, y], _ => simp
  | [x, y, z], _ => simp
  | x :: y :: z :: v :: rest, short => exact (short x y z v rest rfl).elim

theorem length_partialGroup {group : List Nat} (short : group.length ≤ 3) :
    (partialGroup group).length = group.length * 3 / 4 := by
  match group, short with
  | [], _ => rfl
  | [x], _ => simp [partialGroup]
  | [x, y], _ => simp [partialGroup]
  | [x, y, z], _ => simp [partialGroup]

/-- Four values make three bytes, and those left over as many whole bytes as they can. -/
theorem length_unpack (values : List Nat) : (unpack values).length = values.length * 3 / 4 := by
  fun_induction unpack values with
  | case1 x y z v rest ih =>
      simp only [fullGroup, List.length_append, List.length_cons, List.length_nil, ih]
      omega
  | case2 group short => exact length_partialGroup (length_le_of_short short)

/-- Unpacked values keep their bits, up to the last whole byte. -/
theorem byteBits_unpack {values : List Nat} (bounded : ∀ v ∈ values, v < 64) :
    byteBits (unpack values) =
      (values.flatMap (bits 6)).take (8 * (unpack values).length) := by
  fun_induction unpack values with
  | case1 x y z v rest ih =>
      obtain ⟨hx, hy, hz, hv, later⟩ :
          x < 64 ∧ y < 64 ∧ z < 64 ∧ v < 64 ∧ ∀ w ∈ rest, w < 64 := by simpa using bounded
      have first : (x :: y :: z :: v :: rest).flatMap (bits 6) =
          byteBits (fullGroup x y z v) ++ rest.flatMap (bits 6) := by
        simp [byteBits_fullGroup hx hy hz hv]
      have three : 8 * (fullGroup x y z v ++ unpack rest).length =
          (byteBits (fullGroup x y z v)).length + 8 * (unpack rest).length := by
        rw [length_byteBits, List.length_append, Nat.mul_add]
      rw [first, three, List.take_length_add_append, byteBits_append, ih later]
  | case2 group short => exact byteBits_partialGroup (length_le_of_short short) bounded

/-- A grammatical text decodes to as many bytes as it stands for, which have the bits of its symbols. -/
theorem decodeChars_of_grammatical {symbols : List Char} {count : Nat}
    (grammatical : Grammatical cs symbols count) :
    ∃ bytes, decodeChars cs = .ok bytes ∧ bytes.length = count ∧
      byteBits bytes = (symbolBits symbols).take (8 * count) := by
  obtain ⟨-, signs, spelled, -⟩ := exists_grammatical_iff.1 ⟨count, grammatical⟩
  have nonempty : cs ≠ [] := ne_nil_of_grammatical grammatical
  have bounded : ∀ v ∈ symbols.map alphabet.idxOf, v < 64 := by
    simpa using fun c member => idxOf_alphabet_lt (spelled.known c member)
  have length : (unpack (symbols.map alphabet.idxOf)).length = count := by
    rw [length_unpack, List.length_map]
    cases grammatical <;> omega
  refine ⟨_, (decodeChars_eq_ok_iff nonempty).2 ⟨symbols, count, grammatical, rfl⟩, length, ?_⟩
  rw [byteBits_unpack bounded, length, symbolBits, List.flatMap_map]

end AdmissionHooks.Base64
