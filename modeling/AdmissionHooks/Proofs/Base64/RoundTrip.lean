import AdmissionHooks.Base64.Decoder
import AdmissionHooks.Base64.Encoder

/-!
# Decoding what was encoded

A scan takes four symbols at a time and gives back the three bytes that they were made of. The last
group is the only one that has padding, and its signs fill it exactly. Only the empty text decodes to
nothing.
-/

namespace AdmissionHooks.Base64

theorem symbol_ne_padding {n : Nat} (h : n < 64) : symbol n ≠ '=' := by
  intro same
  have read := value?_symbol h
  rw [same, value?_padding] at read
  cases read

theorem symbol_ascii {n : Nat} (h : n < 64) : (symbol n).toNat < 128 := by
  have all : ∀ k : Fin 64, (symbol k).toNat < 128 := by decide
  exact all ⟨n, h⟩

/-- A symbol joins a group that it does not fill. -/
theorem scan_symbol {n v : Nat} {group : List Nat} (rest : List Char) (h : v < 64)
    (room : group.length ≠ 3) :
    scan ⟨group, 0, false, n⟩ (symbol v :: rest) = scan ⟨group ++ [v], 0, false, n + 1⟩ rest := by
  rw [scan, if_neg (symbol_ne_padding h), value?_symbol h]
  match group, room with
  | [], _ => rfl
  | [x], _ => rfl
  | [x, y], _ => rfl
  | x :: y :: z :: w :: more, _ => rfl

theorem scan_fourth {n x y z v : Nat} (rest : List Char) (h : v < 64) :
    scan ⟨[x, y, z], 0, false, n⟩ (symbol v :: rest) =
      (scan ⟨[], 0, false, n + 1⟩ rest).map (fullGroup x y z v ++ ·) := by
  rw [scan, if_neg (symbol_ne_padding h), value?_symbol h]
  rfl

theorem scan_group {n x y z v : Nat} (rest : List Char) (hx : x < 64) (hy : y < 64) (hz : z < 64)
    (hv : v < 64) :
    scan ⟨[], 0, false, n⟩ (symbol x :: symbol y :: symbol z :: symbol v :: rest) =
      (scan ⟨[], 0, false, n + 4⟩ rest).map (fullGroup x y z v ++ ·) := by
  rw [scan_symbol _ hx (by simp), scan_symbol _ hy (by simp), scan_symbol _ hz (by simp)]
  exact scan_fourth rest hv

/-- The three bytes that a full group is made of. -/
theorem fullGroup_split (a b c : UInt8) :
    fullGroup (a.toNat / 4) (a.toNat % 4 * 16 + b.toNat / 16) (b.toNat % 16 * 4 + c.toNat / 64)
      (c.toNat % 64) = [a, b, c] := by
  have ha := a.toNat_lt
  have hb := b.toNat_lt
  have hc := c.toNat_lt
  have first : a.toNat / 4 * 4 + (a.toNat % 4 * 16 + b.toNat / 16) / 16 = a.toNat := by omega
  have second : (a.toNat % 4 * 16 + b.toNat / 16) % 16 * 16 +
      (b.toNat % 16 * 4 + c.toNat / 64) / 4 = b.toNat := by omega
  have third : (b.toNat % 16 * 4 + c.toNat / 64) % 4 * 64 + c.toNat % 64 = c.toNat := by omega
  simp only [fullGroup, first, second, third, UInt8.ofNat_toNat]

theorem partialGroup_one (a : UInt8) :
    partialGroup [a.toNat / 4, a.toNat % 4 * 16] = [a] := by
  have ha := a.toNat_lt
  have whole : a.toNat / 4 * 4 + a.toNat % 4 * 16 / 16 = a.toNat := by omega
  simp only [partialGroup, whole, UInt8.ofNat_toNat]

theorem partialGroup_two (a b : UInt8) :
    partialGroup [a.toNat / 4, a.toNat % 4 * 16 + b.toNat / 16, b.toNat % 16 * 4] = [a, b] := by
  have ha := a.toNat_lt
  have hb := b.toNat_lt
  have first : a.toNat / 4 * 4 + (a.toNat % 4 * 16 + b.toNat / 16) / 16 = a.toNat := by omega
  have second : (a.toNat % 4 * 16 + b.toNat / 16) % 16 * 16 + b.toNat % 16 * 4 / 4 =
      b.toNat := by omega
  simp only [partialGroup, first, second, UInt8.ofNat_toNat]

/-- The signs that fill a last group of two or three symbols end the scan. -/
theorem scan_lastOfTwo (x y n : Nat) :
    scan ⟨[x, y], 0, false, n⟩ ['=', '='] = .ok (partialGroup [x, y]) := rfl

theorem scan_lastOfThree (x y z n : Nat) :
    scan ⟨[x, y, z], 0, false, n⟩ ['='] = .ok (partialGroup [x, y, z]) := rfl

theorem scan_encodeChars (bytes : Bytes) (n : Nat) :
    scan ⟨[], 0, false, n⟩ (encodeChars bytes) = .ok bytes := by
  fun_induction encodeChars bytes generalizing n with
  | case1 => rfl
  | case2 a x =>
      have ha := a.toNat_lt
      rw [scan_symbol _ (by omega) (by simp), scan_symbol _ (by omega) (by simp)]
      exact (scan_lastOfTwo _ _ _).trans (congrArg Except.ok (partialGroup_one a))
  | case3 a b x y =>
      have ha := a.toNat_lt
      have hb := b.toNat_lt
      rw [scan_symbol _ (by omega) (by simp), scan_symbol _ (by omega) (by simp),
        scan_symbol _ (by omega) (by simp)]
      exact (scan_lastOfThree _ _ _ _).trans (congrArg Except.ok (partialGroup_two a b))
  | case4 a b c rest x y z ih =>
      have ha := a.toNat_lt
      have hb := b.toNat_lt
      have hc := c.toNat_lt
      -- after a full group the scan is again at an empty one
      rw [scan_group _ (by omega) (by omega) (by omega) (by omega), ih]
      exact congrArg Except.ok (congrArg (· ++ rest) (fullGroup_split a b c))

theorem encodeChars_ascii (bytes : Bytes) : ∀ c ∈ encodeChars bytes, c.toNat < 128 := by
  have padding : '='.toNat < 128 := by decide
  fun_induction encodeChars bytes with
  | case1 => simp
  | case2 a x =>
      have ha := a.toNat_lt
      simp only [List.forall_mem_cons]
      exact ⟨symbol_ascii (by omega), symbol_ascii (by omega), padding, padding, by simp⟩
  | case3 a b x y =>
      have ha := a.toNat_lt
      have hb := b.toNat_lt
      simp only [List.forall_mem_cons]
      exact ⟨symbol_ascii (by omega), symbol_ascii (by omega), symbol_ascii (by omega), padding,
        by simp⟩
  | case4 a b c rest x y z ih =>
      have ha := a.toNat_lt
      have hb := b.toNat_lt
      have hc := c.toNat_lt
      simp only [List.forall_mem_cons]
      exact ⟨symbol_ascii (by omega), symbol_ascii (by omega), symbol_ascii (by omega),
        symbol_ascii (by omega), ih⟩

theorem head?_encodeChars_ne (bytes : Bytes) : (encodeChars bytes).head? ≠ some '=' := by
  have first (a : UInt8) : symbol (a.toNat / 4) ≠ '=' := by
    have ha := a.toNat_lt
    exact symbol_ne_padding (by omega)
  intro leading
  fun_cases encodeChars bytes with
  | case1 => cases leading
  | case2 a x => exact first a (Option.some.inj leading)
  | case3 a b x y => exact first a (Option.some.inj leading)
  | case4 a b c rest x y z => exact first a (Option.some.inj leading)

theorem decode_encode (bytes : Bytes) : decode (encode bytes) = .ok bytes := by
  have ascii : (encodeChars bytes).any (fun c => 128 ≤ c.toNat) = false := by
    simpa using encodeChars_ascii bytes
  unfold decode encode decodeChars
  rw [String.toList_ofList, ascii, if_neg (by simp), if_neg (head?_encodeChars_ne bytes)]
  exact scan_encodeChars bytes 0

theorem encode_ne_empty {bytes : Bytes} (h : bytes ≠ []) : encode bytes ≠ "" := by
  intro empty
  have read := decode_encode bytes
  rw [empty] at read
  cases read
  exact h rfl

/-! ## What decodes to nothing -/

theorem partialGroup_ne_nil {group : List Nat} (least : 2 ≤ group.length) (most : group.length ≤ 3) :
    partialGroup group ≠ [] := by
  match group, least, most with
  | [a, b], _, _ => simp [partialGroup]
  | [a, b, c], _, _ => simp [partialGroup]

/-- A scan with symbols in its open group ends with bytes, if it ends well. -/
theorem ne_nil_of_scan {p : Position} {cs : List Char} {bytes : Bytes} (started : p.group ≠ [])
    (room : p.group.length ≤ 3) (h : scan p cs = .ok bytes) : bytes ≠ [] := by
  fun_induction scan p cs with
  | case1 p =>
      unfold Position.finish at h
      split at h
      next none => exact absurd (List.length_eq_zero_iff.1 none) started
      next => cases h
      next => cases h
  | case2 p rest two =>
      cases h
      exact partialGroup_ne_nil two room
  | case3 => cases h
  | case4 p rest two open_ ih => exact ih started room h
  | case5 p rest few ih => exact ih started room h
  | case6 => cases h
  | case7 => cases h
  | case8 p c rest _ v _ _ x y z =>
      -- the symbol fills the group, whose bytes come first
      cases later : scan ⟨[], 0, false, p.symbols + 1⟩ rest with
      | error e =>
          rw [later] at h
          cases h
      | ok more =>
          rw [later] at h
          cases h
          simp [fullGroup]
  | case9 p c rest _ v _ _ short ih =>
      have notFull : p.group.length ≠ 3 := by
        intro three
        match full : p.group, three with
        | [x, y, z], _ => exact short x y z full
      have room' : (p.group ++ [v]).length ≤ 3 := by
        rw [List.length_append, List.length_singleton]
        omega
      exact ih (by simp) room' h

/-- Only the empty text decodes to nothing. -/
theorem ne_nil_of_decode {text : String} {bytes : Bytes} (nonempty : text ≠ "")
    (h : decode text = .ok bytes) : bytes ≠ [] := by
  unfold decode decodeChars at h
  cases chars : text.toList with
  | nil => exact absurd (String.toList_eq_nil_iff.1 chars) nonempty
  | cons c cs =>
      rw [chars] at h
      split at h
      · cases h
      · split at h
        · cases h
        next notLeading =>
          have symbol : c ≠ '=' := fun same => notLeading (congrArg some same)
          rw [scan, if_neg symbol] at h
          split at h
          · cases h
          · exact ne_nil_of_scan (by simp) (by simp) h

end AdmissionHooks.Base64
