import AdmissionHooks.Proofs.Clock
import AdmissionHooks.Proofs.Log.Line

/-!
# Timestamps in order

Two timestamps are told apart by a digit, or, where only one of them has a fraction, by the sign of
the zone against the point of the fraction. Either stands before the end of the shorter one, so what
follows a timestamp has no say: timestamps compare as their instants do in time, and so do the lines
that begin with them.
-/

namespace AdmissionHooks

open Text (digits compare_append compare_cons_self compare_digits_append compare_eq_lt_iff)

namespace Instant

/-! ## The parts of a timestamp -/

theorem daysInMonth_le (year month : Nat) : daysInMonth year month ≤ 31 := by
  unfold daysInMonth
  repeat' split
  all_goals omega

theorem compare_twoDigits {m n : Nat} (hm : m < 100) (hn : n < 100) (cs ds : List Char) :
    compare (digits 10 2 m ++ cs) (digits 10 2 n ++ ds) = (compare m n).then (compare cs ds) :=
  compare_digits_append (by decide) (by decide) hm hn cs ds

section

variable {s t : Instant} (hs : s.Valid) (ht : t.Valid) (cs ds : List Char)

include hs ht

theorem compare_dateChars :
    compare (s.dateChars ++ cs) (t.dateChars ++ ds) =
      (compare s.year t.year).then
        ((compare s.month t.month).then ((compare s.day t.day).then (compare cs ds))) := by
  have year (u : Instant) (valid : u.Valid) : u.year < Nat.pow 10 4 :=
    Nat.lt_of_le_of_lt valid.year_le (by decide)
  have month (u : Instant) (valid : u.Valid) : u.month < 100 :=
    Nat.lt_of_le_of_lt valid.month_le (by decide)
  have day (u : Instant) (valid : u.Valid) : u.day < 100 := by
    have le := daysInMonth_le u.year u.month
    have := valid.day_le
    omega
  unfold dateChars dayChars
  simp only [List.append_assoc, List.cons_append]
  rw [compare_digits_append (by decide) (by decide) (year s hs) (year t ht), compare_cons_self,
    compare_twoDigits (month s hs) (month t ht), compare_cons_self,
    compare_twoDigits (day s hs) (day t ht)]

theorem compare_timeChars :
    compare (s.timeChars ++ cs) (t.timeChars ++ ds) =
      (compare s.hour t.hour).then
        ((compare s.minute t.minute).then ((compare s.second t.second).then (compare cs ds))) := by
  have hour (u : Instant) (valid : u.Valid) : u.hour < 100 :=
    Nat.lt_trans valid.hour_lt (by decide)
  have minute (u : Instant) (valid : u.Valid) : u.minute < 100 :=
    Nat.lt_trans valid.minute_lt (by decide)
  have second (u : Instant) (valid : u.Valid) : u.second < 100 :=
    Nat.lt_trans valid.second_lt (by decide)
  unfold timeChars
  simp only [List.append_assoc, List.cons_append]
  rw [compare_twoDigits (hour s hs) (hour t ht), compare_cons_self,
    compare_twoDigits (minute s hs) (minute t ht), compare_cons_self,
    compare_twoDigits (second s hs) (second t ht)]

/-- A whole second comes before its fractions, as the sign of the zone comes before the point. -/
theorem compare_fractionChars :
    compare (s.fractionChars ++ (zoneChars ++ cs)) (t.fractionChars ++ (zoneChars ++ ds)) =
      (compare s.microsecond t.microsecond).then (compare cs ds) := by
  have zone : compare (zoneChars ++ cs) (zoneChars ++ ds) = compare cs ds := by
    rw [compare_append rfl, Std.compare_eq_iff_eq.2 rfl, Ordering.eq_then]
  unfold fractionChars
  split
  next whole =>
    split
    next whole' =>
      rw [whole, whole', Nat.compare_eq_eq.2 rfl, Ordering.eq_then]
      exact zone
    next part' =>
      rw [whole, Nat.compare_eq_lt.2 (Nat.pos_of_ne_zero part')]
      rfl
  next part =>
    split
    next whole' =>
      rw [whole', Nat.compare_eq_gt.2 (Nat.pos_of_ne_zero part)]
      rfl
    next part' =>
      rw [List.cons_append, List.cons_append, compare_cons_self,
        compare_digits_append (by decide) (by decide) hs.microsecond_lt ht.microsecond_lt, zone]

/-- Timestamps compare as the parts of their instants, whatever follows them. -/
theorem compare_timestampChars :
    compare (s.timestampChars ++ cs) (t.timestampChars ++ ds) =
      (compare s.parts t.parts).then (compare cs ds) := by
  have last : compare ([] : List Nat) [] = .eq := rfl
  unfold timestampChars
  simp only [List.append_assoc, List.cons_append]
  rw [compare_dateChars hs ht, compare_cons_self, compare_timeChars hs ht,
    compare_fractionChars hs ht]
  simp only [parts, List.compare_cons_cons, Ordering.then_assoc, last, Ordering.eq_then]

end

section

variable {s t : Instant} (hs : s.Valid) (ht : t.Valid)

include hs ht

theorem compare_timestamp :
    compare s.timestamp.toList t.timestamp.toList = compare s.elapsed t.elapsed := by
  have shown := compare_timestampChars hs ht [] []
  have last : compare ([] : List Char) [] = .eq := rfl
  rw [List.append_nil, List.append_nil, last, Ordering.then_eq, ← compare_elapsed hs ht] at shown
  rw [timestamp, timestamp, String.toList_ofList, String.toList_ofList]
  exact shown

theorem timestamp_lt_iff : s.timestamp < t.timestamp ↔ s.elapsed < t.elapsed := by
  rw [String.lt_iff, ← compare_eq_lt_iff, compare_timestamp hs ht, Nat.compare_eq_lt]

theorem timestamp_inj : s.timestamp = t.timestamp ↔ s = t := by
  rw [← String.toList_inj, ← Std.compare_eq_iff_eq, compare_timestamp hs ht, Nat.compare_eq_eq,
    elapsed_inj hs ht]

end

/-- The timestamps of the clock are in the order of its counts. -/
theorem timestamp_ofEpoch_lt_iff {m n : Nat} (hm : m < clockEnd) (hn : n < clockEnd) :
    (ofEpoch m).timestamp < (ofEpoch n).timestamp ↔ m < n := by
  rw [timestamp_lt_iff (valid_ofEpoch hm) (valid_ofEpoch hn), elapsed_ofEpoch m, elapsed_ofEpoch n,
    Nat.add_lt_add_iff_left]

end Instant

/-! ## Lines -/

namespace Json

/-- Characters that are printed as themselves. -/
def Plain (cs : List Char) : Prop := ∀ c ∈ cs, escapeChar c = [c]

theorem plain_nil : Plain [] := nofun

@[simp] theorem plain_cons {c : Char} {cs : List Char} :
    Plain (c :: cs) ↔ escapeChar c = [c] ∧ Plain cs :=
  List.forall_mem_cons

@[simp] theorem plain_append {cs ds : List Char} : Plain (cs ++ ds) ↔ Plain cs ∧ Plain ds :=
  List.forall_mem_append

theorem Plain.flatMap_escapeChar {cs : List Char} (plain : Plain cs) :
    cs.flatMap escapeChar = cs := by
  induction cs with
  | nil => rfl
  | cons c cs ih =>
      obtain ⟨first, rest⟩ := plain_cons.1 plain
      rw [List.flatMap_cons, first, ih rest]
      rfl

theorem plain_digits (width n : Nat) : Plain (digits 10 width n) := by
  have all : ∀ k : Fin 10, escapeChar (Text.digit k) = [Text.digit k] := by decide
  induction width generalizing n with
  | zero => exact plain_nil
  | succ width ih =>
      have last : n % 10 < 10 := Nat.mod_lt n (by decide)
      rw [digits, plain_append, plain_cons]
      exact ⟨ih _, all ⟨n % 10, last⟩, plain_nil⟩

theorem plain_timestampChars (t : Instant) : Plain t.timestampChars := by
  have dash : escapeChar '-' = ['-'] := rfl
  have colon : escapeChar ':' = [':'] := rfl
  have letter : escapeChar 'T' = ['T'] := rfl
  have sign : escapeChar '+' = ['+'] := rfl
  have zero : escapeChar '0' = ['0'] := rfl
  have fraction : Plain t.fractionChars := by
    unfold Instant.fractionChars
    split
    · exact plain_nil
    · exact plain_cons.2 ⟨rfl, plain_digits 6 _⟩
  have date : Plain t.dateChars := by
    simp [Instant.dateChars, Instant.dayChars, plain_digits, dash]
  have time : Plain t.timeChars := by
    simp [Instant.timeChars, plain_digits, colon]
  have zone : Plain Instant.zoneChars := by
    simp [Instant.zoneChars, plain_nil, sign, zero, colon]
  unfold Instant.timestampChars
  rw [plain_append, plain_append, plain_append, plain_cons]
  exact ⟨⟨⟨date, letter, time⟩, fraction⟩, zone⟩

end Json

namespace Log

/-- How the line of a record begins, up to the timestamp. -/
def lineOpening : List Char := "\x7b\"timestamp\": \"".toList

/-- A line that begins with the timestamp of an instant. -/
def Stamped (line : String) (t : Instant) : Prop :=
  ∃ rest, line.toList = lineOpening ++ (t.timestampChars ++ '"' :: rest)

variable {s t : Instant} {l m : String}

theorem stamped_of_jsonLine {r : Record} {limits : Json.Limits}
    (made : r.jsonLine t limits = .ok l) : Stamped l t := by
  obtain ⟨message, incident, -, -, -, rfl⟩ := (r.jsonLine_eq_ok_iff t limits).1 made
  have stamp : Json.print (.str t.timestamp) = '"' :: t.timestampChars ++ ['"'] := by
    rw [Json.print, Json.printText, Instant.timestamp, String.toList_ofList,
      (Json.plain_timestampChars t).flatMap_escapeChar]
  have opening : '\x7b' :: Json.printText "timestamp" ++ [':', ' ', '"'] = lineOpening := by
    decide
  unfold Stamped
  rw [String.toList_ofList, Record.lineOf, Record.openingMembers, List.map_cons, List.cons_append,
    Json.joinObject, Json.printMember, stamp, ← opening]
  simp only [List.cons_append, List.append_assoc, List.nil_append]
  exact ⟨_, rfl⟩

/-- The timestamps decide before the lines have anything else to tell. -/
theorem Stamped.lt (hs : s.Valid) (ht : t.Valid) (first : Stamped l s) (second : Stamped m t)
    (earlier : s.elapsed < t.elapsed) : l < m := by
  obtain ⟨cs, shown⟩ := first
  obtain ⟨ds, shown'⟩ := second
  have level : compare lineOpening lineOpening = .eq := Std.compare_eq_iff_eq.2 rfl
  have less : compare s.parts t.parts = .lt := by
    rw [← Instant.compare_elapsed hs ht]
    exact Nat.compare_eq_lt.2 earlier
  rw [String.lt_iff, ← compare_eq_lt_iff, shown, shown', compare_append rfl, level,
    Ordering.eq_then, Instant.compare_timestampChars hs ht, less, Ordering.lt_then]

/-- Timestamps are in the order of their instants in time, and equal for equal instants only. The
lines of records begin with them and follow their order, whatever the records are; and the
timestamps of the clock follow its count. -/
theorem timestamps_sort (hs : s.Valid) (ht : t.Valid) :
    (s.timestamp < t.timestamp ↔ s.elapsed < t.elapsed) ∧
    (s.timestamp = t.timestamp ↔ s = t) ∧ (s.elapsed = t.elapsed ↔ s = t) ∧
    (∀ (q r : Record) (limits : Json.Limits) (l m : String),
      q.jsonLine s limits = .ok l → r.jsonLine t limits = .ok m →
      Stamped l s ∧ Stamped m t ∧ (s.elapsed < t.elapsed → l < m)) ∧
    ∀ i j : Nat, i < Instant.clockEnd → j < Instant.clockEnd →
      ((Instant.ofEpoch i).timestamp < (Instant.ofEpoch j).timestamp ↔ i < j) := by
  refine ⟨Instant.timestamp_lt_iff hs ht, Instant.timestamp_inj hs ht, Instant.elapsed_inj hs ht,
    ?_, ?_⟩
  · intro q r limits l m made made'
    have first := stamped_of_jsonLine made
    have second := stamped_of_jsonLine made'
    exact ⟨first, second, first.lt hs ht second⟩
  · intro i j hi hj
    exact Instant.timestamp_ofEpoch_lt_iff hi hj

/-- The last whole second of a leap day, and the microsecond behind it. -/
def wholeSecond : Instant := ⟨2024, 2, 29, 23, 59, 59, 0⟩

def partSecond : Instant := { wholeSecond with microsecond := 1 }

def noteRecord (message : String) : Record where
  logger := "kube_policy"
  level := Level.info
  message := message

theorem timestamps_sort_wholeSecond :
    wholeSecond.Valid ∧ partSecond.Valid ∧
      wholeSecond.timestamp = "2024-02-29T23:59:59+00:00" ∧
      partSecond.timestamp = "2024-02-29T23:59:59.000001+00:00" ∧
      wholeSecond.timestamp < partSecond.timestamp ∧
      wholeSecond.timestamp ≠ partSecond.timestamp ∧
      (∃ l m, (noteRecord "b").jsonLine wholeSecond = .ok l ∧
        (noteRecord "a").jsonLine partSecond = .ok m ∧ l < m) ∧
      (Instant.ofEpoch 1709251199000000).timestamp <
        (Instant.ofEpoch 1709251199000001).timestamp := by
  have whole : wholeSecond.Valid := by constructor <;> decide
  have part : partSecond.Valid := by constructor <;> decide
  have earlier : wholeSecond.elapsed < partSecond.elapsed := by
    rw [← Nat.compare_eq_lt, Instant.compare_elapsed whole part]
    rfl
  obtain ⟨order, same, -, lines, clock⟩ := timestamps_sort whole part
  have later := lines (noteRecord "b") (noteRecord "a") {} _ _ rfl rfl
  have count := (clock 1709251199000000 1709251199000001 (by decide) (by decide)).2 (by decide)
  exact ⟨whole, part, by decide, by decide, order.2 earlier, mt same.1 (by decide),
    ⟨_, _, rfl, rfl, later.2.2 earlier⟩, count⟩

end Log

end AdmissionHooks
