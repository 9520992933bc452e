import AdmissionHooks.Json.Printer
import Mathlib.Logic.Basic

/-!
# What can be printed

A value can be printed exactly if it is no deeper than the levels that are left and each of its
integers has no more digits than are allowed. Otherwise what ends the printing is one of the two,
and the value has it.
-/

namespace AdmissionHooks.Json

mutual

/-- How many lists and objects stand inside each other. -/
def depth : Json → Nat
  | .arr items => itemsDepth items + 1
  | .obj members => membersDepth members + 1
  | _ => 0

def itemsDepth : List Json → Nat
  | [] => 0
  | v :: items => max (depth v) (itemsDepth items)

def membersDepth : List (String × Json) → Nat
  | [] => 0
  | (_, v) :: members => max (depth v) (membersDepth members)

end

mutual

/-- The integers anywhere in a value. -/
def integers : Json → List Int
  | .int n => [n]
  | .arr items => itemsIntegers items
  | .obj members => membersIntegers members
  | _ => []

def itemsIntegers : List Json → List Int
  | [] => []
  | v :: items => integers v ++ itemsIntegers items

def membersIntegers : List (String × Json) → List Int
  | [] => []
  | (_, v) :: members => integers v ++ membersIntegers members

end

theorem digitCount_le_iff {n : Int} {count : Nat} (pos : 0 < count) :
    digitCount n ≤ count ↔ n.natAbs < Nat.pow 10 count :=
  Nat.length_toDigits_le_iff (by decide) pos

theorem membersDepth_le_iff {members : List (String × Json)} {levels : Nat} :
    membersDepth members ≤ levels ↔ ∀ v ∈ members.map (·.2), v.depth ≤ levels := by
  induction members with
  | nil => simp [membersDepth]
  | cons m members ih => rw [membersDepth, Nat.max_le, ih, List.map_cons, List.forall_mem_cons]

theorem mem_membersIntegers {members : List (String × Json)} {n : Int} :
    n ∈ membersIntegers members ↔ ∃ v ∈ members.map (·.2), n ∈ v.integers := by
  induction members with
  | nil => simp [membersIntegers]
  | cons m members ih => simp [membersIntegers, ih]

/-- No integer has more digits than are allowed. -/
def Short (limits : Limits) (ns : List Int) : Prop := ∀ n ∈ ns, digitCount n ≤ limits.digits

theorem short_nil (limits : Limits) : Short limits [] := fun _ none => nomatch none

theorem short_append {limits : Limits} {ms ns : List Int} :
    Short limits (ms ++ ns) ↔ Short limits ms ∧ Short limits ns := List.forall_mem_append

section

variable (limits : Limits)

mutual

theorem obstacle?_eq_none_iff (v : Json) (levels : Nat) :
    obstacle? limits levels v = none ↔ v.depth ≤ levels ∧ Short limits v.integers := by
  match v with
  | .null => simp [obstacle?, depth, integers, short_nil]
  | .bool b => simp [obstacle?, depth, integers, short_nil]
  | .int n => simp [obstacle?, depth, integers, Short]
  | .str s => simp [obstacle?, depth, integers, short_nil]
  | .arr items =>
      have inner := itemsObstacle?_eq_none_iff items (levels - 1)
      by_cases none : levels = 0
      · simp [obstacle?, depth, none]
      · have room : itemsDepth items + 1 ≤ levels ↔ itemsDepth items ≤ levels - 1 := by omega
        rw [obstacle?, if_neg none, inner, depth, integers, room]
  | .obj members =>
      have inner := membersObstacle?_eq_none_iff members (levels - 1)
      by_cases none : levels = 0
      · simp [obstacle?, depth, none]
      · have room : membersDepth members + 1 ≤ levels ↔ membersDepth members ≤ levels - 1 := by
          omega
        rw [obstacle?, if_neg none, inner, depth, integers, room]

theorem itemsObstacle?_eq_none_iff (items : List Json) (levels : Nat) :
    itemsObstacle? limits levels items = none ↔
      itemsDepth items ≤ levels ∧ Short limits (itemsIntegers items) := by
  match items with
  | [] => simp [itemsObstacle?, itemsDepth, itemsIntegers, short_nil]
  | v :: items =>
      have first := obstacle?_eq_none_iff v levels
      have others := itemsObstacle?_eq_none_iff items levels
      simp only [itemsObstacle?, Option.or_eq_none_iff, first, others, itemsDepth, itemsIntegers,
        short_append, Nat.max_le]
      exact and_and_and_comm

theorem membersObstacle?_eq_none_iff (members : List (String × Json)) (levels : Nat) :
    membersObstacle? limits levels members = none ↔
      membersDepth members ≤ levels ∧ Short limits (membersIntegers members) := by
  match members with
  | [] => simp [membersObstacle?, membersDepth, membersIntegers, short_nil]
  | (name, v) :: members =>
      have first := obstacle?_eq_none_iff v levels
      have others := membersObstacle?_eq_none_iff members levels
      simp only [membersObstacle?, Option.or_eq_none_iff, first, others, membersDepth,
        membersIntegers, short_append, Nat.max_le]
      exact and_and_and_comm

end

/-- That an obstacle is to be met in a value of the given depth and with the given integers. -/
def Met (levels depth : Nat) (ns : List Int) : Obstacle → Prop
  | .longInteger => ∃ n ∈ ns, limits.digits < digitCount n
  | .tooDeep => levels < depth

variable {limits}

theorem Met.mono {levels depth deeper : Nat} {ms ns : List Int} {o : Obstacle}
    (met : Met limits levels depth ms o) (below : depth ≤ deeper) (listed : ms ⊆ ns) :
    Met limits levels deeper ns o := by
  cases o with
  | longInteger =>
      obtain ⟨n, found, long⟩ := met
      exact ⟨n, listed found, long⟩
  | tooDeep => exact Nat.lt_of_lt_of_le met below

/-- What is met one level further in is met from outside. -/
theorem Met.succ {levels depth : Nat} {ns : List Int} {o : Obstacle}
    (met : Met limits (levels - 1) depth ns o) : Met limits levels (depth + 1) ns o := by
  cases o with
  | longInteger => exact met
  | tooDeep =>
      have deeper : levels - 1 < depth := met
      show levels < depth + 1
      omega

mutual

theorem met_obstacle? (v : Json) (levels : Nat) {o : Obstacle}
    (ended : obstacle? limits levels v = some o) : Met limits levels v.depth v.integers o := by
  match v with
  | .null => simp [obstacle?] at ended
  | .bool b => simp [obstacle?] at ended
  | .str s => simp [obstacle?] at ended
  | .int n =>
      by_cases long : limits.digits < digitCount n
      · simp only [obstacle?, if_pos long, Option.some.injEq] at ended
        subst ended
        exact ⟨n, by simp [integers], long⟩
      · simp [obstacle?, long] at ended
  | .arr items =>
      by_cases none : levels = 0
      · simp only [obstacle?, if_pos none, Option.some.injEq] at ended
        subst ended none
        exact Nat.succ_pos _
      · rw [obstacle?, if_neg none] at ended
        exact (met_itemsObstacle? items (levels - 1) ended).succ
  | .obj members =>
      by_cases none : levels = 0
      · simp only [obstacle?, if_pos none, Option.some.injEq] at ended
        subst ended none
        exact Nat.succ_pos _
      · rw [obstacle?, if_neg none] at ended
        exact (met_membersObstacle? members (levels - 1) ended).succ

theorem met_itemsObstacle? (items : List Json) (levels : Nat) {o : Obstacle}
    (ended : itemsObstacle? limits levels items = some o) :
    Met limits levels (itemsDepth items) (itemsIntegers items) o := by
  match items with
  | [] => simp [itemsObstacle?] at ended
  | v :: items =>
      rw [itemsObstacle?, Option.or_eq_some_iff] at ended
      rcases ended with first | ⟨-, later⟩
      · exact (met_obstacle? v levels first).mono (Nat.le_max_left ..)
          (List.subset_append_left ..)
      · exact (met_itemsObstacle? items levels later).mono (Nat.le_max_right ..)
          (List.subset_append_right ..)

theorem met_membersObstacle? (members : List (String × Json)) (levels : Nat) {o : Obstacle}
    (ended : membersObstacle? limits levels members = some o) :
    Met limits levels (membersDepth members) (membersIntegers members) o := by
  match members with
  | [] => simp [membersObstacle?] at ended
  | (name, v) :: members =>
      rw [membersObstacle?, Option.or_eq_some_iff] at ended
      rcases ended with first | ⟨-, later⟩
      · exact (met_obstacle? v levels first).mono (Nat.le_max_left ..)
          (List.subset_append_left ..)
      · exact (met_membersObstacle? members levels later).mono (Nat.le_max_right ..)
          (List.subset_append_right ..)

end

/-! ## Objects -/

variable {members : List (String × Json)} {levels : Nat}

theorem depth_obj_le_iff (filled : members ≠ []) :
    (obj members).depth ≤ levels ↔ ∀ v ∈ members.map (·.2), v.depth < levels := by
  obtain ⟨m, others, rfl⟩ := List.exists_cons_of_ne_nil filled
  cases levels with
  | zero =>
      constructor
      · exact fun none => absurd none (Nat.not_succ_le_zero _)
      · exact fun all => absurd (all m.2 List.mem_cons_self) (Nat.not_lt_zero _)
  | succ levels =>
      rw [depth, Nat.succ_le_succ_iff, membersDepth_le_iff]
      simp only [Nat.lt_succ_iff]

/-- An object can be printed if each of its values can, one level further in. -/
theorem obstacle?_obj_eq_none_iff (filled : members ≠ []) :
    obstacle? limits levels (.obj members) = none ↔
      ∀ v ∈ members.map (·.2), v.depth < levels ∧ Short limits v.integers := by
  have short : Short limits (membersIntegers members) ↔
      ∀ v ∈ members.map (·.2), Short limits v.integers := by
    simp only [Short, mem_membersIntegers]
    constructor
    · exact fun all v listed n found => all n ⟨v, listed, found⟩
    · exact fun all n ⟨v, listed, found⟩ => all v listed n found
  rw [obstacle?_eq_none_iff, depth_obj_le_iff filled, integers, short]
  exact forall₂_and.symm

/-- What ends the printing of an object is in one of its values. -/
theorem met_obstacle?_obj (filled : members ≠ []) {o : Obstacle}
    (ended : obstacle? limits levels (.obj members) = some o) :
    ∃ v ∈ members.map (·.2), Met limits levels (v.depth + 1) v.integers o := by
  have met := met_obstacle? _ levels ended
  cases o with
  | longInteger =>
      obtain ⟨n, found, long⟩ := met
      obtain ⟨v, listed, inside⟩ := mem_membersIntegers.1 found
      exact ⟨v, listed, n, inside, long⟩
  | tooDeep =>
      have deeper : ¬ (obj members).depth ≤ levels := Nat.not_le.2 met
      rw [depth_obj_le_iff filled] at deeper
      obtain ⟨v, deep⟩ := not_forall.1 deeper
      obtain ⟨listed, deep⟩ := Classical.not_imp.1 deep
      exact ⟨v, listed, Nat.lt_succ_of_le (Nat.not_lt.1 deep)⟩

end

/-! ## Values beyond the limits -/

/-- Lists inside each other, as many as are asked for. -/
def nest : Nat → Json
  | 0 => .null
  | count + 1 => .arr [nest count]

theorem obstacle?_nest (limits : Limits) {levels count : Nat} (deep : levels < count) :
    obstacle? limits levels (nest count) = some .tooDeep := by
  induction count generalizing levels with
  | zero => exact absurd deep (Nat.not_lt_zero levels)
  | succ count ih =>
      by_cases none : levels = 0
      · rw [nest, obstacle?, if_pos none]
      · have further : levels - 1 < count := by omega
        rw [nest, obstacle?, if_neg none, itemsObstacle?, ih further, Option.some_or]

/-- The least integer of too many digits. -/
def leastLong (limits : Limits) : Json := .int (Int.ofNat (Nat.pow 10 limits.digits))

theorem obstacle?_leastLong (limits : Limits) (pos : 0 < limits.digits) (levels : Nat) :
    obstacle? limits levels (leastLong limits) = some .longInteger := by
  have long : ¬ digitCount (Int.ofNat (Nat.pow 10 limits.digits)) ≤ limits.digits := by
    rw [digitCount_le_iff pos]
    exact Nat.lt_irrefl _
  rw [leastLong, obstacle?, if_pos (Nat.lt_of_not_le long)]

end AdmissionHooks.Json
