/-!
# JSON values

Values without fractions. An object keeps its members in the order in which they were put.
-/

namespace AdmissionHooks

inductive Json where
  | null
  | bool (b : Bool)
  | int (n : Int)
  | str (s : String)
  | arr (items : List Json)
  | obj (members : List (String × Json))
  deriving Repr, Inhabited

namespace Json

/-- The member of an object under a name; of two members of one name the later one counts. -/
def member? (v : Json) (name : String) : Option Json :=
  match v with
  | .obj members => (members.reverse.find? (·.1 == name)).map (·.2)
  | _ => none

def optional (f : α → Json) : Option α → Json
  | none => .null
  | some a => f a

mutual

def same : Json → Json → Bool
  | .null, .null => true
  | .bool a, .bool b => a == b
  | .int a, .int b => a == b
  | .str a, .str b => a == b
  | .arr a, .arr b => sameItems a b
  | .obj a, .obj b => sameMembers a b
  | _, _ => false

def sameItems : List Json → List Json → Bool
  | [], [] => true
  | v :: items, w :: others => same v w && sameItems items others
  | _, _ => false

def sameMembers : List (String × Json) → List (String × Json) → Bool
  | [], [] => true
  | (m, v) :: members, (n, w) :: others => m == n && same v w && sameMembers members others
  | _, _ => false

end

mutual

theorem same_iff (v w : Json) : same v w = true ↔ v = w := by
  cases v <;> cases w <;> simp [same, sameItems_iff, sameMembers_iff]

theorem sameItems_iff (items others : List Json) :
    sameItems items others = true ↔ items = others := by
  cases items <;> cases others <;> simp [sameItems, same_iff, sameItems_iff]

theorem sameMembers_iff (members others : List (String × Json)) :
    sameMembers members others = true ↔ members = others := by
  cases members with
  | nil => cases others <;> simp [sameMembers]
  | cons m members =>
      cases others with
      | nil => simp [sameMembers]
      | cons n others =>
          obtain ⟨m, v⟩ := m
          obtain ⟨n, w⟩ := n
          simp [sameMembers, same_iff, sameMembers_iff]

end

instance : DecidableEq Json := fun v w => decidable_of_iff (same v w = true) (same_iff v w)

end Json

end AdmissionHooks
