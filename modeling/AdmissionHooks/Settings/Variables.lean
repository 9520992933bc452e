import AdmissionHooks.Text.Capital

/-!
# Variables

Named values in the order in which their names first came up. A value put under a name that is
there already takes the place of the old one. When the case of names does not count, the last of
the names in this order stands for all that are the same.
-/

namespace AdmissionHooks.Variables

def put (name : String) (a : α) : List (String × α) → List (String × α)
  | [] => [(name, a)]
  | (other, b) :: rest => if other = name then (name, a) :: rest else (other, b) :: put name a rest

/-- The variables that a list of settings of them leaves behind. -/
def ofList (entries : List (String × α)) : List (String × α) :=
  entries.foldl (fun vars e => put e.1 e.2 vars) []

/-- The value of the last variable whose name is the given one but for its case. -/
def last? (vars : List (String × α)) (name : String) : Option α :=
  (vars.reverse.find? fun e => Text.sameName e.1 name).map (·.2)

/-- The value of the first variable whose name is the given one but for its case. -/
def first? (vars : List (String × α)) (name : String) : Option α :=
  (vars.find? fun e => Text.sameName e.1 name).map (·.2)

theorem lookup_put_self (name : String) (a : α) (vars : List (String × α)) :
    (put name a vars).lookup name = some a := by
  induction vars with
  | nil => simp [put]
  | cons e rest ih =>
      obtain ⟨first, b⟩ := e
      unfold put
      split
      · simp
      · rename_i h
        have differs : (name == first) = false := by simp [Ne.symm h]
        rw [List.lookup_cons, differs]
        exact ih

theorem lookup_put_of_ne {name other : String} (a : α) (vars : List (String × α))
    (h : other ≠ name) : (put name a vars).lookup other = vars.lookup other := by
  have differs : (other == name) = false := by simp [h]
  induction vars with
  | nil =>
      show List.lookup other [(name, a)] = none
      rw [List.lookup_cons, differs]
      rfl
  | cons e rest ih =>
      obtain ⟨first, b⟩ := e
      unfold put
      split
      · rename_i same
        subst same
        rw [List.lookup_cons, List.lookup_cons, differs]
      · rw [List.lookup_cons, List.lookup_cons, ih]

example : ofList [("A", 1), ("a", 2), ("A", 3)] = [("A", 3), ("a", 2)] := by decide
example : last? (ofList [("A", 1), ("a", 2), ("A", 3)]) "A" = some 2 := by decide

end AdmissionHooks.Variables
