/-!
# Loggers above a logger

The name of a logger tells which loggers stand above it: each name that ends right before a dot of
it, but for a dot that follows another one read from the end. Only a logger that is known stands
above in fact, and above it stand those that its own name tells.
-/

namespace AdmissionHooks.Log

namespace Lineage

/-- The names above a name, both read from the end, nearest first. The last character of a name
found is not looked at again. -/
def namesAbove (reversed : List Char) : List (List Char) :=
  match _h : reversed.dropWhile (· != '.') with
  | [] => []
  | _ :: [] => []
  | _ :: c :: rest => (c :: rest) :: namesAbove rest
termination_by reversed.length
decreasing_by
  have shorter := (List.dropWhile_suffix (l := reversed) (· != '.')).length_le
  rw [_h] at shorter
  simp only [List.length_cons] at shorter
  omega

def parent? (known : List String) (name : String) : Option String :=
  ((namesAbove name.toList.reverse).map fun cs => String.ofList cs.reverse).find? known.contains

/-- A logger and at most the given count of loggers above it. -/
def climb (known : List String) : Nat → String → List String
  | 0, name => [name]
  | count + 1, name =>
      name ::
        match parent? known name with
        | none => []
        | some above => climb known count above

end Lineage

/-- A logger and the loggers above it, nearest first; each has a shorter name. -/
def lineage (known : List String) (name : String) : List String :=
  Lineage.climb known name.length name

example : lineage ["a", "a.b"] "a.b.c" = ["a.b.c", "a.b", "a"] := by cbv
example : lineage ["a"] "a..b" = ["a..b"] := by cbv
example : lineage ["a", "a."] "a..b" = ["a..b", "a.", "a"] := by cbv
example : lineage ["a"] "a...b" = ["a...b", "a"] := by cbv

end AdmissionHooks.Log
