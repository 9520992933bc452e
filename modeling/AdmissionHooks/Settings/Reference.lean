import AdmissionHooks.Settings.Variables

/-!
# References between variables

A value may refer to another variable by its name between braces behind a dollar sign. A colon and
a minus sign behind the name start a default, which stands for a variable that is not there; without
one nothing stands for it. The values that are put in are not searched for references again.
-/

namespace AdmissionHooks.Reference

structure Found where
  name : List Char
  default : List Char
  rest : List Char

def isNameChar (c : Char) : Bool := c != '\x7d' && c != ':'

def isDefaultChar (c : Char) : Bool := c != '\x7d'

/-- The reference whose opening brace has been read. -/
def read? (cs : List Char) : Option Found :=
  let name := cs.takeWhile isNameChar
  match cs.dropWhile isNameChar with
  | '\x7d' :: rest => some ⟨name, [], rest⟩
  | ':' :: '-' :: rest =>
      match rest.dropWhile isDefaultChar with
      | '\x7d' :: after => some ⟨name, rest.takeWhile isDefaultChar, after⟩
      | _ => none
  | _ => none

theorem length_rest_lt {cs : List Char} {found : Found} (h : read? cs = some found) :
    found.rest.length < cs.length := by
  have shorter (p : Char → Bool) (cs : List Char) : (cs.dropWhile p).length ≤ cs.length :=
    (List.dropWhile_suffix p).length_le
  have name := shorter isNameChar cs
  unfold read? at h
  simp only at h
  split at h
  · rename_i rest he
    cases h
    rw [he] at name
    exact name
  · rename_i rest he
    have default := shorter isDefaultChar rest
    rw [he] at name
    split at h
    · rename_i after ha
      cases h
      rw [ha] at default
      simp only [List.length_cons] at name default ⊢
      omega
    · cases h
  · cases h

/-- A part of a value: a character, or a reference with its default. -/
inductive Part where
  | text (c : Char)
  | reference (name default : List Char)
  deriving DecidableEq, Repr

def parts (cs : List Char) : List Part :=
  match cs with
  | [] => []
  | '$' :: '\x7b' :: rest =>
      match _h : read? rest with
      | some found => .reference found.name found.default :: parts found.rest
      | none => .text '$' :: parts ('\x7b' :: rest)
  | c :: rest => .text c :: parts rest
termination_by cs.length
decreasing_by
  all_goals simp only [List.length_cons]
  · have := length_rest_lt _h
    omega
  · omega
  · omega

def names (cs : List Char) : List String :=
  (parts cs).filterMap fun
    | .text _ => none
    | .reference name _ => some (String.ofList name)

def Part.expand (value? : String → Option String) : Part → List Char
  | .text c => [c]
  | .reference name default => ((value? (String.ofList name)).getD (String.ofList default)).toList

/-- Puts values in the place of the references in a text. -/
def expand (value? : String → Option String) (cs : List Char) : List Char :=
  (parts cs).flatMap (Part.expand value?)

/-- The value that a reference of a file of variables stands for: that of an earlier variable of the
file, or else that of the environment. A variable without a value counts as empty. -/
def value? (environment : List (String × String)) (earlier : List (String × Option String))
    (name : String) : Option String :=
  match earlier.lookup name with
  | some value => some (value.getD "")
  | none => environment.lookup name

/-- Puts a variable behind the earlier ones, with the references in its value resolved. -/
def resolve (environment : List (String × String)) (earlier : List (String × Option String))
    (entry : String × Option String) : List (String × Option String) :=
  let value := entry.2.map fun text =>
    String.ofList (expand (value? environment earlier) text.toList)
  Variables.put entry.1 value earlier

/-- The variables of a file, each with the references in its value resolved by those before it. -/
def resolveAll (environment : List (String × String)) (entries : List (String × Option String)) :
    List (String × Option String) :=
  entries.foldl (resolve environment) []

example : expand (fun name => [("A", "x")].lookup name) "$A $\x7bA\x7d $\x7bB:-b\x7d $\x7bA".toList =
    "$A x b $\x7bA".toList := by cbv

end AdmissionHooks.Reference
