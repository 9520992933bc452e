/-!
# Message templates

A template is a text with placeholders for the arguments of a message. A placeholder starts with a
percent sign and ends with a letter; between the two may stand a key in parentheses, marks, a width, a
precision behind a point, and a size letter that says nothing. A width or a precision is a number
or a star for one that is among the arguments. Two percent signs in a row stand for one. Reading
never fails: a placeholder without its end is read as such.
-/

namespace AdmissionHooks.Log

inductive Key where
  | none
  | named (name : List Char)
  | unclosed
  deriving DecidableEq, Repr

inductive Amount where
  | none
  | number (n : Nat)
  | argument
  deriving DecidableEq, Repr

structure Marks where
  onRight : Bool
  signed : Bool
  spaced : Bool
  marked : Bool
  zeroed : Bool
  deriving DecidableEq, Repr

/-- A placeholder. Its letter is missing when the template ends before it; the index is the place
of the letter in the template. -/
structure Placeholder where
  key : Key
  marks : Marks
  width : Amount
  precision : Amount
  letter : Option Char
  index : Nat
  deriving DecidableEq, Repr

inductive Piece where
  | text (c : Char)
  | placeholder (p : Placeholder)
  deriving DecidableEq, Repr

namespace Template

def isMark (c : Char) : Bool := c == '-' || c == '+' || c == ' ' || c == '#' || c == '0'

def isSize (c : Char) : Bool := c == 'h' || c == 'l' || c == 'L'

def marksOf (cs : List Char) : Marks :=
  ⟨cs.contains '-', cs.contains '+', cs.contains ' ', cs.contains '#', cs.contains '0'⟩

/-- The rest of a key up to the parenthesis that closes it; those inside it are balanced. -/
def closeKey : Nat → List Char → Option (List Char × List Char)
  | _, [] => none
  | depth, c :: rest =>
      if c = ')' then
        match depth with
        | 0 => some ([], rest)
        | depth + 1 => (closeKey depth rest).map fun r => (c :: r.1, r.2)
      else
        (closeKey (if c = '(' then depth + 1 else depth) rest).map fun r => (c :: r.1, r.2)

def readKey : List Char → Key × List Char
  | '(' :: rest =>
      match closeKey 0 rest with
      | some (name, rest) => (.named name, rest)
      | none => (.unclosed, [])
  | cs => (.none, cs)

def readDigits (cs : List Char) : Nat × List Char :=
  (Nat.ofDigitChars 10 (cs.takeWhile Char.isDigit) 0, cs.dropWhile Char.isDigit)

def readWidth : List Char → Amount × List Char
  | [] => (.none, [])
  | c :: rest =>
      if c = '*' then (.argument, rest)
      else if c.isDigit then
        let read := readDigits (c :: rest)
        (.number read.1, read.2)
      else (.none, c :: rest)

/-- A point without a number behind it asks for none at all. -/
def readPrecision : List Char → Amount × List Char
  | '.' :: rest =>
      match readWidth rest with
      | (.none, rest) => (.number 0, rest)
      | read => read
  | cs => (.none, cs)

def skipSize : List Char → List Char
  | [] => []
  | c :: rest => if isSize c then rest else c :: rest

/-- The placeholder whose percent sign has been read, in a template of the given length. -/
def readPlaceholder (length : Nat) (cs : List Char) : Placeholder × List Char :=
  let key := readKey cs
  let marks := marksOf (key.2.takeWhile isMark)
  let width := readWidth (key.2.dropWhile isMark)
  let precision := readPrecision width.2
  let rest := skipSize precision.2
  (⟨key.1, marks, width.1, precision.1, rest.head?, length - rest.length⟩, rest.tail)

theorem length_dropWhile_le (p : Char → Bool) (cs : List Char) :
    (cs.dropWhile p).length ≤ cs.length :=
  (List.dropWhile_suffix p).length_le

theorem length_closeKey {depth : Nat} {cs name rest : List Char}
    (h : closeKey depth cs = some (name, rest)) : rest.length ≤ cs.length := by
  induction cs generalizing depth name with
  | nil => simp [closeKey] at h
  | cons c cs ih =>
      unfold closeKey at h
      split at h
      · split at h
        · cases h
          exact Nat.le_succ _
        · obtain ⟨r, hr, he⟩ := Option.map_eq_some_iff.1 h
          cases he
          exact Nat.le_succ_of_le (ih hr)
      · obtain ⟨r, hr, he⟩ := Option.map_eq_some_iff.1 h
        cases he
        exact Nat.le_succ_of_le (ih hr)

theorem length_readKey (cs : List Char) : (readKey cs).2.length ≤ cs.length := by
  unfold readKey
  split
  · split
    · rename_i h
      exact Nat.le_succ_of_le (length_closeKey h)
    · exact Nat.zero_le _
  · exact Nat.le_refl _

theorem length_readWidth (cs : List Char) : (readWidth cs).2.length ≤ cs.length := by
  unfold readWidth
  split
  · exact Nat.le_refl _
  · split
    · exact Nat.le_succ _
    · split
      · exact length_dropWhile_le _ _
      · exact Nat.le_refl _

theorem length_readPrecision (cs : List Char) : (readPrecision cs).2.length ≤ cs.length := by
  unfold readPrecision
  split
  · rename_i rest
    have shorter := length_readWidth rest
    split
    · rename_i h
      rw [h] at shorter
      exact Nat.le_succ_of_le shorter
    · exact Nat.le_succ_of_le shorter
  · exact Nat.le_refl _

theorem length_skipSize (cs : List Char) : (skipSize cs).length ≤ cs.length := by
  unfold skipSize
  split
  · exact Nat.le_refl _
  · split
    · exact Nat.le_succ _
    · exact Nat.le_refl _

theorem length_readPlaceholder (length : Nat) (cs : List Char) :
    (readPlaceholder length cs).2.length ≤ cs.length := by
  have key := length_readKey cs
  have marks := length_dropWhile_le isMark (readKey cs).2
  have width := length_readWidth ((readKey cs).2.dropWhile isMark)
  have precision := length_readPrecision (readWidth ((readKey cs).2.dropWhile isMark)).2
  have size := length_skipSize (readPrecision (readWidth ((readKey cs).2.dropWhile isMark)).2).2
  simp only [readPlaceholder, List.length_tail]
  omega

def piecesFrom (length : Nat) (cs : List Char) : List Piece :=
  match cs with
  | [] => []
  | '%' :: '%' :: rest => .text '%' :: piecesFrom length rest
  | '%' :: rest =>
      .placeholder (readPlaceholder length rest).1 ::
        piecesFrom length (readPlaceholder length rest).2
  | c :: rest => .text c :: piecesFrom length rest
termination_by cs.length
decreasing_by
  all_goals simp only [List.length_cons]
  · omega
  · have := length_readPlaceholder length rest
    omega
  · omega

def pieces (template : List Char) : List Piece := piecesFrom template.length template

example : pieces "a%%%-5s".toList =
    [.text 'a', .text '%',
      .placeholder
        ⟨.none, ⟨true, false, false, false, false⟩, .number 5, .none, some 's', 6⟩] := by
  decide +kernel

end Template

end AdmissionHooks.Log
