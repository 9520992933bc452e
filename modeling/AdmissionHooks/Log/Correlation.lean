import AdmissionHooks.Log.Record

/-!
# Correlation ids

An id ties the records of one run together. It is set, or drawn from a supply when a record needs
one and none is set; an id that counts as nothing, such as the empty one, is as good as none. A task
may run in a copy of its surroundings: an id that it sets is gone afterwards, while the ids that it
drew stay drawn.
-/

namespace AdmissionHooks.Log

/-- The current id, and the ids still to be drawn. -/
structure Correlation where
  current : Json := .str ""
  supply : List String := []
  deriving DecidableEq, Repr

namespace Correlation

/-- What is drawn from a supply that is used up. -/
def zeroId : String := "00000000"

def idLength : Nat := 8

/-- The short id of a long one: its first hexadecimal digits, in small letters. -/
def shorten (long : String) : String :=
  String.ofList (((long.toList.filter (· != '-')).map Char.toLower).take idLength)

def ofLongIds (long : List String) : Correlation := { supply := long.map shorten }

def generate (c : Correlation) : String × Correlation :=
  match c.supply with
  | [] => (zeroId, c)
  | id :: supply => (id, { c with supply })

def put (c : Correlation) (id : Json) : Correlation := { c with current := id }

/-- The id for a record: the current one, or a fresh one that becomes the current one. -/
def next (c : Correlation) : Json × Correlation :=
  if c.current.isVoid then
    let fresh := c.generate
    (.str fresh.1, fresh.2.put (.str fresh.1))
  else (c.current, c)

/-- Marks a record with the id, in place of any that it had. -/
def stamp (c : Correlation) (r : Record) : Record × Correlation :=
  let found := c.next
  (r.withAttribute Record.correlationName found.1, found.2)

/-- Leaves a copy of the surroundings: the id is the one from before the copy. -/
def leave (before after : Correlation) : Correlation := { after with current := before.current }

@[simp] theorem current_put (c : Correlation) (id : Json) : (c.put id).current = id := rfl

@[simp] theorem current_generate (c : Correlation) : c.generate.2.current = c.current := by
  unfold generate
  split <;> rfl

@[simp] theorem current_next (c : Correlation) : c.next.2.current = c.next.1 := by
  unfold next
  split <;> simp

@[simp] theorem current_leave (before after : Correlation) :
    (leave before after).current = before.current := rfl

@[simp] theorem supply_leave (before after : Correlation) :
    (leave before after).supply = after.supply := rfl

end Correlation

end AdmissionHooks.Log
