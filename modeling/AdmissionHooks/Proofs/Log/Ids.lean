import AdmissionHooks.Log.Correlation

/-!
# The ids of a run

While a run goes on, ids are set and asked for, and records are marked. A history lists what
happened, latest first. It tells which id the next record gets, and how many ids were drawn: one for
each record that came first after an id that counts as nothing, or first of all.
-/

namespace AdmissionHooks.Log.Correlation

/-! ## Supplies -/

/-- Every id that can be drawn counts. -/
def Stocked (c : Correlation) : Prop := ∀ id ∈ c.supply, id ≠ ""

theorem isVoid_str_eq_false {s : String} (named : s ≠ "") : (Json.str s).isVoid = false := by
  simpa [Json.isVoid] using named

theorem shorten_ne_empty {long : String} (digit : long.toList.any (· != '-') = true) :
    shorten long ≠ "" := by
  obtain ⟨c, listed, proper⟩ := List.any_eq_true.1 digit
  have kept : c ∈ long.toList.filter (· != '-') := List.mem_filter.2 ⟨listed, proper⟩
  intro empty
  have cut := congrArg String.toList empty
  rw [shorten, String.toList_ofList, String.toList_empty, List.take_eq_nil_iff] at cut
  have dashes : long.toList.filter (· != '-') = [] :=
    List.map_eq_nil_iff.1 (cut.resolve_left (by decide))
  rw [dashes] at kept
  cases kept

theorem stocked_ofLongIds {long : List String}
    (digits : ∀ id ∈ long, id.toList.any (· != '-') = true) : (ofLongIds long).Stocked := by
  intro id listed
  obtain ⟨source, given, rfl⟩ := List.mem_map.1 listed
  exact shorten_ne_empty (digits source given)

section

variable {c : Correlation}

theorem generate_eq (c : Correlation) :
    c.generate = (c.supply.headD zeroId, { c with supply := c.supply.tail }) := by
  rcases c with ⟨current, supply⟩
  cases supply <;> rfl

theorem Stocked.generated (stocked : c.Stocked) : c.supply.headD zeroId ≠ "" := by
  cases given : c.supply with
  | nil => decide
  | cons id supply => exact stocked id (by simp [given])

theorem next_of_isVoid (void : c.current.isVoid = true) :
    c.next =
      (.str (c.supply.headD zeroId), ⟨.str (c.supply.headD zeroId), c.supply.tail⟩) := by
  rw [next, if_pos void, generate_eq]
  rfl

theorem next_of_not_isVoid (named : c.current.isVoid = false) : c.next = (c.current, c) := by
  rw [next, named]
  rfl

theorem Stocked.isVoid_next (stocked : c.Stocked) : c.next.1.isVoid = false := by
  cases void : c.current.isVoid with
  | false => rw [next_of_not_isVoid void, void]
  | true =>
      rw [next_of_isVoid void]
      exact isVoid_str_eq_false stocked.generated

end

/-! ## Histories -/

/-- What happens to the ids: one is set, the current one is asked for, or a record is marked. -/
inductive Event where
  | set (id : Json)
  | get
  | record (r : Record)

/-- What an event gives back. -/
inductive Reply where
  | current (id : Json)
  | marked (r : Record)

def Reply.id? : Reply → Option Json
  | .current id => some id
  | .marked r => r.attribute? Record.correlationName

def step (c : Correlation) : Event → Reply × Correlation
  | .set id => (.current id, c.put id)
  | .get => (.current c.current, c)
  | .record r => (.marked (c.stamp r).1, (c.stamp r).2)

/-- The ids after a history, which lists its events latest first. -/
def after (start : Correlation) : List Event → Correlation
  | [] => start
  | event :: earlier => ((start.after earlier).step event).2

/-- No id is set meanwhile. -/
def Quiet (since : List Event) : Prop := ∀ id, Event.set id ∉ since

/-- A record that comes next is the first one since an id was set that counts as nothing, or since
the beginning. -/
def awaitsId : List Event → Bool
  | [] => true
  | .set id :: _ => id.isVoid
  | .get :: earlier => awaitsId earlier
  | .record _ :: _ => false

/-- How many records came first in this way. -/
def draws : List Event → Nat
  | [] => 0
  | .record _ :: earlier => draws earlier + if awaitsId earlier then 1 else 0
  | _ :: earlier => draws earlier

theorem after_append (start : Correlation) (since earlier : List Event) :
    start.after (since ++ earlier) = (start.after earlier).after since := by
  induction since with
  | nil => rfl
  | cons event since ih => simp only [List.cons_append, after, ih]

/-- What an event gives back is the id that is current then. -/
theorem id?_step (c : Correlation) (event : Event) :
    (c.step event).1.id? = some (c.step event).2.current := by
  cases event with
  | set id => rfl
  | get => rfl
  | record r => simp [step, stamp, Reply.id?]

/-- What a history tells of the ids after it. -/
structure Follows (supply : List String) (past : List Event) (c : Correlation) : Prop where
  awaits : c.current.isVoid = awaitsId past
  rest : c.supply = supply.drop (draws past)

section

variable {supply : List String} {past : List Event} {c : Correlation}

theorem Follows.stocked (follows : Follows supply past c) (named : ∀ id ∈ supply, id ≠ "") :
    c.Stocked := by
  intro id listed
  rw [follows.rest] at listed
  exact named id (List.mem_of_mem_drop listed)

theorem Follows.step (follows : Follows supply past c) (named : ∀ id ∈ supply, id ≠ "")
    (event : Event) : Follows supply (event :: past) (c.step event).2 := by
  cases event with
  | set id => exact ⟨rfl, follows.rest⟩
  | get => exact ⟨follows.awaits, follows.rest⟩
  | record r =>
      have marked : (c.step (.record r)).2 = c.next.2 := rfl
      rw [marked]
      constructor
      case awaits =>
        rw [current_next]
        exact (follows.stocked named).isVoid_next
      case rest =>
        cases awaits : awaitsId past with
        | true =>
          rw [next_of_isVoid (follows.awaits.trans awaits), follows.rest]
          simp [draws, awaits]
        | false =>
          rw [next_of_not_isVoid (follows.awaits.trans awaits), follows.rest]
          simp [draws, awaits]

theorem follows_after (named : ∀ id ∈ supply, id ≠ "") (past : List Event) :
    Follows supply past (after { supply } past) := by
  induction past with
  | nil => exact ⟨rfl, rfl⟩
  | cons event earlier ih => exact ih.step named event

/-- While no id is set, every record gets the id that a record would have got at the start. -/
theorem next_after_of_quiet (stocked : c.Stocked) {since : List Event} (quiet : Quiet since) :
    (c.after since).next.1 = c.next.1 := by
  induction since with
  | nil => rfl
  | cons event since ih =>
      have before := ih fun id listed => quiet id (List.mem_cons_of_mem event listed)
      cases event with
      | set id => exact absurd List.mem_cons_self (quiet id)
      | get => exact before
      | record r =>
          have named : (c.after since).next.2.current.isVoid = false := by
            rw [current_next, before]
            exact stocked.isVoid_next
          change (c.after since).next.2.next.1 = c.next.1
          rw [next_of_not_isVoid named, current_next, before]

theorem after_of_asked {asked : List Event} (gets : ∀ q ∈ asked, q = .get) :
    c.after asked = c := by
  induction asked with
  | nil => rfl
  | cons event asked ih =>
      have before := ih fun q listed => gets q (List.mem_cons_of_mem event listed)
      rw [gets event List.mem_cons_self]
      exact before

end

/-- In any history a record is marked with an id that counts: with the one that was set last, if it
counts, and else with the one drawn for the record that came first since then. Ids are drawn for
such records alone, so records between which none is set have the same one, and asking tells what
the latest other event gave back. -/
theorem ids_of_history {supply : List String} (named : ∀ id ∈ supply, id ≠ "")
    (past : List Event) :
    (after { supply } past).supply = supply.drop (draws past) ∧
    (∀ r, ∃ id, id.isVoid = false ∧
      ((after { supply } past).step (.record r)).1 =
        .marked (r.withAttribute Record.correlationName id) ∧
      (∀ since given earlier, past = since ++ .set given :: earlier → Quiet since →
        given.isVoid = false → id = given) ∧
      (∀ since opening, past = since ++ opening → Quiet since → awaitsId opening = true →
        id = .str (supply.getD (draws opening) zeroId)) ∧
      ∀ since other earlier, past = since ++ .record other :: earlier → Quiet since →
        ((after { supply } earlier).step (.record other)).1 =
          .marked (other.withAttribute Record.correlationName id)) ∧
    ((∀ event ∈ past, event = .get) →
      ((after { supply } past).step .get).1 = .current (.str "")) ∧
    ∀ asked event earlier, past = asked ++ event :: earlier → (∀ q ∈ asked, q = .get) →
      ((after { supply } past).step .get).1.id? =
        ((after { supply } earlier).step event).1.id? := by
  have stocked (past : List Event) : (after { supply } past).Stocked :=
    (follows_after named past).stocked named
  have same (since opening : List Event) (split : past = since ++ opening) (quiet : Quiet since) :
      (after { supply } past).next.1 = (after { supply } opening).next.1 := by
    rw [split, after_append]
    exact next_after_of_quiet (stocked opening) quiet
  refine ⟨(follows_after named past).rest, ?_, ?_, ?_⟩
  · intro r
    refine ⟨(after { supply } past).next.1, (stocked past).isVoid_next, rfl, ?_, ?_, ?_⟩
    · intro since given earlier split quiet counts
      rw [same since _ split quiet]
      exact congrArg Prod.fst (next_of_not_isVoid counts)
    · intro since opening split quiet awaits
      have follows := follows_after named opening
      rw [same since opening split quiet, next_of_isVoid (follows.awaits.trans awaits),
        follows.rest, List.headD_eq_head?_getD, List.head?_drop, List.getD_eq_getElem?_getD]
    · intro since other earlier split quiet
      have alone : Quiet [.record other] := by simp [Quiet]
      have again : (after { supply } (.record other :: earlier)).next.1 =
          (after { supply } earlier).next.1 := next_after_of_quiet (stocked earlier) alone
      rw [same since _ split quiet, again]
      rfl
  · intro gets
    rw [after_of_asked gets]
    rfl
  · intro asked event earlier split gets
    rw [split, after_append, after_of_asked gets, id?_step]
    exact (id?_step _ event).symm

/-- Two records, an id that is set, a record, and an id that counts as nothing; then the ids are
asked for and a record comes. -/
def mixedHistory (r : Record) : List Event :=
  [.record r, .get, .set (.str ""), .record r, .set (.str "run-7"), .record r, .record r]

theorem ids_of_history_mixedHistory :
    let supply := ["1f0e2d3c", "4b5a6978", "00ff00ff"]
    let r : Record := { logger := "kopf", level := Level.info, message := "%s" }
    (∀ id ∈ supply, id ≠ "") ∧ draws (mixedHistory r) = 2 ∧
      (after { supply } (mixedHistory r)).supply = ["00ff00ff"] ∧
      ((after { supply } (mixedHistory r)).step (.record r)).1 =
        .marked (r.withAttribute Record.correlationName (.str "4b5a6978")) ∧
      ((after { supply } [.record r]).step (.record r)).1 =
        .marked (r.withAttribute Record.correlationName (.str "1f0e2d3c")) := by
  intro supply r
  have named : ∀ id ∈ supply, id ≠ "" := by decide
  obtain ⟨rest, marks, -, -⟩ := ids_of_history named (mixedHistory r)
  obtain ⟨id, -, marked, -, drawn, -⟩ := marks r
  obtain ⟨-, marks', -, -⟩ := ids_of_history named [.record r]
  obtain ⟨id', -, marked', -, drawn', -⟩ := marks' r
  have second : id = .str "4b5a6978" :=
    drawn [.record r] _ rfl (by simp [Quiet]) rfl
  have first : id' = .str "1f0e2d3c" := drawn' [.record r] [] rfl (by simp [Quiet]) rfl
  refine ⟨named, rfl, rest, ?_, ?_⟩
  · rw [marked, second]
  · rw [marked', first]

end AdmissionHooks.Log.Correlation
