import AdmissionHooks.Proofs.Answers

/-!
# Reading a log back

A record whose message begins as those of a creation or a deletion do is read as an entry, which says
what was done to which configuration. Replaying entries over the names of a cluster does the same to
them. The entries of the calls that succeed, replayed in order, make the names that the calls leave.
-/

namespace AdmissionHooks

inductive Deed where
  | created
  | deleted
  deriving DecidableEq, Repr

def Deed.word : Deed → String
  | .created => "Created"
  | .deleted => "Deleted"

/-- What was done to which configuration. -/
structure Entry where
  deed : Deed
  kind : Kind
  name : String
  deriving DecidableEq, Repr

/-- The names of each kind, as far as a reader of the log knows them. -/
abbrev Ledger := Kind → String → Prop

namespace Entry

def heading (d : Deed) (k : Kind) : String := d.word ++ " " ++ k.resource ++ " "

def text (e : Entry) : String := heading e.deed e.kind ++ e.name

def headings : List (Deed × Kind) :=
  [(.created, .mutating), (.created, .validating), (.deleted, .mutating), (.deleted, .validating)]

/-- The entry that a text is, if it begins like one. -/
def ofText? (text : String) : Option Entry :=
  (headings.find? fun h => (heading h.1 h.2).toList.isPrefixOf text.toList).map fun h =>
    ⟨h.1, h.2, String.ofList (text.toList.drop (heading h.1 h.2).toList.length)⟩

def ofRecord? (r : Log.Record) : Option Entry := ofText? r.message

theorem mem_headings (d : Deed) (k : Kind) : (d, k) ∈ headings := by
  cases d <;> cases k <;> decide

/-- No heading begins another one. -/
theorem eq_of_heading_prefix {d e : Deed} {k l : Kind}
    (h : (heading d k).toList <+: (heading e l).toList) : d = e ∧ k = l := by
  cases d <;> cases k <;> cases e <;> cases l <;>
    first | exact ⟨rfl, rfl⟩ | exact absurd h (by decide)

theorem toList_text (e : Entry) : e.text.toList = (heading e.deed e.kind).toList ++ e.name.toList :=
  String.toList_append

theorem text_injective {e f : Entry} (same : e.text = f.text) : e = f := by
  have whole := congrArg String.toList same
  rw [toList_text, toList_text] at whole
  have headed : e.deed = f.deed ∧ e.kind = f.kind := by
    rcases List.prefix_or_prefix_of_prefix (List.prefix_append _ e.name.toList)
      (whole ▸ List.prefix_append _ f.name.toList) with h | h
    · exact eq_of_heading_prefix h
    · obtain ⟨deed, kind⟩ := eq_of_heading_prefix h
      exact ⟨deed.symm, kind.symm⟩
  obtain ⟨d, k, name⟩ := e
  obtain ⟨d', k', name'⟩ := f
  obtain ⟨rfl, rfl⟩ := headed
  have names : name = name' := String.toList_injective (List.append_cancel_left whole)
  rw [names]

/-- A text is read as an entry exactly when it is the text of that entry. -/
theorem ofText?_eq_some_iff {text : String} {e : Entry} : ofText? text = some e ↔ text = e.text := by
  have sound {f : Entry} (read : ofText? text = some f) : text = f.text := by
    unfold ofText? at read
    obtain ⟨h, found, rfl⟩ := Option.map_eq_some_iff.1 read
    have held := List.find?_some found
    have begins : (heading h.1 h.2).toList <+: text.toList := List.isPrefixOf_iff_prefix.1 held
    refine String.toList_injective ?_
    rw [toList_text, String.toList_ofList]
    exact (List.prefix_iff_eq_append.1 begins).symm
  refine ⟨sound, ?_⟩
  intro same
  cases read : ofText? text with
  | none =>
      have none := List.find?_eq_none.1 (Option.map_eq_none_iff.1 read) _ (mem_headings e.deed e.kind)
      refine absurd (List.isPrefixOf_iff_prefix.2 ?_) none
      rw [same, toList_text]
      exact List.prefix_append _ _
  | some f => rw [text_injective ((sound read).symm.trans same)]

@[simp] theorem ofText?_text (e : Entry) : ofText? e.text = some e :=
  ofText?_eq_some_iff.2 rfl

/-- What the entry makes of the names. -/
def apply (e : Entry) (names : Ledger) : Ledger := fun k name =>
  match e.deed with
  | .created => names k name ∨ (k = e.kind ∧ name = e.name)
  | .deleted => names k name ∧ ¬ (k = e.kind ∧ name = e.name)

/-- What a call does to a configuration if it succeeds. -/
def ofCall? : Call → Option Entry
  | .create k body => some ⟨.created, k, body.name⟩
  | .delete k name => some ⟨.deleted, k, name⟩
  | _ => none

end Entry

def Ledger.replay (names : Ledger) (entries : List Entry) : Ledger :=
  entries.foldl (fun names e => e.apply names) names

theorem Ledger.replay_append (names : Ledger) (entries later : List Entry) :
    names.replay (entries ++ later) = (names.replay entries).replay later :=
  List.foldl_append

namespace Cluster

def ledger (c : Cluster) : Ledger := fun k name => name ∈ c.names.get k

/-- How the cluster answers a call, and what it is afterwards. Reading changes nothing. -/
def answer (c : Cluster) : Call → Except Failure Unit × Cluster
  | .create k body => c.created k body.name
  | .delete k name => c.deleted k name
  | _ => (.ok (), c)

def after (c : Cluster) (calls : List Call) : Cluster := calls.foldl (fun c call => (c.answer call).2) c

/-- What is done by those of the calls that succeed. -/
def deeds (c : Cluster) : List Call → List Entry
  | [] => []
  | call :: calls =>
      (match (c.answer call).1 with
        | .ok () => (Entry.ofCall? call).toList
        | .error _ => []) ++ (c.answer call).2.deeds calls

variable (c : Cluster)

theorem after_append (calls later : List Call) :
    c.after (calls ++ later) = (c.after calls).after later :=
  List.foldl_append

theorem deeds_append (calls later : List Call) :
    c.deeds (calls ++ later) = c.deeds calls ++ (c.after calls).deeds later := by
  induction calls generalizing c with
  | nil => rfl
  | cons call calls ih =>
      rw [List.cons_append, deeds, deeds, ih, List.append_assoc]
      rfl

/-- Calls that only read do nothing. -/
theorem after_of_reads {calls : List Call} (reads : ∀ call ∈ calls, Entry.ofCall? call = none) :
    c.after calls = c ∧ c.deeds calls = [] := by
  induction calls with
  | nil => exact ⟨rfl, rfl⟩
  | cons call calls ih =>
      have none := reads call List.mem_cons_self
      have same : c.answer call = (.ok (), c) := by
        cases call <;> first | rfl | cases none
      obtain ⟨after, deeds⟩ := ih fun later member => reads later (List.mem_cons_of_mem call member)
      constructor
      · rw [Cluster.after, List.foldl_cons, same]
        exact after
      · rw [Cluster.deeds, same, none]
        exact deeds

theorem ledger_created (k : Kind) (name : String) :
    (c.created k name).2.ledger =
      match (c.created k name).1 with
      | .ok () => (Entry.mk .created k name).apply c.ledger
      | .error _ => c.ledger := by
  rcases c.created_cases k name with ⟨e, -, h⟩ | ⟨-, -, h⟩ | ⟨-, -, h⟩
  · rw [h]
    rfl
  · rw [h]
    rfl
  · rw [h]
    funext l other
    exact propext ((c.dropCreateFault k).mem_insert_iff k name l other)

theorem ledger_deleted (k : Kind) (name : String) :
    (c.deleted k name).2.ledger =
      match (c.deleted k name).1 with
      | .ok () => (Entry.mk .deleted k name).apply c.ledger
      | .error _ => c.ledger := by
  rcases c.deleted_cases k name with ⟨e, -, h⟩ | ⟨-, -, h⟩ | ⟨-, -, h⟩
  · rw [h]
    rfl
  · rw [h]
    rfl
  · rw [h]
    funext l other
    exact propext ((c.dropDeleteFault k).mem_erase_iff k name l other)

/-- The names after a call are those that its entry makes if it succeeds, and else the same. -/
theorem ledger_answer (call : Call) :
    (c.answer call).2.ledger =
      c.ledger.replay (match (c.answer call).1 with
        | .ok () => (Entry.ofCall? call).toList
        | .error _ => []) := by
  cases call with
  | create k body =>
      have made := c.ledger_created k body.name
      unfold answer
      cases outcome : (c.created k body.name).1 with
      | ok u => rw [made, outcome]; rfl
      | error e => rw [made, outcome]; rfl
  | delete k name =>
      have made := c.ledger_deleted k name
      unfold answer
      cases outcome : (c.deleted k name).1 with
      | ok u => rw [made, outcome]; rfl
      | error e => rw [made, outcome]; rfl
  | _ => rfl

theorem ledger_after (calls : List Call) : (c.after calls).ledger = c.ledger.replay (c.deeds calls) := by
  induction calls generalizing c with
  | nil => rfl
  | cons call calls ih =>
      have later := ih (c.answer call).2
      rw [ledger_answer] at later
      rw [deeds, Ledger.replay_append]
      exact later

/-- Neither the answers about the secret nor those about the deployment come into it. -/
theorem deeds_answering (secret : Except Failure SecretData)
    (deployment : Except Failure (Option Metadata)) (calls : List Call) :
    (c.answering secret deployment).deeds calls = c.deeds calls := by
  induction calls generalizing c with
  | nil => rfl
  | cons call calls ih =>
      have step : (c.answering secret deployment).answer call =
          ((c.answer call).1, (c.answer call).2.answering secret deployment) := by
        cases call with
        | create k body => exact created_answering c k body.name secret deployment
        | delete k name => exact deleted_answering c k name secret deployment
        | _ => rfl
      rw [deeds, deeds, step, ih]

end Cluster

end AdmissionHooks
