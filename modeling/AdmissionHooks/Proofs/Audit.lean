import AdmissionHooks.Proofs.Reports
import AdmissionHooks.Proofs.Routine
import AdmissionHooks.Proofs.Stages

/-!
# Records that agree with the calls

What a part of an operation logs agrees with what its calls do, and this passes from part to part: the
entries of its records are those of its calls that succeed, each record with an entry has its kind and
its name among its fields, and an error is logged exactly when the part fails with a report on the
API. A registration is made of such parts, and adds one record where it returns.
-/

namespace AdmissionHooks

open Log.Record (Begins Apart Aside Routine)

/-! ## Parts of operations -/

/-- A record of a registration that has its entry among its fields, and is not that of its end. -/
structure Log.Record.Proper (r : Log.Record) : Prop where
  logger : r.logger ∈ loggers
  level : Level.debug ≤ r.level
  unfinished : ¬ Begins r.message closingStart
  labelled : ∀ e, Entry.ofRecord? r = some e →
    r.field? .resourceType = some (.str e.kind.resource) ∧
      r.field? .resourceName = some (.str e.name)

theorem Log.Record.Aside.proper {r : Log.Record} (aside : r.Aside) (known : r.logger ∈ loggers)
    (level : Level.debug ≤ r.level) : r.Proper where
  logger := known
  level := level
  unfinished := aside.not_begins List.mem_cons_self
  labelled e read := by
    rw [aside.ofRecord?_eq_none] at read
    cases read

theorem Log.Record.Routine.proper {r : Log.Record} (routine : r.Routine) : r.Proper :=
  routine.aside.proper routine.logger routine.level.1

def Log.Record.isError (r : Log.Record) : Bool := r.level = Level.error

theorem Log.Record.Routine.not_isError {r : Log.Record} (routine : r.Routine) : r.isError = false :=
  decide_eq_false (Int.ne_of_lt routine.level.2)

/-- These are the errors that are logged of a failure: one with its status of a report on the API, and
none of any other. -/
structure Failure.Logged (failure : Option Failure) (errors : List Log.Record) : Prop where
  one : ∀ e status, failure = some e → e.OfApi status →
    ∃ r, errors = [r] ∧ r.field? .httpStatus = some status
  none : Unreported failure → errors = []

theorem Failure.logged_nil {failure : Option Failure} (other : Unreported failure) :
    Logged failure [] where
  one e status failed ofApi := absurd ofApi (other e failed status)
  none _ := rfl

/-- A report on the API, logged with its status. -/
theorem Failure.logged_singleton {e : Failure} {r : Log.Record} (ofApi : e.OfApi e.status)
    (told : r.field? .httpStatus = some e.status) : Logged (some e) [r] where
  one e' status failed ofApi' := by
    cases failed
    obtain ⟨text, reason, cause, rfl⟩ := ofApi'
    exact ⟨r, rfl, told⟩
  none other := absurd ofApi (other e rfl e.status)

theorem Failure.Logged.eq_nil {errors : List Log.Record} (logged : Logged .none errors) :
    errors = [] :=
  logged.none unreported_none

/-- An error is logged exactly of a report on the API. -/
theorem Failure.Logged.exists_mem_iff {failure : Option Failure} {errors : List Log.Record}
    (logged : Logged failure errors) :
    (∃ r, r ∈ errors) ↔ ∃ e status, failure = some e ∧ e.OfApi status := by
  constructor
  · rintro ⟨r, member⟩
    by_cases reported : ∃ e status, failure = some e ∧ e.OfApi status
    · exact reported
    · rw [logged.none fun e failed status ofApi => reported ⟨e, status, failed, ofApi⟩] at member
      cases member
  · rintro ⟨e, status, failed, ofApi⟩
    obtain ⟨r, only, -⟩ := logged.one e status failed ofApi
    rw [only]
    exact ⟨r, List.mem_singleton_self r⟩

/-- From one cluster to the other, the records agree with the calls and with the failure, if any. -/
structure Audited (c d : Cluster) (failure : Option Failure) (calls : List Call)
    (records : List Log.Record) : Prop where
  state : d = c.after calls
  entries : records.filterMap Entry.ofRecord? = c.deeds calls
  proper : ∀ r ∈ records, r.Proper
  errors : Failure.Logged failure (records.filter Log.Record.isError)

namespace Audited

variable {c d e : Cluster} {failure : Option Failure} {calls later : List Call}
  {records further : List Log.Record}

theorem trans (first : Audited c d none calls records) (second : Audited d e failure later further) :
    Audited c e failure (calls ++ later) (records ++ further) where
  state := by
    rw [Cluster.after_append, ← first.state]
    exact second.state
  entries := by
    rw [List.filterMap_append, first.entries, second.entries, Cluster.deeds_append, ← first.state]
  proper r told := (List.mem_append.1 told).elim (first.proper r) (second.proper r)
  errors := by
    rw [List.filter_append, first.errors.eq_nil, List.nil_append]
    exact second.errors

theorem refl (c : Cluster) : Audited c c none [] [] where
  state := rfl
  entries := rfl
  proper _ told := by cases told
  errors := Failure.logged_nil Failure.unreported_none

/-- Reading calls with routine records agree with any failure but a report on the API. -/
theorem of_routine (c : Cluster) (reads : ∀ call ∈ calls, Entry.ofCall? call = none)
    (routine : ∀ r ∈ records, r.Routine) (other : Failure.Unreported failure) :
    Audited c c failure calls records := by
  obtain ⟨after, deeds⟩ := c.after_of_reads reads
  have entries : records.filterMap Entry.ofRecord? = [] :=
    List.filterMap_eq_nil_iff.2 fun r told => (routine r told).aside.ofRecord?_eq_none
  have errors : records.filter Log.Record.isError = [] :=
    List.filter_eq_nil_iff.2 fun r told => by simp [(routine r told).not_isError]
  refine ⟨after.symm, ?_, fun r told => (routine r told).proper, ?_⟩
  · rw [entries, deeds]
  · rw [errors]
    exact Failure.logged_nil other

/-- A call that succeeds, with the record of its entry. -/
theorem of_success (call : Call) {entry : Entry} {record : Log.Record}
    (answer : (c.answer call).1 = .ok ()) (made : Entry.ofCall? call = some entry)
    (message : record.message = entry.text) (proper : record.Proper)
    (noError : record.isError = false) : Audited c (c.answer call).2 none [call] [record] where
  state := rfl
  entries := by
    have read : Entry.ofRecord? record = some entry := Entry.ofText?_eq_some_iff.2 message
    rw [Cluster.deeds, answer, made]
    simp [read, Cluster.deeds]
  proper := by
    intro r told
    rw [List.mem_singleton.1 told]
    exact proper
  errors := by
    simp only [List.filter_cons, noError, List.filter_nil]
    exact Failure.logged_nil Failure.unreported_none

/-- A call that fails, with a record that is read as no entry. -/
theorem of_told (call : Call) {met : Failure} {record : Log.Record}
    (answer : (c.answer call).1 = .error met) (proper : record.Proper) (aside : record.Aside)
    (errors : Failure.Logged failure ([record].filter Log.Record.isError)) :
    Audited c (c.answer call).2 failure [call] [record] where
  state := rfl
  entries := by
    rw [List.filterMap_cons_none aside.ofRecord?_eq_none, Cluster.deeds, answer]
    rfl
  proper := by
    intro r told
    rw [List.mem_singleton.1 told]
    exact proper
  errors := errors

/-- A call that fails with no report, without a record. -/
theorem of_silent (call : Call) {met : Failure} (answer : (c.answer call).1 = .error met)
    (raw : met.isReport = false) : Audited c (c.answer call).2 (some met) [call] [] where
  state := rfl
  entries := by
    rw [Cluster.deeds, answer]
    rfl
  proper _ told := by cases told
  errors := Failure.logged_nil (Failure.unreported_of_isReport raw)

end Audited

/-- From one cluster to the other, a run agrees with what it logs. -/
abbrev Run.Audited {σ α : Type} (run : Run σ α) (c d : Cluster) : Prop :=
  AdmissionHooks.Audited c d (failureOf run.outcome) run.calls run.records

theorem Run.Audited.of_ok {σ α : Type} {run : Run σ α} {c d : Cluster} {a : α}
    (audited : run.Audited c d) (returned : run.outcome = .ok a) :
    AdmissionHooks.Audited c d none run.calls run.records := by
  unfold Run.Audited at audited
  rwa [returned] at audited

theorem Run.Audited.of_error {σ α : Type} {run : Run σ α} {c d : Cluster} {e : Failure}
    (audited : run.Audited c d) (failed : run.outcome = .error e) :
    AdmissionHooks.Audited c d (some e) run.calls run.records := by
  unfold Run.Audited at audited
  rwa [failed] at audited

theorem Run.Audited.bind {α β : Type} {x : Action Cluster α} {f : α → Action Cluster β} {c : Cluster}
    (first : (x.run c).Audited c (x.run c).state)
    (second : ∀ a, ((f a).run (x.run c).state).Audited (x.run c).state
      ((f a).run (x.run c).state).state) :
    ((x >>= f).run c).Audited c ((x >>= f).run c).state := by
  rcases Action.run_bind_cases x f c with ⟨e, failed, h⟩ | ⟨a, returned, h⟩
  · rw [h]
    exact first.of_error failed
  · rw [h]
    exact (first.of_ok returned).trans (second a)

/-! ## Deletions and creations -/

namespace Registrar

/-- No text that begins like the end of a registration is that of an entry. -/
theorem ofText?_of_closing {text : String} (closing : Begins text Log.Record.closingStart) :
    Entry.ofText? text = none := by
  have apart : ∀ h ∈ Entry.headings,
      ¬ Begins (Entry.heading h.1 h.2) Log.Record.closingStart ∧
        ¬ Begins Log.Record.closingStart (Entry.heading h.1 h.2) := by
    decide
  cases read : Entry.ofText? text with
  | none => rfl
  | some e =>
      have begins : Begins text (Entry.heading e.deed e.kind) := by
        rw [Entry.ofText?_eq_some_iff.1 read]
        exact (Begins.refl _).append _
      obtain ⟨left, right⟩ := apart _ (Entry.mem_headings e.deed e.kind)
      rcases List.prefix_or_prefix_of_prefix closing begins with h | h
      · exact absurd h left
      · exact absurd h right

/-- The record of what was done to a configuration: its message is the text of the entry, and its
fields have the entry's kind and name. -/
theorem proper_of_entry {record : Log.Record} {e : Entry} (message : record.message = e.text)
    (known : record.logger ∈ Log.Record.loggers) (level : Log.Level.debug ≤ record.level)
    (kind : record.field? .resourceType = some (.str e.kind.resource))
    (name : record.field? .resourceName = some (.str e.name)) : record.Proper where
  logger := known
  level := level
  unfinished := by
    intro finished
    have read := ofText?_of_closing finished
    rw [message, Entry.ofText?_text] at read
    cases read
  labelled f read := by
    have same : f = e := by
      refine Entry.text_injective ?_
      rw [← message]
      exact (Entry.ofText?_eq_some_iff.1 read).symm
    rw [same]
    exact ⟨kind, name⟩

theorem message_deletedRecord (k : Kind) (name : String) :
    (deletedRecord k name).message = (Entry.mk .deleted k name).text := by
  have word : "Deleted" ++ " " = "Deleted " := by decide
  unfold Entry.text Entry.heading Deed.word
  rw [word]
  rfl

theorem message_createdRecord (k : Kind) (name : String) :
    (createdRecord k name).message = (Entry.mk .created k name).text := by
  have word : "Created" ++ " " = "Created " := by decide
  unfold Entry.text Entry.heading Deed.word
  rw [word]
  rfl

/-- A failed creation is told with an error that is read as no entry. -/
theorem aside_notCreatedRecord (k : Kind) (name : String) (e : Failure) :
    (notCreatedRecord k name e).Aside :=
  ⟨"Failed to create ", (((((Begins.refl _).append _).append _).append _).append _).append _,
    by decide⟩

variable (r : Registrar)

/-- A deletion is told when it succeeds, and a failed request to delete ends nothing. -/
theorem audited_remove (k : Kind) {c : Cluster} (raw : c.Raw) :
    ((r.remove k).run c).Audited c ((r.remove k).run c).state := by
  let call := Call.delete k (r.configurationName k)
  have known : logger ∈ Log.Record.loggers := List.mem_cons_self
  have message := message_deletedRecord k (r.configurationName k)
  rw [run_remove]
  cases answer : (c.deleted k (r.configurationName k)).1 with
  | ok u =>
      have proper : (deletedRecord k (r.configurationName k)).Proper :=
        proper_of_entry message known (Int.le_refl _) rfl rfl
      exact Audited.of_success call answer rfl message proper rfl
  | error e =>
      unfold removal removalRecords
      by_cases request : e.isRequestFailure = true
      · have routine := routine_notDeletedRecord k (r.configurationName k)
          (deleteFailed k.resource (r.configurationName k)) e
        simp only [request, if_true]
        exact Audited.of_told call answer routine.proper routine.aside
          (Failure.logged_nil Failure.unreported_none)
      · simp only [request]
        exact Audited.of_silent call answer (raw.deleted answer)

theorem audited_creation (k : Kind) (body : Configuration) {c : Cluster} (raw : c.Raw) :
    Audited c (c.created k body.name).2
      (failureOf (creation k body.name (c.created k body.name).1)) [.create k body]
      (creationRecords k body.name (c.created k body.name).1) := by
  let call := Call.create k body
  have known : logger ∈ Log.Record.loggers := List.mem_cons_self
  have message := message_createdRecord k body.name
  cases answer : (c.created k body.name).1 with
  | ok u =>
      have level : Log.Level.debug ≤ Log.Level.info := by decide
      have proper : (createdRecord k body.name).Proper := proper_of_entry message known level rfl rfl
      exact Audited.of_success call answer rfl message proper rfl
  | error e =>
      unfold creation creationRecords
      by_cases request : e.isRequestFailure = true
      · have level : Log.Level.debug ≤ Log.Level.error := by decide
        have aside := aside_notCreatedRecord k body.name
          (Failure.wrap (createFailed k.resource body.name) e)
        have reported := Failure.ofApi_wrap (createFailed k.resource body.name) e
        simp only [request, if_true]
        exact Audited.of_told call answer (aside.proper known level) aside
          (Failure.logged_singleton reported rfl)
      · simp only [request]
        exact Audited.of_silent call answer (raw.created answer)

/-- A creation is told when it succeeds, and with an error when its request fails. -/
theorem audited_place (k : Kind) {bundle : Bytes} (given : bundle ≠ []) (owner : OwnerResolution)
    {s : Site} (raw : s.cluster.Raw) :
    ((r.place k bundle owner).run s).Audited s.cluster
      ((r.place k bundle owner).run s).state.cluster := by
  have built {failure : Option Failure} (other : Failure.Unreported failure) :
      Audited s.cluster s.cluster failure [] (r.builder.buildRecords k) :=
    .of_routine s.cluster (fun _ made => by cases made) (r.builder.routine_buildRecords k) other
  cases target : r.builder.target k with
  | error e =>
      rw [r.place_of_noTarget owner s given target]
      exact built (Failure.unreported_of_isReport (r.builder.isReport_of_target target))
  | ok target' =>
      rw [r.place_of_target owner s given target]
      exact (built Failure.unreported_none).trans
        (audited_creation k (r.builder.configuration k target' bundle owner) raw)

theorem audited_opening (c : Cluster) : Audited c c none [] [r.openingRecord] := by
  refine .of_routine c (fun _ made => by cases made) ?_ Failure.unreported_none
  intro record told
  rw [List.mem_singleton.1 told]
  exact r.routine_openingRecord

theorem audited_deregister {c : Cluster} (raw : c.Raw) :
    (r.deregister.run c).Audited c (r.deregister.run c).state := by
  refine (r.audited_remove .mutating raw).bind fun first => ?_
  have raw' : ((r.remove .mutating).run c).state.Raw := by
    rw [state_remove]
    exact (r.confined_deleted .mutating c).raw raw
  refine (r.audited_remove .validating raw').bind fun second => ?_
  rw [Action.run_pure]
  exact .refl _

theorem audited_lookup (files : FileSystem) {s : Site}
    (raw : ∀ e, s.cluster.secret = .error e → e.isReport = false) :
    (r.lookup files s).Audited (r.reset s).state (r.reset s).state := by
  refine .of_routine _ ?_ (r.authority.logs_resolve files (r.reset s).state) ?_
  · intro call member
    rw [calls_lookup] at member
    rw [List.mem_singleton.1 member]
    rfl
  · intro e failed
    rw [outcome_lookup, failureOf_eq_some_iff] at failed
    exact AuthorityLookup.not_ofApi_of_bundle raw failed

/-- Only a request to stop ends the lookup of the owner. -/
theorem audited_ownership (s : Site) :
    (r.ownership s).Audited (r.reset s).state (r.reset s).state := by
  unfold ownership
  rw [Builder.run_resolveOwner]
  refine .of_routine _ ?_ (r.builder.routine_ownerRecords _) ?_
  · intro call member
    obtain ⟨o, -, -, rfl⟩ := r.builder.mem_ownerCalls member
    rfl
  · intro e failed
    rw [failureOf_eq_some_iff] at failed
    exact Failure.not_ofApi_of_isReport (r.builder.isReport_of_ownerFor failed)

/-- What a registration logs at its end. -/
def closing {α : Type} : Except Failure α → List Log.Record
  | .ok _ => [r.closingRecord]
  | .error _ => []

theorem begins_closingRecord : Begins r.closingRecord.message Log.Record.closingStart :=
  (((Begins.refl _).append _).append _).append _

theorem eq_of_mem_closing {α : Type} {outcome : Except Failure α} {record : Log.Record}
    (member : record ∈ r.closing outcome) : record = r.closingRecord := by
  cases outcome with
  | ok a => exact List.mem_singleton.1 member
  | error e => cases member

/-- After proper records, the last message is that of the end exactly when there was one. -/
theorem getLast?_append_closing {α : Type} {records : List Log.Record}
    (proper : ∀ record ∈ records, record.Proper) (outcome : Except Failure α) :
    (records ++ r.closing outcome).getLast?.map Log.Record.message = some r.closingRecord.message ↔
      ∃ a, outcome = .ok a := by
  cases outcome with
  | ok a => simp [closing]
  | error e =>
      simp only [closing, List.append_nil, reduceCtorEq, exists_false, iff_false]
      intro same
      obtain ⟨last, found, message⟩ := Option.map_eq_some_iff.1 same
      refine (proper last (List.mem_of_getLast? found)).unfinished ?_
      rw [message]
      exact r.begins_closingRecord

/-- A registration agrees with what it logs before its end, and logs the closing record exactly when
it returns. -/
theorem audited_register (files : FileSystem) {s : Site} (raw : s.cluster.Raw)
    (answered : ∀ e, s.cluster.secret = .error e → e.isReport = false) :
    let done := (r.register files).run s
    ∃ records, done.records = records ++ r.closing done.outcome ∧
      Audited s.cluster done.state.cluster (failureOf done.outcome) done.calls records := by
  intro done
  have opening := r.audited_opening s.cluster
  have reset : (r.reset s).Audited s.cluster (r.reset s).state := r.audited_deregister raw
  have rawReset : (r.reset s).state.Raw := (r.confined_deregister s.cluster).raw raw
  have lookup := r.audited_lookup files answered
  have ownership := r.audited_ownership s
  have first {bundle : Bytes} (found : (r.lookup files s).outcome = .ok bundle)
      (owner : OwnerResolution) : (r.first s bundle owner).Audited (r.reset s).state
        (r.first s bundle owner).state.cluster :=
    r.audited_place .mutating (r.ne_nil_of_lookup files s found) owner rawReset
  have second {bundle : Bytes} (found : (r.lookup files s).outcome = .ok bundle)
      (owner : OwnerResolution) : (r.second s bundle owner).Audited
        (r.first s bundle owner).state.cluster (r.second s bundle owner).state.cluster :=
    r.audited_place .validating (r.ne_nil_of_lookup files s found) owner
      ((r.confined_first files s owner found).raw raw)
  have course : r.Course files s done := r.register_course files s
  generalize done = result at course ⊢
  cases course with
  | resetFails failed =>
      exact ⟨_, (List.append_nil _).symm, opening.trans (reset.of_error failed)⟩
  | lookupFails done failed =>
      have before := (reset.of_ok done).trans (lookup.of_error failed)
      exact ⟨_, (List.append_nil _).symm, opening.trans before⟩
  | ownershipFails done found failed =>
      have before := (lookup.of_ok found).trans (ownership.of_error failed)
      exact ⟨_, (List.append_nil _).symm, opening.trans ((reset.of_ok done).trans before)⟩
  | @firstFails _ _ owner _ done found owned failed =>
      have placed := (ownership.of_ok owned).trans ((first found owner).of_error failed)
      have before := (lookup.of_ok found).trans placed
      exact ⟨_, (List.append_nil _).symm, opening.trans ((reset.of_ok done).trans before)⟩
  | @secondFails _ _ owner _ done found owned placed failed =>
      have both := ((first found owner).of_ok placed).trans ((second found owner).of_error failed)
      have before := (lookup.of_ok found).trans ((ownership.of_ok owned).trans both)
      exact ⟨_, (List.append_nil _).symm, opening.trans ((reset.of_ok done).trans before)⟩
  | @completes _ _ owner done found owned placed ended =>
      have both := ((first found owner).of_ok placed).trans ((second found owner).of_ok ended)
      have before := (lookup.of_ok found).trans ((ownership.of_ok owned).trans both)
      refine ⟨_, ?_, opening.trans ((reset.of_ok done).trans before)⟩
      simp [closing]

end Registrar

end AdmissionHooks
