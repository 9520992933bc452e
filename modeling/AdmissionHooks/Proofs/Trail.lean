import AdmissionHooks.Proofs.Audit
import AdmissionHooks.Proofs.Log.Lineage
import AdmissionHooks.Proofs.Modes

/-!
# The log as an audit trail

With its root open for debugging, the log has every record of an operation. The entries of a step are
those of the calls that succeeded in it, so the entries of a whole run, replayed over the names that
it started from, make the names that it ends with.
-/

namespace AdmissionHooks

namespace Step

variable (setup : Log.Setup) (step : Step)

/-- What a step adds to the log. -/
def written : List Log.Record := step.run.records.filter setup.passes

/-- What the log tells of a step. -/
structure Told : Prop where
  state : step.run.state.cluster =
    (step.operation.meets step.before).cluster.after step.run.calls
  entries : (step.written setup).filterMap Entry.ofRecord? =
    step.before.cluster.deeds step.run.calls
  labelled : ∀ r ∈ step.written setup, ∀ e, Entry.ofRecord? r = some e →
    r.field? .resourceType = some (.str e.kind.resource) ∧
      r.field? .resourceName = some (.str e.name)
  closing : step.operation.act = .register →
    ((step.written setup).getLast?.map Log.Record.message =
        some ("Registered admission webhooks " ++ step.operation.client.configurationName .mutating ++
          " and " ++ step.operation.client.configurationName .validating) ↔
      ∃ result, step.run.outcome = .ok result)
  error : (∃ r ∈ step.written setup, r.level = Log.Level.error) ↔
    ∃ e status, step.run.outcome = .error e ∧ e.OfApi status
  status : ∀ e status, step.run.outcome = .error e → e.OfApi status →
    ∃ r, (step.written setup).filter Log.Record.isError = [r] ∧
      r.field? .httpStatus = some status

end Step

namespace Operation

variable (o : Operation)

/-- What an operation logs at its end. -/
def closing {α : Type} (outcome : Except Failure α) : List Log.Record :=
  match o.act with
  | .register => o.client.closing outcome
  | .deregister => []

/-- An operation agrees with what it logs before its end. -/
theorem audited_perform {s : Site} (raw : s.cluster.Raw)
    (answered : ∀ e, o.secret = .error e → e.isReport = false) :
    ∃ records, (o.perform s).records = records ++ o.closing (o.perform s).outcome ∧
      Audited (o.meets s).cluster (o.perform s).state.cluster (failureOf (o.perform s).outcome)
        (o.perform s).calls records := by
  have raw' : (o.meets s).cluster.Raw := ⟨raw.creations, raw.deletions⟩
  unfold perform action closing
  cases o.act with
  | register =>
      obtain ⟨records, logged, audited⟩ := o.client.audited_register o.files raw' answered
      rcases Action.run_bind_cases (o.client.register o.files) _ (o.meets s) with
        ⟨e, failed, h⟩ | ⟨u, returned, h⟩
      · rw [h]
        rw [failed] at logged audited
        exact ⟨records, logged, audited⟩
      · rw [h]
        rw [returned] at logged audited
        refine ⟨records, ?_, ?_⟩
        · rw [Action.records_join, logged]
          exact List.append_nil _
        · rw [Action.calls_join, Action.run_pure, List.append_nil]
          exact audited
  | deregister =>
      have audited := o.client.audited_deregister raw'
      rcases Action.run_bind_cases o.client.deregister.atSite _ (o.meets s) with
        ⟨e, failed, h⟩ | ⟨reports, returned, h⟩
      · rw [h]
        exact ⟨_, (List.append_nil _).symm, audited.of_error failed⟩
      · rw [h]
        refine ⟨_, (List.append_nil _).symm, ?_⟩
        rw [Action.calls_join, Action.records_join, Action.run_pure, List.append_nil,
          List.append_nil]
        exact audited.of_ok returned

theorem eq_of_mem_closing {α : Type} {outcome : Except Failure α} {r : Log.Record}
    (member : r ∈ o.closing outcome) : r = o.client.closingRecord := by
  unfold closing at member
  cases act : o.act with
  | register =>
      rw [act] at member
      exact o.client.eq_of_mem_closing member
  | deregister =>
      rw [act] at member
      cases member

/-- The record of the end is read as no entry, and it is no error. -/
theorem unread_closing {α : Type} (outcome : Except Failure α) :
    (o.closing outcome).filterMap Entry.ofRecord? = [] ∧
      (o.closing outcome).filter Log.Record.isError = [] := by
  constructor
  · rw [List.filterMap_eq_nil_iff]
    intro r member
    rw [o.eq_of_mem_closing member]
    exact Registrar.ofText?_of_closing o.client.begins_closingRecord
  · rw [List.filter_eq_nil_iff]
    intro r member
    have info : o.client.closingRecord.isError = false := rfl
    rw [o.eq_of_mem_closing member]
    exact Bool.eq_false_iff.1 info

variable {setup : Log.Setup} {s : Site}

/-- While it is open for debugging, the log takes every record of a registration. -/
theorem passes_of_known (debugging : setup.Debugging) {r : Log.Record}
    (known : r.logger ∈ Log.Record.loggers) (level : Log.Level.debug ≤ r.level) :
    setup.passes r = true := by
  have apart : ∀ logger ∈ Log.Record.loggers, ∀ name ∈ Log.foreign,
      ¬ name.toList <+: logger.toList := by
    decide
  exact debugging.passes (apart r.logger known) level

theorem written_perform (debugging : setup.Debugging) (raw : s.cluster.Raw)
    (answered : ∀ e, o.secret = .error e → e.isReport = false) :
    ∃ records, Step.written setup ⟨o, s, o.perform s⟩ =
        records ++ o.closing (o.perform s).outcome ∧
      Audited (o.meets s).cluster (o.perform s).state.cluster (failureOf (o.perform s).outcome)
        (o.perform s).calls records := by
  obtain ⟨records, logged, audited⟩ := o.audited_perform raw answered
  refine ⟨records, ?_, audited⟩
  unfold Step.written
  rw [logged, List.filter_eq_self]
  intro r member
  rcases List.mem_append.1 member with member | member
  · exact passes_of_known debugging (audited.proper r member).logger (audited.proper r member).level
  · have known : Registrar.logger ∈ Log.Record.loggers := List.mem_cons_self
    rw [o.eq_of_mem_closing member]
    exact passes_of_known debugging known (show Log.Level.debug ≤ Log.Level.info by decide)

/-- The log tells of an operation what it did and how it ended. -/
theorem told_perform (debugging : setup.Debugging) (raw : s.cluster.Raw)
    (answered : ∀ e, o.secret = .error e → e.isReport = false) :
    Step.Told setup ⟨o, s, o.perform s⟩ := by
  obtain ⟨records, written, audited⟩ := o.written_perform debugging raw answered
  -- the record of the end adds neither an entry nor an error to the records before it
  obtain ⟨unread, noError⟩ := o.unread_closing (o.perform s).outcome
  have entries : (records ++ o.closing (o.perform s).outcome).filterMap Entry.ofRecord? =
      records.filterMap Entry.ofRecord? := by
    rw [List.filterMap_append, unread, List.append_nil]
  have errors : (records ++ o.closing (o.perform s).outcome).filter Log.Record.isError =
      records.filter Log.Record.isError := by
    rw [List.filter_append, noError, List.append_nil]
  constructor
  · exact audited.state
  · rw [written, entries, audited.entries]
    exact s.cluster.deeds_answering o.secret o.deployment _
  · intro r member e read
    rw [written] at member
    rcases List.mem_append.1 member with member | member
    · exact (audited.proper r member).labelled e read
    · rw [List.filterMap_eq_nil_iff.1 unread r member] at read
      cases read
  · intro register
    have closing : o.closing (o.perform s).outcome = o.client.closing (o.perform s).outcome := by
      unfold Operation.closing
      rw [show o.act = .register from register]
    rw [written, closing]
    exact o.client.getLast?_append_closing audited.proper _
  · have told := audited.errors.exists_mem_iff
    rw [← errors, ← written] at told
    simpa only [List.mem_filter, Log.Record.isError, decide_eq_true_eq, failureOf_eq_some_iff]
      using told
  · intro e status failed ofApi
    rw [written, errors]
    exact audited.errors.one e status (failureOf_eq_some_iff.2 failed) ofApi

/-- The entries of a step turn the names that it found into those that it leaves. -/
theorem replay_perform (told : Step.Told setup ⟨o, s, o.perform s⟩) :
    s.cluster.ledger.replay
        ((Step.written setup ⟨o, s, o.perform s⟩).filterMap Entry.ofRecord?) =
      (o.perform s).state.cluster.ledger := by
  have deeds : (o.meets s).cluster.deeds (o.perform s).calls = s.cluster.deeds (o.perform s).calls :=
    s.cluster.deeds_answering o.secret o.deployment _
  have state : (o.perform s).state.cluster = (o.meets s).cluster.after (o.perform s).calls :=
    told.state
  rw [told.entries, state, Cluster.ledger_after, deeds]
  rfl

/-- While it is open for debugging, the log is a faithful trail of what is done to the cluster. Its
entries, replayed over the names that a run of operations started from, make the names that the run
ends with. Of each step it tells the calls that succeeded and no others, that a registration came to
its end exactly when it did, and one error with its status exactly when the step failed with a report
on the API. -/
theorem audit_trail (start : Site) (os : List Operation) (setup : Log.Setup)
    (debugging : setup.Debugging) (raw : start.cluster.Raw)
    (answered : ∀ o ∈ os, ∀ e, o.secret = .error e → e.isReport = false) :
    let log := (steps start os).flatMap (Step.written setup)
    start.cluster.ledger.replay (log.filterMap Entry.ofRecord?) =
        (finalSite start os).cluster.ledger ∧
      ∀ step ∈ steps start os, step.Told setup := by
  intro log
  induction os generalizing start with
  | nil => exact ⟨rfl, fun step member => by cases member⟩
  | cons o os ih =>
      have told := o.told_perform debugging raw (answered o List.mem_cons_self)
      have raw' : (o.perform start).state.cluster.Raw :=
        (o.confined_perform start).raw ⟨raw.creations, raw.deletions⟩
      obtain ⟨replayed, later⟩ := ih (o.perform start).state raw'
        fun o member => answered o (List.mem_cons_of_mem _ member)
      constructor
      · -- the others start from the names that the entries of the first one make
        rw [← o.replay_perform told] at replayed
        rw [show log = Step.written setup ⟨o, start, o.perform start⟩ ++
          (steps (o.perform start).state os).flatMap (Step.written setup) from List.flatMap_cons,
          List.filterMap_append, Ledger.replay_append]
        exact replayed
      · intro step member
        rcases List.mem_cons.1 member with rfl | member
        · exact told
        · exact later step member

/-- Of two configurations the second cannot be sent. -/
def overloadedSite : Site :=
  ⟨{ names := ⟨[Kind.mutating.configurationName .production], []⟩
     createFaults := ⟨[], [some (.api (.int 503) (.str "Service Unavailable") .null)]⟩ }, none⟩

/-- The client fails to register, and goes again. -/
def failedStay : List Operation :=
  [{ client := clientAt none, act := .register }, { client := clientAt none, act := .deregister }]

theorem audit_trail_failedStay :
    let setup := (({} : Log.Setup).configure (.ok Log.Level.debug) true true).2
    let log := (steps overloadedSite failedStay).flatMap (Step.written setup)
    (∀ k name, ¬ overloadedSite.cluster.ledger.replay (log.filterMap Entry.ofRecord?) k name) ∧
    ∃ step ∈ steps overloadedSite failedStay,
      (step.written setup).filterMap Entry.ofRecord? =
        [⟨.deleted, .mutating, Kind.mutating.configurationName .production⟩,
          ⟨.created, .mutating, Kind.mutating.configurationName .production⟩] ∧
      ∃ r, (step.written setup).filter Log.Record.isError = [r] ∧
        r.field? .httpStatus = some (.int 503) := by
  intro setup log
  have raw : overloadedSite.cluster.Raw := by
    constructor <;> intro k e met
    · cases k with
      | mutating => cases met
      | validating =>
          cases List.mem_singleton.1 met
          rfl
    · cases k <;> cases met
  have answered : ∀ o ∈ failedStay, ∀ e, o.secret = .error e → e.isReport = false := by
    intro o member e failed
    simp only [failedStay, List.mem_cons, List.not_mem_nil, or_false] at member
    rcases member with rfl | rfl <;> cases failed <;> rfl
  obtain ⟨replayed, told⟩ := audit_trail overloadedSite failedStay setup
    (Log.Setup.debugging_configure {} true true) raw answered
  constructor
  · intro k name present
    rw [replayed] at present
    cases k <;> cases present
  · have first := told _ List.mem_cons_self
    refine ⟨_, List.mem_cons_self, first.entries.trans ?_, first.status _ _ rfl ⟨_, _, _, rfl⟩⟩
    rfl

end Operation

end AdmissionHooks
