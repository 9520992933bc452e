import AdmissionHooks.Proofs.Course

/-!
# Deregistering

When its deletions fail with request failures at most, a deregistration returns. It makes both of
them whatever comes of the first, and gives one report for each that failed, in order. A name is gone
afterwards unless a fault kept it, and every other name stays as it was.
-/

namespace AdmissionHooks

/-! ## Reports on requests -/

namespace Failure

/-- The status of an answer of the API server; a request without an answer has none. -/
def answerStatus : Failure → Json
  | .api status _ _ => status
  | _ => .null

/-- The reason of an answer of the API server; without one, the name of what came instead. -/
def answerReason : Failure → Json
  | .api _ reason _ => reason
  | e => .str e.name

theorem wrap_eq (text : String) (e : Failure) :
    wrap text e = .report (.api text e.answerReason e.answerStatus) (some e) := by
  cases e <;> rfl

theorem status_wrap (text : String) (e : Failure) : (wrap text e).status = e.answerStatus := by
  rw [wrap_eq]
  rfl

theorem name_wrap (text : String) (e : Failure) : (wrap text e).name = "KubernetesAPIError" := by
  rw [wrap_eq]
  rfl

theorem reason_wrap (text : String) (e : Failure) : (wrap text e).reason = e.answerReason := by
  rw [wrap_eq]
  rfl

theorem message_wrap (text : String) (e : Failure) :
    (wrap text e).message = "Kubernetes API error: " ++ withReason text e.answerReason ++
      "\nAction required: Check RBAC permissions and cluster connectivity" := by
  have advised : (Json.str "Check RBAC permissions and cluster connectivity").isVoid = false := by
    decide
  have shown (s : String) : (Json.str s).displayText = s := String.ofList_toList
  rw [wrap_eq]
  simp only [message, Report.message, Report.text, Report.advice, advised, shown, Report.apiService,
    Bool.false_eq_true, if_false, String.append_assoc]
  rfl

/-- A report of the API service says that something was not found exactly by the status 404. -/
theorem isNotFound_api_iff (text : String) (reason status : Json) :
    (Report.api text reason status).isNotFound = true ↔ status = .int 404 := by
  unfold Report.isNotFound Report.status
  split
  next same => simp [same]
  next other => simpa using other

/-- Only an answer of the API server says that something was not found. -/
theorem isNotFound_wrap_iff (text : String) (e : Failure) :
    (wrap text e).isNotFound = true ↔ ∃ reason body, e = .api (.int 404) reason body := by
  rw [wrap_eq]
  refine (isNotFound_api_iff _ _ _).trans ?_
  cases e <;> simp [answerStatus]

end Failure

namespace Registrar

variable (r : Registrar)

theorem mem_cleared (c : Cluster) (k : Kind) (name : String) :
    name ∈ (r.cleared c).names.get k ↔
      name ∈ c.names.get k ∧ (name ≠ r.configurationName k ∨ c.deleteFault k ≠ none) := by
  have other := Cluster.deleteFault_deleted_of_ne c .mutating (r.configurationName .mutating)
    (show Kind.validating ≠ .mutating by decide)
  unfold cleared
  rw [Cluster.mem_deleted, Cluster.mem_deleted, other]
  by_cases own : name = r.configurationName k <;> cases k <;> simp [own]

/-- The report on a deletion that failed. -/
def complaint (k : Kind) (cause : Failure) : Failure :=
  Failure.wrap (deleteFailed k.resource (r.configurationName k)) cause

/-- The deletions that a deregistration fails at, in order, and what each of them fails with. -/
def failedDeletions (c : Cluster) : List (Kind × Failure) :=
  Kind.all.filterMap fun k => (c.deletionFailure k (r.configurationName k)).map (k, ·)

/-- What the deletion of a kind ends a deregistration with: a failure that came from no request. -/
def uncaught (c : Cluster) (k : Kind) : Option Failure :=
  (c.deletionFailure k (r.configurationName k)).filter fun e => !e.isRequestFailure

theorem removal_deleted (c : Cluster) (k : Kind) :
    r.removal k (c.deleted k (r.configurationName k)).1 =
      match r.uncaught c k with
      | some e => .error e
      | none => .ok ((c.deletionFailure k (r.configurationName k)).map (r.complaint k)) := by
  rw [Cluster.deleted_fst]
  unfold uncaught
  cases c.deletionFailure k (r.configurationName k) with
  | none => rfl
  | some e =>
      by_cases request : e.isRequestFailure = true
      · simp [removal, Option.filter, request, complaint]
      · simp [removal, Option.filter, request]

theorem uncaught_of_requests {c : Cluster} {k : Kind}
    (requests : ∀ e, c.deleteFault k = some e → e.isRequestFailure = true) :
    r.uncaught c k = none := by
  unfold uncaught Cluster.deletionFailure
  cases fault : c.deleteFault k with
  | some e => simp [requests e fault]
  | none => by_cases h : c.has k (r.configurationName k) = true <;>
      simp [h, Failure.notFound, Failure.isRequestFailure]

/-- The deletion of the second kind fails as it would have failed before the first. -/
theorem deletionFailure_second (c : Cluster) :
    (c.deleted .mutating (r.configurationName .mutating)).2.deletionFailure .validating
        (r.configurationName .validating) =
      c.deletionFailure .validating (r.configurationName .validating) :=
  Cluster.deletionFailure_congr (Cluster.deleteFault_deleted_of_ne _ _ _ (by decide))
    (by rw [Cluster.mem_deleted]; simp)

/-- A deregistration ends at the first deletion whose failure came from no request, with that
failure as it is, or makes both and returns the reports on the others. -/
theorem deregister_endings (c : Cluster) :
    (∃ e, r.uncaught c .mutating = some e ∧ (r.deregister.run c).outcome = .error e ∧
      (r.deregister.run c).calls = [.delete .mutating (r.configurationName .mutating)]) ∨
    (r.uncaught c .mutating = none ∧ ∃ e, r.uncaught c .validating = some e ∧
      (r.deregister.run c).outcome = .error e ∧
      (r.deregister.run c).calls =
        [.delete .mutating (r.configurationName .mutating),
          .delete .validating (r.configurationName .validating)]) ∨
    ((∀ k, r.uncaught c k = none) ∧
      (r.deregister.run c).outcome =
        .ok ((r.failedDeletions c).map fun f => r.complaint f.1 f.2)) := by
  have first := r.removal_deleted c .mutating
  have second := r.removal_deleted (c.deleted .mutating (r.configurationName .mutating)).2 .validating
  have later : r.uncaught (c.deleted .mutating (r.configurationName .mutating)).2 .validating =
      r.uncaught c .validating := by
    unfold uncaught
    rw [deletionFailure_second]
  rw [later, deletionFailure_second] at second
  unfold deregister
  cases hm : r.uncaught c .mutating with
  | some e =>
      rw [hm] at first
      refine .inl ⟨e, rfl, ?_⟩
      rw [Action.run_bind_of_error (by rw [outcome_remove, first])]
      exact ⟨rfl, r.calls_remove .mutating c⟩
  | none =>
      rw [hm] at first
      refine .inr ?_
      rw [Action.run_bind_of_ok (by rw [outcome_remove, first])]
      cases hv : r.uncaught c .validating with
      | some e =>
          rw [hv] at second
          refine .inl ⟨rfl, e, rfl, ?_⟩
          rw [Action.run_bind_of_error (by rw [outcome_remove, state_remove, second])]
          exact ⟨rfl, by simp⟩
      | none =>
          rw [hv] at second
          refine .inr ⟨fun k => by cases k <;> assumption, ?_⟩
          rw [Action.outcome_join,
            Action.run_bind_of_ok (by rw [outcome_remove, state_remove, second]),
            Action.outcome_join]
          simp only [failedDeletions, Kind.all, List.filterMap_cons, List.filterMap_nil]
          cases c.deletionFailure .mutating (r.configurationName .mutating) <;>
            cases c.deletionFailure .validating (r.configurationName .validating) <;> rfl

theorem deregister_of_requests {c : Cluster}
    (requests : ∀ k e, c.deleteFault k = some e → e.isRequestFailure = true) :
    (r.deregister.run c).outcome =
      .ok ((r.failedDeletions c).map fun f => r.complaint f.1 f.2) := by
  have caught (k : Kind) : r.uncaught c k = none := r.uncaught_of_requests (requests k)
  rcases r.deregister_endings c with ⟨e, uncaught, -⟩ | ⟨-, e, uncaught, -⟩ | ⟨-, returned⟩
  · rw [caught] at uncaught
    cases uncaught
  · rw [caught] at uncaught
    cases uncaught
  · exact returned

/-! ## Without faults -/

/-- The kinds whose own name is absent. -/
def absentKinds (c : Cluster) : List Kind :=
  Kind.all.filter fun k => r.configurationName k ∉ c.names.get k

section

variable {c : Cluster} (noFault : ∀ k, c.deleteFault k = none)

include noFault

/-- Without faults, a deletion fails exactly at an absent name. -/
theorem failedDeletions_of_noFault :
    r.failedDeletions c = (r.absentKinds c).map (·, Failure.notFound) := by
  have failure (k : Kind) : c.deletionFailure k (r.configurationName k) =
      if r.configurationName k ∈ c.names.get k then none else some Failure.notFound := by
    simp [Cluster.deletionFailure, noFault k, Cluster.has]
  simp only [failedDeletions, absentKinds, failure, Kind.all]
  by_cases first : r.configurationName .mutating ∈ c.names.get .mutating <;>
    by_cases second : r.configurationName .validating ∈ c.names.get .validating <;>
      simp [first, second]

theorem outcome_deregister_of_noFault :
    (r.deregister.run c).outcome =
      .ok ((r.absentKinds c).map fun k => r.complaint k Failure.notFound) := by
  have requests (k : Kind) (e : Failure) (fault : c.deleteFault k = some e) :
      e.isRequestFailure = true := by
    rw [noFault k] at fault
    cases fault
  rw [r.deregister_of_requests requests, r.failedDeletions_of_noFault noFault, List.map_map]
  rfl

theorem mem_deregister_of_noFault (k : Kind) (name : String) :
    name ∈ (r.deregister.run c).state.names.get k ↔
      name ∈ c.names.get k ∧ name ≠ r.configurationName k := by
  rw [(r.state_deregister_of_ok (r.outcome_deregister_of_noFault noFault)).1, mem_cleared]
  simp [noFault k]

end

/-! ## What the reports tell -/

/-- A report tells which configuration could not be deleted, and what the deletion failed with. -/
structure Tells (k : Kind) (e report : Failure) : Prop where
  name : report.name = "KubernetesAPIError"
  cause : report.cause? = some e
  message : report.message = "Kubernetes API error: " ++
    withReason ("Failed to delete " ++ k.resource ++ " " ++ r.configurationName k) report.reason ++
      "\nAction required: Check RBAC permissions and cluster connectivity"
  ofAnswer : ∀ status reason body, e = .api status reason body →
    report.status = status ∧ report.reason = reason
  ofTransport : (∀ status reason body, e ≠ .api status reason body) →
    report.status = .null ∧ report.reason = .str e.name
  isNotFound : report.isNotFound = true ↔ ∃ reason body, e = .api (.int 404) reason body

theorem tells_complaint (k : Kind) (e : Failure) : r.Tells k e (r.complaint k e) where
  name := Failure.name_wrap _ e
  cause := Failure.cause?_wrap _ e
  message := by
    unfold complaint
    rw [Failure.message_wrap, Failure.reason_wrap]
    rfl
  ofAnswer := by
    rintro status reason body rfl
    exact ⟨rfl, rfl⟩
  ofTransport := by
    intro other
    cases e with
    | api status reason body => exact absurd rfl (other status reason body)
    | _ => exact ⟨rfl, rfl⟩
  isNotFound := Failure.isNotFound_wrap_iff _ e

/-- A deregistration that meets request failures alone returns. It makes both deletions, and gives one
report for each that failed, in order. A name is there afterwards when it was there and its own
deletion met a fault, and no other name changes. -/
theorem deregister_reports (c : Cluster)
    (requests : ∀ k e, c.deleteFault k = some e → e.isRequestFailure = true) :
    let done := r.deregister.run c
    done.outcome = .ok ((r.failedDeletions c).map fun f => r.complaint f.1 f.2) ∧
    (∀ k e, r.Tells k e (r.complaint k e)) ∧
    done.calls = [.delete .mutating (r.configurationName .mutating),
      .delete .validating (r.configurationName .validating)] ∧
    (∀ k, r.configurationName k ∈ done.state.names.get k ↔
      r.configurationName k ∈ c.names.get k ∧ c.deleteFault k ≠ none) ∧
    ∀ k name, name ≠ r.configurationName k →
      (name ∈ done.state.names.get k ↔ name ∈ c.names.get k) := by
  intro done
  have returns : done.outcome = _ := r.deregister_of_requests requests
  obtain ⟨state, calls⟩ := r.state_deregister_of_ok returns
  rw [show done.state = r.cleared c from state]
  refine ⟨returns, r.tells_complaint, calls, fun k => ?_, fun k name other => ?_⟩
  · rw [mem_cleared]
    simp
  · rw [mem_cleared]
    simp [other]

/-- A client in debug mode. -/
def awayRegistrar : Registrar :=
  { space := some "policies", serviceName := some "hooks", deploymentName := some "controller"
    address := some "10.0.0.5:8443" }

def timeout : Failure := .transport "ReadTimeoutError" (.str "Read timed out.")

/-- The mutating configuration is there, but the request to delete it gets no answer. -/
def silentCluster : Cluster :=
  { names := ⟨[Kind.mutating.configurationName .debug], []⟩
    deleteFaults := ⟨[some timeout], []⟩ }

theorem deregister_reports_silentCluster :
    ∃ first second, (awayRegistrar.deregister.run silentCluster).outcome = .ok [first, second] ∧
      first.cause? = some timeout ∧ first.reason = .str "ReadTimeoutError" ∧
      first.isNotFound = false ∧ second.isNotFound = true ∧
      Kind.mutating.configurationName .debug ∈
        (awayRegistrar.deregister.run silentCluster).state.names.get .mutating := by
  have requests : ∀ k e, silentCluster.deleteFault k = some e → e.isRequestFailure = true := by
    intro k e met
    cases k <;> cases met
    rfl
  obtain ⟨returns, tells, -, own, -⟩ := deregister_reports awayRegistrar silentCluster requests
  have first := tells .mutating timeout
  refine ⟨_, _, returns, first.cause, (first.ofTransport (by intro _ _ _ h; cases h)).2, ?_,
    (tells .validating Failure.notFound).isNotFound.2 ⟨_, _, rfl⟩, (own .mutating).2 (by decide)⟩
  refine Bool.eq_false_iff.2 fun notFound => ?_
  obtain ⟨reason, body, answered⟩ := first.isNotFound.1 notFound
  cases answered

end Registrar

end AdmissionHooks
