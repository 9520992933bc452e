import AdmissionHooks.Proofs.Confinement
import AdmissionHooks.Proofs.Deregistration

/-!
# Deregistering after a registration

Where deletions meet no faults, a deregistration takes back whatever a registration has done, at
whichever point that ended. It leaves what it would have left without it, and complains of the names
that the registration had left absent.
-/

namespace AdmissionHooks

namespace Registrar

/-- However a registration ends, deregistering after it leaves the names that deregistering at once
would have left, which are those that were there but for the client's own. It reports as not found
the names that the registration left absent, and nothing else. -/
theorem deregister_undoes (r : Registrar) (files : FileSystem) (s : Site) (quiet : s.cluster.Quiet) :
    let left := ((r.register files).run s).state.cluster
    let done := r.deregister.run left
    done.outcome = .ok ((r.absentKinds left).map fun k => r.complaint k Failure.notFound) ∧
    (∀ k, r.Tells k Failure.notFound (r.complaint k Failure.notFound) ∧
      (r.complaint k Failure.notFound).isNotFound = true) ∧
    ∀ k name,
      (name ∈ done.state.names.get k ↔
        name ∈ s.cluster.names.get k ∧ name ≠ r.configurationName k) ∧
      (name ∈ done.state.names.get k ↔
        name ∈ (r.deregister.run s.cluster).state.names.get k) := by
  intro left done
  have confined : r.Confined s.cluster left := r.confined_register files s
  have noFault := (confined.quiet quiet).deleteFault
  have names (k : Kind) (name : String) : name ∈ done.state.names.get k ↔
      name ∈ s.cluster.names.get k ∧ name ≠ r.configurationName k := by
    rw [r.mem_deregister_of_noFault noFault]
    exact and_congr_left fun other => confined.names k name other
  refine ⟨r.outcome_deregister_of_noFault noFault, fun k => ⟨r.tells_complaint k _, ?_⟩,
    fun k name => ⟨names k name, ?_⟩⟩
  · exact (r.tells_complaint k _).isNotFound.2 ⟨_, _, rfl⟩
  · rw [names, r.mem_deregister_of_noFault quiet.deleteFault]

/-- Both names are taken, and the second creation fails with no failure of a request. -/
def brokenCluster : Cluster :=
  { names := ⟨[Kind.mutating.configurationName .debug, "other"],
      [Kind.validating.configurationName .debug]⟩
    secret := .ok (some [(rootCaSecretKey, "QUJD")])
    createFaults := ⟨[], [some (.raised "RuntimeError" "boom")]⟩ }

theorem deregister_undoes_brokenCluster :
    let left := ((awayRegistrar.register {}).run ⟨brokenCluster, none⟩).state.cluster
    ∃ report, (awayRegistrar.deregister.run left).outcome = .ok [report] ∧
      report.isNotFound = true ∧
      "other" ∈ (awayRegistrar.deregister.run left).state.names.get .mutating := by
  intro left
  have quiet : brokenCluster.Quiet := by
    intro k fault met
    cases k <;> cases met
  obtain ⟨returns, missing, names⟩ :=
    deregister_undoes awayRegistrar {} ⟨brokenCluster, none⟩ quiet
  exact ⟨_, returns, (missing .validating).2, (names .mutating "other").1.2 (by decide)⟩

end Registrar

end AdmissionHooks
