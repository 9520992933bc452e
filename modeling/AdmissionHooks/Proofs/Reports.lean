import AdmissionHooks.Proofs.Confinement
import AdmissionHooks.Proofs.Deregistration

/-!
# Where reports come from

The registration makes reports of what it fails with. Where the calls themselves fail with none, a
report on the API is made of a request alone: a bundle that is not found is told by a report of its
own, and what a service or an owner lacks is told by none.
-/

namespace AdmissionHooks

/-- The failure is a report on the API that tells this status. -/
def Failure.OfApi (e : Failure) (status : Json) : Prop :=
  ∃ text reason cause, e = .report (.api text reason status) cause

theorem Failure.not_ofApi_of_isReport {e : Failure} (raw : e.isReport = false) (status : Json) :
    ¬ e.OfApi status := by
  rintro ⟨text, reason, cause, rfl⟩
  cases raw

/-- Whatever has failed, it is not told by a report on the API. -/
def Failure.Unreported (failure : Option Failure) : Prop :=
  ∀ e, failure = some e → ∀ status, ¬ e.OfApi status

theorem Failure.unreported_none : Unreported none := fun _ failed => by cases failed

theorem Failure.unreported_of_isReport {e : Failure} (raw : e.isReport = false) :
    Unreported (some e) := by
  intro e' failed status
  cases failed
  exact not_ofApi_of_isReport raw status

theorem Failure.ofApi_wrap (text : String) (e : Failure) :
    (wrap text e).OfApi (wrap text e).status := by
  rw [wrap_eq]
  exact ⟨text, e.answerReason, some e, rfl⟩

/-- A service that lacks a part of its name is told by no report. -/
theorem Builder.isReport_of_target (b : Builder) {k : Kind} {e : Failure}
    (missing : b.target k = .error e) : e.isReport = false := by
  unfold Builder.target at missing
  cases mode : b.mode with
  | debug =>
      rw [mode] at missing
      cases missing
  | production =>
      rw [mode] at missing
      cases name : b.serviceName with
      | none =>
          rw [name] at missing
          cases missing
          rfl
      | some text =>
          rw [name] at missing
          cases space : b.space with
          | none =>
              rw [space] at missing
              cases missing
              rfl
          | some text' =>
              rw [space] at missing
              cases missing

theorem Builder.isReport_of_ownerFor (b : Builder) {answer : Except Failure (Option Metadata)}
    {e : Failure} (failed : b.ownerFor answer = .error e) : e.isReport = false := by
  obtain ⟨-, -, -, stop⟩ := b.ownerFor_eq_error failed
  cases e with
  | runtime name detail => rfl
  | _ => cases stop

/-- A lookup that finds no bundle fails with a report, but with none on the API. -/
theorem AuthorityLookup.not_ofApi_of_bundle {tls : TlsAuthority} {files : FileSystem}
    {answer : Except Failure SecretData} (raw : ∀ e, answer = .error e → e.isReport = false)
    {e : Failure} (failed : bundle tls files answer = .error e) (status : Json) :
    ¬ e.OfApi status := by
  unfold bundle at failed
  split at failed
  · rename_i met secret
    cases failed
    unfold secretBytes at secret
    split at secret
    · cases secret
    · split at secret
      · cases secret
      · cases secret
        exact Failure.not_ofApi_of_isReport (raw e rfl) status
  · cases own : clientBytes tls files with
    | error met =>
        rw [own] at failed
        cases failed
        rw [((clientBytes_eq_error_iff files).1 own).1]
        exact Failure.not_ofApi_of_isReport rfl status
    | ok bytes =>
        rw [own] at failed
        unfold orNone at failed
        rintro ⟨text, reason, cause, rfl⟩
        cases bytes <;> cases failed
  · cases failed

/-! ## Clusters that make no reports -/

/-- A cluster whose calls fail by themselves, and with no report of the registration. -/
structure Cluster.Raw (c : Cluster) : Prop where
  creations : ∀ k e, some e ∈ c.createFaults.get k → e.isReport = false
  deletions : ∀ k e, some e ∈ c.deleteFaults.get k → e.isReport = false

theorem Cluster.Raw.createFault {c : Cluster} (raw : c.Raw) {k : Kind} {e : Failure}
    (fault : c.createFault k = some e) : e.isReport = false :=
  raw.creations k e (mem_of_join_head? fault)

theorem Cluster.Raw.deleteFault {c : Cluster} (raw : c.Raw) {k : Kind} {e : Failure}
    (fault : c.deleteFault k = some e) : e.isReport = false :=
  raw.deletions k e (mem_of_join_head? fault)

/-- What a deletion or a creation fails with is no report. -/
theorem Cluster.Raw.deleted {c : Cluster} (raw : c.Raw) {k : Kind} {name : String} {e : Failure}
    (failed : (c.deleted k name).1 = .error e) : e.isReport = false := by
  rcases c.deleted_cases k name with ⟨fault, met, h⟩ | ⟨-, -, h⟩ | ⟨-, -, h⟩
  · rw [h] at failed
    cases failed
    exact raw.deleteFault met
  · rw [h] at failed
    cases failed
    rfl
  · rw [h] at failed
    cases failed

theorem Cluster.Raw.created {c : Cluster} (raw : c.Raw) {k : Kind} {name : String} {e : Failure}
    (failed : (c.created k name).1 = .error e) : e.isReport = false := by
  rcases c.created_cases k name with ⟨fault, met, h⟩ | ⟨-, -, h⟩ | ⟨-, -, h⟩
  · rw [h] at failed
    cases failed
    exact raw.createFault met
  · rw [h] at failed
    cases failed
    rfl
  · rw [h] at failed
    cases failed

theorem Registrar.Confined.raw {r : Registrar} {c d : Cluster} (done : r.Confined c d)
    (raw : c.Raw) : d.Raw where
  creations k e met := raw.creations k e ((done.createFaults k).subset met)
  deletions k e met := raw.deletions k e ((done.deleteFaults k).subset met)

end AdmissionHooks
