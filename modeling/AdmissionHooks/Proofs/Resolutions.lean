import AdmissionHooks.Proofs.Sent

/-!
# Well-formed resolutions

Nothing in a resolution itself keeps its parts together: a failed one could carry a reference, and
would then write an owner. Every way to come by a resolution makes a well-formed one, which has a
reference exactly if it is resolved and a failure exactly if its lookup failed. What such a
resolution writes tells its status.
-/

namespace AdmissionHooks

namespace OwnerResolution

/-- The reference and the failure are there as the status has it. -/
structure WellFormed (r : OwnerResolution) : Prop where
  reference : r.reference.isSome = true ↔ r.status = .resolved
  failure : r.failure.isSome = true ↔ r.status = .lookupFailed

theorem wellFormed_notApplicable : notApplicable.WellFormed := by
  constructor <;> simp [notApplicable]

theorem wellFormed_resolved (o : OwnerReference) :
    ({ status := .resolved, reference := some o } : OwnerResolution).WellFormed := by
  constructor <;> simp

theorem wellFormed_failed (e : Failure) :
    ({ status := .lookupFailed, failure := some e } : OwnerResolution).WellFormed := by
  constructor <;> simp

theorem owners_eq_none_iff {r : OwnerResolution} : r.owners = none ↔ r.status = .notApplicable := by
  unfold owners
  cases r.status <;> simp

theorem owners_of_applicable {r : OwnerResolution} (applicable : r.status ≠ .notApplicable) :
    r.owners = some r.reference.toList := by
  unfold owners
  cases status : r.status with
  | notApplicable => exact absurd status applicable
  | resolved => rfl
  | lookupFailed => rfl

namespace WellFormed

variable {r : OwnerResolution}

theorem owners_of_resolved (wellFormed : r.WellFormed) (resolved : r.status = .resolved) :
    ∃ o, r.reference = some o ∧ r.owners = some [o] := by
  obtain ⟨o, given⟩ := Option.isSome_iff_exists.1 (wellFormed.reference.2 resolved)
  refine ⟨o, given, ?_⟩
  rw [owners_of_applicable (by simp [resolved]), given]
  rfl

theorem owners_of_lookupFailed (wellFormed : r.WellFormed) (failed : r.status = .lookupFailed) :
    r.owners = some [] := by
  have none : r.reference = none := by
    cases given : r.reference with
    | none => rfl
    | some o =>
        have resolved := wellFormed.reference.1 (by rw [given]; rfl)
        rw [failed] at resolved
        cases resolved
  rw [owners_of_applicable (by simp [failed]), none]
  rfl

theorem owners_eq_nil_iff (wellFormed : r.WellFormed) :
    r.owners = some [] ↔ r.status = .lookupFailed := by
  refine ⟨fun written => ?_, wellFormed.owners_of_lookupFailed⟩
  cases status : r.status with
  | lookupFailed => rfl
  | notApplicable =>
      rw [owners_eq_none_iff.2 status] at written
      cases written
  | resolved =>
      obtain ⟨o, -, single⟩ := wellFormed.owners_of_resolved status
      rw [single] at written
      cases written

theorem exists_owners_eq_singleton_iff (wellFormed : r.WellFormed) :
    (∃ o, r.owners = some [o]) ↔ r.status = .resolved := by
  constructor
  · intro ⟨o, single⟩
    cases status : r.status with
    | resolved => rfl
    | notApplicable =>
        rw [owners_eq_none_iff.2 status] at single
        cases single
    | lookupFailed =>
        rw [wellFormed.owners_of_lookupFailed status] at single
        cases single
  · intro resolved
    obtain ⟨o, -, single⟩ := wellFormed.owners_of_resolved resolved
    exact ⟨o, single⟩

end WellFormed

end OwnerResolution

/-! ## What a lookup comes to -/

namespace OwnerLookup

open OwnerResolution (WellFormed)

/-- A lookup that is not stopped has found the deployment or has failed, by the answer that it got. -/
inductive Resolves (o : OwnerLookup) (c : Cluster) : OwnerResolution → List Log.Record → Prop where
  | found {name uid} (identified : c.Identified name uid) :
      Resolves o c { status := .resolved, reference := some ⟨"apps/v1", "Deployment", name, uid⟩ } []
  | unanswered {e} (failed : c.deployment = .error e) :
      Resolves o c { status := .lookupFailed, failure := some e } [o.failedRead e]
  | anonymous {metadata} (read : c.deployment = .ok metadata)
      (anonymous : ∀ name uid, ¬ c.Identified name uid) :
      Resolves o c { status := .lookupFailed, failure := some incompleteMetadata } [o.incomplete]

/-- A lookup that comes to a resolution does so in one of these ways, and logs what belongs to it. -/
theorem resolves_of_resolution (o : OwnerLookup) {c : Cluster} {r : OwnerResolution}
    (resolved : resolution c.deployment = .ok r) : Resolves o c r (o.told c.deployment) := by
  cases answer : c.deployment with
  | error e =>
      rw [answer] at resolved
      by_cases stop : e.isStop = true
      · simp [resolution, stop] at resolved
      · obtain rfl : { status := .lookupFailed, failure := some e } = r := by
          simpa [resolution, stop] using resolved
        simpa [told, stop] using Resolves.unanswered answer
  | ok metadata =>
      rw [answer] at resolved
      cases reference : reference? metadata with
      | some found =>
          obtain rfl : { status := .resolved, reference := some found } = r := by
            simpa [resolution, reference] using resolved
          obtain ⟨name, uid, rfl, hn, hu, rfl⟩ := reference?_eq_some_iff.1 reference
          have silent : o.told (.ok (some ⟨some name, some uid⟩)) = [] := by simp [told, reference]
          rw [silent]
          exact .found ⟨answer, hn, hu⟩
      | none =>
          obtain rfl : { status := .lookupFailed, failure := some incompleteMetadata } = r := by
            simpa [resolution, reference] using resolved
          have anonymous (name uid : String) : ¬ c.Identified name uid := by
            rintro ⟨read, hn, hu⟩
            obtain rfl := Except.ok.inj (answer.symm.trans read)
            have given := reference?_eq_some_iff.2 ⟨name, uid, rfl, hn, hu, rfl⟩
            rw [reference] at given
            cases given
          simpa [told, reference] using Resolves.anonymous (o := o) answer anonymous

variable {o : OwnerLookup} {c : Cluster} {r : OwnerResolution} {records : List Log.Record}

theorem Resolves.wellFormed (resolves : Resolves o c r records) : r.WellFormed := by
  cases resolves with
  | found identified => exact OwnerResolution.wellFormed_resolved _
  | unanswered failed => exact OwnerResolution.wellFormed_failed _
  | anonymous read anonymous => exact OwnerResolution.wellFormed_failed _

theorem Resolves.status (resolves : Resolves o c r records) :
    (r.status = .resolved ∧ ∃ name uid, c.Identified name uid) ∨
    (r.status = .lookupFailed ∧ ∀ name uid, ¬ c.Identified name uid) := by
  cases resolves with
  | found identified => exact .inl ⟨rfl, _, _, identified⟩
  | unanswered failed =>
      refine .inr ⟨rfl, fun name uid identified => ?_⟩
      have both := failed.symm.trans identified.1
      cases both
  | anonymous read anonymous => exact .inr ⟨rfl, anonymous⟩

theorem Resolves.refers (resolves : Resolves o c r records) {name uid : String}
    (identified : c.Identified name uid) :
    r.reference = some ⟨"apps/v1", "Deployment", name, uid⟩ := by
  cases resolves with
  | found other =>
      have same := other.1.symm.trans identified.1
      cases same
      rfl
  | unanswered failed =>
      have both := failed.symm.trans identified.1
      cases both
  | anonymous read anonymous => exact absurd identified (anonymous name uid)

theorem Resolves.fails (resolves : Resolves o c r records) {e : Failure}
    (failed : c.deployment = .error e) : r.failure = some e := by
  cases resolves with
  | found identified =>
      have both := failed.symm.trans identified.1
      cases both
  | unanswered other =>
      obtain rfl := Except.error.inj (other.symm.trans failed)
      rfl
  | anonymous read anonymous =>
      have both := failed.symm.trans read
      cases both

/-- A lookup that got an answer can only miss the name or the uid. -/
theorem Resolves.misses (resolves : Resolves o c r records) {metadata : Option Metadata}
    (read : c.deployment = .ok metadata) {e : Failure} (failed : r.failure = some e) :
    e = incompleteMetadata := by
  cases resolves with
  | found identified => cases failed
  | unanswered unread =>
      have both := unread.symm.trans read
      cases both
  | anonymous other anonymous => exact (Option.some.inj failed).symm

end OwnerLookup

/-- Whatever resolution a builder comes by is well-formed. -/
theorem Builder.wellFormed_of_resolveOwner {b : Builder} {c : Cluster} {r : OwnerResolution}
    (resolved : (b.resolveOwner.run c).outcome = .ok r) : r.WellFormed := by
  rw [b.outcome_resolveOwner] at resolved
  unfold ownerFor at resolved
  split at resolved
  · rename_i o _ _
    exact (o.resolves_of_resolution resolved).wellFormed
  · cases resolved
    exact OwnerResolution.wellFormed_notApplicable

namespace OwnerLookup

/-- The record warns that there will be no owner. -/
def WarnsOfFailure (record : Log.Record) : Prop :=
  record.logger = "kube_policy.webhooks.owner" ∧ record.level = Log.Level.warning ∧
    record.attributes = [("owner_status", .plain (.str "lookup_failed"))]

theorem Resolves.warns {o : OwnerLookup} {c : Cluster} {r : OwnerResolution}
    {records : List Log.Record} (resolves : Resolves o c r records) :
    (r.status = .lookupFailed → ∃ record, records = [record] ∧ WarnsOfFailure record) ∧
    (r.status ≠ .lookupFailed → records = []) := by
  cases resolves with
  | found identified => exact ⟨nofun, fun _ => rfl⟩
  | unanswered failed => exact ⟨fun _ => ⟨_, rfl, rfl, rfl, rfl⟩, fun other => absurd rfl other⟩
  | anonymous read anonymous =>
      exact ⟨fun _ => ⟨_, rfl, rfl, rfl, rfl⟩, fun other => absurd rfl other⟩

/-- A lookup that is not asked to stop reads the deployment once and comes to a resolution. It is
resolved exactly if the deployment tells its name and its uid, and then refers to it; otherwise it has
failed, with the failure of the read or for want of the two, and warns of it. What any resolution of a
builder writes tells its status. -/
theorem resolve_wellFormed (o : OwnerLookup) (c : Cluster)
    (noStop : ∀ e, c.deployment = .error e → e.isStop = false) :
    let done := o.resolve.run c
    (∃ r, done.outcome = .ok r ∧
      (r.status = .resolved ↔ ∃ name uid, c.Identified name uid) ∧
      (r.status = .lookupFailed ↔ ∀ name uid, ¬ c.Identified name uid) ∧
      (r.reference.isSome = true ↔ r.status = .resolved) ∧
      (∀ name uid, c.Identified name uid →
        r.reference = some ⟨"apps/v1", "Deployment", name, uid⟩) ∧
      (r.failure.isSome = true ↔ r.status = .lookupFailed) ∧
      (∀ e, c.deployment = .error e → r.failure = some e) ∧
      (∀ metadata e, c.deployment = .ok metadata → r.failure = some e → e.name = "ValueError") ∧
      ((∃ record, done.records = [record] ∧ WarnsOfFailure record) ↔ r.status = .lookupFailed) ∧
      (done.records = [] ↔ r.status ≠ .lookupFailed)) ∧
    done.calls = [.readDeployment o.deploymentName o.space] ∧
    ∀ (b : Builder) (d : Cluster) (r : OwnerResolution), (b.resolveOwner.run d).outcome = .ok r →
      (r.owners = none ↔ r.status = .notApplicable) ∧
      (r.owners = some [] ↔ r.status = .lookupFailed) ∧
      ((∃ reference, r.owners = some [reference]) ↔ r.status = .resolved) := by
  obtain ⟨r, resolved⟩ := resolution_of_noStop noStop
  have resolves := o.resolves_of_resolution resolved
  intro done
  have run : done = ⟨.ok r, c, [.readDeployment o.deploymentName o.space], o.told c.deployment⟩ := by
    rw [← resolved]
    exact o.run_resolve c
  rw [run]
  obtain ⟨warned, silent⟩ := resolves.warns
  refine ⟨⟨r, rfl, ?_, ?_, resolves.wellFormed.reference, fun name uid => resolves.refers,
    resolves.wellFormed.failure, fun e => resolves.fails, ?_, ?_, ?_⟩, rfl, ?_⟩
  · rcases resolves.status with ⟨status, identified⟩ | ⟨status, anonymous⟩
    · exact ⟨fun _ => identified, fun _ => status⟩
    · rw [status]
      exact ⟨nofun, fun ⟨name, uid, identified⟩ => absurd identified (anonymous name uid)⟩
  · rcases resolves.status with ⟨status, name, uid, identified⟩ | ⟨status, anonymous⟩
    · rw [status]
      exact ⟨nofun, fun anonymous => absurd identified (anonymous name uid)⟩
    · exact ⟨fun _ => anonymous, fun _ => status⟩
  · intro metadata e read failed
    rw [resolves.misses read failed]
    rfl
  · refine ⟨fun ⟨record, only, _⟩ => ?_, warned⟩
    exact Decidable.byContradiction fun other => by rw [silent other] at only; cases only
  · refine ⟨fun none failed => ?_, silent⟩
    obtain ⟨record, only, -⟩ := warned failed
    have both := none.symm.trans only
    cases both
  · intro b d r resolved
    have wellFormed := b.wellFormed_of_resolveOwner resolved
    exact ⟨OwnerResolution.owners_eq_none_iff, wellFormed.owners_eq_nil_iff,
      wellFormed.exists_owners_eq_singleton_iff⟩

/-- The deployment is found but has an empty uid. -/
def anonymousCluster : Cluster := { deployment := .ok (some ⟨some "controller", some ""⟩) }

theorem resolve_wellFormed_anonymousCluster :
    let lookup : OwnerLookup := ⟨some "controller", some "policies"⟩
    (∀ e, anonymousCluster.deployment = .error e → e.isStop = false) ∧
    ∃ r e record, (lookup.resolve.run anonymousCluster).outcome = .ok r ∧
      r.status = .lookupFailed ∧ r.reference = none ∧ r.failure = some e ∧ e.name = "ValueError" ∧
      (lookup.resolve.run anonymousCluster).records = [record] ∧ WarnsOfFailure record := by
  intro lookup
  have noStop (e : Failure) (failed : anonymousCluster.deployment = .error e) :
      e.isStop = false := by
    cases failed
  refine ⟨noStop, ?_⟩
  obtain ⟨⟨r, outcome, -, unresolved, reference, -, failure, -, missing, warned, -⟩, -⟩ :=
    resolve_wellFormed lookup anonymousCluster noStop
  have status : r.status = .lookupFailed := by
    refine unresolved.2 fun name uid identified => ?_
    obtain ⟨told, -, given⟩ := identified
    cases told
    exact given rfl
  have none : r.reference = none := by
    rw [← Option.not_isSome_iff_eq_none, reference, status]
    decide
  obtain ⟨e, failed⟩ := Option.isSome_iff_exists.1 (failure.2 status)
  obtain ⟨record, only, warns⟩ := warned.2 status
  exact ⟨r, e, record, outcome, status, none, failed, missing _ e rfl failed, only, warns⟩

end OwnerLookup

end AdmissionHooks
