import AdmissionHooks.Registration
import AdmissionHooks.Proofs.Answers
import AdmissionHooks.Proofs.Bundle
import AdmissionHooks.Proofs.Ownership

/-!
# The course of a registration

A registration resets, looks the bundle up, looks the owner up, and places the two configurations.
`Course` lists where it can end and what it has done by then; every later statement about a
registration goes through its six cases. Before it stand the specifications of the steps.
-/

namespace AdmissionHooks.Registrar

variable (r : Registrar)

/-! ## The reset -/

/-- The report on the deletion of a kind, made of what the deletion failed with. -/
def removal (k : Kind) : Except Failure Unit → Except Failure (Option Failure)
  | .ok () => .ok none
  | .error e =>
      if e.isRequestFailure then
        .ok (some (Failure.wrap (deleteFailed k.resource (r.configurationName k)) e))
      else .error e

/-- What a deletion logs of its outcome. -/
def removalRecords (k : Kind) : Except Failure Unit → List Log.Record
  | .ok () => [deletedRecord k (r.configurationName k)]
  | .error e =>
      if e.isRequestFailure then
        [notDeletedRecord k (r.configurationName k)
          (Failure.wrap (deleteFailed k.resource (r.configurationName k)) e)]
      else []

theorem run_remove (k : Kind) (c : Cluster) :
    (r.remove k).run c =
      ⟨r.removal k (c.deleted k (r.configurationName k)).1,
        (c.deleted k (r.configurationName k)).2, [.delete k (r.configurationName k)],
        r.removalRecords k (c.deleted k (r.configurationName k)).1⟩ := by
  have answer : (Action.delete k (r.configurationName k)).run c =
      ⟨(c.deleted k (r.configurationName k)).1, (c.deleted k (r.configurationName k)).2,
        [.delete k (r.configurationName k)], []⟩ := rfl
  unfold remove
  rw [Action.run_attempt_bind, answer]
  cases (c.deleted k (r.configurationName k)).1 with
  | ok u => rfl
  | error e =>
      by_cases request : e.isRequestFailure = true
      · simp [request, removal, removalRecords, Action.run_log_bind, Action.join]
      · simp [request, removal, removalRecords, Action.join]

@[simp] theorem outcome_remove (k : Kind) (c : Cluster) :
    ((r.remove k).run c).outcome = r.removal k (c.deleted k (r.configurationName k)).1 := by
  rw [run_remove]

@[simp] theorem state_remove (k : Kind) (c : Cluster) :
    ((r.remove k).run c).state = (c.deleted k (r.configurationName k)).2 := by
  rw [run_remove]

@[simp] theorem calls_remove (k : Kind) (c : Cluster) :
    ((r.remove k).run c).calls = [.delete k (r.configurationName k)] := by
  rw [run_remove]

theorem logger_of_remove (k : Kind) (c : Cluster) :
    ∀ record ∈ ((r.remove k).run c).records, record.logger = logger := by
  intro record told
  rw [run_remove] at told
  unfold removalRecords at told
  split at told
  · rw [List.mem_singleton.1 told]
    rfl
  · split at told
    · rw [List.mem_singleton.1 told]
      rfl
    · cases told

/-- The cluster after both deletions. -/
def cleared (c : Cluster) : Cluster :=
  ((c.deleted .mutating (r.configurationName .mutating)).2.deleted .validating
    (r.configurationName .validating)).2

/-- A reset ends at its first deletion, with a failure, or makes both. -/
theorem deregister_cases (c : Cluster) :
    (∃ e, (r.deregister.run c).outcome = .error e ∧
      (r.deregister.run c).state = (c.deleted .mutating (r.configurationName .mutating)).2 ∧
      (r.deregister.run c).calls = [.delete .mutating (r.configurationName .mutating)]) ∨
    ((r.deregister.run c).state = r.cleared c ∧
      (r.deregister.run c).calls =
        [.delete .mutating (r.configurationName .mutating),
          .delete .validating (r.configurationName .validating)]) := by
  unfold deregister
  rcases Action.run_bind_cases (r.remove .mutating) _ c with ⟨e, -, h⟩ | ⟨first, -, h⟩
  · rw [h]
    exact .inl ⟨e, rfl, by simp, by simp⟩
  · rw [h]
    refine .inr ?_
    rcases Action.run_bind_cases (r.remove .validating) _ ((r.remove .mutating).run c).state with
      ⟨e, -, h⟩ | ⟨second, -, h⟩
    · rw [h]
      exact ⟨by simp [cleared], by simp⟩
    · rw [h]
      exact ⟨by simp [cleared], by simp⟩

theorem state_deregister_of_ok {c : Cluster} {es : List Failure}
    (h : (r.deregister.run c).outcome = .ok es) :
    (r.deregister.run c).state = r.cleared c ∧
      (r.deregister.run c).calls =
        [.delete .mutating (r.configurationName .mutating),
          .delete .validating (r.configurationName .validating)] := by
  rcases r.deregister_cases c with ⟨e, failed, -, -⟩ | both
  · rw [h] at failed
    cases failed
  · exact both

/-! ## Placing a configuration -/

/-- What a registration makes of the outcome of a creation. -/
def creation (k : Kind) (name : String) : Except Failure Unit → Except Failure Unit
  | .ok () => .ok ()
  | .error e =>
      if e.isRequestFailure then .error (Failure.wrap (createFailed k.resource name) e)
      else .error e

/-- What a registration logs of the outcome of a creation. -/
def creationRecords (k : Kind) (name : String) : Except Failure Unit → List Log.Record
  | .ok () => [createdRecord k name]
  | .error e =>
      if e.isRequestFailure then
        [notCreatedRecord k name (Failure.wrap (createFailed k.resource name) e)]
      else []

theorem run_send (k : Kind) (body : Configuration) (c : Cluster) :
    (send k body).run c =
      ⟨creation k body.name (c.created k body.name).1, (c.created k body.name).2,
        [.create k body], creationRecords k body.name (c.created k body.name).1⟩ := by
  unfold send
  rw [Action.run_attempt_bind]
  have sent : (Action.create k body).run c =
      ⟨(c.created k body.name).1, (c.created k body.name).2, [.create k body], []⟩ := rfl
  rw [sent]
  cases (c.created k body.name).1 with
  | ok u => rfl
  | error e =>
      by_cases h : e.isRequestFailure = true
      · simp [h, creation, creationRecords, Action.join, Action.run_log_bind]
      · simp [h, creation, creationRecords, Action.join]

theorem place_of_noTarget {k : Kind} {bundle : Bytes} {e : Failure} (owner : OwnerResolution)
    (s : Site) (given : bundle ≠ []) (missing : r.builder.target k = .error e) :
    (r.place k bundle owner).run s =
      ⟨.error e, { s with lastOwner := some owner }, [], r.builder.buildRecords k⟩ := by
  have built := r.builder.run_build k owner s given
  rw [missing] at built
  unfold place
  rw [Action.run_bind_of_error (e := e) (by rw [built]; rfl), built]

theorem place_of_target {k : Kind} {bundle : Bytes} {target : Target} (owner : OwnerResolution)
    (s : Site) (given : bundle ≠ []) (found : r.builder.target k = .ok target) :
    (r.place k bundle owner).run s =
      ⟨creation k (r.configurationName k) (s.cluster.created k (r.configurationName k)).1,
        ⟨(s.cluster.created k (r.configurationName k)).2, some owner⟩,
        [.create k (r.builder.configuration k target bundle owner)],
        r.builder.buildRecords k ++
          creationRecords k (r.configurationName k)
            (s.cluster.created k (r.configurationName k)).1⟩ := by
  have built := r.builder.run_build k owner s given
  rw [found] at built
  have sent := run_send k (r.builder.configuration k target bundle owner) s.cluster
  unfold place
  rw [Action.run_bind_of_ok (a := r.builder.configuration k target bundle owner)
    (by rw [built]; rfl), built, Action.run_atSite, sent]
  rfl

/-- Placing either has no target and makes no call, or sends the built configuration. -/
theorem place_cases (k : Kind) {bundle : Bytes} (owner : OwnerResolution) (s : Site)
    (given : bundle ≠ []) :
    (∃ e rs, r.builder.target k = .error e ∧
      (r.place k bundle owner).run s = ⟨.error e, { s with lastOwner := some owner }, [], rs⟩) ∨
    (∃ target rs, r.builder.target k = .ok target ∧
      (r.place k bundle owner).run s =
        ⟨creation k (r.configurationName k) (s.cluster.created k (r.configurationName k)).1,
          ⟨(s.cluster.created k (r.configurationName k)).2, some owner⟩,
          [.create k (r.builder.configuration k target bundle owner)], rs⟩) := by
  cases target : r.builder.target k with
  | error e => exact .inl ⟨e, _, rfl, r.place_of_noTarget owner s given target⟩
  | ok found => exact .inr ⟨found, _, rfl, r.place_of_target owner s given target⟩

/-! ## The course -/

section

variable (files : FileSystem) (s : Site)

def reset : Run Cluster (List Failure) := r.deregister.run s.cluster

/-- The site as the reset leaves it; looking up the bundle and the owner changes nothing. -/
def resetSite : Site := { s with cluster := (r.reset s).state }

def lookup : Run Cluster Bytes := (r.authority.resolve files).run (r.reset s).state

def ownership : Run Cluster OwnerResolution := r.builder.resolveOwner.run (r.reset s).state

theorem secret_reset : (r.reset s).state.secret = s.cluster.secret := by
  unfold reset
  rcases r.deregister_cases s.cluster with ⟨e, -, state, -⟩ | ⟨state, -⟩ <;>
    simp [state, cleared]

theorem deployment_reset : (r.reset s).state.deployment = s.cluster.deployment := by
  unfold reset
  rcases r.deregister_cases s.cluster with ⟨e, -, state, -⟩ | ⟨state, -⟩ <;>
    simp [state, cleared]

@[simp] theorem outcome_lookup :
    (r.lookup files s).outcome = AuthorityLookup.bundle r.tls files s.cluster.secret := by
  simp [lookup, secret_reset, authority]

theorem ne_nil_of_lookup {bundle : Bytes} (found : (r.lookup files s).outcome = .ok bundle) :
    bundle ≠ [] := by
  rw [outcome_lookup] at found
  exact AuthorityLookup.bundle_ne_nil files found

@[simp] theorem calls_lookup :
    (r.lookup files s).calls = [.readSecret (some r.secretName) r.space] := by
  simp [lookup, authority]

@[simp] theorem outcome_ownership :
    (r.ownership s).outcome = r.builder.ownerFor s.cluster.deployment := by
  simp [ownership, deployment_reset]

@[simp] theorem calls_ownership : (r.ownership s).calls = r.builder.ownerCalls := by
  simp [ownership]

theorem create_not_mem_deregister (k : Kind) (body : Configuration) (c : Cluster) :
    Call.create k body ∉ (r.deregister.run c).calls := by
  rcases r.deregister_cases c with ⟨e, -, -, calls⟩ | ⟨-, calls⟩ <;> simp [calls]

theorem create_not_mem_reset (k : Kind) (body : Configuration) :
    Call.create k body ∉ (r.reset s).calls :=
  r.create_not_mem_deregister k body s.cluster

theorem create_not_mem_lookup (k : Kind) (body : Configuration) :
    Call.create k body ∉ (r.lookup files s).calls := by
  simp

theorem create_not_mem_ownership (k : Kind) (body : Configuration) :
    Call.create k body ∉ (r.ownership s).calls := by
  rw [calls_ownership]
  intro sent
  obtain ⟨o, -, -, asked⟩ := r.builder.mem_ownerCalls sent
  cases asked

variable (bundle : Bytes) (owner : OwnerResolution)

def first : Run Site Unit := (r.place .mutating bundle owner).run (r.resetSite s)

def second : Run Site Unit := (r.place .validating bundle owner).run (r.first s bundle owner).state

end

/-- Where a registration can end, and what it leaves behind there. -/
inductive Course (files : FileSystem) (s : Site) : Run Site Unit → Prop where
  | resetFails {e} (reset : (r.reset s).outcome = .error e) :
      Course files s ⟨.error e, r.resetSite s, (r.reset s).calls,
        r.openingRecord :: (r.reset s).records⟩
  | lookupFails {reports e} (reset : (r.reset s).outcome = .ok reports)
      (lookup : (r.lookup files s).outcome = .error e) :
      Course files s ⟨.error e, r.resetSite s, (r.reset s).calls ++ (r.lookup files s).calls,
        r.openingRecord :: ((r.reset s).records ++ (r.lookup files s).records)⟩
  | ownershipFails {reports bundle e} (reset : (r.reset s).outcome = .ok reports)
      (lookup : (r.lookup files s).outcome = .ok bundle)
      (ownership : (r.ownership s).outcome = .error e) :
      Course files s ⟨.error e, r.resetSite s,
        (r.reset s).calls ++ ((r.lookup files s).calls ++ (r.ownership s).calls),
        r.openingRecord :: ((r.reset s).records ++
          ((r.lookup files s).records ++ (r.ownership s).records))⟩
  | firstFails {reports bundle owner e} (reset : (r.reset s).outcome = .ok reports)
      (lookup : (r.lookup files s).outcome = .ok bundle)
      (ownership : (r.ownership s).outcome = .ok owner)
      (first : (r.first s bundle owner).outcome = .error e) :
      Course files s ⟨.error e, (r.first s bundle owner).state,
        (r.reset s).calls ++ ((r.lookup files s).calls ++ ((r.ownership s).calls ++
          (r.first s bundle owner).calls)),
        r.openingRecord :: ((r.reset s).records ++ ((r.lookup files s).records ++
          ((r.ownership s).records ++ (r.first s bundle owner).records)))⟩
  | secondFails {reports bundle owner e} (reset : (r.reset s).outcome = .ok reports)
      (lookup : (r.lookup files s).outcome = .ok bundle)
      (ownership : (r.ownership s).outcome = .ok owner)
      (first : (r.first s bundle owner).outcome = .ok ())
      (second : (r.second s bundle owner).outcome = .error e) :
      Course files s ⟨.error e, (r.second s bundle owner).state,
        (r.reset s).calls ++ ((r.lookup files s).calls ++ ((r.ownership s).calls ++
          ((r.first s bundle owner).calls ++ (r.second s bundle owner).calls))),
        r.openingRecord :: ((r.reset s).records ++ ((r.lookup files s).records ++
          ((r.ownership s).records ++ ((r.first s bundle owner).records ++
            (r.second s bundle owner).records))))⟩
  | completes {reports bundle owner} (reset : (r.reset s).outcome = .ok reports)
      (lookup : (r.lookup files s).outcome = .ok bundle)
      (ownership : (r.ownership s).outcome = .ok owner)
      (first : (r.first s bundle owner).outcome = .ok ())
      (second : (r.second s bundle owner).outcome = .ok ()) :
      Course files s ⟨.ok (), (r.second s bundle owner).state,
        (r.reset s).calls ++ ((r.lookup files s).calls ++ ((r.ownership s).calls ++
          ((r.first s bundle owner).calls ++ (r.second s bundle owner).calls))),
        r.openingRecord :: ((r.reset s).records ++ ((r.lookup files s).records ++
          ((r.ownership s).records ++ ((r.first s bundle owner).records ++
            ((r.second s bundle owner).records ++ [r.closingRecord])))))⟩

theorem register_course (files : FileSystem) (s : Site) :
    r.Course files s ((r.register files).run s) := by
  have lookupSite : (r.authority.resolve files).atSite.run (r.resetSite s) =
      ⟨(r.lookup files s).outcome, r.resetSite s, (r.lookup files s).calls,
        (r.lookup files s).records⟩ := by
    simp [lookup, resetSite]
  have ownershipSite : r.builder.resolveOwner.atSite.run (r.resetSite s) =
      ⟨(r.ownership s).outcome, r.resetSite s, (r.ownership s).calls,
        (r.ownership s).records⟩ := by
    simp [ownership, resetSite]
  unfold register
  rw [Action.run_log_bind]
  rcases Action.run_bind_cases r.deregister.atSite _ s with ⟨e, reset, h⟩ | ⟨reports, reset, h⟩
  · rw [h]
    exact .resetFails reset
  rw [h, show (r.deregister.atSite.run s).state = r.resetSite s from rfl]
  rcases Action.run_bind_cases (r.authority.resolve files).atSite _ (r.resetSite s) with
    ⟨e, found, h⟩ | ⟨bundle, found, h⟩
  all_goals rw [lookupSite] at found h; rw [h]
  · exact .lookupFails reset found
  rcases Action.run_bind_cases r.builder.resolveOwner.atSite _ (r.resetSite s) with
    ⟨e, owned, h⟩ | ⟨owner, owned, h⟩
  all_goals rw [ownershipSite] at owned h; dsimp only; rw [h]
  · exact .ownershipFails reset found owned
  rcases Action.run_bind_cases (r.place .mutating bundle owner) _ (r.resetSite s) with
    ⟨e, first, h⟩ | ⟨_, first, h⟩
  all_goals dsimp only; rw [h]
  · exact .firstFails reset found owned first
  rcases Action.run_bind_cases (r.place .validating bundle owner) _ (r.first s bundle owner).state
    with ⟨e, second, h⟩ | ⟨_, second, h⟩
  all_goals rw [show ((r.place .mutating bundle owner).run (r.resetSite s)).state =
    (r.first s bundle owner).state from rfl, h]
  · exact .secondFails reset found owned first second
  · -- the closing record makes no call
    have done := Course.completes reset found owned first second
    rw [← List.append_nil (r.second s bundle owner).calls] at done
    exact done

/-- A registration that sends something has come through its reset. -/
theorem reset_of_sent (files : FileSystem) (s : Site) {k : Kind} {body : Configuration}
    (sent : Call.create k body ∈ ((r.register files).run s).calls) :
    ∃ reports, (r.reset s).outcome = .ok reports := by
  have noReset := r.create_not_mem_reset s k body
  have course := r.register_course files s
  generalize (r.register files).run s = result at course sent
  cases course with
  | resetFails => exact absurd sent noReset
  | lookupFails reset => exact ⟨_, reset⟩
  | ownershipFails reset => exact ⟨_, reset⟩
  | firstFails reset => exact ⟨_, reset⟩
  | secondFails reset => exact ⟨_, reset⟩
  | completes reset => exact ⟨_, reset⟩

/-- A registration that sends something has looked up a bundle and an owner before, and sends from
its two places only. -/
theorem calls_of_sent (files : FileSystem) (s : Site) {k : Kind} {body : Configuration}
    (sent : Call.create k body ∈ ((r.register files).run s).calls) :
    ∃ bundle owner placed, (r.lookup files s).outcome = .ok bundle ∧
      (r.ownership s).outcome = .ok owner ∧
      ((r.register files).run s).calls =
        (r.reset s).calls ++ ((r.lookup files s).calls ++ ((r.ownership s).calls ++ placed)) ∧
      (placed = (r.first s bundle owner).calls ∨
        placed = (r.first s bundle owner).calls ++ (r.second s bundle owner).calls) ∧
      Call.create k body ∈ placed := by
  have noReset := r.create_not_mem_reset s k body
  have noLookup := r.create_not_mem_lookup files s k body
  have noOwnership := r.create_not_mem_ownership s k body
  have course := r.register_course files s
  generalize (r.register files).run s = result at course sent ⊢
  cases course with
  | resetFails reset => exact absurd sent noReset
  | lookupFails reset lookup =>
      rcases List.mem_append.1 sent with h | h
      · exact absurd h noReset
      · exact absurd h noLookup
  | ownershipFails reset lookup ownership =>
      simp only [List.mem_append, noReset, noLookup, noOwnership, or_self] at sent
  | firstFails reset lookup ownership first =>
      simp only [List.mem_append, noReset, noLookup, noOwnership, false_or] at sent
      exact ⟨_, _, _, lookup, ownership, rfl, .inl rfl, sent⟩
  | secondFails reset lookup ownership first second =>
      simp only [List.mem_append, noReset, noLookup, noOwnership, false_or] at sent
      exact ⟨_, _, _, lookup, ownership, rfl, .inr rfl, List.mem_append.2 sent⟩
  | completes reset lookup ownership first second =>
      simp only [List.mem_append, noReset, noLookup, noOwnership, false_or] at sent
      exact ⟨_, _, _, lookup, ownership, rfl, .inr rfl, List.mem_append.2 sent⟩

/-- A registration whose five stages succeed comes to its end. -/
theorem register_completes (files : FileSystem) {s : Site} {reports : List Failure} {bundle : Bytes}
    {owner : OwnerResolution} (reset : (r.reset s).outcome = .ok reports)
    (lookup : (r.lookup files s).outcome = .ok bundle)
    (ownership : (r.ownership s).outcome = .ok owner)
    (first : (r.first s bundle owner).outcome = .ok ())
    (second : (r.second s bundle owner).outcome = .ok ()) :
    ((r.register files).run s).outcome = .ok () ∧
      ((r.register files).run s).state = (r.second s bundle owner).state ∧
      ((r.register files).run s).calls =
        (r.reset s).calls ++ ((r.lookup files s).calls ++ ((r.ownership s).calls ++
          ((r.first s bundle owner).calls ++ (r.second s bundle owner).calls))) := by
  have course := r.register_course files s
  generalize (r.register files).run s = result at course ⊢
  cases course with
  | resetFails failed => rw [reset] at failed; cases failed
  | lookupFails _ failed => rw [lookup] at failed; cases failed
  | ownershipFails _ _ failed => rw [ownership] at failed; cases failed
  | firstFails _ lookup' ownership' failed =>
      rw [lookup] at lookup'
      rw [ownership] at ownership'
      cases lookup'
      cases ownership'
      rw [first] at failed
      cases failed
  | secondFails _ lookup' ownership' _ failed =>
      rw [lookup] at lookup'
      rw [ownership] at ownership'
      cases lookup'
      cases ownership'
      rw [second] at failed
      cases failed
  | completes _ lookup' ownership' =>
      rw [lookup] at lookup'
      rw [ownership] at ownership'
      cases lookup'
      cases ownership'
      exact ⟨rfl, rfl, rfl⟩

end AdmissionHooks.Registrar
