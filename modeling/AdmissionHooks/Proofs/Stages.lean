import AdmissionHooks.Proofs.Outcome

/-!
# The stages of a registration

A registration calls the cluster at fixed stages, in a fixed order and once at each. It goes on from a
stage unless that stage ends it, so its calls are those of the stages up to the one that did. What ends
it is said stage by stage: any failed creation, a lookup that finds no bundle, and a deletion whose
failure came from no request. A failed lookup of the owner ends nothing.
-/

namespace AdmissionHooks

/-- What an outcome fails with, if it fails. -/
def failureOf {α : Type} : Except Failure α → Option Failure
  | .ok _ => none
  | .error e => some e

theorem failureOf_eq_some_iff {α : Type} {outcome : Except Failure α} {e : Failure} :
    failureOf outcome = some e ↔ outcome = .error e := by
  cases outcome <;> simp [failureOf]

/-- A place where a registration calls the cluster. -/
inductive Stage where
  | deletion (kind : Kind)
  | secretRead
  | deploymentRead
  | creation (kind : Kind)
  deriving DecidableEq

namespace Stage

/-- How going through stages ends, and which of them are gone through: all of them, unless one ends
the way. -/
def walk (ends : Stage → Option Failure) : List Stage → Except Failure Unit × List Stage
  | [] => (.ok (), [])
  | stage :: stages =>
      match ends stage with
      | some e => (.error e, [stage])
      | none => ((walk ends stages).1, stage :: (walk ends stages).2)

variable {ends : Stage → Option Failure}

theorem walk_of_some {stage : Stage} {e : Failure} (h : ends stage = some e) (rest : List Stage) :
    walk ends (stage :: rest) = (.error e, [stage]) := by
  simp [walk, h]

theorem walk_of_none {stage : Stage} (h : ends stage = none) (rest : List Stage) :
    walk ends (stage :: rest) = ((walk ends rest).1, stage :: (walk ends rest).2) := by
  simp [walk, h]

theorem walk_append_of_none {first : List Stage} (free : ∀ stage ∈ first, ends stage = none)
    (rest : List Stage) :
    walk ends (first ++ rest) = ((walk ends rest).1, first ++ (walk ends rest).2) := by
  induction first with
  | nil => rfl
  | cons stage first ih =>
      have here : ends stage = none := free stage List.mem_cons_self
      have later := ih fun other member => free other (List.mem_cons_of_mem stage member)
      rw [List.cons_append, walk_of_none here, later]
      rfl

theorem walk_prefix (ends : Stage → Option Failure) (stages : List Stage) :
    (walk ends stages).2 <+: stages := by
  induction stages with
  | nil => exact List.prefix_rfl
  | cons stage rest ih =>
      cases h : ends stage with
      | some e =>
          rw [walk_of_some h]
          exact ⟨rest, rfl⟩
      | none =>
          rw [walk_of_none h]
          exact (List.prefix_cons_inj stage).2 ih

theorem walk_ne_nil (ends : Stage → Option Failure) (stage : Stage) (rest : List Stage) :
    (walk ends (stage :: rest)).2 ≠ [] := by
  cases h : ends stage with
  | some e => simp [walk_of_some h]
  | none => simp [walk_of_none h]

end Stage

namespace Registrar

variable (r : Registrar)

/-- Only production asks for the deployment. -/
def ownerStages : List Stage :=
  match r.mode with
  | .production => [.deploymentRead]
  | .debug => []

/-- The stages of a registration, in order. -/
def stages : List Stage :=
  .deletion .mutating :: .deletion .validating :: .secretRead ::
    (r.ownerStages ++ [.creation .mutating, .creation .validating])

/-- The call of a stage, under the names of the client, with the configurations to be sent. -/
def callAt (bodies : Kind → Configuration) : Stage → Call
  | .deletion k => .delete k (r.configurationName k)
  | .secretRead => .readSecret (some r.secretName) r.space
  | .deploymentRead => .readDeployment r.deploymentName r.space
  | .creation k => .create k (bodies k)

/-- What the call of a stage fails with, if it fails. -/
def failureAt (c : Cluster) : Stage → Option Failure
  | .deletion k => c.deletionFailure k (r.configurationName k)
  | .secretRead => failureOf c.secret
  | .deploymentRead => failureOf c.deployment
  | .creation k => r.obstacle c k

/-- What a registration ends with at a stage, if it ends there. -/
def endAt (files : FileSystem) (c : Cluster) : Stage → Option Failure
  | .deletion k => r.uncaught c k
  | .secretRead => failureOf ((r.authority.resolve files).run c).outcome
  | .deploymentRead => none
  | .creation k => (r.obstacle c k).map (creationError k (r.configurationName k))

theorem calls_ownerStages (bodies : Kind → Configuration) :
    r.builder.ownerCalls = r.ownerStages.map (r.callAt bodies) := by
  unfold Builder.ownerCalls ownerStages
  rw [show r.builder.mode = r.mode from rfl]
  cases r.mode <;> rfl

theorem endAt_of_mem_ownerStages (files : FileSystem) (c : Cluster) :
    ∀ stage ∈ r.ownerStages, r.endAt files c stage = none := by
  intro stage member
  unfold ownerStages at member
  cases mode : r.mode with
  | debug => simp [mode] at member
  | production =>
      have only : stage = .deploymentRead := by simpa [mode] using member
      rw [only]
      rfl

theorem nodup_stages (bodies : Kind → Configuration) :
    (r.stages.map (r.callAt bodies)).Nodup := by
  unfold stages ownerStages
  cases r.mode <;> simp [callAt]

/-- A failure that came from no request ends the registration as it is, wherever it may end. -/
theorem endAt_of_uncovered (files : FileSystem) {c : Cluster} {stage : Stage} {e : Failure}
    (failed : r.failureAt c stage = some e) (uncovered : e.isRequestFailure = false)
    (decisive : stage ≠ .deploymentRead) : r.endAt files c stage = some e := by
  cases stage with
  | deletion k =>
      show (c.deletionFailure k (r.configurationName k)).filter _ = some e
      rw [show c.deletionFailure k (r.configurationName k) = some e from failed]
      simp [Option.filter, uncovered]
  | secretRead =>
      have read : c.secret = .error e := failureOf_eq_some_iff.1 failed
      simp [endAt, failureOf, AuthorityLookup.bundle, AuthorityLookup.secretBytes, read, uncovered]
  | deploymentRead => exact absurd rfl decisive
  | creation k =>
      show (r.obstacle c k).map _ = some e
      rw [show r.obstacle c k = some e from failed]
      simp [creationError, uncovered]

/-- A failed request to delete ends nothing. -/
theorem endAt_of_covered (files : FileSystem) {c : Cluster} {k : Kind} {e : Failure}
    (failed : r.failureAt c (.deletion k) = some e) (covered : e.isRequestFailure = true) :
    r.endAt files c (.deletion k) = none := by
  show (c.deletionFailure k (r.configurationName k)).filter _ = none
  rw [show c.deletionFailure k (r.configurationName k) = some e from failed]
  simp [Option.filter, covered]

/-! ## Each stage, from the cluster that the registration met -/

section

variable {r : Registrar} {s : Site} {bundle : Bytes} {target : Target}

/-- A reset ends the registration at the first of its two stages that does, or goes through both. -/
theorem reset_endings (files : FileSystem) (s : Site) :
    (∃ e, r.endAt files s.cluster (.deletion .mutating) = some e ∧
      (r.reset s).outcome = .error e ∧
      (r.reset s).calls = [.delete .mutating (r.configurationName .mutating)]) ∨
    (r.endAt files s.cluster (.deletion .mutating) = none ∧
      ∃ e, r.endAt files s.cluster (.deletion .validating) = some e ∧
        (r.reset s).outcome = .error e ∧
        (r.reset s).calls = [.delete .mutating (r.configurationName .mutating),
          .delete .validating (r.configurationName .validating)]) ∨
    ((∀ k, r.endAt files s.cluster (.deletion k) = none) ∧
      ∃ reports, (r.reset s).outcome = .ok reports) := by
  rcases r.deregister_endings s.cluster with first | second | ⟨caught, returned⟩
  · exact .inl first
  · exact .inr (.inl second)
  · exact .inr (.inr ⟨caught, _, returned⟩)

theorem failureOf_lookup (files : FileSystem) :
    failureOf (r.lookup files s).outcome = r.endAt files s.cluster .secretRead := by
  rw [outcome_lookup]
  simp [endAt, authority]

theorem failureOf_creation (c : Cluster) (k : Kind) (name : String) :
    failureOf (creation k name (c.created k name).1) =
      (c.creationFailure k name).map (creationError k name) := by
  rw [creation_created]
  cases c.creationFailure k name <;> rfl

/-- The first configuration is sent, and what becomes of it is known from the cluster met. -/
theorem first_of_target (files : FileSystem) (owner : OwnerResolution) (given : bundle ≠ [])
    (found : r.builder.target .mutating = .ok target)
    (clean : (r.resetSite s).cluster = r.cleared s.cluster) :
    failureOf (r.first s bundle owner).outcome =
        r.endAt files s.cluster (.creation .mutating) ∧
      (r.first s bundle owner).state.cluster =
        ((r.cleared s.cluster).created .mutating (r.configurationName .mutating)).2 ∧
      (r.first s bundle owner).calls =
        [.create .mutating (r.builder.configuration .mutating target bundle owner)] := by
  have placed := r.place_of_target owner (r.resetSite s) given found
  rw [clean] at placed
  unfold first
  rw [placed]
  refine ⟨?_, rfl, rfl⟩
  rw [failureOf_creation, creationFailure_cleared]
  rfl

theorem second_of_target (files : FileSystem) (owner : OwnerResolution) (given : bundle ≠ [])
    (found : r.builder.target .validating = .ok target)
    (before : (r.first s bundle owner).state.cluster =
      ((r.cleared s.cluster).created .mutating (r.configurationName .mutating)).2) :
    failureOf (r.second s bundle owner).outcome =
        r.endAt files s.cluster (.creation .validating) ∧
      (r.second s bundle owner).calls =
        [.create .validating (r.builder.configuration .validating target bundle owner)] := by
  have placed := r.place_of_target owner (r.first s bundle owner).state given found
  rw [before] at placed
  unfold second
  rw [placed]
  refine ⟨?_, rfl⟩
  rw [failureOf_creation, creationFailure_second]
  rfl

theorem clean_of_reset {reports : List Failure} (reset : (r.reset s).outcome = .ok reports) :
    (r.resetSite s).cluster = r.cleared s.cluster :=
  (r.state_deregister_of_ok reset).1

/-- A reset that returns has gone through both of its stages. -/
theorem walk_of_reset (files : FileSystem) {reports : List Failure}
    (reset : (r.reset s).outcome = .ok reports) (rest : List Stage) :
    Stage.walk (r.endAt files s.cluster) (.deletion .mutating :: .deletion .validating :: rest) =
      ((Stage.walk (r.endAt files s.cluster) rest).1,
        .deletion .mutating :: .deletion .validating ::
          (Stage.walk (r.endAt files s.cluster) rest).2) := by
  rcases r.reset_endings files s with ⟨e, -, failed, -⟩ | ⟨-, e, -, failed, -⟩ | ⟨free, -⟩
  · rw [reset] at failed
    cases failed
  · rw [reset] at failed
    cases failed
  · rw [Stage.walk_of_none (free .mutating), Stage.walk_of_none (free .validating)]

/-- A lookup that finds a bundle is followed by the lookup of the owner, which ends nothing. -/
theorem walk_of_lookup (files : FileSystem) (lookup : (r.lookup files s).outcome = .ok bundle)
    (rest : List Stage) :
    Stage.walk (r.endAt files s.cluster) (.secretRead :: (r.ownerStages ++ rest)) =
      ((Stage.walk (r.endAt files s.cluster) rest).1,
        .secretRead :: (r.ownerStages ++ (Stage.walk (r.endAt files s.cluster) rest).2)) := by
  have free : r.endAt files s.cluster .secretRead = none := by
    rw [← failureOf_lookup, lookup]
    rfl
  rw [Stage.walk_of_none free,
    Stage.walk_append_of_none (r.endAt_of_mem_ownerStages files s.cluster)]

end

/-! ## The whole way -/

/-- A registration whose configurations have a target, and whose owner is found, goes through its
stages until one ends it. -/
theorem register_walk (files : FileSystem) (s : Site) {target : Kind → Target} {bundle : Bytes}
    {owner : OwnerResolution} (found : ∀ k, r.builder.target k = .ok (target k))
    (owned : r.builder.ownerFor s.cluster.deployment = .ok owner)
    (bundled : ∀ bytes, (r.lookup files s).outcome = .ok bytes → bytes = bundle) :
    let walk := Stage.walk (r.endAt files s.cluster) r.stages
    let bodies := fun k => r.builder.configuration k (target k) bundle owner
    ((r.register files).run s).calls = walk.2.map (r.callAt bodies) ∧
      ((r.register files).run s).outcome = walk.1 := by
  intro walk bodies
  have deletions {reports : List Failure} (reset : (r.reset s).outcome = .ok reports) :
      (r.reset s).calls =
        [.deletion .mutating, .deletion .validating].map (r.callAt bodies) :=
    (r.state_deregister_of_ok reset).2
  have reads : (r.lookup files s).calls = [.secretRead].map (r.callAt bodies) :=
    r.calls_lookup files s
  have asks : (r.ownership s).calls = r.ownerStages.map (r.callAt bodies) := by
    rw [calls_ownership, calls_ownerStages]
  have course := r.register_course files s
  generalize (r.register files).run s = result at course ⊢
  cases course with
  | @resetFails e reset =>
      rcases r.reset_endings files s with
        ⟨e', ends, failed, calls⟩ | ⟨free, e', ends, failed, calls⟩ | ⟨-, reports, returned⟩
      · rw [reset] at failed
        cases failed
        have way : walk = (.error e, [.deletion .mutating]) := Stage.walk_of_some ends _
        rw [way]
        exact ⟨calls, rfl⟩
      · rw [reset] at failed
        cases failed
        have way : walk = (.error e, [.deletion .mutating, .deletion .validating]) := by
          show Stage.walk _ (_ :: _) = _
          rw [Stage.walk_of_none free, Stage.walk_of_some ends]
        rw [way]
        exact ⟨calls, rfl⟩
      · rw [reset] at returned
        cases returned
  | @lookupFails reports e reset lookup =>
      have ends : r.endAt files s.cluster .secretRead = some e := by
        rw [← failureOf_lookup, lookup]
        rfl
      have way : walk = (.error e, [.deletion .mutating, .deletion .validating, .secretRead]) := by
        show Stage.walk _ (_ :: _) = _
        rw [walk_of_reset files reset, Stage.walk_of_some ends]
      rw [way, deletions reset, reads]
      exact ⟨rfl, rfl⟩
  | @ownershipFails reports bytes e reset lookup ownership =>
      rw [outcome_ownership, owned] at ownership
      cases ownership
  | @firstFails reports bytes owner' e reset lookup ownership first =>
      cases bundled bytes lookup
      rw [outcome_ownership, owned] at ownership
      cases ownership
      have given := r.ne_nil_of_lookup files s lookup
      obtain ⟨told, -, sent⟩ :=
        first_of_target files owner given (found .mutating) (clean_of_reset reset)
      rw [first] at told
      have way : walk = (.error e, .deletion .mutating :: .deletion .validating :: .secretRead ::
          (r.ownerStages ++ [.creation .mutating])) := by
        show Stage.walk _ (_ :: _) = _
        rw [walk_of_reset files reset, walk_of_lookup files lookup, Stage.walk_of_some told.symm]
      rw [way, deletions reset, reads, asks, sent]
      simp [callAt, bodies]
  | @secondFails reports bytes owner' e reset lookup ownership first second =>
      cases bundled bytes lookup
      rw [outcome_ownership, owned] at ownership
      cases ownership
      have given := r.ne_nil_of_lookup files s lookup
      obtain ⟨free, before, sent⟩ :=
        first_of_target files owner given (found .mutating) (clean_of_reset reset)
      obtain ⟨told, sent'⟩ := second_of_target files owner given (found .validating) before
      rw [first] at free
      rw [second] at told
      have way : walk = (.error e, r.stages) := by
        show Stage.walk _ (_ :: _) = _
        rw [walk_of_reset files reset, walk_of_lookup files lookup, Stage.walk_of_none free.symm,
          Stage.walk_of_some told.symm]
        rfl
      rw [way, deletions reset, reads, asks, sent, sent']
      simp [stages, callAt, bodies]
  | @completes reports bytes owner' reset lookup ownership first second =>
      cases bundled bytes lookup
      rw [outcome_ownership, owned] at ownership
      cases ownership
      have given := r.ne_nil_of_lookup files s lookup
      obtain ⟨free, before, sent⟩ :=
        first_of_target files owner given (found .mutating) (clean_of_reset reset)
      obtain ⟨free', sent'⟩ := second_of_target files owner given (found .validating) before
      rw [first] at free
      rw [second] at free'
      have way : walk = (.ok (), r.stages) := by
        show Stage.walk _ (_ :: _) = _
        rw [walk_of_reset files reset, walk_of_lookup files lookup, Stage.walk_of_none free.symm,
          Stage.walk_of_none free'.symm]
        rfl
      rw [way, deletions reset, reads, asks, sent, sent']
      simp [stages, callAt, bodies]

/-- The calls of a registration are those of its stages up to the one that ends it: some of the first
stages, in order and each once, under the names of the client. It ends with what ended that stage, and
returns when it goes through all of them. Failed requests to delete and failed lookups of the owner end
nothing, and what came from no request is not made a report of. -/
theorem register_stages (r : Registrar) (files : FileSystem) (s : Site) (named : r.NamesService)
    (read : r.mode = .production → ∀ e, s.cluster.deployment = .error e → e.isStop = false) :
    let done := (r.register files).run s
    let ends := r.endAt files s.cluster
    (∃ bodies : Kind → Configuration,
      (∀ k, (bodies k).kind = k ∧ (bodies k).name = k.configurationName r.mode) ∧
      done.calls = (Stage.walk ends r.stages).2.map (r.callAt bodies) ∧
      done.calls <+: r.stages.map (r.callAt bodies)) ∧
    done.outcome = (Stage.walk ends r.stages).1 ∧
    done.calls ≠ [] ∧ done.calls.Nodup ∧
    (∀ k e, r.failureAt s.cluster (.deletion k) = some e → e.isRequestFailure = true →
      ends (.deletion k) = none) ∧
    ends .deploymentRead = none ∧
    ∀ stage e, r.failureAt s.cluster stage = some e → e.isRequestFailure = false →
      stage ≠ .deploymentRead → ends stage = some e := by
  intro done ends
  have target (k : Kind) := target_of_namesService named k
  obtain ⟨owner, owned⟩ := r.ownerFor_of_read read
  obtain ⟨bundle, bundled⟩ : ∃ bundle, ∀ bytes, (r.lookup files s).outcome = .ok bytes →
      bytes = bundle := by
    cases (r.lookup files s).outcome with
    | error e => exact ⟨[], fun bytes found => by cases found⟩
    | ok bundle => exact ⟨bundle, fun bytes found => (Except.ok.inj found).symm⟩
  obtain ⟨calls, outcome⟩ :=
    r.register_walk files s (fun k => (target k).choose_spec) owned bundled
  let bodies (k : Kind) := r.builder.configuration k (target k).choose bundle owner
  have before : done.calls <+: r.stages.map (r.callAt bodies) := by
    rw [show done.calls = _ from calls]
    exact (Stage.walk_prefix ends r.stages).map _
  refine ⟨⟨bodies, fun k => ⟨rfl, rfl⟩, calls, before⟩, outcome, ?_,
    before.sublist.nodup (r.nodup_stages bodies), fun k e => r.endAt_of_covered files, rfl,
    fun stage e => r.endAt_of_uncovered files⟩
  rw [show done.calls = _ from calls]
  simp [Stage.walk_ne_nil, stages]

/-- The first deletion and the read of the deployment fail, and then the first creation, with no
failure of a request. -/
def boomingCluster : Cluster :=
  { names := ⟨[Kind.mutating.configurationName .production], []⟩
    secret := .ok (some [(rootCaSecretKey, "QUJD")])
    deployment := .error (.raised "RuntimeError" "no deployment")
    deleteFaults := ⟨[some (.api (.int 500) (.str "Internal Server Error") .null)], []⟩
    createFaults := ⟨[some (.raised "RuntimeError" "boom")], []⟩ }

theorem register_stages_boomingCluster :
    let done := (sampleRegistrar.register {}).run ⟨boomingCluster, none⟩
    done.outcome = .error (.raised "RuntimeError" "boom") ∧
      ∃ body, body.name = Kind.mutating.configurationName .production ∧
        done.calls =
          [.delete .mutating (Kind.mutating.configurationName .production),
            .delete .validating (Kind.validating.configurationName .production),
            .readSecret (some "hooks.policies.svc.kube-policy-tls-ca") (some "policies"),
            .readDeployment (some "controller") (some "policies"), .create .mutating body] := by
  intro done
  obtain ⟨⟨bodies, told, calls, -⟩, outcome, -⟩ := register_stages sampleRegistrar {}
    ⟨boomingCluster, none⟩ (fun _ => ⟨rfl, rfl⟩)
    (by intro _ e failed; cases failed; rfl)
  exact ⟨outcome, bodies .mutating, (told .mutating).2, calls⟩

end Registrar

end AdmissionHooks
