import AdmissionHooks.Proofs.Deregistration

/-!
# The outcome of a registration

When every call fails with request failures at most, what a registration ends with, and which names
it leaves, follow from the cluster that it meets: from whether a bundle is found, and from the next
fault of each of the four verbs. A deletion that met a fault is not reported, but it comes back as a
conflict when the name that it left is created again.
-/

namespace AdmissionHooks

namespace Registrar

variable (r : Registrar)

/-- In production the service is named in full, as every registrar made from settings names it. -/
def NamesService : Prop :=
  r.mode = .production → r.serviceName.isSome = true ∧ r.space.isSome = true

theorem target_of_namesService {r : Registrar} (named : r.NamesService) (k : Kind) :
    ∃ target, r.builder.target k = .ok target :=
  Builder.target_of_namesService (b := r.builder) named k

/-- The owner is found wherever the read of the deployment is not stopped, and in debug in any case. -/
theorem ownerFor_of_read (r : Registrar) {answer : Except Failure (Option Metadata)}
    (read : r.mode = .production → ∀ e, answer = .error e → e.isStop = false) :
    ∃ owner, r.builder.ownerFor answer = .ok owner := by
  cases mode : r.mode with
  | production => exact r.builder.ownerFor_of_noStop (read mode)
  | debug =>
      refine ⟨OwnerResolution.notApplicable, ?_⟩
      unfold Builder.ownerFor
      rw [show r.builder.mode = .debug from mode]

/-- What the creation of a kind fails with after a reset of the cluster, if it fails: with its own
fault, or with a conflict when the name outlived the reset. -/
def obstacle (c : Cluster) (k : Kind) : Option Failure :=
  match c.createFault k with
  | some e => some e
  | none =>
      if (c.deleteFault k).isSome && c.has k (r.configurationName k) then some Failure.conflict
      else none

theorem obstacle_eq_none_iff (c : Cluster) (k : Kind) :
    r.obstacle c k = none ↔
      c.createFault k = none ∧
        (c.deleteFault k = none ∨ r.configurationName k ∉ c.names.get k) := by
  unfold obstacle
  cases c.createFault k with
  | some e => simp
  | none => cases c.deleteFault k <;> simp [Cluster.has]

theorem creationFailure_cleared (c : Cluster) (k : Kind) :
    (r.cleared c).creationFailure k (r.configurationName k) = r.obstacle c k := by
  unfold Cluster.creationFailure obstacle
  have fault : (r.cleared c).createFault k = c.createFault k := by simp [cleared]
  rw [fault]
  cases c.createFault k with
  | some e => rfl
  | none =>
      have presence := r.mem_cleared c k (r.configurationName k)
      cases hd : c.deleteFault k <;> simp_all [Cluster.has]

/-- The first creation changes neither the fault nor the name that the second one meets. -/
theorem creationFailure_second (c : Cluster) :
    ((r.cleared c).created .mutating (r.configurationName .mutating)).2.creationFailure .validating
        (r.configurationName .validating) = r.obstacle c .validating := by
  rw [← creationFailure_cleared]
  exact Cluster.creationFailure_congr (Cluster.createFault_created_of_ne _ _ _ (by decide))
    (by rw [Cluster.mem_created]; simp)

/-! ## Steps that meet request failures alone -/

/-- What a creation that failed ends a registration with: a report on a failed request, and any other
failure as it is. -/
def creationError (k : Kind) (name : String) (e : Failure) : Failure :=
  if e.isRequestFailure then Failure.wrap (createFailed k.resource name) e else e

theorem creation_created (c : Cluster) (k : Kind) (name : String) :
    creation k name (c.created k name).1 =
      match c.creationFailure k name with
      | some e => .error (creationError k name e)
      | none => .ok () := by
  rw [Cluster.created_fst]
  cases c.creationFailure k name with
  | none => rfl
  | some e =>
      by_cases request : e.isRequestFailure = true
      · simp [creation, creationError, request]
      · simp [creation, creationError, request]

theorem creation_of_requests {c : Cluster} {k : Kind} (name : String)
    (requests : ∀ e, c.createFault k = some e → e.isRequestFailure = true) :
    creation k name (c.created k name).1 =
      match c.creationFailure k name with
      | some e => .error (Failure.wrap (createFailed k.resource name) e)
      | none => .ok () := by
  rw [creation_created]
  unfold Cluster.creationFailure
  cases fault : c.createFault k with
  | some e => simp [creationError, requests e fault]
  | none => by_cases h : c.has k name = true <;> simp [creationError, h, Failure.conflict,
      Failure.isRequestFailure]

theorem creation_eq_ok_iff {c : Cluster} {k : Kind} (name : String) :
    creation k name (c.created k name).1 = .ok () ↔ c.creationFailure k name = none := by
  rw [creation_created]
  cases c.creationFailure k name <;> simp

theorem place_of_namesService {r : Registrar} (named : r.NamesService) (k : Kind) {bundle : Bytes}
    (given : bundle ≠ []) (owner : OwnerResolution) (s : Site) :
    ((r.place k bundle owner).run s).outcome =
        creation k (r.configurationName k) (s.cluster.created k (r.configurationName k)).1 ∧
      ((r.place k bundle owner).run s).state.cluster =
        (s.cluster.created k (r.configurationName k)).2 ∧
      ∃ body, ((r.place k bundle owner).run s).calls = [.create k body] := by
  obtain ⟨target, found⟩ := target_of_namesService named k
  rw [r.place_of_target owner s given found]
  exact ⟨rfl, rfl, _, rfl⟩

/-! ## The ending -/

/-- The report on a creation that failed. -/
def refusal (k : Kind) (cause : Failure) : Failure :=
  Failure.wrap (createFailed k.resource (r.configurationName k)) cause

/-- How placing a kind ends, from what its creation fails with. -/
def verdict (k : Kind) : Option Failure → Except Failure Unit
  | some cause => .error (r.refusal k cause)
  | none => .ok ()

theorem verdict_eq_ok_iff {k : Kind} {o : Option Failure} :
    r.verdict k o = .ok () ↔ o = none := by
  cases o <;> simp [verdict]

theorem verdict_eq_error_iff {k : Kind} {o : Option Failure} {e : Failure} :
    r.verdict k o = .error e ↔ ∃ cause, o = some cause ∧ r.refusal k cause = e := by
  cases o <;> simp [verdict]

/-- How a registration ends on a cluster that fails with request failures at most: the outcome, and
the cluster that it leaves. -/
inductive Ending (files : FileSystem) (c : Cluster) : Except Failure Unit → Cluster → Prop where
  | noBundle {e} (bundle : AuthorityLookup.bundle r.tls files c.secret = .error e) :
      Ending files c (.error e) (r.cleared c)
  | firstRefused {bytes cause} (bundle : AuthorityLookup.bundle r.tls files c.secret = .ok bytes)
      (refused : r.obstacle c .mutating = some cause) :
      Ending files c (.error (r.refusal .mutating cause))
        ((r.cleared c).created .mutating (r.configurationName .mutating)).2
  | secondRefused {bytes cause} (bundle : AuthorityLookup.bundle r.tls files c.secret = .ok bytes)
      (free : r.obstacle c .mutating = none) (refused : r.obstacle c .validating = some cause) :
      Ending files c (.error (r.refusal .validating cause))
        (((r.cleared c).created .mutating (r.configurationName .mutating)).2.created .validating
          (r.configurationName .validating)).2
  | registered {bytes} (bundle : AuthorityLookup.bundle r.tls files c.secret = .ok bytes)
      (free : ∀ k, r.obstacle c k = none) :
      Ending files c (.ok ())
        (((r.cleared c).created .mutating (r.configurationName .mutating)).2.created .validating
          (r.configurationName .validating)).2

variable {r}

theorem first_of_ordinary {s : Site} (named : r.NamesService) (ordinary : s.cluster.Ordinary)
    (clean : (r.resetSite s).cluster = r.cleared s.cluster) {bundle : Bytes} (given : bundle ≠ [])
    (owner : OwnerResolution) :
    (r.first s bundle owner).outcome =
        r.verdict .mutating (r.obstacle s.cluster .mutating) ∧
      (r.first s bundle owner).state.cluster =
        ((r.cleared s.cluster).created .mutating (r.configurationName .mutating)).2 := by
  obtain ⟨outcome, state, -⟩ :=
    place_of_namesService named .mutating given owner (r.resetSite s)
  rw [clean] at outcome state
  refine ⟨?_, state⟩
  unfold first
  rw [outcome, creation_of_requests, creationFailure_cleared]
  · rfl
  · intro e fault
    exact ordinary.of_createFault (by simpa [cleared] using fault)

theorem second_of_ordinary {s : Site} (named : r.NamesService) (ordinary : s.cluster.Ordinary)
    {bundle : Bytes} {owner : OwnerResolution} (given : bundle ≠ [])
    (before : (r.first s bundle owner).state.cluster =
      ((r.cleared s.cluster).created .mutating (r.configurationName .mutating)).2) :
    (r.second s bundle owner).outcome =
        r.verdict .validating (r.obstacle s.cluster .validating) ∧
      (r.second s bundle owner).state.cluster =
        (((r.cleared s.cluster).created .mutating (r.configurationName .mutating)).2.created
          .validating (r.configurationName .validating)).2 := by
  obtain ⟨outcome, state, -⟩ :=
    place_of_namesService named .validating given owner (r.first s bundle owner).state
  rw [before] at outcome state
  have fault : ((r.cleared s.cluster).created .mutating
      (r.configurationName .mutating)).2.createFault .validating =
        (r.cleared s.cluster).createFault .validating :=
    Cluster.createFault_created_of_ne _ _ _ (by decide)
  refine ⟨?_, state⟩
  unfold second
  rw [outcome, creation_of_requests, creationFailure_second]
  · rfl
  · rw [fault]
    intro e fault
    exact ordinary.of_createFault (by simpa [cleared] using fault)

theorem register_ending {s : Site} (files : FileSystem) (named : r.NamesService)
    (ordinary : s.cluster.Ordinary) :
    r.Ending files s.cluster ((r.register files).run s).outcome
      ((r.register files).run s).state.cluster := by
  have done := r.deregister_of_requests (c := s.cluster) fun k e => ordinary.of_deleteFault
  have clean : (r.resetSite s).cluster = r.cleared s.cluster := (r.state_deregister_of_ok done).1
  have course := r.register_course files s
  generalize (r.register files).run s = result at course ⊢
  cases course with
  | resetFails reset => rw [Registrar.reset, done] at reset; cases reset
  | lookupFails _ lookup =>
      rw [outcome_lookup] at lookup
      dsimp only
      rw [clean]
      exact .noBundle lookup
  | ownershipFails _ _ ownership =>
      obtain ⟨owner, ok⟩ := r.builder.ownerFor_of_noStop ordinary.deployment
      rw [outcome_ownership, ok] at ownership
      cases ownership
  | @firstFails _ bundle owner e _ lookup _ first =>
      rw [outcome_lookup] at lookup
      obtain ⟨outcome, state⟩ := first_of_ordinary named ordinary clean
        (AuthorityLookup.bundle_ne_nil files lookup) owner
      rw [outcome] at first
      obtain ⟨cause, refused, rfl⟩ := (r.verdict_eq_error_iff).1 first
      dsimp only
      rw [state]
      exact .firstRefused lookup refused
  | @secondFails _ bundle owner e _ lookup _ first second =>
      rw [outcome_lookup] at lookup
      have given := AuthorityLookup.bundle_ne_nil files lookup
      obtain ⟨before, state⟩ := first_of_ordinary named ordinary clean given owner
      obtain ⟨outcome, state⟩ := second_of_ordinary named ordinary given state
      rw [before] at first
      rw [outcome] at second
      obtain ⟨cause, refused, rfl⟩ := (r.verdict_eq_error_iff).1 second
      dsimp only
      rw [state]
      exact .secondRefused lookup ((r.verdict_eq_ok_iff).1 first) refused
  | @completes _ bundle owner _ lookup _ first second =>
      rw [outcome_lookup] at lookup
      have given := AuthorityLookup.bundle_ne_nil files lookup
      obtain ⟨before, state⟩ := first_of_ordinary named ordinary clean given owner
      obtain ⟨outcome, state⟩ := second_of_ordinary named ordinary given state
      rw [before] at first
      rw [outcome] at second
      dsimp only
      rw [state]
      refine .registered lookup fun k => ?_
      cases k with
      | mutating => exact (r.verdict_eq_ok_iff).1 first
      | validating => exact (r.verdict_eq_ok_iff).1 second

/-- The first creation that fails after a reset of the cluster, and what it fails with. -/
def firstObstacle (r : Registrar) (c : Cluster) : Option (Kind × Failure) :=
  match r.obstacle c .mutating with
  | some e => some (.mutating, e)
  | none => (r.obstacle c .validating).map fun e => (.validating, e)

namespace Ending

variable {files : FileSystem} {c d : Cluster} {outcome : Except Failure Unit}

theorem outcome_eq_ok_iff (h : r.Ending files c outcome d) :
    outcome = .ok () ↔
      (∃ bytes, AuthorityLookup.bundle r.tls files c.secret = .ok bytes) ∧
        r.obstacle c .mutating = none ∧ r.obstacle c .validating = none := by
  cases h with
  | noBundle bundle => simp [bundle]
  | firstRefused bundle refused => simp [refused]
  | secondRefused bundle free refused => simp [refused]
  | registered bundle free => simp [bundle, free]

theorem outcome_of_bundle {e : Failure} (h : r.Ending files c outcome d)
    (none : AuthorityLookup.bundle r.tls files c.secret = .error e) : outcome = .error e := by
  cases h with
  | noBundle bundle => rw [bundle] at none; cases none; rfl
  | firstRefused bundle => rw [bundle] at none; cases none
  | secondRefused bundle => rw [bundle] at none; cases none
  | registered bundle => rw [bundle] at none; cases none

theorem error_cases {e : Failure} (h : r.Ending files c (.error e) d) :
    AuthorityLookup.bundle r.tls files c.secret = .error e ∨
      ∃ bytes k cause, AuthorityLookup.bundle r.tls files c.secret = .ok bytes ∧
        r.firstObstacle c = some (k, cause) ∧ e = r.refusal k cause := by
  cases h with
  | noBundle bundle => exact .inl bundle
  | @firstRefused bytes cause bundle refused =>
      exact .inr ⟨bytes, .mutating, cause, bundle, by simp [firstObstacle, refused], rfl⟩
  | @secondRefused bytes cause bundle free refused =>
      exact .inr ⟨bytes, .validating, cause, bundle, by simp [firstObstacle, free, refused], rfl⟩

theorem mem_iff (h : r.Ending files c outcome d) (k : Kind) (name : String) :
    name ∈ d.names.get k ↔
      name ∈ (r.cleared c).names.get k ∨
        (name = r.configurationName k ∧
          (∃ bytes, AuthorityLookup.bundle r.tls files c.secret = .ok bytes) ∧
          r.obstacle c .mutating = none ∧ r.obstacle c k = none) := by
  cases h with
  | noBundle bundle => simp [bundle]
  | firstRefused bundle refused =>
      rw [Cluster.mem_created, creationFailure_cleared]
      simp [refused]
  | secondRefused bundle free refused =>
      rw [Cluster.mem_created, Cluster.mem_created, creationFailure_second, creationFailure_cleared]
      cases k <;> simp [bundle, free, refused]
  | registered bundle free =>
      rw [Cluster.mem_created, Cluster.mem_created, creationFailure_second, creationFailure_cleared]
      cases k <;> simp [bundle, free]

end Ending

/-- A registration returns exactly when a bundle is found, neither creation meets a fault, and
neither deletion left a name behind. Otherwise it has found no bundle, or it tells of the first
creation that failed. A kind keeps every name but its own; its own is there afterwards when it
outlived the reset or was created. -/
theorem register_outcome (r : Registrar) (files : FileSystem) (s : Site) (named : r.NamesService)
    (noNull : ∀ path, r.tls.file = some path → '\x00' ∉ path.toList)
    (ordinary : s.cluster.Ordinary) :
    let c := s.cluster
    let result := (r.register files).run s
    let bundle := ((r.authority.resolve files).run c).outcome
    (result.outcome = .ok () ↔
      (∃ bytes, bundle = .ok bytes) ∧
        c.createFault .mutating = none ∧ c.createFault .validating = none ∧
        (c.deleteFault .mutating = none ∨
          r.configurationName .mutating ∉ c.names.get .mutating) ∧
        (c.deleteFault .validating = none ∨
          r.configurationName .validating ∉ c.names.get .validating)) ∧
    (∀ e, result.outcome = .error e →
      (bundle = .error Failure.noCa ∧ e = Failure.noCa) ∨
      ∃ bytes k cause, bundle = .ok bytes ∧ r.firstObstacle c = some (k, cause) ∧
        e = Failure.wrap (createFailed k.resource (r.configurationName k)) cause ∧
        e.name = "KubernetesAPIError" ∧ e.cause? = some cause ∧ e.status = cause.answerStatus) ∧
    ∀ k name, name ∈ result.state.cluster.names.get k ↔
      (name ∈ c.names.get k ∧ (name ≠ r.configurationName k ∨ c.deleteFault k ≠ none)) ∨
      (name = r.configurationName k ∧ (∃ bytes, bundle = .ok bytes) ∧
        r.obstacle c .mutating = none ∧ r.obstacle c k = none) := by
  intro c result bundle
  have ending := register_ending files named ordinary
  have found : bundle = AuthorityLookup.bundle r.tls files c.secret := by simp [bundle, authority]
  refine ⟨?_, ?_, ?_⟩
  · rw [ending.outcome_eq_ok_iff, obstacle_eq_none_iff, obstacle_eq_none_iff, ← found]
    constructor
    · rintro ⟨given, ⟨m, dm⟩, v, dv⟩
      exact ⟨given, m, v, dm, dv⟩
    · rintro ⟨given, m, v, dm, dv⟩
      exact ⟨given, ⟨m, dm⟩, v, dv⟩
  · intro e failed
    rw [show ((r.register files).run s).outcome = .error e from failed] at ending
    rw [found]
    rcases ending.error_cases with none | ⟨bytes, k, cause, given, first, rfl⟩
    · rcases AuthorityLookup.bundle_cases files r.tls ordinary.secret with
        ⟨bytes, -, given⟩ | noCa | ⟨-, -, path, named, null⟩
      · rw [given] at none
        cases none
      · rw [noCa] at none
        cases none
        exact .inl ⟨noCa, rfl⟩
      · exact absurd null (noNull path named)
    · exact .inr ⟨bytes, k, cause, given, first, rfl, Failure.name_wrap _ _,
        Failure.cause?_wrap _ _, Failure.status_wrap _ _⟩
  · intro k name
    rw [ending.mem_iff, mem_cleared, ← found]

def sampleRegistrar : Registrar :=
  { space := some "policies", serviceName := some "hooks", deploymentName := some "controller" }

/-- The mutating configuration is there, and its deletion meets a fault. -/
def stubbornCluster : Cluster :=
  { names := ⟨[Kind.mutating.configurationName .production], []⟩
    secret := .ok (some [(rootCaSecretKey, "QUJD")])
    deleteFaults := ⟨[some (.api (.int 500) (.str "Internal Server Error") .null)], []⟩ }

theorem stubbornCluster_ordinary : stubbornCluster.Ordinary where
  deletions := by
    intro k e h
    cases k <;> simp_all [stubbornCluster, ByKind.get, Failure.isRequestFailure]
  creations := by
    intro k e h
    cases k <;> simp [stubbornCluster, ByKind.get] at h
  secret := by
    intro e h
    cases h
  deployment := by
    intro e h
    cases h
    rfl

theorem register_outcome_stubbornCluster :
    ∃ e, ((sampleRegistrar.register {}).run ⟨stubbornCluster, none⟩).outcome = .error e ∧
      e.cause? = some Failure.conflict ∧ e.status = .int 409 := by
  obtain ⟨returns, raises, -⟩ := register_outcome sampleRegistrar {} ⟨stubbornCluster, none⟩
    (fun _ => ⟨rfl, rfl⟩) (by intro path h; cases h) stubbornCluster_ordinary
  have left : ¬ (stubbornCluster.deleteFault .mutating = none ∨
      sampleRegistrar.configurationName .mutating ∉ stubbornCluster.names.get .mutating) := by
    decide
  cases h : ((sampleRegistrar.register {}).run ⟨stubbornCluster, none⟩).outcome with
  | ok u => exact absurd (returns.1 h).2.2.2.1 left
  | error e =>
      rcases raises e h with ⟨none, -⟩ | ⟨bytes, k, cause, -, first, -, -, told, status⟩
      · cases none
      · cases first
        exact ⟨e, rfl, told, status⟩

end Registrar

end AdmissionHooks
