import AdmissionHooks.Controller
import AdmissionHooks.Proofs.Outcome

/-!
# The start

A start loads a client configuration, makes a registrar of it and registers. Everything that goes
wrong on the way leaves the handler as a permanent failure, except where the path of the client's
authority has a null character and is asked for.
-/

namespace AdmissionHooks

namespace ClientSources

variable (sources : ClientSources) {σ : Type}

/-- What the sources come to: the file counts where the cluster has no configuration to give. -/
def loaded : Except Failure ClientConfiguration :=
  match sources.inCluster with
  | .ok found => .ok found
  | .error e => if e.isConfiguration then sources.kubeconfig else .error e

/-- The sources give a configuration or say that they have none. -/
structure Answering : Prop where
  inCluster : ∀ e, sources.inCluster = .error e → e.isConfiguration = true
  kubeconfig : ∀ e, sources.kubeconfig = .error e → e.isConfiguration = true

theorem run_loadFile (file : Option String) (s : σ) :
    ∃ rs, (sources.loadFile file).run s =
      ⟨sources.kubeconfig, s, [.loadKubeconfig (nonEmpty file)], rs⟩ := by
  unfold loadFile
  rw [Action.run_call_bind]
  cases h : sources.kubeconfig with
  | ok found => exact ⟨_, rfl⟩
  | error e => by_cases configuration : e.isConfiguration = true <;>
      exact ⟨_, by simp [configuration, Action.run_log_bind]; rfl⟩

/-- The calls of a load: the file is asked for only where the cluster has no configuration to give. -/
def loadCalls (file : Option String) : List Call :=
  match sources.inCluster with
  | .ok _ => [.loadInCluster]
  | .error e =>
      if e.isConfiguration then [.loadInCluster, .loadKubeconfig (nonEmpty file)]
      else [.loadInCluster]

theorem isLoad_of_mem_loadCalls {file : Option String} {call : Call}
    (made : call ∈ sources.loadCalls file) : call.isLoad = true := by
  unfold loadCalls at made
  split at made
  · cases List.mem_singleton.1 made
    rfl
  · split at made
    · simp only [List.mem_cons, List.not_mem_nil, or_false] at made
      rcases made with rfl | rfl <;> rfl
    · cases List.mem_singleton.1 made
      rfl

theorem run_load (file : Option String) (s : σ) :
    ∃ rs, (sources.load file).run s = ⟨sources.loaded, s, sources.loadCalls file, rs⟩ := by
  unfold load loaded loadCalls
  rw [Action.run_call_bind]
  cases h : sources.inCluster with
  | ok found => exact ⟨_, rfl⟩
  | error e =>
      by_cases configuration : e.isConfiguration = true
      · obtain ⟨rs, second⟩ := sources.run_loadFile file s
        exact ⟨rs, by simp only [configuration, if_true, second]⟩
      · exact ⟨[], by simp only [configuration]; rfl⟩

theorem Answering.of_loaded {sources : ClientSources} (answering : sources.Answering) {e : Failure}
    (h : sources.loaded = .error e) : e.isConfiguration = true := by
  unfold loaded at h
  cases first : sources.inCluster with
  | ok found =>
      rw [first] at h
      cases h
  | error e' =>
      simp only [first, answering.inCluster e' first, if_true] at h
      exact answering.kubeconfig e h

end ClientSources

theorem Registrar.namesService_ofSettings (settings : Settings) (found : ClientConfiguration) :
    (ofSettings settings found).NamesService := fun _ => ⟨rfl, rfl⟩

namespace Controller

variable (settings : Settings) (sources : ClientSources) (files : FileSystem)
  (memo : Option Registrar) (c : Cluster)

/-- The registrar that a start registers with, or why there is none. -/
def prepared : Except Failure Registrar :=
  match sources.loaded with
  | .ok found => .ok (Registrar.ofSettings settings found)
  | .error e => .error (if e.isConfiguration then unavailable e else e)

theorem run_createRegistrar {σ : Type} (s : σ) :
    ∃ rs, (createRegistrar settings sources).run s =
      ⟨sources.loaded.map (Registrar.ofSettings settings), s,
        sources.loadCalls (some settings.kubeconfig), rs⟩ := by
  obtain ⟨rs, run⟩ := sources.run_load (some settings.kubeconfig) s
  unfold createRegistrar
  cases h : sources.loaded with
  | error e =>
      refine ⟨rs, ?_⟩
      rw [Action.run_bind_of_error (e := e) (by rw [run, h]), run]
      rfl
  | ok found =>
      refine ⟨rs ++ [], ?_⟩
      rw [Action.run_bind_of_ok (a := found) (by rw [run, h]), run]
      simp [Action.join, Except.map]

/-- The last step before the registration: a missing configuration is a permanent failure. -/
theorem run_orUnavailable :
    ∃ rs, (do
        match ← (createRegistrar settings sources).attempt with
        | .ok r => return r
        | .error e =>
            if e.isConfiguration then do
              Action.log (ClientSources.failedRecord logger e)
              Action.fail (unavailable e)
            else Action.fail e : Action Cluster Registrar).run c =
      ⟨prepared settings sources, c, sources.loadCalls (some settings.kubeconfig), rs⟩ := by
  obtain ⟨rs, run⟩ := run_createRegistrar settings sources c
  rw [Action.run_attempt_bind, run]
  unfold prepared
  cases sources.loaded with
  | ok found => exact ⟨rs ++ [], by simp [Action.join, Except.map]⟩
  | error e =>
      by_cases configuration : e.isConfiguration = true
      · refine ⟨rs ++ [ClientSources.failedRecord logger e], ?_⟩
        simp [Action.join, Except.map, configuration, Action.run_log_bind]
      · exact ⟨rs ++ [], by simp [Action.join, Except.map, configuration]⟩

theorem run_prepare :
    ∃ rs, (prepare settings sources).run c =
      ⟨prepared settings sources, c, sources.loadCalls (some settings.kubeconfig), rs⟩ := by
  obtain ⟨rs, run⟩ := run_orUnavailable settings sources c
  unfold prepare
  rw [Action.run_log_bind]
  by_cases debug : settings.mode = .debug
  · simp only [debug, if_true, Action.run_log_bind]
    exact ⟨_, congrArg (fun done : Run Cluster Registrar =>
      { done with records := startingRecord :: addressRecord settings :: done.records }) run⟩
  · simp only [debug, if_false]
    exact ⟨_, congrArg (fun done : Run Cluster Registrar =>
      { done with records := startingRecord :: done.records }) run⟩

/-- A start without a registrar changes nothing. -/
theorem startup_of_error {e : Failure} (h : prepared settings sources = .error e) :
    ∃ calls rs, startup settings sources files memo c =
        ⟨.error (leaving e), memo, c, calls, [.own rs]⟩ ∧
      ∀ call ∈ calls, call.isLoad = true := by
  obtain ⟨rs, run⟩ := run_prepare settings sources c
  unfold startup
  rw [run, h]
  exact ⟨_, rs, rfl, fun _ => sources.isLoad_of_mem_loadCalls⟩

/-- The registration of a start. -/
def registration (files : FileSystem) (c : Cluster) (r : Registrar) : Run Site Unit :=
  (r.register files).run ⟨c, none⟩

/-- A start with a registrar ends as the registration does, and keeps the registrar if that ended
well. -/
theorem startup_of_ok {r : Registrar} (h : prepared settings sources = .ok r) :
    ∃ calls, (∀ call ∈ calls, call.isLoad = true) ∧
      (startup settings sources files memo c).outcome =
        (conclude (registration files c r).outcome).1 ∧
      (startup settings sources files memo c).cluster =
        (registration files c r).state.cluster ∧
      (startup settings sources files memo c).calls = calls ++ (registration files c r).calls ∧
      (startup settings sources files memo c).memo =
        match (registration files c r).outcome with
        | .ok () => some r
        | .error _ => memo := by
  obtain ⟨rs, run⟩ := run_prepare settings sources c
  refine ⟨sources.loadCalls (some settings.kubeconfig),
    fun _ => sources.isLoad_of_mem_loadCalls, ?_⟩
  unfold startup registration
  rw [run, h]
  refine ⟨rfl, rfl, rfl, ?_⟩
  dsimp only
  cases ((r.register files).run ⟨c, none⟩).outcome with
  | ok u => rfl
  | error e =>
      unfold conclude
      by_cases report : e.isReport = true <;> simp [report]

/-! ## How a start ends -/

theorem registration_ending {c : Cluster} (ordinary : c.Ordinary) (found : ClientConfiguration) :
    (Registrar.ofSettings settings found).Ending files c
      (registration files c (Registrar.ofSettings settings found)).outcome
      (registration files c (Registrar.ofSettings settings found)).state.cluster :=
  Registrar.register_ending (s := ⟨c, none⟩) files
    (Registrar.namesService_ofSettings settings found) ordinary

theorem eq_ofSettings_of_prepared {r : Registrar} (h : prepared settings sources = .ok r) :
    ∃ found, r = Registrar.ofSettings settings found := by
  unfold prepared at h
  cases read : sources.loaded with
  | ok found =>
      rw [read] at h
      cases h
      exact ⟨found, rfl⟩
  | error e =>
      rw [read] at h
      cases h

theorem prepared_cases (answering : sources.Answering) :
    (∃ e, prepared settings sources = .error (unavailable e)) ∨
      ∃ found, prepared settings sources = .ok (Registrar.ofSettings settings found) := by
  unfold prepared
  cases h : sources.loaded with
  | ok found => exact .inr ⟨found, rfl⟩
  | error e => exact .inl ⟨e, by simp [answering.of_loaded h]⟩

theorem outcome_prepare :
    ((prepare settings sources).run c).outcome = prepared settings sources := by
  obtain ⟨rs, run⟩ := run_prepare settings sources c
  rw [run]

/-- The client's own authority is asked for under a path with a null character, because the secret
has nothing to give. -/
def AsksForNull : Prop :=
  ∃ r path, ((prepare settings sources).run c).outcome = .ok r ∧ r.tls.file = some path ∧
    '\x00' ∈ path.toList ∧ (r.authority.readSecret.run c).outcome = .ok []

theorem conclude_eq_ok_iff {outcome : Except Failure Unit} :
    (conclude outcome).1 = .ok () ↔ outcome = .ok () := by
  cases outcome with
  | ok u => simp [conclude]
  | error e => by_cases report : e.isReport = true <;> simp [conclude, report]

theorem conclude_of_isReport {e : Failure} (h : e.isReport = true) :
    (conclude (.error e)).1 = .error (.permanent (.str (registrationFailed e))) := by
  simp [conclude, h]

/-- A registration that meets request failures alone fails with a report or at a null character. -/
theorem conclude_cases {r : Registrar} {files : FileSystem} {c d : Cluster}
    {outcome : Except Failure Unit} (ending : r.Ending files c outcome d)
    (requests : ∀ e, c.secret = .error e → e.isRequestFailure = true) :
    (conclude outcome).1 = .ok () ∨
    (∃ text, (conclude outcome).1 = .error (.permanent (.str text))) ∨
    (AuthorityLookup.secretBytes c.secret = .ok [] ∧
      ∃ path, r.tls.file = some path ∧ '\x00' ∈ path.toList) := by
  cases outcome with
  | ok u => exact .inl rfl
  | error e =>
      rcases ending.error_cases with none | ⟨bytes, k, cause, -, -, rfl⟩
      · rcases AuthorityLookup.bundle_cases files r.tls requests with
          ⟨bytes, -, given⟩ | noCa | ⟨-, null⟩
        · rw [given] at none
          cases none
        · rw [noCa] at none
          cases none
          exact .inr (.inl ⟨_, conclude_of_isReport rfl⟩)
        · exact .inr (.inr null)
      · exact .inr (.inl ⟨_, conclude_of_isReport (Failure.isReport_wrap _ _)⟩)

/-- A start returns or fails for good, unless it asks for a path with a null character; that failure
leaves as it is. A start that fails remembers nothing. A file that cannot be opened counts as no
authority at all. -/
theorem startup_outcome (answering : sources.Answering) (ordinary : c.Ordinary) :
    let done := startup settings sources files memo c
    (¬ AsksForNull settings sources c →
      done.outcome = .ok () ∨ ∃ text, done.outcome = .error (.permanent (.str text))) ∧
    (AsksForNull settings sources c → done.outcome = .error AuthorityLookup.nullInPath) ∧
    (done.outcome ≠ .ok () → done.memo = memo) ∧
    ∀ r path e, ((prepare settings sources).run c).outcome = .ok r → r.tls.file = some path →
      '\x00' ∉ path.toList → files.open? path = .error e →
      (r.authority.readSecret.run c).outcome = .ok [] →
      done.outcome = .error (.permanent (.str (registrationFailed Failure.noCa))) := by
  intro done
  unfold AsksForNull
  rw [outcome_prepare]
  rcases prepared_cases settings sources answering with ⟨e, failed⟩ | ⟨found, given⟩
  · obtain ⟨calls, rs, h, -⟩ := startup_of_error settings sources files memo c failed
    simp only [done, h, failed]
    refine ⟨fun _ => .inr ⟨_, rfl⟩, ?_, fun _ => trivial, ?_⟩
    · rintro ⟨r, path, none, -⟩
      cases none
    · intro r path e none
      cases none
  · obtain ⟨calls, -, outcome, -, -, kept⟩ := startup_of_ok settings sources files memo c given
    have ending := registration_ending settings files ordinary found
    simp only [done, given, Except.ok.injEq, AuthorityLookup.outcome_readSecret]
    refine ⟨fun noNull => ?_, ?_, fun failed => ?_, ?_⟩
    · rw [outcome]
      rcases conclude_cases ending ordinary.secret with returned | permanent | ⟨nothing, path, null⟩
      · exact .inl returned
      · exact .inr permanent
      · exact absurd ⟨_, path, rfl, null.1, null.2, nothing⟩ noNull
    · rintro ⟨_, path, rfl, named, null, nothing⟩
      have stopped := AuthorityLookup.bundle_of_null files nothing named null
      rw [outcome, ending.outcome_of_bundle stopped]
      rfl
    · rw [outcome] at failed
      rw [kept]
      cases h : (registration files c (Registrar.ofSettings settings found)).outcome with
      | ok u => rw [h] at failed; exact absurd rfl failed
      | error e => rfl
    · rintro _ path e rfl named noNull unreadable nothing
      have none := AuthorityLookup.bundle_of_unreadable files nothing named
        (AuthorityLookup.ne_empty_of_ofFile named) noNull unreadable
      rw [outcome, ending.outcome_of_bundle none]
      exact conclude_of_isReport rfl

/-- The cluster has a configuration to give, whose authority has a null character in its path. -/
def nullSources : ClientSources where
  inCluster := .ok { host := some "https://cluster", caFile := some "ca\x00.crt" }
  kubeconfig := .error (.configuration (.str "Invalid kube-config file. No configuration found."))

theorem emptyCluster_ordinary : ({} : Cluster).Ordinary where
  deletions := by
    intro k e h
    cases k <;> cases h
  creations := by
    intro k e h
    cases k <;> cases h
  secret := by
    intro e h
    cases h
    rfl
  deployment := by
    intro e h
    cases h
    rfl

theorem startup_outcome_nullSources :
    (startup (Settings.ofValues Setting.default) nullSources {} none {}).outcome =
      .error AuthorityLookup.nullInPath := by
  have answering : nullSources.Answering :=
    { inCluster := fun e h => by cases h
      kubeconfig := fun e h => by cases h; rfl }
  obtain ⟨-, leaves, -, -⟩ := startup_outcome (Settings.ofValues Setting.default) nullSources {}
    none {} answering emptyCluster_ordinary
  have asks : AsksForNull (Settings.ofValues Setting.default) nullSources {} :=
    ⟨_, "ca\x00.crt", rfl, rfl, by decide, rfl⟩
  exact leaves asks

end Controller

end AdmissionHooks
