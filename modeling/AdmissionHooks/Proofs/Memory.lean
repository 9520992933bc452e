import AdmissionHooks.Proofs.Sent
import AdmissionHooks.Proofs.Turns

/-!
# What a controller remembers

Between two handlers the memo lasts, and whatever else there is may change. The memo is that of the
latest start that returned: a start that fails and a stop leave it as it is. A stop with an empty memo
makes no call, and any other deregisters the client that it finds there and tells what came of it.
-/

namespace AdmissionHooks

/-- The run of a handler, with what has become of the cluster by then and what the handler reads. -/
structure Episode where
  handler : Handler
  settings : Settings
  sources : ClientSources
  files : FileSystem := {}
  change : Cluster → Cluster := id

/-- What a controller has between its handlers. -/
structure Watch where
  memo : Option Registrar := none
  cluster : Cluster := {}

/-- An episode in a history, with the memo and the cluster that its handler met. -/
structure Chapter where
  episode : Episode
  met : Watch
  handled : Handled

def Episode.chapter (e : Episode) (w : Watch) : Chapter :=
  let met : Watch := ⟨w.memo, e.change w.cluster⟩
  { episode := e
    met := met
    handled :=
      match e.handler with
      | .start => Controller.startup e.settings e.sources e.files met.memo met.cluster
      | .stop => Controller.cleanup met.memo met.cluster }

/-- What a controller has after some episodes, and their chapters; both lists latest first. -/
def Watch.after (start : Watch) : List Episode → Watch × List Chapter
  | [] => (start, [])
  | e :: earlier =>
      let before := start.after earlier
      let c := e.chapter before.1
      (⟨c.handled.memo, c.handled.cluster⟩, c :: before.2)

/-- The first entry with a property, of a list that has its latest entry first. -/
def Latest {α : Type} (p : α → Prop) (a : α) (entries : List α) : Prop :=
  ∃ later earlier, entries = later ++ a :: earlier ∧ p a ∧ ∀ b ∈ later, ¬ p b

theorem latest_cons_of_pos {α : Type} {p : α → Prop} {a b : α} {entries : List α} (h : p b) :
    Latest p a (b :: entries) ↔ a = b := by
  constructor
  · rintro ⟨later, earlier, split, -, others⟩
    cases later with
    | nil => exact (List.cons.inj split).1.symm
    | cons c later =>
        obtain ⟨rfl, -⟩ := List.cons.inj split
        exact absurd h (others b List.mem_cons_self)
  · rintro rfl
    exact ⟨[], entries, rfl, h, by simp⟩

theorem latest_cons_of_neg {α : Type} {p : α → Prop} {a b : α} {entries : List α} (h : ¬ p b) :
    Latest p a (b :: entries) ↔ Latest p a entries := by
  constructor
  · rintro ⟨later, earlier, split, pa, others⟩
    cases later with
    | nil =>
        obtain ⟨rfl, -⟩ := List.cons.inj split
        exact absurd pa h
    | cons c later =>
        obtain ⟨-, split⟩ := List.cons.inj split
        exact ⟨later, earlier, split, pa, fun d member => others d (List.mem_cons_of_mem c member)⟩
  · rintro ⟨later, earlier, rfl, pa, others⟩
    refine ⟨b :: later, earlier, rfl, pa, ?_⟩
    intro d member
    rcases List.mem_cons.1 member with rfl | member
    · exact h
    · exact others d member

namespace Chapter

variable (c : Chapter)

/-- The chapter of a start that returned. -/
def Returned : Prop := c.episode.handler = .start ∧ c.handled.outcome = .ok ()

/-- The client that the start of a chapter makes. -/
def client : Except Failure Registrar :=
  ((Controller.createRegistrar c.episode.settings c.episode.sources).run c.met.cluster).outcome

end Chapter

/-! ## Starts -/

namespace Controller

variable (settings : Settings) (sources : ClientSources) (files : FileSystem)
  (memo : Option Registrar) (c : Cluster)

theorem outcome_createRegistrar {σ : Type} (s : σ) :
    ((createRegistrar settings sources).run s).outcome =
      sources.loaded.map (Registrar.ofSettings settings) := by
  obtain ⟨rs, run⟩ := run_createRegistrar settings sources s
  rw [run]

/-- The start goes on with the client that it makes. -/
theorem prepared_eq_ok_iff {σ : Type} (s : σ) (r : Registrar) :
    prepared settings sources = .ok r ↔
      ((createRegistrar settings sources).run s).outcome = .ok r := by
  rw [outcome_createRegistrar]
  unfold prepared
  cases sources.loaded with
  | ok found => exact Iff.rfl
  | error e => simp [Except.map]

/-- A start asks for the configuration of its client first, and then registers if it has found one. -/
theorem calls_startup :
    (startup settings sources files memo c).calls =
      sources.loadCalls (some settings.kubeconfig) ++
        match prepared settings sources with
        | .ok r => (registration files c r).calls
        | .error _ => [] := by
  obtain ⟨rs, run⟩ := run_prepare settings sources c
  unfold startup registration
  rw [run]
  cases prepared settings sources with
  | ok r => rfl
  | error e => exact (List.append_nil _).symm

/-- A start that returns remembers its client. -/
theorem startup_of_returned (returned : (startup settings sources files memo c).outcome = .ok ()) :
    ∃ r, prepared settings sources = .ok r ∧
      (startup settings sources files memo c).memo = some r := by
  cases h : prepared settings sources with
  | error e =>
      obtain ⟨calls, rs, run, -⟩ := startup_of_error settings sources files memo c h
      rw [run] at returned
      cases returned
  | ok r =>
      obtain ⟨calls, -, outcome, -, -, kept⟩ := startup_of_ok settings sources files memo c h
      rw [outcome, conclude_eq_ok_iff] at returned
      rw [returned] at kept
      exact ⟨r, rfl, kept⟩

/-- A start that fails, whatever with and wherever, leaves the memo as it was. -/
theorem memo_startup_of_failed (failed : (startup settings sources files memo c).outcome ≠ .ok ()) :
    (startup settings sources files memo c).memo = memo := by
  cases h : prepared settings sources with
  | error e =>
      obtain ⟨calls, rs, run, -⟩ := startup_of_error settings sources files memo c h
      rw [run]
  | ok r =>
      obtain ⟨calls, -, outcome, -, -, kept⟩ := startup_of_ok settings sources files memo c h
      rw [outcome, ne_eq, conclude_eq_ok_iff] at failed
      rw [kept]
      cases ended : (registration files c r).outcome with
      | ok u => exact absurd ended failed
      | error e => rfl

/-- Neither a registration nor a deregistration loads anything. -/
theorem not_isLoad_of_mayCall {r : Registrar} {s : Site} {call : Call}
    (may : r.MayCall files s call) : call.isLoad = false := by
  cases may <;> rfl

/-- The file is asked for only behind the cluster, and only when that has said that it has no
configuration to give. -/
theorem calls_of_loadKubeconfig {file : Option String}
    (asked : Call.loadKubeconfig file ∈ (startup settings sources files memo c).calls) :
    ∃ e rest, sources.inCluster = .error e ∧ e.isConfiguration = true ∧
      (startup settings sources files memo c).calls =
        .loadInCluster :: .loadKubeconfig file :: rest := by
  rw [calls_startup] at asked ⊢
  generalize later : (match prepared settings sources with
    | .ok r => (registration files c r).calls
    | .error _ => []) = rest at asked ⊢
  have noLoad : ∀ call ∈ rest, call.isLoad = false := by
    intro call made
    rw [← later] at made
    cases h : prepared settings sources with
    | error e =>
        rw [h] at made
        cases made
    | ok r =>
        rw [h] at made
        exact not_isLoad_of_mayCall files (r.mayCall_of_register files ⟨c, none⟩ made)
  have first : Call.loadKubeconfig file ∈ sources.loadCalls (some settings.kubeconfig) := by
    rcases List.mem_append.1 asked with first | second
    · exact first
    · cases noLoad _ second
  unfold ClientSources.loadCalls at first ⊢
  cases answer : sources.inCluster with
  | ok found =>
      rw [answer] at first
      cases List.mem_singleton.1 first
  | error e =>
      rw [answer] at first
      by_cases none : e.isConfiguration = true
      · simp only [none, if_true, List.mem_cons, reduceCtorEq, List.not_mem_nil, or_false,
          false_or] at first
        refine ⟨e, rest, rfl, none, ?_⟩
        rw [first]
        simp [none]
      · simp [none] at first

/-! ## Stops -/

/-- The first call of a stop that remembers a client. -/
theorem calls_cleanup_of_some (r : Registrar) :
    ∃ rest, (cleanup (some r) c).calls =
      .delete .mutating (r.configurationName .mutating) :: rest := by
  have same : (cleanup (some r) c).calls = (r.deregister.run c).calls := rfl
  rcases r.deregister_cases c with ⟨e, -, -, calls⟩ | ⟨-, calls⟩
  · exact ⟨[], same.trans calls⟩
  · exact ⟨_, same.trans calls⟩

/-- A stop loads nothing. -/
theorem load_not_mem_cleanup (file : Option String) :
    Call.loadKubeconfig file ∉ (cleanup memo c).calls := by
  intro asked
  cases memo with
  | none => cases asked
  | some r =>
      have may := r.mayCall_of_deregister {} (s := ⟨c, none⟩) asked
      cases not_isLoad_of_mayCall {} may

/-- What a stop tells of the deletions that failed, or of there being none. -/
def verdicts (r : Registrar) (failed : List (Kind × Failure)) : List Log.Record :=
  if failed.isEmpty then [record Log.Level.info "Admission webhooks deregistered"]
  else failed.map fun f =>
    record Log.Level.warning ("Ignoring webhook deregistration error: " ++
      (r.complaint f.1 f.2).message)

theorem closing_complaints (r : Registrar) (failed : List (Kind × Failure)) :
    closing (.ok (failed.map fun f => r.complaint f.1 f.2)) = verdicts r failed := by
  cases failed with
  | nil => rfl
  | cons f failed => simp [closing, verdicts, ignoredRecord]

theorem filter_logger_eq_self {records : List Log.Record} {name : String}
    (own : ∀ record ∈ records, record.logger = name) :
    records.filter (fun record => record.logger = name) = records := by
  refine List.filter_eq_self.2 fun record member => ?_
  simpa using own record member

theorem logger_of_verdicts (r : Registrar) (failed : List (Kind × Failure)) :
    ∀ told ∈ verdicts r failed, told.logger = logger := by
  intro told member
  unfold verdicts at member
  split at member
  · rw [List.mem_singleton.1 member]
    rfl
  · obtain ⟨f, -, rfl⟩ := List.mem_map.1 member
    rfl

/-- A stop whose deletions fail with request failures at most returns, and tells of each failure
by itself. -/
theorem cleanup_of_requests (r : Registrar)
    (requests : ∀ k e, c.deleteFault k = some e → e.isRequestFailure = true) :
    (cleanup (some r) c).outcome = .ok () ∧
      (cleanup (some r) c).calls =
        [.delete .mutating (r.configurationName .mutating),
          .delete .validating (r.configurationName .validating)] ∧
      (cleanup (some r) c).records.filter (fun told => told.logger = logger) =
        stoppingRecord :: verdicts r (r.failedDeletions c) := by
  have returned := r.deregister_of_requests requests
  obtain ⟨-, calls⟩ := r.state_deregister_of_ok returned
  have during : (r.deregister.run c).records.filter (fun told => told.logger = logger) = [] := by
    refine List.filter_eq_nil_iff.2 fun told member => ?_
    have other := Registrar.logger_of_deregister c told member
    rw [other]
    decide
  refine ⟨?_, calls, ?_⟩
  · show ((r.deregister.run c).outcome.map fun _ => ()).mapError leaving = .ok ()
    rewrite [returned]
    rfl
  · simp only [cleanup, Handled.records, Stretch.records, List.flatMap_cons, List.flatMap_nil,
      List.append_nil, returned, closing_complaints, List.filter_append, during, List.nil_append,
      filter_logger_eq_self (logger_of_verdicts r _)]
    rfl

end Controller

/-! ## Chapters -/

namespace Episode

variable (e : Episode) (w : Watch)

theorem handled_of_start (starts : e.handler = .start) :
    (e.chapter w).handled =
      Controller.startup e.settings e.sources e.files w.memo (e.change w.cluster) := by
  simp [chapter, starts]

theorem handled_of_stop (stops : e.handler = .stop) :
    (e.chapter w).handled = Controller.cleanup w.memo (e.change w.cluster) := by
  simp [chapter, stops]

theorem memo_of_returned (returned : (e.chapter w).Returned) :
    ∃ r, (e.chapter w).client = .ok r ∧ (e.chapter w).handled.memo = some r := by
  obtain ⟨starts, outcome⟩ := returned
  have handled := e.handled_of_start w starts
  rw [handled] at outcome ⊢
  obtain ⟨r, made, kept⟩ := Controller.startup_of_returned _ _ _ _ _ outcome
  exact ⟨r, (Controller.prepared_eq_ok_iff _ _ _ r).1 made, kept⟩

theorem memo_of_not_returned (h : ¬ (e.chapter w).Returned) :
    (e.chapter w).handled.memo = w.memo := by
  cases handler : e.handler with
  | start =>
      have failed : (e.chapter w).handled.outcome ≠ .ok () := fun outcome => h ⟨handler, outcome⟩
      rw [e.handled_of_start w handler] at failed ⊢
      exact Controller.memo_startup_of_failed _ _ _ _ _ failed
  | stop =>
      rw [e.handled_of_stop w handler]
      unfold Controller.cleanup
      cases w.memo <;> rfl

end Episode

/-! ## Histories -/

theorem mem_after {start : Watch} {episodes : List Episode} {c : Chapter}
    (member : c ∈ (start.after episodes).2) : ∃ e w, c = Episode.chapter e w := by
  induction episodes with
  | nil => cases member
  | cons e earlier ih =>
      rcases List.mem_cons.1 member with rfl | before
      · exact ⟨e, _, rfl⟩
      · exact ih before

/-- The memo is that of the latest start that returned. -/
theorem memo_after (cluster : Cluster) (episodes : List Episode) (r : Registrar) :
    ((⟨none, cluster⟩ : Watch).after episodes).1.memo = some r ↔
      ∃ c, Latest Chapter.Returned c ((⟨none, cluster⟩ : Watch).after episodes).2 ∧
        c.client = .ok r := by
  induction episodes with
  | nil => simp [Watch.after, Latest]
  | cons e earlier ih =>
      simp only [Watch.after]
      generalize (⟨none, cluster⟩ : Watch).after earlier = before at ih ⊢
      by_cases returned : (e.chapter before.1).Returned
      · obtain ⟨made, client, kept⟩ := e.memo_of_returned before.1 returned
        simp only [latest_cons_of_pos returned, exists_eq_left, kept, client, Option.some.injEq,
          Except.ok.injEq]
      · rw [e.memo_of_not_returned before.1 returned, ih]
        simp only [latest_cons_of_neg returned]

theorem memo_eq_none_iff (cluster : Cluster) (episodes : List Episode) :
    ((⟨none, cluster⟩ : Watch).after episodes).1.memo = none ↔
      ∀ c ∈ ((⟨none, cluster⟩ : Watch).after episodes).2, ¬ c.Returned := by
  induction episodes with
  | nil => simp [Watch.after]
  | cons e earlier ih =>
      simp only [Watch.after, List.forall_mem_cons]
      generalize (⟨none, cluster⟩ : Watch).after earlier = before at ih ⊢
      by_cases returned : (e.chapter before.1).Returned
      · obtain ⟨made, -, kept⟩ := e.memo_of_returned before.1 returned
        simp [kept, returned]
      · rw [e.memo_of_not_returned before.1 returned, ih]
        exact (and_iff_right returned).symm

/-- After any run of handlers the memo holds the client of the latest start that returned. Every
other handler has left the memo as it met it, and has loaded from a file only when the cluster had no
configuration to give. A stop has deregistered the client that it met, and told what came of it. -/
theorem handlers_remember (cluster : Cluster) (episodes : List Episode) :
    let run := (⟨none, cluster⟩ : Watch).after episodes
    (run.1.memo = none ↔ ∀ c ∈ run.2, ¬ c.Returned) ∧
    (∀ r, run.1.memo = some r ↔ ∃ c, Latest Chapter.Returned c run.2 ∧ c.client = .ok r) ∧
    ∀ c ∈ run.2,
      (¬ c.Returned → c.handled.memo = c.met.memo) ∧
      (∀ file, .loadKubeconfig file ∈ c.handled.calls →
        ∃ e rest, c.episode.sources.inCluster = .error e ∧ e.isConfiguration = true ∧
          c.handled.calls = .loadInCluster :: .loadKubeconfig file :: rest) ∧
      (c.episode.handler = .stop →
        (c.met.memo = none → c.handled.calls = []) ∧
        ∀ r, c.met.memo = some r →
          (∃ rest, c.handled.calls =
            .delete .mutating (Kind.mutating.configurationName r.mode) :: rest) ∧
          ((∀ k e, c.met.cluster.deleteFault k = some e → e.isRequestFailure = true) →
            c.handled.outcome = .ok () ∧
            c.handled.calls = [.delete .mutating (Kind.mutating.configurationName r.mode),
              .delete .validating (Kind.validating.configurationName r.mode)] ∧
            c.handled.records.filter (fun told => told.logger = Controller.logger) =
              Controller.stoppingRecord ::
                Controller.verdicts r (r.failedDeletions c.met.cluster))) := by
  intro run
  refine ⟨memo_eq_none_iff cluster episodes, memo_after cluster episodes, ?_⟩
  intro c member
  obtain ⟨e, w, rfl⟩ := mem_after member
  refine ⟨e.memo_of_not_returned w, ?_, ?_⟩
  · intro file asked
    cases handler : e.handler with
    | start =>
        rw [e.handled_of_start w handler] at asked ⊢
        exact Controller.calls_of_loadKubeconfig _ _ _ _ _ asked
    | stop =>
        rw [e.handled_of_stop w handler] at asked
        exact absurd asked (Controller.load_not_mem_cleanup _ _ file)
  · intro stops
    rw [e.handled_of_stop w stops]
    refine ⟨?_, ?_⟩
    · intro empty
      rw [show w.memo = none from empty]
      rfl
    · intro r kept
      rw [show w.memo = some r from kept]
      exact ⟨Controller.calls_cleanup_of_some _ r, Controller.cleanup_of_requests _ r⟩

/-- A start that registers. -/
def calmStart : Episode where
  handler := .start
  settings := Settings.ofValues Setting.default
  sources := strandingTurn.sources
  change c := { c with secret := strandingTurn.secret }

/-- A start that finds no configuration for its client. -/
def lostStart : Episode :=
  { calmStart with sources := ⟨.error (.configuration .null), .error (.configuration .null)⟩ }

/-- A stop whose first deletion gets no answer. -/
def silentStop : Episode where
  handler := .stop
  settings := calmStart.settings
  sources := calmStart.sources
  change c := { c with deleteFaults := ⟨[some Registrar.timeout], []⟩ }

theorem handlers_remember_silentStop :
    let run := (⟨none, {}⟩ : Watch).after [silentStop, lostStart, calmStart]
    let r := Registrar.ofSettings calmStart.settings { host := some "https://cluster" }
    run.1.memo = some r ∧ (∃ c, Latest Chapter.Returned c run.2 ∧ c.client = .ok r) ∧
      ∃ c ∈ run.2, c.handled.records.filter (fun told => told.logger = Controller.logger) =
        [Controller.stoppingRecord,
          Controller.ignoredRecord (r.complaint .mutating Registrar.timeout)] := by
  intro run r
  obtain ⟨-, memo, chapters⟩ := handlers_remember {} [silentStop, lostStart, calmStart]
  have kept : run.1.memo = some r := by rfl
  refine ⟨kept, (memo r).1 kept, _, List.mem_cons_self, ?_⟩
  obtain ⟨-, -, stop⟩ := chapters _ List.mem_cons_self
  obtain ⟨-, told⟩ := (stop rfl).2 r kept
  refine (told ?_).2.2
  intro k e met
  cases k <;> cases met
  rfl

end AdmissionHooks
