import AdmissionHooks.Proofs.Builds
import AdmissionHooks.Proofs.Memory

/-!
# What a builder remembers

A builder is asked for configurations and for owners while the cluster changes around it. After any
number of such tasks its site remembers the owner that the latest configuration was written with. A
build that fails and a mere question for the owner leave that memory alone.
-/

namespace AdmissionHooks.Builder

/-- What is asked of a builder, or what happens to the cluster meanwhile. -/
inductive Task where
  | build (k : Kind) (bundle : Bytes) (given : Option OwnerResolution)
  | resolveOwner
  | change (cluster : Cluster)

/-- What a task yields. -/
inductive Product where
  | configuration (body : Configuration)
  | resolution (owner : OwnerResolution)
  | nothing

def perform (b : Builder) : Task → Action Site Product
  | .build k bundle given => do
      let body ← b.build k bundle given
      return .configuration body
  | .resolveOwner => do
      let owner ← b.resolveOwner.atSite
      return .resolution owner
  | .change cluster => do
      Action.modify fun s => { s with cluster }
      return .nothing

/-- A task that was performed, with the site that it met. -/
structure Done where
  task : Task
  met : Site
  run : Run Site Product

def done (b : Builder) (task : Task) (s : Site) : Done := ⟨task, s, (b.perform task).run s⟩

/-- The site after some tasks, and what was done; both lists latest first. -/
def after (b : Builder) (start : Site) : List Task → Site × List Done
  | [] => (start, [])
  | task :: earlier =>
      let before := b.after start earlier
      let d := b.done task before.1
      (d.run.state, d :: before.2)

namespace Done

variable (b : Builder) (d : Done)

/-- The task has made a configuration. -/
def Built : Prop :=
  ∃ k bundle given body, d.task = .build k bundle given ∧ d.run.outcome = .ok (.configuration body)

/-- The owner of a build: the one that it was given as it is, or else the one that the builder finds
for the cluster at that time. -/
def Takes (owner : OwnerResolution) : Prop :=
  ∃ k bundle given, d.task = .build k bundle given ∧
    (∀ r, given = some r → owner = r) ∧
    (given = none → (b.resolveOwner.run d.met.cluster).outcome = .ok owner)

/-- The task depends on the owner, and the owner was not given. -/
def Asks : Prop :=
  d.task = .resolveOwner ∨ ∃ k bundle, d.task = .build k bundle none ∧ bundle ≠ []

/-- What a task may come to. -/
structure Regular : Prop where
  /-- A build fails where there is no bundle, and only there. -/
  fails : ∀ k bundle given, d.task = .build k bundle given →
    ((∃ e, d.run.outcome = .error e) ↔ bundle = [])
  /-- It then leaves nothing behind. -/
  silent : ∀ k given, d.task = .build k [] given →
    d.run.outcome = .error (withoutBundle (b.configurationName k)) ∧
    d.run.calls = [] ∧ d.run.records = [] ∧ d.run.state.lastOwner = d.met.lastOwner
  /-- Otherwise the builder remembers the owner that the configuration is written with. -/
  writes : ∀ k bundle given, d.task = .build k bundle given → bundle ≠ [] →
    ∃ owner body, d.run.outcome = .ok (.configuration body) ∧ d.Takes b owner ∧
      d.run.state.lastOwner = some owner ∧ body.owners = owner.owners
  /-- Every task but a build leaves that memory alone. -/
  keeps : (∀ k bundle given, d.task ≠ .build k bundle given) →
    d.run.state.lastOwner = d.met.lastOwner
  /-- The deployment is read where an owner has to be found, and nothing else is called. -/
  reads : ∀ o, b.mode = .production → b.owner = some o → d.Asks →
    d.run.calls = [.readDeployment o.deploymentName o.space]
  /-- Elsewhere nothing is called. -/
  rests : b.mode = .debug ∨ b.owner = none ∨ ¬ d.Asks → d.run.calls = []

end Done

/-! ## One task -/

section

variable (b : Builder)

/-- A build with a bundle and an owner makes a configuration that is written with this owner. -/
theorem run_perform_build_of_owner {b : Builder} (named : b.NamesService) (k : Kind)
    {bundle : Bytes} (present : bundle ≠ []) {given : Option OwnerResolution} {s : Site}
    {owner : OwnerResolution} (found : b.ownerGiven given s.cluster.deployment = .ok owner) :
    ∃ body records, body.owners = owner.owners ∧
      (b.perform (.build k bundle given)).run s =
        ⟨.ok (.configuration body), { s with lastOwner := owner }, b.buildCalls given, records⟩ := by
  obtain ⟨target, reached⟩ := target_of_namesService named k
  have run := b.run_build_of_owner k given s present found
  have outcome : ((b.build k bundle given).run s).outcome =
      .ok (b.configuration k target bundle owner) := by
    rw [run, reached]
    rfl
  refine ⟨b.configuration k target bundle owner,
    b.givenRecords given s.cluster.deployment ++ b.buildRecords k, rfl, ?_⟩
  show (b.build k bundle given >>= fun body => pure (Product.configuration body)).run s = _
  rw [Action.run_bind_of_ok outcome, run]
  simp [Action.join]

theorem run_perform_resolveOwner (s : Site) :
    ∃ outcome records, (b.perform .resolveOwner).run s = ⟨outcome, s, b.ownerCalls, records⟩ := by
  show ∃ outcome records,
    (b.resolveOwner.atSite >>= fun owner => pure (Product.resolution owner)).run s = _
  rcases Action.run_bind_cases b.resolveOwner.atSite
    (fun owner => pure (Product.resolution owner)) s with ⟨e, -, run⟩ | ⟨owner, -, run⟩
  · rw [run, Action.run_atSite, run_resolveOwner]
    exact ⟨_, _, rfl⟩
  · rw [run, Action.run_atSite, run_resolveOwner]
    simp [Action.join]

theorem ownerCalls_of_rest {d : Done} (asks : d.Asks)
    (h : b.mode = .debug ∨ b.owner = none ∨ ¬ d.Asks) : b.ownerCalls = [] := by
  rcases h with debug | alone | unasked
  · exact b.ownerCalls_of_none (.inl debug)
  · exact b.ownerCalls_of_none (.inr alone)
  · exact absurd asks unasked

theorem asks_build (k : Kind) (bundle : Bytes) (given : Option OwnerResolution) (s : Site) :
    (b.done (.build k bundle given) s).Asks ↔ given = none ∧ bundle ≠ [] := by
  constructor
  · rintro (same | ⟨_, _, same, present⟩)
    · cases same
    · obtain ⟨-, rfl, rfl⟩ := Task.build.inj same
      exact ⟨rfl, present⟩
  · rintro ⟨rfl, present⟩
    exact .inr ⟨k, bundle, rfl, present⟩

theorem not_asks_change (cluster : Cluster) (s : Site) : ¬ (b.done (.change cluster) s).Asks := by
  simp [Done.Asks, done]

theorem regular_build_of_nil (k : Kind) (given : Option OwnerResolution) (s : Site) :
    (b.done (.build k [] given) s).Regular b where
  fails := by
    rintro _ _ _ ⟨⟩
    exact ⟨fun _ => rfl, fun _ => ⟨_, rfl⟩⟩
  silent := by
    rintro _ _ ⟨⟩
    exact ⟨rfl, rfl, rfl, rfl⟩
  writes := by
    rintro _ _ _ ⟨⟩ present
    exact absurd rfl present
  keeps other := absurd rfl (other k [] given)
  reads _ _ _ asked := absurd rfl ((b.asks_build k [] given s).1 asked).2
  rests _ := rfl

theorem regular_build_of_owner {b : Builder} (named : b.NamesService) (k : Kind) {bundle : Bytes}
    (present : bundle ≠ []) (given : Option OwnerResolution) {s : Site} {owner : OwnerResolution}
    (found : b.ownerGiven given s.cluster.deployment = .ok owner) :
    (b.done (.build k bundle given) s).Regular b := by
  obtain ⟨body, records, owners, run⟩ := run_perform_build_of_owner named k present found
  have run : (b.done (.build k bundle given) s).run =
    ⟨.ok (.configuration body), { s with lastOwner := owner }, b.buildCalls given, records⟩ := run
  have taken : (b.done (.build k bundle given) s).Takes b owner :=
    ⟨k, bundle, given, rfl, b.ownerGiven_eq_ok_iff.1 found⟩
  have asks : (b.done (.build k bundle given) s).Asks ↔ given = none :=
    (b.asks_build k bundle given s).trans (and_iff_left present)
  constructor
  · rintro _ _ _ ⟨⟩
    simp [run, present]
  · rintro _ _ ⟨⟩
    exact absurd rfl present
  · rintro _ _ _ ⟨⟩ -
    rw [run]
    exact ⟨owner, body, rfl, taken, rfl, owners⟩
  · intro other
    exact absurd rfl (other k bundle given)
  · intro o mode lookup asked
    obtain rfl := asks.1 asked
    rw [run]
    exact b.ownerCalls_of_lookup mode lookup
  · intro h
    rw [run]
    cases given with
    | some r => rfl
    | none => exact b.ownerCalls_of_rest (asks.2 rfl) h

theorem regular_resolveOwner (s : Site) : (b.done .resolveOwner s).Regular b := by
  obtain ⟨outcome, records, run⟩ := b.run_perform_resolveOwner s
  have run : (b.done .resolveOwner s).run = ⟨outcome, s, b.ownerCalls, records⟩ := run
  constructor
  · rintro _ _ _ ⟨⟩
  · rintro _ _ ⟨⟩
  · rintro _ _ _ ⟨⟩
  · intro _
    rw [run]
    rfl
  · intro o mode lookup _
    rw [run]
    exact b.ownerCalls_of_lookup mode lookup
  · intro h
    rw [run]
    exact b.ownerCalls_of_rest (.inl rfl) h

theorem regular_change (cluster : Cluster) (s : Site) :
    (b.done (.change cluster) s).Regular b where
  fails := by rintro _ _ _ ⟨⟩
  silent := by rintro _ _ ⟨⟩
  writes := by rintro _ _ _ ⟨⟩
  keeps _ := rfl
  reads _ _ _ asked := absurd asked (b.not_asks_change cluster s)
  rests _ := rfl

/-- As long as nothing asks to stop, every task is regular, and only a change of the cluster changes
the cluster. -/
theorem regular_done {b : Builder} (named : b.NamesService) (task : Task) {s : Site}
    (noStop : ∀ e, s.cluster.deployment = .error e → e.isStop = false) :
    (b.done task s).Regular b ∧
      ((b.done task s).run.state.cluster = s.cluster ∨
        task = .change (b.done task s).run.state.cluster) := by
  cases task with
  | build k bundle given =>
      by_cases absent : bundle = []
      · subst absent
        exact ⟨b.regular_build_of_nil k given s, .inl rfl⟩
      · obtain ⟨owner, found⟩ := b.exists_ownerGiven given noStop
        obtain ⟨body, records, -, run⟩ := run_perform_build_of_owner named k absent found
        refine ⟨regular_build_of_owner named k absent given found, .inl ?_⟩
        exact congrArg (fun r => r.state.cluster) run
  | resolveOwner =>
      obtain ⟨outcome, records, run⟩ := b.run_perform_resolveOwner s
      exact ⟨b.regular_resolveOwner s, .inl (congrArg (fun r => r.state.cluster) run)⟩
  | change cluster => exact ⟨b.regular_change cluster s, .inr rfl⟩

end

/-! ## Runs -/

namespace Done

variable {b : Builder} {d : Done}

theorem Takes.unique {owner other : OwnerResolution} (h : d.Takes b owner) (g : d.Takes b other) :
    owner = other := by
  obtain ⟨k, bundle, given, task, same, found⟩ := h
  obtain ⟨k', bundle', given', task', same', found'⟩ := g
  obtain ⟨rfl, rfl, rfl⟩ := Task.build.inj (task.symm.trans task')
  cases given with
  | some r => rw [same r rfl, same' r rfl]
  | none => exact Except.ok.inj ((found rfl).symm.trans (found' rfl))

/-- A task makes a configuration and its owner is remembered, or what was remembered stays. -/
theorem Regular.memory (h : d.Regular b) :
    (d.Built ∧ ∃ owner, d.Takes b owner ∧ d.run.state.lastOwner = some owner) ∨
      (¬ d.Built ∧ d.run.state.lastOwner = d.met.lastOwner) := by
  cases task : d.task with
  | build k bundle given =>
      by_cases absent : bundle = []
      · subst absent
        obtain ⟨outcome, -, -, kept⟩ := h.silent k given task
        refine .inr ⟨?_, kept⟩
        rintro ⟨_, _, _, body, -, made⟩
        rw [outcome] at made
        cases made
      · obtain ⟨owner, body, outcome, taken, kept, -⟩ := h.writes k bundle given task absent
        exact .inl ⟨⟨k, bundle, given, body, task, outcome⟩, owner, taken, kept⟩
  | resolveOwner =>
      have other : ∀ k bundle given, d.task ≠ .build k bundle given := by simp [task]
      exact .inr ⟨fun ⟨k, bundle, given, _, same, _⟩ => other k bundle given same, h.keeps other⟩
  | change cluster =>
      have other : ∀ k bundle given, d.task ≠ .build k bundle given := by simp [task]
      exact .inr ⟨fun ⟨k, bundle, given, _, same, _⟩ => other k bundle given same, h.keeps other⟩

end Done

section

variable {b : Builder} (named : b.NamesService) {start : Site} {tasks : List Task}
  (noStop : ∀ cluster, cluster = start.cluster ∨ .change cluster ∈ tasks →
    ∀ e, cluster.deployment = .error e → e.isStop = false)

include named noStop

theorem regular_after :
    ((b.after start tasks).1.cluster = start.cluster ∨
      .change (b.after start tasks).1.cluster ∈ tasks) ∧
    ∀ d ∈ (b.after start tasks).2, d.Regular b := by
  induction tasks with
  | nil => exact ⟨.inl rfl, by simp [after]⟩
  | cons task earlier ih =>
      obtain ⟨known, regular⟩ := ih fun cluster h =>
        noStop cluster (h.imp_right (List.mem_cons_of_mem task))
      have known : (b.after start earlier).1.cluster = start.cluster ∨
          .change (b.after start earlier).1.cluster ∈ task :: earlier :=
        known.imp_right (List.mem_cons_of_mem task)
      obtain ⟨here, cluster⟩ := regular_done named task (noStop _ known)
      refine ⟨?_, List.forall_mem_cons.2 ⟨here, regular⟩⟩
      rcases cluster with same | changed
      · rw [← same] at known
        exact known
      · exact .inr (List.mem_cons.2 (.inl changed.symm))

end

theorem lastOwner_after {b : Builder} {c : Cluster} {tasks : List Task}
    (regular : ∀ d ∈ (b.after ⟨c, none⟩ tasks).2, d.Regular b) (owner : OwnerResolution) :
    (b.after ⟨c, none⟩ tasks).1.lastOwner = some owner ↔
      ∃ d, Latest Done.Built d (b.after ⟨c, none⟩ tasks).2 ∧ d.Takes b owner := by
  induction tasks with
  | nil =>
      refine ⟨fun h => (nomatch h), ?_⟩
      rintro ⟨d, ⟨later, earlier, split, -⟩, -⟩
      cases later <;> cases split
  | cons task earlier ih =>
      obtain ⟨here, before⟩ := List.forall_mem_cons.1 regular
      rcases here.memory with ⟨built, found, taken, kept⟩ | ⟨unbuilt, kept⟩
      · simp only [after, latest_cons_of_pos built, exists_eq_left]
        rw [kept, Option.some.injEq]
        exact ⟨fun same => same ▸ taken, fun other => taken.unique other⟩
      · simp only [after, latest_cons_of_neg unbuilt]
        rw [kept]
        exact ih before

theorem lastOwner_after_eq_none_iff {b : Builder} {c : Cluster} {tasks : List Task}
    (regular : ∀ d ∈ (b.after ⟨c, none⟩ tasks).2, d.Regular b) :
    (b.after ⟨c, none⟩ tasks).1.lastOwner = none ↔
      ∀ d ∈ (b.after ⟨c, none⟩ tasks).2, ¬ d.Built := by
  induction tasks with
  | nil => simp [after]
  | cons task earlier ih =>
      obtain ⟨here, before⟩ := List.forall_mem_cons.1 regular
      simp only [after, List.forall_mem_cons]
      rcases here.memory with ⟨built, found, -, kept⟩ | ⟨unbuilt, kept⟩
      · simp [kept, built]
      · rw [kept, and_iff_right unbuilt]
        exact ih before

/-- After any run of tasks with nothing that asks to stop, the owner of the latest configuration that
was made is the one that is remembered. -/
theorem remembers_owner (b : Builder) (named : b.NamesService) (c : Cluster) (tasks : List Task)
    (noStop : ∀ cluster, cluster = c ∨ .change cluster ∈ tasks →
      ∀ e, cluster.deployment = .error e → e.isStop = false) :
    let run := b.after ⟨c, none⟩ tasks
    (∀ owner, run.1.lastOwner = some owner ↔ ∃ d, Latest Done.Built d run.2 ∧ d.Takes b owner) ∧
    (run.1.lastOwner = none ↔ ∀ d ∈ run.2, ¬ d.Built) ∧
    ∀ d ∈ run.2, d.Regular b := by
  intro run
  have regular : ∀ d ∈ run.2, d.Regular b := (regular_after named noStop).2
  exact ⟨lastOwner_after regular, lastOwner_after_eq_none_iff regular, regular⟩

/-- Latest first: the deployment goes after a first configuration, and the second build has no
bundle. -/
def mixedTasks : List Task :=
  [.build .validating [] none, .resolveOwner, .change {}, .build .mutating [65] none]

theorem remembers_owner_mixedTasks :
    let run := ownedBuilder.after ⟨{ deployment := .ok (some ⟨some "dep", some "u1"⟩) }, none⟩
      mixedTasks
    let owner : OwnerResolution :=
      { status := .resolved, reference := some ⟨"apps/v1", "Deployment", "dep", "u1"⟩ }
    run.1.lastOwner = some owner ∧
      (∃ d, Latest Done.Built d run.2 ∧ d.Takes ownedBuilder owner) ∧
      (∀ d ∈ run.2, d.task = .build .validating [] none → ∃ e, d.run.outcome = .error e) ∧
      ∀ d ∈ run.2, d.task = .resolveOwner →
        d.run.calls = [.readDeployment (some "dep") (some "ns")] := by
  intro run owner
  obtain ⟨last, -, regular⟩ := ownedBuilder.remembers_owner (fun _ => ⟨rfl, rfl⟩)
    { deployment := .ok (some ⟨some "dep", some "u1"⟩) } mixedTasks (by
      intro cluster known e answer
      simp only [mixedTasks, List.mem_cons, reduceCtorEq, List.not_mem_nil, or_false, false_or,
        Task.change.injEq] at known
      rcases known with rfl | rfl
      · cases answer
      · cases answer
        rfl)
  have kept : run.1.lastOwner = some owner := rfl
  refine ⟨kept, (last owner).1 kept, ?_, ?_⟩
  · intro d member task
    exact ((regular d member).fails _ _ _ task).2 rfl
  · intro d member task
    exact (regular d member).reads _ rfl rfl (.inl task)

end AdmissionHooks.Builder
