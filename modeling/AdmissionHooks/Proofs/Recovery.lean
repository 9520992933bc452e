import AdmissionHooks.Proofs.Confinement
import AdmissionHooks.Proofs.Outcome
import AdmissionHooks.Proofs.Sent

/-!
# Registering again

A registration whose calls meet no faults succeeds in whatever state it finds the cluster, because its
own reset makes room for what it creates. It leaves both of its names there and keeps the conditions
under which it succeeds, so it may be repeated, and sends the same configurations each time.
-/

namespace AdmissionHooks

/-- The next `n` calls of each verb and kind meet no faults. -/
def Cluster.Calm (c : Cluster) (n : Nat) : Prop :=
  ∀ k, (∀ fault ∈ (c.createFaults.get k).take n, fault = none) ∧
    ∀ fault ∈ (c.deleteFaults.get k).take n, fault = none

theorem Cluster.join_head?_of_take {faults : List (Option Failure)} {n : Nat}
    (calm : ∀ fault ∈ faults.take (n + 1), fault = none) : faults.head?.join = none := by
  have head := join_head?_of_none calm
  rwa [List.head?_take, if_neg (Nat.succ_ne_zero n)] at head

theorem tail_of_take {faults : List (Option Failure)} {n : Nat}
    (calm : ∀ fault ∈ faults.take (n + 1), fault = none) :
    ∀ fault ∈ faults.tail.take n, fault = none := by
  cases faults with
  | nil => simp
  | cons first faults =>
      intro fault met
      exact calm fault (List.mem_cons_of_mem first met)

namespace Cluster.Calm

variable {c : Cluster} {n : Nat}

theorem createFault (calm : c.Calm (n + 1)) (k : Kind) : c.createFault k = none :=
  join_head?_of_take (calm k).1

theorem deleteFault (calm : c.Calm (n + 1)) (k : Kind) : c.deleteFault k = none :=
  join_head?_of_take (calm k).2

end Cluster.Calm

namespace Registrar

variable (r : Registrar) (files : FileSystem)

/-- The configuration of a kind that a registration sends, as far as the cluster allows it. -/
def body (c : Cluster) (k : Kind) : Except Failure Configuration := do
  let bundle ← AuthorityLookup.bundle r.tls files c.secret
  let owner ← r.builder.ownerFor c.deployment
  let target ← r.builder.target k
  return r.builder.configuration k target bundle owner

/-- The calls of a registration that comes to its end. -/
def fullCourse (bodies : Kind → Configuration) : List Call :=
  (Kind.all.map fun k => .delete k (r.configurationName k)) ++
    .readSecret (some r.secretName) r.space :: r.builder.ownerCalls ++
      Kind.all.map fun k => .create k (bodies k)

/-- The runs of a registration that is made `n` times. -/
def repeated : Nat → Site → List (Run Site Unit)
  | 0, _ => []
  | n + 1, s => (r.register files).run s :: repeated n ((r.register files).run s).state

variable {r files}

theorem body_congr {c d : Cluster} (secret : d.secret = c.secret)
    (deployment : d.deployment = c.deployment) (k : Kind) :
    r.body files d k = r.body files c k := by
  unfold body
  rw [secret, deployment]

theorem parts_of_body {c : Cluster} {k : Kind} {body : Configuration}
    (h : r.body files c k = .ok body) :
    ∃ bundle owner target, AuthorityLookup.bundle r.tls files c.secret = .ok bundle ∧
      r.builder.ownerFor c.deployment = .ok owner ∧ r.builder.target k = .ok target ∧
      body = r.builder.configuration k target bundle owner := by
  obtain ⟨bundle, bundled, h⟩ := exists_of_bind_eq_ok h
  obtain ⟨owner, owned, h⟩ := exists_of_bind_eq_ok h
  obtain ⟨target, found, h⟩ := exists_of_bind_eq_ok h
  cases h
  exact ⟨bundle, owner, target, bundled, owned, found, rfl⟩

theorem body_of_parts {c : Cluster} {k : Kind} {bundle : Bytes} {owner : OwnerResolution}
    {target : Target} (bundled : AuthorityLookup.bundle r.tls files c.secret = .ok bundle)
    (owned : r.builder.ownerFor c.deployment = .ok owner)
    (found : r.builder.target k = .ok target) :
    r.body files c k = .ok (r.builder.configuration k target bundle owner) := by
  unfold body
  rw [bundled, owned, found]
  rfl

/-- Placing a configuration whose creation meets no failure. -/
theorem place_of_free {k : Kind} {bundle : Bytes} {target : Target} (owner : OwnerResolution)
    (s : Site) (given : bundle ≠ []) (found : r.builder.target k = .ok target)
    (free : s.cluster.creationFailure k (r.configurationName k) = none) :
    ((r.place k bundle owner).run s).outcome = .ok () ∧
      ((r.place k bundle owner).run s).state.cluster =
        (s.cluster.created k (r.configurationName k)).2 ∧
      ((r.place k bundle owner).run s).calls =
        [.create k (r.builder.configuration k target bundle owner)] := by
  rw [r.place_of_target owner s given found]
  exact ⟨(creation_eq_ok_iff _).2 free, rfl, rfl⟩

theorem obstacle_of_calm {c : Cluster} {n : Nat} (calm : c.Calm (n + 1)) (k : Kind) :
    r.obstacle c k = none :=
  (r.obstacle_eq_none_iff c k).2 ⟨calm.createFault k, .inl (calm.deleteFault k)⟩

/-- The cluster after a registration that comes to its end. -/
def renewed (r : Registrar) (c : Cluster) : Cluster :=
  (((r.cleared c).created .mutating (r.configurationName .mutating)).2.created .validating
    (r.configurationName .validating)).2

theorem mem_renewed {c : Cluster} {n : Nat} (calm : c.Calm (n + 1)) (k : Kind) (name : String) :
    name ∈ (r.renewed c).names.get k ↔
      name ∈ c.names.get k ∨ name = r.configurationName k := by
  unfold renewed
  rw [Cluster.mem_created, Cluster.mem_created, creationFailure_second, creationFailure_cleared,
    mem_cleared]
  simp only [obstacle_of_calm calm, calm.deleteFault k]
  by_cases own : name = r.configurationName k <;> cases k <;> simp [own]

theorem createFaults_renewed (c : Cluster) (k : Kind) :
    (r.renewed c).createFaults.get k = (c.createFaults.get k).tail := by
  cases k <;> simp [renewed, cleared, Cluster.createFaults_created, ByKind.get, ByKind.set]

theorem deleteFaults_renewed (c : Cluster) (k : Kind) :
    (r.renewed c).deleteFaults.get k = (c.deleteFaults.get k).tail := by
  cases k <;> simp [renewed, cleared, Cluster.deleteFaults_deleted, ByKind.get, ByKind.set]

theorem calm_renewed {c : Cluster} {n : Nat} (calm : c.Calm (n + 1)) : (r.renewed c).Calm n := by
  intro k
  rw [createFaults_renewed, deleteFaults_renewed]
  exact ⟨tail_of_take (calm k).1, tail_of_take (calm k).2⟩

/-- A registration that finds its configurations and meets no faults comes to its end. -/
theorem register_of_calm {s : Site} {bodies : Kind → Configuration} {n : Nat}
    (ready : ∀ k, r.body files s.cluster k = .ok (bodies k)) (calm : s.cluster.Calm (n + 1)) :
    ((r.register files).run s).outcome = .ok () ∧
      ((r.register files).run s).state.cluster = r.renewed s.cluster ∧
      ((r.register files).run s).calls = r.fullCourse bodies := by
  obtain ⟨bundle, owner, target, bundled, owned, found, body⟩ := parts_of_body (ready .mutating)
  obtain ⟨_, _, target', bundled', owned', found', body'⟩ := parts_of_body (ready .validating)
  -- the two configurations have one bundle and one owner
  rw [bundled] at bundled'
  rw [owned] at owned'
  cases bundled'
  cases owned'
  have given := AuthorityLookup.bundle_ne_nil files bundled
  have free := obstacle_of_calm (r := r) calm
  have reset := r.outcome_deregister_of_noFault calm.deleteFault
  obtain ⟨clean, deletions⟩ := r.state_deregister_of_ok reset
  have empty : (r.resetSite s).cluster = r.cleared s.cluster := clean
  obtain ⟨first, half, sent⟩ := place_of_free owner (r.resetSite s) given found
    (by rw [empty, creationFailure_cleared, free])
  rw [empty] at half
  obtain ⟨second, whole, sent'⟩ := place_of_free owner (r.first s bundle owner).state given found'
    (by rw [Registrar.first, half, creationFailure_second, free])
  rw [Registrar.first, half] at whole
  obtain ⟨returned, state, calls⟩ := r.register_completes files reset
    (by rw [outcome_lookup, bundled]) (by rw [outcome_ownership, owned]) first second
  refine ⟨returned, by rw [state]; exact whole, ?_⟩
  rw [calls, show (r.reset s).calls = _ from deletions, calls_lookup, calls_ownership,
    show (r.first s bundle owner).calls = _ from sent,
    show (r.second s bundle owner).calls = _ from sent', ← body, ← body']
  simp [fullCourse, Kind.all]

/-- A repeated registration keeps coming to its end, with the same calls. -/
theorem repeated_of_calm {s : Site} {bodies : Kind → Configuration} {n : Nat}
    (ready : ∀ k, r.body files s.cluster k = .ok (bodies k)) (calm : s.cluster.Calm n) :
    ∀ done ∈ r.repeated files n s, done.outcome = .ok () ∧ done.calls = r.fullCourse bodies ∧
      ∀ k name, name ∈ done.state.cluster.names.get k ↔
        name ∈ s.cluster.names.get k ∨ name = r.configurationName k := by
  induction n generalizing s with
  | zero =>
      intro done member
      cases member
  | succ n ih =>
      obtain ⟨returned, left, calls⟩ := register_of_calm ready calm
      have confined := r.confined_register files s
      intro done member
      rcases List.mem_cons.1 member with rfl | later
      · refine ⟨returned, calls, fun k name => ?_⟩
        rw [left, mem_renewed calm]
      · -- the first run has kept the answers, and the faults ahead are still none
        obtain ⟨returned, calls, names⟩ := ih
          (fun k => (body_congr confined.secret confined.deployment k).trans (ready k))
          (by rw [left]; exact calm_renewed calm) done later
        refine ⟨returned, calls, fun k name => ?_⟩
        rw [names, left, mem_renewed calm]
        exact or_assoc.trans (or_congr_right (or_self_iff))

end Registrar

/-- In whatever state its history has left a session, a registration whose calls meet no faults and
whose bundle is found succeeds, however often it is made. It adds the client's two names to those that
it finds, and makes the same calls each time, so sends the same two configurations. -/
theorem Session.register_heals (here : Session) (n : Nat) (named : here.client.NamesService)
    (calm : here.site.cluster.Calm n)
    (read : here.client.mode = .production →
      ∀ e, here.site.cluster.deployment = .error e → e.isStop = false)
    (resolves : ∃ bytes,
      ((here.client.authority.resolve here.files).run here.site.cluster).outcome = .ok bytes) :
    ∃ bodies : Kind → Configuration,
      ∀ done ∈ here.client.repeated here.files n here.site,
        done.outcome = .ok () ∧ done.calls = here.client.fullCourse bodies ∧
        ∀ k name, name ∈ done.state.cluster.names.get k ↔
          name ∈ here.site.cluster.names.get k ∨ name = here.client.configurationName k := by
  obtain ⟨bundle, found⟩ := resolves
  rw [AuthorityLookup.outcome_resolve] at found
  obtain ⟨owner, owned⟩ := here.client.ownerFor_of_read read
  have ready (k : Kind) : ∃ body, here.client.body here.files here.site.cluster k = .ok body := by
    obtain ⟨target, reached⟩ := Registrar.target_of_namesService named k
    exact ⟨_, Registrar.body_of_parts found owned reached⟩
  exact ⟨fun k => (ready k).choose,
    Registrar.repeated_of_calm (fun k => (ready k).choose_spec) calm⟩

/-- A client in production finds half of what it makes there, and the leftovers of the other mode. -/
def halfSession : Session where
  client :=
    { space := some "policies", serviceName := some "hooks", deploymentName := some "controller"
      tls := { data := some [0x41, 0x42] } }
  site := ⟨{ names := ⟨[Kind.mutating.configurationName .debug],
    [Kind.validating.configurationName .production]⟩ }, none⟩
  files := {}

theorem Session.register_heals_halfSession :
    ∃ first second, halfSession.client.repeated {} 2 halfSession.site = [first, second] ∧
      first.outcome = .ok () ∧ second.outcome = .ok () ∧ first.calls = second.calls ∧
      Kind.mutating.configurationName .debug ∈ second.state.cluster.names.get .mutating ∧
      Kind.mutating.configurationName .production ∈ second.state.cluster.names.get .mutating := by
  have calm : halfSession.site.cluster.Calm 2 := by
    intro k
    cases k <;> simp [halfSession, ByKind.get]
  obtain ⟨bodies, runs⟩ := register_heals halfSession 2 (fun _ => ⟨rfl, rfl⟩) calm
    (by intro _ e failed; cases failed; rfl) ⟨_, rfl⟩
  obtain ⟨returned, calls, -⟩ := runs _ (.head _)
  obtain ⟨returned', calls', names⟩ := runs _ (.tail _ (.head _))
  exact ⟨_, _, rfl, returned, returned', calls.trans calls'.symm,
    (names .mutating _).2 (.inl (by decide)), (names .mutating _).2 (.inr rfl)⟩

end AdmissionHooks
