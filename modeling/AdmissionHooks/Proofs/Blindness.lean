import AdmissionHooks.Proofs.Confinement

/-!
# Two runs side by side

An action is blind to a difference of its states when two runs from states that differ in this way
cannot be told apart from outside, and leave states that differ in no other way. Blindness passes to
composed actions. A registration is blind to whatever its calls to the cluster are blind to.
-/

namespace AdmissionHooks

namespace Action

variable {σ α β : Type} {R : σ → σ → Prop}

/-- Two runs with one outcome and one trace, whose states are related. -/
structure Alike (R : σ → σ → Prop) (a b : Run σ α) : Prop where
  outcome : a.outcome = b.outcome
  calls : a.calls = b.calls
  records : a.records = b.records
  state : R a.state b.state

/-- The runs have nothing of their own but their states. -/
theorem Alike.eq_of_state {a b : Run σ α} (alike : Alike R a b) :
    b = { a with state := b.state } := by
  obtain ⟨outcome, calls, records, -⟩ := alike
  rw [outcome, calls, records]

/-- From related states the action runs alike. -/
def Blind (R : σ → σ → Prop) (x : Action σ α) : Prop := ∀ s t, R s t → Alike R (x.run s) (x.run t)

theorem Blind.pure (a : α) : Blind R (Pure.pure a) := fun _ _ related => ⟨rfl, rfl, rfl, related⟩

theorem Blind.fail (e : Failure) : Blind R (fail e : Action σ α) :=
  fun _ _ related => ⟨rfl, rfl, rfl, related⟩

theorem Blind.log (record : Log.Record) : Blind R (log record) :=
  fun _ _ related => ⟨rfl, rfl, rfl, related⟩

theorem Blind.ofExcept (result : Except Failure α) : Blind R (ofExcept result) :=
  fun _ _ related => ⟨rfl, rfl, rfl, related⟩

theorem Blind.modify {f : σ → σ} (kept : ∀ s t, R s t → R (f s) (f t)) : Blind R (modify f) :=
  fun s t related => ⟨rfl, rfl, rfl, kept s t related⟩

theorem Blind.attempt {x : Action σ α} (blind : Blind R x) : Blind R x.attempt := by
  intro s t related
  obtain ⟨outcome, calls, records, state⟩ := blind s t related
  exact ⟨congrArg Except.ok outcome, calls, records, state⟩

/-- The second part needs to be blind only after what the first may yield. -/
theorem Blind.bind_of_outcome {x : Action σ α} {f : α → Action σ β} (first : Blind R x)
    (second : ∀ s a, (x.run s).outcome = .ok a → Blind R (f a)) : Blind R (x >>= f) := by
  intro s t related
  obtain ⟨outcome, calls, records, state⟩ := first s t related
  rcases run_bind_cases x f s with ⟨e, failed, h⟩ | ⟨a, passed, h⟩
  · rw [h, run_bind_of_error (outcome.symm.trans failed)]
    exact ⟨rfl, calls, records, state⟩
  · rw [h, run_bind_of_ok (outcome.symm.trans passed)]
    obtain ⟨outcome', calls', records', state'⟩ := second s a passed _ _ state
    exact ⟨outcome', by simp [calls, calls'], by simp [records, records'], state'⟩

theorem Blind.bind {x : Action σ α} {f : α → Action σ β} (first : Blind R x)
    (second : ∀ a, Blind R (f a)) : Blind R (x >>= f) :=
  first.bind_of_outcome fun _ a _ => second a

end Action

/-! ## Sites -/

/-- A relation of sites that follows a relation of their clusters: related sites have related
clusters, and stay related when these move on or when both remember one owner. -/
structure Follows (S : Site → Site → Prop) (R : Cluster → Cluster → Prop) : Prop where
  cluster : ∀ {s t}, S s t → R s.cluster t.cluster
  moves : ∀ {s t c d}, S s t → R c d → S { s with cluster := c } { t with cluster := d }
  remembers : ∀ {s t} owner, S s t →
    S { s with lastOwner := some owner } { t with lastOwner := some owner }

theorem follows_cluster (R : Cluster → Cluster → Prop) :
    Follows (fun s t => R s.cluster t.cluster) R where
  cluster related := related
  moves _ related := related
  remembers _ related := related

/-- Sites with related clusters that remember one owner. -/
structure Site.Matched (R : Cluster → Cluster → Prop) (s t : Site) : Prop where
  cluster : R s.cluster t.cluster
  lastOwner : s.lastOwner = t.lastOwner

theorem follows_matched (R : Cluster → Cluster → Prop) : Follows (Site.Matched R) R where
  cluster matched := matched.cluster
  moves matched next := ⟨next, matched.lastOwner⟩
  remembers _ matched := ⟨matched.cluster, rfl⟩

theorem Action.Blind.atSite {α : Type} {S : Site → Site → Prop} {R : Cluster → Cluster → Prop}
    {x : Action Cluster α} (blind : Action.Blind R x) (follows : Follows S R) :
    Action.Blind S x.atSite := by
  intro s t related
  have alike := blind s.cluster t.cluster (follows.cluster related)
  exact ⟨alike.outcome, alike.calls, alike.records, follows.moves related alike.state⟩

open AdmissionHooks.Action (Blind)

/-! ## Other answers -/

/-- The first cluster gives one pair of answers, and the second is the first but for giving another. -/
structure Cluster.Swapped (secret secret' : Except Failure SecretData)
    (deployment deployment' : Except Failure (Option Metadata)) (c d : Cluster) : Prop where
  secret : c.secret = secret
  deployment : c.deployment = deployment
  swapped : d = c.answering secret' deployment'

namespace Cluster.Swapped

variable {secret secret' : Except Failure SecretData}
  {deployment deployment' : Except Failure (Option Metadata)} {c d : Cluster}

theorem secret_eq (swapped : c.Swapped secret secret' deployment deployment' d) :
    d.secret = secret' := by
  rw [swapped.swapped]
  rfl

theorem deployment_eq (swapped : c.Swapped secret secret' deployment deployment' d) :
    d.deployment = deployment' := by
  rw [swapped.swapped]
  rfl

theorem deleted (swapped : c.Swapped secret secret' deployment deployment' d) (k : Kind)
    (name : String) :
    (c.deleted k name).1 = (d.deleted k name).1 ∧
      (c.deleted k name).2.Swapped secret secret' deployment deployment' (d.deleted k name).2 := by
  rw [swapped.swapped, Cluster.deleted_answering]
  refine ⟨rfl, ?_, ?_, rfl⟩
  · rw [Cluster.secret_deleted, swapped.secret]
  · rw [Cluster.deployment_deleted, swapped.deployment]

theorem created (swapped : c.Swapped secret secret' deployment deployment' d) (k : Kind)
    (name : String) :
    (c.created k name).1 = (d.created k name).1 ∧
      (c.created k name).2.Swapped secret secret' deployment deployment' (d.created k name).2 := by
  rw [swapped.swapped, Cluster.created_answering]
  refine ⟨rfl, ?_, ?_, rfl⟩
  · rw [Cluster.secret_created, swapped.secret]
  · rw [Cluster.deployment_created, swapped.deployment]

theorem blind_delete (k : Kind) (name : String) :
    Blind (Cluster.Swapped secret secret' deployment deployment') (Action.delete k name) := by
  intro c d swapped
  obtain ⟨outcome, state⟩ := swapped.deleted k name
  exact ⟨outcome, rfl, rfl, state⟩

theorem blind_create (k : Kind) (body : Configuration) :
    Blind (Cluster.Swapped secret secret' deployment deployment') (Action.create k body) := by
  intro c d swapped
  obtain ⟨outcome, state⟩ := swapped.created k body.name
  exact ⟨outcome, rfl, rfl, state⟩

end Cluster.Swapped

theorem Cluster.swapped_answering (c : Cluster) (secret secret' : Except Failure SecretData)
    (deployment deployment' : Except Failure (Option Metadata)) :
    (c.answering secret deployment).Swapped secret secret' deployment deployment'
      (c.answering secret' deployment') :=
  ⟨rfl, rfl, rfl⟩

/-- The site with these answers about the secret and the deployment. -/
def Site.answering (s : Site) (secret : Except Failure SecretData)
    (deployment : Except Failure (Option Metadata)) : Site :=
  { s with cluster := s.cluster.answering secret deployment }

theorem Site.matched_answering (s : Site) (secret secret' : Except Failure SecretData)
    (deployment deployment' : Except Failure (Option Metadata)) :
    (s.answering secret deployment).Matched (Cluster.Swapped secret secret' deployment deployment')
      (s.answering secret' deployment') :=
  ⟨s.cluster.swapped_answering secret secret' deployment deployment', rfl⟩

theorem Site.Matched.eq_answering {s t : Site} {secret secret' : Except Failure SecretData}
    {deployment deployment' : Except Failure (Option Metadata)}
    (matched : s.Matched (Cluster.Swapped secret secret' deployment deployment') t) :
    t = s.answering secret' deployment' := by
  obtain ⟨cluster, lastOwner⟩ := t
  have other : cluster = s.cluster.answering secret' deployment' := matched.cluster.swapped
  have same : lastOwner = s.lastOwner := matched.lastOwner.symm
  rw [other, same]
  rfl

/-! ## Lookups -/

namespace AuthorityLookup

variable {R : Cluster → Cluster → Prop} (a : AuthorityLookup) (files : FileSystem)

theorem blind_decodeEntry (data : SecretData) : Blind R (a.decodeEntry data) := by
  unfold decodeEntry
  cases entry? data with
  | none => exact (Blind.log _).bind fun _ => Blind.pure _
  | some text =>
      dsimp only
      cases Base64.decode text with
      | ok bytes => exact Blind.pure _
      | error e => exact (Blind.log _).bind fun _ => Blind.pure _

theorem blind_readFile (path : String) : Blind R (readFile files path) := by
  unfold readFile
  split
  · exact Blind.fail _
  · cases files.open? path with
    | ok content => exact Blind.pure _
    | error e => exact (Blind.log _).bind fun _ => Blind.pure _

theorem blind_readClient : Blind R (a.readClient files) := by
  unfold readClient
  cases nonEmpty a.tls.file with
  | none => exact Blind.pure _
  | some path => exact blind_readFile files path

theorem blind_readSecret (same : ∀ c d, R c d → c.secret = d.secret) : Blind R a.readSecret := by
  have reads : Blind R (Action.readSecret a.secretName a.space) :=
    fun c d related => ⟨same c d related, rfl, rfl, related⟩
  refine reads.attempt.bind fun answer => ?_
  cases answer with
  | ok data => exact a.blind_decodeEntry data
  | error e =>
      dsimp only
      split
      · exact (Blind.log _).bind fun _ => Blind.pure _
      · exact Blind.fail _

/-- A lookup sees nothing of the cluster but what it reads of the secret. -/
theorem blind_resolve (reads : Blind R a.readSecret) : Blind R (a.resolve files) := by
  refine reads.bind fun bytes => ?_
  split
  · exact (Blind.log _).bind fun _ => Blind.pure _
  · refine (a.blind_readClient files).bind fun own => ?_
    split
    · exact (Blind.log _).bind fun _ => Blind.pure _
    · exact Blind.fail _

end AuthorityLookup

namespace Builder

variable {R : Cluster → Cluster → Prop} (b : Builder)

/-- A lookup of the owner sees nothing of the cluster but the deployment. -/
theorem blind_resolveOwner (same : ∀ c d, R c d → c.deployment = d.deployment) :
    Blind R b.resolveOwner := by
  unfold resolveOwner
  split
  · exact Blind.pure _
  · exact Blind.pure _
  · rename_i o _ _
    have reads : Blind R (Action.readDeployment o.deploymentName o.space) :=
      fun c d related => ⟨same c d related, rfl, rfl, related⟩
    refine reads.attempt.bind fun answer => ?_
    cases answer with
    | error e =>
        dsimp only
        split
        · exact Blind.fail _
        · exact (Blind.log _).bind fun _ => Blind.pure _
    | ok metadata =>
        dsimp only
        split
        · exact Blind.pure _
        · exact (Blind.log _).bind fun _ => Blind.pure _

/-- Building with an owner sees nothing of the site. -/
theorem blind_build {S : Site → Site → Prop} (follows : Follows S R) (k : Kind) (bundle : Bytes)
    (owner : OwnerResolution) : Blind S (b.build k bundle (some owner)) := by
  unfold build
  split
  · exact Blind.fail _
  · refine (Blind.atSite (Blind.pure owner) follows).bind fun owner => ?_
    have remembers : Blind S (Action.modify fun s => { s with lastOwner := some owner }) :=
      Blind.modify fun _ _ => follows.remembers owner
    refine remembers.bind fun _ => ?_
    dsimp only
    split
    · refine (Blind.log _).bind fun _ => ?_
      exact (Blind.ofExcept _).bind fun _ => Blind.pure _
    · exact (Blind.ofExcept _).bind fun _ => Blind.pure _

theorem name_of_build {k : Kind} {bundle : Bytes} {owner : OwnerResolution} {s : Site}
    {body : Configuration}
    (built : ((b.build k bundle (some owner)).run s).outcome = .ok body) :
    body.name = b.configurationName k := by
  by_cases given : bundle = []
  · subst given
    cases built
  · rw [b.run_build k owner s given] at built
    cases target : b.target k with
    | error e => rw [target] at built; cases built
    | ok found =>
        rw [target] at built
        cases built
        rfl

end Builder

/-! ## Registrations -/

namespace Registrar

variable (r : Registrar) {R : Cluster → Cluster → Prop}

section

variable (deletes : ∀ k, Blind R (Action.delete k (r.configurationName k)))

include deletes

theorem blind_remove (k : Kind) : Blind R (r.remove k) := by
  refine (deletes k).attempt.bind fun answer => ?_
  cases answer with
  | ok u => exact (Blind.log _).bind fun _ => Blind.pure _
  | error e =>
      dsimp only
      split
      · exact (Blind.log _).bind fun _ => Blind.pure _
      · exact Blind.fail _

theorem blind_deregister : Blind R r.deregister :=
  (r.blind_remove deletes .mutating).bind fun _ =>
    (r.blind_remove deletes .validating).bind fun _ => Blind.pure _

end

section

variable (creates : ∀ k body, body.name = r.configurationName k → Blind R (Action.create k body))

include creates

theorem blind_send (k : Kind) {body : Configuration} (named : body.name = r.configurationName k) :
    Blind R (send k body) := by
  refine (creates k body named).attempt.bind fun answer => ?_
  cases answer with
  | ok u => exact Blind.log _
  | error e =>
      dsimp only
      split
      · exact (Blind.log _).bind fun _ => Blind.fail _
      · exact Blind.fail _

theorem blind_place {S : Site → Site → Prop} (follows : Follows S R) (k : Kind) (bundle : Bytes)
    (owner : OwnerResolution) : Blind S (r.place k bundle owner) := by
  refine (r.builder.blind_build follows k bundle owner).bind_of_outcome fun s body built => ?_
  exact (r.blind_send creates k (r.builder.name_of_build built)).atSite follows

end

/-- A registration is blind to what its lookups and its calls under its own names are blind to. -/
theorem blind_register {S : Site → Site → Prop} (follows : Follows S R) (files : FileSystem)
    (deletes : ∀ k, Blind R (Action.delete k (r.configurationName k)))
    (creates : ∀ k body, body.name = r.configurationName k → Blind R (Action.create k body))
    (resolves : Blind R (r.authority.resolve files)) (owns : Blind R r.builder.resolveOwner) :
    Blind S (r.register files) := by
  unfold register
  refine (Blind.log _).bind fun _ => ?_
  refine ((r.blind_deregister deletes).atSite follows).bind fun _ => ?_
  refine (resolves.atSite follows).bind fun bundle => ?_
  refine (owns.atSite follows).bind fun owner => ?_
  refine (r.blind_place creates follows .mutating bundle owner).bind fun _ => ?_
  refine (r.blind_place creates follows .validating bundle owner).bind fun _ => ?_
  exact Blind.log _

/-- Other answers make no difference to a registration whose lookups are blind to them. -/
theorem register_answering (files : FileSystem) (s : Site) {secret secret' : Except Failure SecretData}
    {deployment deployment' : Except Failure (Option Metadata)}
    (resolves : Blind (Cluster.Swapped secret secret' deployment deployment')
      (r.authority.resolve files))
    (owns : Blind (Cluster.Swapped secret secret' deployment deployment') r.builder.resolveOwner) :
    let one := (r.register files).run (s.answering secret deployment)
    (r.register files).run (s.answering secret' deployment') =
      { one with state := one.state.answering secret' deployment' } := by
  intro one
  have blind := r.blind_register (follows_matched _) files
    (fun k => Cluster.Swapped.blind_delete k _) (fun k body _ => Cluster.Swapped.blind_create k body)
    resolves owns
  have alike := blind _ _ (s.matched_answering secret secret' deployment deployment')
  rw [← alike.state.eq_answering]
  exact alike.eq_of_state

end Registrar

end AdmissionHooks
