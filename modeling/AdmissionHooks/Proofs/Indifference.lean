import AdmissionHooks.Proofs.Blindness
import AdmissionHooks.Proofs.Sent

/-!
# What the owner does not decide

A registration writes the owner on what it sends and decides nothing by it. Two registrations that
are answered differently about the deployment go the same way: beside the owners that they write,
they differ in a warning that the lookup of the owner may log. The answer itself is asked for once,
so that both configurations of a registration have one owner.
-/

namespace AdmissionHooks

/-- The call without the owners of what it creates. -/
def Call.disowned : Call → Call
  | .create k body => .create k { body with owners := none }
  | call => call

def Call.readsDeployment : Call → Bool
  | .readDeployment _ _ => true
  | _ => false

/-! ## Warnings -/

namespace OwnerLookup

/-- At most one record, which warns that there will be no owner. -/
def Warns (records : List Log.Record) : Prop :=
  records = [] ∨ ∃ message, records = [warning message]

theorem warns_told (o : OwnerLookup) (answer : Except Failure (Option Metadata)) :
    Warns (o.told answer) := by
  unfold told
  cases answer with
  | error e =>
      dsimp only
      split
      · exact .inl rfl
      · exact .inr ⟨_, rfl⟩
  | ok metadata =>
      dsimp only
      cases reference? metadata with
      | some reference => exact .inl rfl
      | none => exact .inr ⟨_, rfl⟩

/-- Two logs that agree but for what each warns of at one place. -/
def AgreeButWarnings (records records' : List Log.Record) : Prop :=
  ∃ before told told' after, Warns told ∧ Warns told' ∧
    records = before ++ (told ++ after) ∧ records' = before ++ (told' ++ after)

end OwnerLookup

theorem Builder.warns_ownerRecords (b : Builder) (answer : Except Failure (Option Metadata)) :
    OwnerLookup.Warns (b.ownerRecords answer) := by
  unfold ownerRecords
  split
  · rename_i o _ _
    exact o.warns_told answer
  · exact .inl rfl

/-! ## Runs that differ in their owners -/

/-- A relation of logs that holds between equal logs, and outlasts what both have before. -/
structure Prefixable (L : List Log.Record → List Log.Record → Prop) : Prop where
  same : ∀ records, L records records
  after : ∀ earlier {records records'}, L records records' →
    L (earlier ++ records) (earlier ++ records')

theorem prefixable_eq : Prefixable Eq where
  same _ := rfl
  after earlier _ _ agree := congrArg (earlier ++ ·) agree

theorem OwnerLookup.prefixable_agreeButWarnings : Prefixable AgreeButWarnings where
  same records := ⟨records, [], [], [], .inl rfl, .inl rfl, by simp, by simp⟩
  after earlier records records' := by
    rintro ⟨before, told, told', after, warns, warns', rfl, rfl⟩
    exact ⟨earlier ++ before, told, told', after, warns, warns', by simp, by simp⟩

namespace Action

variable {σ α β : Type} {R : σ → σ → Prop} {L : List Log.Record → List Log.Record → Prop}

/-- Two runs with one outcome, whose calls agree but for the owners that they write, and whose logs
and states are related. -/
structure Indifferent (L : List Log.Record → List Log.Record → Prop) (R : σ → σ → Prop)
    (a b : Run σ α) : Prop where
  outcome : a.outcome = b.outcome
  calls : a.calls.map Call.disowned = b.calls.map Call.disowned
  records : L a.records b.records
  state : R a.state b.state

theorem Alike.indifferent {a b : Run σ α} (alike : Alike R a b) : Indifferent Eq R a b :=
  ⟨alike.outcome, congrArg _ alike.calls, alike.records, alike.state⟩

/-- Where the first parts have equal logs, the logs of the whole are related as those of the second
parts are. -/
theorem Indifferent.bind (prefixable : Prefixable L) {x y : Action σ α} {f g : α → Action σ β}
    {s t : σ} (first : Indifferent Eq R (x.run s) (y.run t))
    (second : ∀ a s t, R s t → Indifferent L R ((f a).run s) ((g a).run t)) :
    Indifferent L R ((x >>= f).run s) ((y >>= g).run t) := by
  obtain ⟨outcome, calls, records, state⟩ := first
  rcases run_bind_cases x f s with ⟨e, failed, h⟩ | ⟨a, passed, h⟩
  · rw [h, run_bind_of_error (outcome.symm.trans failed), ← records]
    exact ⟨rfl, calls, prefixable.same _, state⟩
  · rw [h, run_bind_of_ok (outcome.symm.trans passed)]
    obtain ⟨outcome', calls', records', state'⟩ := second a _ _ state
    refine ⟨outcome', ?_, ?_, state'⟩
    · simp only [calls_join, List.map_append, calls, calls']
    · rw [records_join, records_join, ← records]
      exact prefixable.after _ records'

/-- First parts that differ in a warning and in what they yield. What goes on with the one and with
the other agrees from there on. -/
theorem Indifferent.bind_of_warnings {x : Action σ α} {f : α → Action σ β} {s t : σ} {a a' : α}
    (passed : (x.run s).outcome = .ok a) (passed' : (x.run t).outcome = .ok a')
    (calls : (x.run s).calls = (x.run t).calls)
    (warns : OwnerLookup.Warns (x.run s).records) (warns' : OwnerLookup.Warns (x.run t).records)
    (rest : Indifferent Eq R ((f a).run (x.run s).state) ((f a').run (x.run t).state)) :
    Indifferent OwnerLookup.AgreeButWarnings R ((x >>= f).run s) ((x >>= f).run t) := by
  rw [run_bind_of_ok passed, run_bind_of_ok passed']
  refine ⟨rest.outcome, ?_, ?_, rest.state⟩
  · simp only [calls_join, List.map_append, calls, rest.calls]
  · rw [records_join, records_join, rest.records]
    exact ⟨[], _, _, _, warns, warns', rfl, rfl⟩

end Action

/-! ## A registration -/

namespace Registrar

variable (r : Registrar) (files : FileSystem)

section

variable {secret : Except Failure SecretData} {answer answer' : Except Failure (Option Metadata)}
  {s t : Site}

/-- Whatever the owners, a configuration is placed with the same answer of the cluster. -/
theorem indifferent_place (k : Kind) (bundle : Bytes) (owner owner' : OwnerResolution)
    (swapped : s.cluster.Swapped secret secret answer answer' t.cluster) :
    Action.Indifferent Eq
      (fun s t => s.cluster.Swapped secret secret answer answer' t.cluster)
      ((r.place k bundle owner).run s) ((r.place k bundle owner').run t) := by
  by_cases given : bundle = []
  · -- nothing is built, and the failure names no owner
    subst given
    exact ⟨rfl, rfl, rfl, swapped⟩
  cases target : r.builder.target k with
  | error e =>
      rw [r.place_of_noTarget owner s given target, r.place_of_noTarget owner' t given target]
      exact ⟨rfl, rfl, rfl, swapped⟩
  | ok found =>
      obtain ⟨told, next⟩ := swapped.created k (r.configurationName k)
      rw [r.place_of_target owner s given target, r.place_of_target owner' t given target, told]
      exact ⟨rfl, rfl, rfl, next⟩

/-- From the lookup of the owner on, a registration that is not stopped there goes the same way for
both answers. -/
theorem indifferent_own (bundle : Bytes) (read : ∀ e, answer = .error e → e.isStop = false)
    (read' : ∀ e, answer' = .error e → e.isStop = false)
    (swapped : s.cluster.Swapped secret secret answer answer' t.cluster) :
    let rest : Action Site Unit := do
      let owner ← r.builder.resolveOwner.atSite
      r.place .mutating bundle owner
      r.place .validating bundle owner
      Action.log r.closingRecord
    Action.Indifferent OwnerLookup.AgreeButWarnings
      (fun s t => s.cluster.Swapped secret secret answer answer' t.cluster)
      (rest.run s) (rest.run t) := by
  intro rest
  obtain ⟨owner, owned⟩ := r.builder.ownerFor_of_noStop read
  obtain ⟨owner', owned'⟩ := r.builder.ownerFor_of_noStop read'
  have asked : r.builder.resolveOwner.atSite.run s =
      ⟨.ok owner, s, r.builder.ownerCalls, r.builder.ownerRecords answer⟩ := by
    rw [Action.run_atSite, r.builder.run_resolveOwner, swapped.deployment, owned]
  have asked' : r.builder.resolveOwner.atSite.run t =
      ⟨.ok owner', t, r.builder.ownerCalls, r.builder.ownerRecords answer'⟩ := by
    rw [Action.run_atSite, r.builder.run_resolveOwner, swapped.deployment_eq, owned']
  have passed : (r.builder.resolveOwner.atSite.run s).outcome = .ok owner := by rw [asked]
  have passed' : (r.builder.resolveOwner.atSite.run t).outcome = .ok owner' := by rw [asked']
  refine Action.Indifferent.bind_of_warnings passed passed' (by rw [asked, asked']) ?_ ?_ ?_
  · rw [asked]
    exact r.builder.warns_ownerRecords answer
  · rw [asked']
    exact r.builder.warns_ownerRecords answer'
  · -- the programs from here on differ in the owner that they go on with
    rw [asked, asked']
    refine (r.indifferent_place .mutating bundle owner owner' swapped).bind prefixable_eq ?_
    intro _ s t swapped
    refine (r.indifferent_place .validating bundle owner owner' swapped).bind prefixable_eq ?_
    intro _ s t swapped
    exact (Action.Blind.log r.closingRecord s t swapped).indifferent

/-- Sites that differ in the answer about the deployment give the same answer about the secret. -/
theorem blind_resolve_of_swapped :
    Action.Blind (Cluster.Swapped secret secret answer answer') (r.authority.resolve files) := by
  have same (c d : Cluster) (swapped : c.Swapped secret secret answer answer' d) :
      c.secret = d.secret := by
    rw [swapped.secret, swapped.secret_eq]
  exact r.authority.blind_resolve files (r.authority.blind_readSecret same)

theorem indifferent_register (read : ∀ e, answer = .error e → e.isStop = false)
    (read' : ∀ e, answer' = .error e → e.isStop = false)
    (swapped : s.cluster.Swapped secret secret answer answer' t.cluster) :
    Action.Indifferent OwnerLookup.AgreeButWarnings
      (fun s t => s.cluster.Swapped secret secret answer answer' t.cluster)
      ((r.register files).run s) ((r.register files).run t) := by
  have follows := follows_cluster (Cluster.Swapped secret secret answer answer')
  have resets := (r.blind_deregister fun k => Cluster.Swapped.blind_delete k _).atSite follows
  have resolves := (r.blind_resolve_of_swapped files).atSite follows
  have prefixable := OwnerLookup.prefixable_agreeButWarnings
  refine (Action.Blind.log r.openingRecord s t swapped).indifferent.bind prefixable ?_
  intro _ s t swapped
  refine (resets s t swapped).indifferent.bind prefixable ?_
  intro _ s t swapped
  refine (resolves s t swapped).indifferent.bind prefixable ?_
  intro bundle s t swapped
  exact r.indifferent_own bundle read read' swapped

/-- In debug nothing is asked about the deployment. -/
theorem register_of_debug (debug : r.mode = .debug) (s : Site) :
    let one := (r.register files).run (s.answering secret answer)
    (r.register files).run (s.answering secret answer') =
      { one with state := one.state.answering secret answer' } := by
  have owns :
      Action.Blind (Cluster.Swapped secret secret answer answer') r.builder.resolveOwner := by
    unfold Builder.resolveOwner
    rw [show r.builder.mode = .debug from debug]
    exact Action.Blind.pure _
  exact r.register_answering files s (r.blind_resolve_of_swapped files) owns

end

/-! ## One owner, asked for once -/

section

variable (s : Site)

theorem reads_reset : (r.reset s).calls.filter Call.readsDeployment = [] := by
  unfold reset
  rcases r.deregister_cases s.cluster with ⟨e, -, -, calls⟩ | ⟨-, calls⟩
  · rw [calls]
    rfl
  · rw [calls]
    rfl

theorem reads_ownership :
    (r.ownership s).calls.filter Call.readsDeployment = r.builder.ownerCalls := by
  rw [calls_ownership]
  unfold Builder.ownerCalls
  split <;> rfl

theorem reads_place (k : Kind) {bundle : Bytes} (owner : OwnerResolution) (given : bundle ≠ []) :
    ((r.place k bundle owner).run s).calls.filter Call.readsDeployment = [] := by
  rcases r.place_cases k owner s given with ⟨e, rs, -, h⟩ | ⟨target, rs, -, h⟩
  · rw [h]
    rfl
  · rw [h]
    rfl

/-- A registration that has found a bundle asks for the owner once. -/
theorem reads_of_lookup {reports : List Failure} {bundle : Bytes}
    (reset : (r.reset s).outcome = .ok reports) (lookup : (r.lookup files s).outcome = .ok bundle) :
    ((r.register files).run s).calls.filter Call.readsDeployment = r.builder.ownerCalls := by
  have given := r.ne_nil_of_lookup files s lookup
  have looked : (r.lookup files s).calls.filter Call.readsDeployment = [] := by
    rw [calls_lookup]
    rfl
  have first (owner : OwnerResolution) :
      (r.first s bundle owner).calls.filter Call.readsDeployment = [] :=
    r.reads_place (r.resetSite s) .mutating owner given
  have second (owner : OwnerResolution) :
      (r.second s bundle owner).calls.filter Call.readsDeployment = [] :=
    r.reads_place (r.first s bundle owner).state .validating owner given
  have course := r.register_course files s
  generalize (r.register files).run s = result at course ⊢
  cases course with
  | resetFails failed =>
      rw [reset] at failed
      cases failed
  | lookupFails _ failed =>
      rw [lookup] at failed
      cases failed
  | ownershipFails _ lookup' =>
      simp only [List.filter_append, reads_reset, looked, reads_ownership, List.nil_append]
  | firstFails _ lookup' =>
      rw [lookup] at lookup'
      cases lookup'
      simp only [List.filter_append, reads_reset, looked, reads_ownership, first, List.nil_append,
        List.append_nil]
  | secondFails _ lookup' =>
      rw [lookup] at lookup'
      cases lookup'
      simp only [List.filter_append, reads_reset, looked, reads_ownership, first, second,
        List.nil_append, List.append_nil]
  | completes _ lookup' =>
      rw [lookup] at lookup'
      cases lookup'
      simp only [List.filter_append, reads_reset, looked, reads_ownership, first, second,
        List.nil_append, List.append_nil]

/-- A registration that sends anything has asked for the owner once. -/
theorem reads_of_sent {k : Kind} {body : Configuration}
    (sent : Call.create k body ∈ ((r.register files).run s).calls) :
    ((r.register files).run s).calls.filter Call.readsDeployment = r.builder.ownerCalls := by
  obtain ⟨reports, reset⟩ := r.reset_of_sent files s sent
  obtain ⟨bundle, owner, placed, found, -⟩ := r.calls_of_sent files s sent
  exact r.reads_of_lookup files s reset found

end

/-- Whatever is answered about the deployment, short of a request to stop, a registration ends the
same, makes the same calls but for the owners that it writes, logs the same but for a warning and
leaves the same. In debug the answer makes no difference at all. What one registration sends has one
owner, which production asks for once. -/
theorem register_indifferent (r : Registrar) (files : FileSystem) (s : Site)
    (secret : Except Failure SecretData) {answer answer' : Except Failure (Option Metadata)}
    (read : ∀ e, answer = .error e → e.isStop = false)
    (read' : ∀ e, answer' = .error e → e.isStop = false) :
    let one := (r.register files).run (s.answering secret answer)
    let other := (r.register files).run (s.answering secret answer')
    (other.outcome = one.outcome ∧
      other.calls.map Call.disowned = one.calls.map Call.disowned ∧
      OwnerLookup.AgreeButWarnings one.records other.records ∧
      other.state.cluster = one.state.cluster.answering secret answer') ∧
    (r.mode = .debug → other = { one with state := one.state.answering secret answer' }) ∧
    ∃ owner, r.builder.ownerFor answer = .ok owner ∧
      ∀ k body, Call.create k body ∈ one.calls →
        body.owners = owner.owners ∧
          one.calls.filter Call.readsDeployment =
            match r.mode with
            | .production => [.readDeployment r.deploymentName r.space]
            | .debug => [] := by
  intro one other
  refine ⟨?_, fun debug => r.register_of_debug files debug s, ?_⟩
  · have alike := r.indifferent_register files (s := s.answering secret answer)
      (t := s.answering secret answer') read read'
      (s.cluster.swapped_answering secret secret answer answer')
    exact ⟨alike.outcome.symm, alike.calls.symm, alike.records, alike.state.swapped⟩
  · obtain ⟨owner, owned⟩ := r.builder.ownerFor_of_noStop read
    refine ⟨owner, owned, ?_⟩
    intro k body sent
    obtain ⟨bundle, maker, target, -, resolved, -, rfl⟩ := r.made_of_register files _ sent
    have same : maker = owner := by
      rw [outcome_ownership] at resolved
      exact Except.ok.inj (resolved.symm.trans owned)
    refine ⟨congrArg OwnerResolution.owners same, ?_⟩
    rw [show one.calls.filter Call.readsDeployment = r.builder.ownerCalls from
      r.reads_of_sent files _ sent]
    unfold Builder.ownerCalls
    rw [show r.builder.mode = r.mode from rfl]
    cases r.mode <;> rfl

/-- The deployment cannot be read, or it is identified: the owners that are written differ, and
nothing else does. -/
theorem register_indifferent_ownedSession :
    let unread : Except Failure (Option Metadata) := .error (.raised "RuntimeError" "boom")
    let identified : Except Failure (Option Metadata) := .ok (some ⟨some "controller", some "7b0e"⟩)
    let done (answer : Except Failure (Option Metadata)) :=
      (Session.ownedSession.client.register {}).run
        (Session.ownedSession.site.answering (.ok none) answer)
    (done identified).outcome = (done unread).outcome ∧
      (done identified).calls.map Call.disowned = (done unread).calls.map Call.disowned ∧
      (done identified).calls ≠ (done unread).calls := by
  intro unread identified done
  have read (e : Failure) (h : unread = .error e) : e.isStop = false := by
    have raised : .raised "RuntimeError" "boom" = e := Except.error.inj h
    rw [← raised]
    rfl
  have read' (e : Failure) (h : identified = .error e) : e.isStop = false := nomatch h
  obtain ⟨⟨outcome, calls, -, -⟩, -, -⟩ :=
    register_indifferent Session.ownedSession.client {} Session.ownedSession.site (.ok none) read
      read'
  exact ⟨outcome, calls, by decide⟩

end Registrar

end AdmissionHooks
