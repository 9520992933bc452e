import AdmissionHooks.Proofs.Runs

/-!
# Owners and built configurations

The resolution of an owner as a plain function of the answer about the deployment, and what building
a configuration comes to once its bundle and its owner are given.
-/

namespace AdmissionHooks

namespace OwnerLookup

/-- What reading the deployment comes to. -/
def resolution : Except Failure (Option Metadata) → Except Failure OwnerResolution
  | .error e =>
      if e.isStop then .error e else .ok { status := .lookupFailed, failure := some e }
  | .ok metadata =>
      match reference? metadata with
      | some reference => .ok { status := .resolved, reference := some reference }
      | none => .ok { status := .lookupFailed, failure := some incompleteMetadata }

/-- Only a request to stop keeps a lookup from an end. -/
theorem resolution_of_noStop {answer : Except Failure (Option Metadata)}
    (noStop : ∀ e, answer = .error e → e.isStop = false) :
    ∃ owner, resolution answer = .ok owner := by
  cases answer with
  | error e => exact ⟨_, by simp [resolution, noStop e rfl]; rfl⟩
  | ok metadata =>
      cases h : reference? metadata with
      | none => exact ⟨_, by simp [resolution, h]; rfl⟩
      | some reference => exact ⟨_, by simp [resolution, h]; rfl⟩

theorem resolution_eq_error {answer : Except Failure (Option Metadata)} {e : Failure}
    (failed : resolution answer = .error e) : answer = .error e ∧ e.isStop = true := by
  unfold resolution at failed
  cases answer with
  | error met =>
      dsimp only at failed
      split at failed
      · rename_i stop
        obtain rfl := Except.error.inj failed
        exact ⟨rfl, stop⟩
      · cases failed
  | ok metadata =>
      dsimp only at failed
      split at failed <;> cases failed

/-- What is logged of reading the deployment: a warning where it tells no owner. -/
def told (o : OwnerLookup) : Except Failure (Option Metadata) → List Log.Record
  | .error e => if e.isStop then [] else [o.failedRead e]
  | .ok metadata =>
      match reference? metadata with
      | some _ => []
      | none => [o.incomplete]

theorem run_resolve (o : OwnerLookup) (c : Cluster) :
    o.resolve.run c =
      ⟨resolution c.deployment, c, [.readDeployment o.deploymentName o.space],
        o.told c.deployment⟩ := by
  have answer : (Action.readDeployment o.deploymentName o.space).run c =
      ⟨c.deployment, c, [.readDeployment o.deploymentName o.space], []⟩ := rfl
  unfold resolve
  rw [Action.run_attempt_bind, answer]
  cases hd : c.deployment with
  | error e =>
      by_cases stop : e.isStop = true
      · simp [stop, resolution, told, Action.join]
      · simp [stop, resolution, told, Action.run_log_bind, Action.join]
  | ok metadata =>
      cases href : reference? metadata with
      | some reference => simp [href, resolution, told, Action.join]
      | none => simp [href, resolution, told, Action.run_log_bind, Action.join]

end OwnerLookup

namespace Builder

variable (b : Builder)

/-- The owner for an answer about the deployment. -/
def ownerFor (answer : Except Failure (Option Metadata)) : Except Failure OwnerResolution :=
  match b.mode, b.owner with
  | .production, some _ => OwnerLookup.resolution answer
  | _, _ => .ok OwnerResolution.notApplicable

theorem ownerFor_of_noStop {answer : Except Failure (Option Metadata)}
    (noStop : ∀ e, answer = .error e → e.isStop = false) :
    ∃ owner, b.ownerFor answer = .ok owner := by
  unfold Builder.ownerFor
  split
  · exact OwnerLookup.resolution_of_noStop noStop
  · exact ⟨_, rfl⟩

/-- Only a lookup fails, and only with an answer that asks to stop. -/
theorem ownerFor_eq_error {answer : Except Failure (Option Metadata)} {e : Failure}
    (failed : b.ownerFor answer = .error e) :
    b.mode = .production ∧ b.owner.isSome = true ∧ answer = .error e ∧ e.isStop = true := by
  unfold ownerFor at failed
  split at failed
  · rename_i mode lookup
    exact ⟨mode, by rw [lookup]; rfl, OwnerLookup.resolution_eq_error failed⟩
  · cases failed

/-- The calls that the resolution of an owner makes. -/
def ownerCalls : List Call :=
  match b.mode, b.owner with
  | .production, some o => [.readDeployment o.deploymentName o.space]
  | _, _ => []

theorem ownerCalls_of_lookup {o : OwnerLookup} (mode : b.mode = .production)
    (lookup : b.owner = some o) : b.ownerCalls = [.readDeployment o.deploymentName o.space] := by
  simp [ownerCalls, mode, lookup]

theorem ownerCalls_of_none (h : b.mode = .debug ∨ b.owner = none) : b.ownerCalls = [] := by
  unfold ownerCalls
  rcases h with mode | alone
  · simp [mode]
  · simp [alone]

theorem mem_ownerCalls {call : Call} (called : call ∈ b.ownerCalls) :
    ∃ o, b.mode = .production ∧ b.owner = some o ∧
      call = .readDeployment o.deploymentName o.space := by
  unfold ownerCalls at called
  split at called
  · rename_i o mode lookup
    exact ⟨o, mode, lookup, List.mem_singleton.1 called⟩
  · cases called

/-- The records that the resolution of an owner logs for an answer about the deployment. -/
def ownerRecords (answer : Except Failure (Option Metadata)) : List Log.Record :=
  match b.mode, b.owner with
  | .production, some o => o.told answer
  | _, _ => []

theorem run_resolveOwner (c : Cluster) :
    b.resolveOwner.run c =
      ⟨b.ownerFor c.deployment, c, b.ownerCalls, b.ownerRecords c.deployment⟩ := by
  unfold resolveOwner ownerFor ownerCalls ownerRecords
  cases b.mode with
  | debug => rfl
  | production =>
      cases b.owner with
      | none => rfl
      | some o => exact o.run_resolve c

@[simp] theorem outcome_resolveOwner (c : Cluster) :
    (b.resolveOwner.run c).outcome = b.ownerFor c.deployment := by
  rw [run_resolveOwner]

@[simp] theorem state_resolveOwner (c : Cluster) : (b.resolveOwner.run c).state = c := by
  rw [run_resolveOwner]

@[simp] theorem calls_resolveOwner (c : Cluster) :
    (b.resolveOwner.run c).calls = b.ownerCalls := by
  rw [run_resolveOwner]

/-- There is no target only where production lacks a part of the service's name. -/
theorem target_cases (k : Kind) :
    (b.mode = .debug ∧ b.target k = .ok (.url (b.url k.path))) ∨
    (b.mode = .production ∧ ∃ name space, b.serviceName = some name ∧ b.space = some space ∧
      b.target k = .ok (.service space name k.path)) ∨
    (b.mode = .production ∧ (b.serviceName = none ∨ b.space = none) ∧
      ∃ e, b.target k = .error e) := by
  unfold target
  cases b.mode with
  | debug => exact .inl ⟨rfl, rfl⟩
  | production =>
      refine .inr ?_
      cases b.serviceName with
      | none => exact .inr ⟨rfl, .inl rfl, _, rfl⟩
      | some name =>
          cases b.space with
          | none => exact .inr ⟨rfl, .inr rfl, _, rfl⟩
          | some space => exact .inl ⟨rfl, name, space, rfl, rfl, rfl⟩

/-- In production the service is named in full. -/
def NamesService : Prop :=
  b.mode = .production → b.serviceName.isSome = true ∧ b.space.isSome = true

theorem target_of_namesService {b : Builder} (named : b.NamesService) (k : Kind) :
    ∃ target, b.target k = .ok target := by
  rcases b.target_cases k with ⟨-, h⟩ | ⟨-, name, space, -, -, h⟩ | ⟨mode, missing, -⟩
  · exact ⟨_, h⟩
  · exact ⟨_, h⟩
  · obtain ⟨hname, hspace⟩ := named mode
    rcases missing with unnamed | unplaced
    · simp [unnamed] at hname
    · simp [unplaced] at hspace

/-- The records of building a configuration of a kind. -/
def buildRecords (k : Kind) : List Log.Record := if b.mode = .debug then [b.addressRecord k] else []

/-- Building with a bundle and an owner makes no call and remembers the owner. It fails only where
there is no target. -/
theorem run_build (k : Kind) {bundle : Bytes} (owner : OwnerResolution) (s : Site)
    (given : bundle ≠ []) :
    (b.build k bundle (some owner)).run s =
      ⟨(b.target k).map fun target => b.configuration k target bundle owner,
        { s with lastOwner := some owner }, [], b.buildRecords k⟩ := by
  have present : bundle.isEmpty = false := by simpa using given
  unfold build buildRecords
  simp only [present, ownerOr]
  cases mode : b.mode <;> cases target : b.target k <;> rfl

end Builder

end AdmissionHooks
