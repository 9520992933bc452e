import AdmissionHooks.Proofs.Blindness

/-!
# The two modes on one cluster

Clients of both modes register and deregister on one cluster, in any order. None of them changes a
name that is not its own, and without faults none notices what those of the other mode do: what is
seen of the operations of a mode, and what they leave of its names, is what they would show and leave
by themselves.
-/

namespace AdmissionHooks

namespace Cluster

/-- Two clusters without faults that have the same of a mode's names. -/
structure Level (m : Mode) (c d : Cluster) : Prop where
  left : c.Faultless
  right : d.Faultless
  names : ∀ k, k.configurationName m ∈ c.names.get k ↔ k.configurationName m ∈ d.names.get k

/-- Two such clusters that give the same answers as well. -/
structure Twins (m : Mode) (c d : Cluster) : Prop extends Level m c d where
  secret : c.secret = d.secret
  deployment : c.deployment = d.deployment

end Cluster

/-! ## A client and its own mode -/

namespace Registrar

variable (r : Registrar)

theorem twins_deleted {c d : Cluster} (twins : c.Twins r.mode d) (k : Kind) :
    (c.deleted k (r.configurationName k)).2.Twins r.mode (d.deleted k (r.configurationName k)).2 where
  left := (r.confined_deleted k c).faultless twins.left
  right := (r.confined_deleted k d).faultless twins.right
  names l := by
    rw [Cluster.mem_deleted, Cluster.mem_deleted, twins.names l, twins.left.quiet.deleteFault,
      twins.right.quiet.deleteFault]
  secret := by simp [twins.secret]
  deployment := by simp [twins.deployment]

theorem failure_of_twins {c d : Cluster} (twins : c.Twins r.mode d) (k : Kind) :
    c.deletionFailure k (r.configurationName k) = d.deletionFailure k (r.configurationName k) ∧
      c.creationFailure k (r.configurationName k) = d.creationFailure k (r.configurationName k) :=
  ⟨Cluster.deletionFailure_congr
      (by rw [twins.left.quiet.deleteFault, twins.right.quiet.deleteFault]) (twins.names k),
    Cluster.creationFailure_congr
      (by rw [twins.left.createFault, twins.right.createFault]) (twins.names k)⟩

theorem twins_created {c d : Cluster} (twins : c.Twins r.mode d) (k : Kind) :
    (c.created k (r.configurationName k)).2.Twins r.mode (d.created k (r.configurationName k)).2 where
  left := (r.confined_created k c).faultless twins.left
  right := (r.confined_created k d).faultless twins.right
  names l := by
    rw [Cluster.mem_created, Cluster.mem_created, twins.names l, (r.failure_of_twins twins k).2]
  secret := by simp [twins.secret]
  deployment := by simp [twins.deployment]

theorem blind_delete (k : Kind) :
    Action.Blind (Cluster.Twins r.mode) (Action.delete k (r.configurationName k)) := by
  intro c d twins
  refine ⟨?_, rfl, rfl, r.twins_deleted twins k⟩
  show (c.deleted k (r.configurationName k)).1 = (d.deleted k (r.configurationName k)).1
  rw [Cluster.deleted_fst, Cluster.deleted_fst, (r.failure_of_twins twins k).1]

theorem blind_create (k : Kind) (body : Configuration) (named : body.name = r.configurationName k) :
    Action.Blind (Cluster.Twins r.mode) (Action.create k body) := by
  intro c d twins
  have outcome : (c.created k body.name).1 = (d.created k body.name).1 := by
    rw [Cluster.created_fst, Cluster.created_fst, named, (r.failure_of_twins twins k).2]
  have state : (c.created k body.name).2.Twins r.mode (d.created k body.name).2 := by
    rw [named]
    exact r.twins_created twins k
  exact ⟨outcome, rfl, rfl, state⟩

end Registrar

/-! ## Operations -/

inductive Act where
  | register
  | deregister
  deriving DecidableEq

/-- What a client does, and what it reads in doing so. -/
structure Operation where
  client : Registrar
  act : Act
  files : FileSystem := {}
  secret : Except Failure SecretData := .error Failure.notFound
  deployment : Except Failure (Option Metadata) := .error Failure.notFound

/-- An operation in a run, with the site that it found and what came of it. -/
structure Step where
  operation : Operation
  before : Site
  run : Run Site (Option (List Failure))

namespace Operation

variable (o : Operation)

def mode : Mode := o.client.mode

/-- A registration returns nothing, a deregistration its reports. -/
def action : Action Site (Option (List Failure)) :=
  match o.act with
  | .register => do
      o.client.register o.files
      return none
  | .deregister => do
      let reports ← o.client.deregister.atSite
      return some reports

def meets (s : Site) : Site :=
  { s with cluster := { s.cluster with secret := o.secret, deployment := o.deployment } }

def perform (s : Site) : Run Site (Option (List Failure)) := o.action.run (o.meets s)

/-- The steps of operations that are performed one after the other. -/
def steps : Site → List Operation → List Step
  | _, [] => []
  | s, o :: os => ⟨o, s, o.perform s⟩ :: steps (o.perform s).state os

/-- The site that operations leave. -/
def finalSite (s : Site) (os : List Operation) : Site := os.foldl (fun s o => (o.perform s).state) s

end Operation

/-- What is seen of a step: how it ended, the calls that it made and the records that it logged. -/
def Step.seen (step : Step) : Except Failure (Option (List Failure)) × List Call × List Log.Record :=
  (step.run.outcome, step.run.calls, step.run.records)

namespace Operation

variable (o : Operation)

theorem faultless_meets {s : Site} (faultless : s.cluster.Faultless) :
    (o.meets s).cluster.Faultless where
  quiet := faultless.quiet
  creations := faultless.creations

theorem confined_perform (s : Site) :
    o.client.Confined (o.meets s).cluster (o.perform s).state.cluster := by
  unfold perform action
  cases o.act with
  | register =>
      have confined := o.client.confined_register o.files (o.meets s)
      rcases Action.run_bind_cases (o.client.register o.files) _ (o.meets s) with
        ⟨e, -, h⟩ | ⟨u, -, h⟩
      · rw [h]
        exact confined
      · rw [h]
        exact confined
  | deregister =>
      have confined := o.client.confined_deregister (o.meets s).cluster
      rcases Action.run_bind_cases o.client.deregister.atSite _ (o.meets s) with
        ⟨e, -, h⟩ | ⟨reports, -, h⟩
      · rw [h]
        exact confined
      · rw [h]
        exact confined

theorem blind_action :
    Action.Blind (fun s t : Site => s.cluster.Twins o.mode t.cluster) o.action := by
  unfold action
  cases o.act with
  | register =>
      have reads := o.client.authority.blind_readSecret (R := Cluster.Twins o.mode)
        fun _ _ twins => twins.secret
      refine Action.Blind.bind ?_ fun _ => .pure _
      exact o.client.blind_register (follows_cluster _) o.files o.client.blind_delete
        o.client.blind_create (o.client.authority.blind_resolve o.files reads)
        (o.client.builder.blind_resolveOwner fun _ _ twins => twins.deployment)
  | deregister =>
      refine Action.Blind.bind ?_ fun _ => .pure _
      exact (o.client.blind_deregister o.client.blind_delete).atSite (follows_cluster _)

/-- An operation of the mode goes alike on level clusters, and leaves them level. -/
theorem alike_of_mode {m : Mode} (own : o.mode = m) {s t : Site}
    (level : s.cluster.Level m t.cluster) :
    Action.Alike (fun s t : Site => s.cluster.Twins m t.cluster) (o.perform s) (o.perform t) := by
  subst own
  exact o.blind_action (o.meets s) (o.meets t)
    ⟨⟨o.faultless_meets level.left, o.faultless_meets level.right, level.names⟩, rfl, rfl⟩

/-- An operation of the other mode leaves its cluster level with what it was level with. -/
theorem level_of_other {m : Mode} (other : o.mode ≠ m) {s t : Site}
    (level : s.cluster.Level m t.cluster) : (o.perform s).state.cluster.Level m t.cluster where
  left := (o.confined_perform s).faultless (o.faultless_meets level.left)
  right := level.right
  names k := by
    rw [← level.names k]
    refine (o.confined_perform s).names k _ fun same => other ?_
    exact (Kind.configurationName_mode_inj same).symm

/-- What the operations of a mode show and leave is what they would show and leave by themselves. -/
theorem steps_of_mode {m : Mode} (os : List Operation) {s t : Site}
    (level : s.cluster.Level m t.cluster) :
    (finalSite s os).cluster.Level m (finalSite t (os.filter fun o => o.mode = m)).cluster ∧
      ((steps s os).filter fun step => step.operation.mode = m).map Step.seen =
        (steps t (os.filter fun o => o.mode = m)).map Step.seen := by
  induction os generalizing s t with
  | nil => exact ⟨level, rfl⟩
  | cons o os ih =>
      by_cases own : o.mode = m
      · -- both runs perform the operation
        have alike := o.alike_of_mode own level
        obtain ⟨final, shown⟩ := ih alike.state.toLevel
        have same : Step.seen ⟨o, s, o.perform s⟩ = Step.seen ⟨o, t, o.perform t⟩ := by
          simp [Step.seen, alike.outcome, alike.calls, alike.records]
        simp only [steps, own, decide_true, List.filter_cons_of_pos, List.map_cons, same, shown]
        exact ⟨final, trivial⟩
      · -- only the whole run performs the operation
        obtain ⟨final, shown⟩ := ih (o.level_of_other own level)
        simp only [steps, own, decide_false, List.filter_cons_of_neg, Bool.false_eq_true,
          not_false_eq_true, shown]
        exact ⟨final, trivial⟩

theorem confined_of_mem_steps {os : List Operation} {s : Site} {step : Step}
    (member : step ∈ steps s os) (k : Kind) (name : String)
    (other : name ≠ step.operation.client.configurationName k) :
    name ∈ step.run.state.cluster.names.get k ↔ name ∈ step.before.cluster.names.get k := by
  induction os generalizing s with
  | nil => cases member
  | cons o os ih =>
      rcases List.mem_cons.1 member with rfl | later
      · exact (o.confined_perform s).names k name other
      · exact ih later

/-- No operation changes a name that is not its client's own, whatever faults it meets. Without
faults, a mode's names end up as they would after the operations of that mode alone, each of which
ends as it would, makes the calls that it would make and logs what it would log. -/
theorem modes_apart (start : Site) (os : List Operation) :
    (∀ step ∈ steps start os, ∀ k name, name ≠ step.operation.client.configurationName k →
      (name ∈ step.run.state.cluster.names.get k ↔ name ∈ step.before.cluster.names.get k)) ∧
    (start.cluster.Faultless → ∀ m : Mode,
      let own := os.filter fun o => o.mode = m
      (∀ k, k.configurationName m ∈ (finalSite start os).cluster.names.get k ↔
        k.configurationName m ∈ (finalSite start own).cluster.names.get k) ∧
      ((steps start os).filter fun step => step.operation.mode = m).map Step.seen =
        (steps start own).map Step.seen) := by
  refine ⟨fun step member => confined_of_mem_steps member, fun faultless m => ?_⟩
  obtain ⟨final, shown⟩ := steps_of_mode os
    (show start.cluster.Level m start.cluster from ⟨faultless, faultless, fun _ => Iff.rfl⟩)
  exact ⟨final.names, shown⟩

def clientAt (address : Option String) : Registrar :=
  { space := some "policies", serviceName := some "hooks", deploymentName := some "controller"
    address, tls := { data := some [0x41, 0x42] } }

/-- A production client registers, and beside it a debug client that goes again. -/
def mixedOperations : List Operation :=
  [{ client := clientAt none, act := .register },
    { client := clientAt (some "10.0.0.5:8443"), act := .register },
    { client := clientAt (some "10.0.0.5:8443"), act := .deregister }]

theorem modes_apart_mixedOperations :
    (∃ step ∈ steps ⟨{}, none⟩ mixedOperations, step.operation.mode = .debug ∧
      ∀ k, k.configurationName .production ∈ step.run.state.cluster.names.get k ↔
        k.configurationName .production ∈ step.before.cluster.names.get k) ∧
    ∀ k, k.configurationName .production ∈
      (finalSite ⟨{}, none⟩ mixedOperations).cluster.names.get k := by
  obtain ⟨confined, apart⟩ := modes_apart ⟨{}, none⟩ mixedOperations
  have faultless : ({} : Cluster).Faultless := by
    constructor <;> intro k <;> cases k <;> simp [ByKind.get]
  obtain ⟨names, -⟩ := apart faultless .production
  constructor
  · exact ⟨_, .tail _ (.head _), rfl,
      fun k => confined _ (.tail _ (.head _)) k _ (by cases k <;> decide)⟩
  · intro k
    refine (names k).2 ?_
    cases k <;> decide

end Operation

end AdmissionHooks
