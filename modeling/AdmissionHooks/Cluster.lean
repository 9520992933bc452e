import AdmissionHooks.Action

/-!
# The cluster

The part of a cluster that the registration sees: the names of the configurations of each kind,
the answers about the secret and the deployment, and the faults that the next calls will meet. A
call without a fault creates only what is absent and deletes only what is present.
-/

namespace AdmissionHooks

structure Metadata where
  name : Option String
  uid : Option String
  deriving DecidableEq, Repr

abbrev SecretData := Option (List (String × String))

structure Cluster where
  names : ByKind (List String) := ⟨[], []⟩
  secret : Except Failure SecretData := .error Failure.notFound
  deployment : Except Failure (Option Metadata) := .error Failure.notFound
  createFaults : ByKind (List (Option Failure)) := ⟨[], []⟩
  deleteFaults : ByKind (List (Option Failure)) := ⟨[], []⟩

namespace Cluster

def has (c : Cluster) (k : Kind) (name : String) : Bool := (c.names.get k).contains name

def insert (c : Cluster) (k : Kind) (name : String) : Cluster :=
  { c with names := c.names.set k (name :: c.names.get k) }

def erase (c : Cluster) (k : Kind) (name : String) : Cluster :=
  { c with names := c.names.set k ((c.names.get k).filter (· != name)) }

def createFault (c : Cluster) (k : Kind) : Option Failure := (c.createFaults.get k).head?.join

def deleteFault (c : Cluster) (k : Kind) : Option Failure := (c.deleteFaults.get k).head?.join

def dropCreateFault (c : Cluster) (k : Kind) : Cluster :=
  { c with createFaults := c.createFaults.set k (c.createFaults.get k).tail }

def dropDeleteFault (c : Cluster) (k : Kind) : Cluster :=
  { c with deleteFaults := c.deleteFaults.set k (c.deleteFaults.get k).tail }

def created (c : Cluster) (k : Kind) (name : String) : Except Failure Unit × Cluster :=
  let rest := c.dropCreateFault k
  match c.createFault k with
  | some e => (.error e, rest)
  | none => if c.has k name then (.error Failure.conflict, rest) else (.ok (), rest.insert k name)

def deleted (c : Cluster) (k : Kind) (name : String) : Except Failure Unit × Cluster :=
  let rest := c.dropDeleteFault k
  match c.deleteFault k with
  | some e => (.error e, rest)
  | none => if c.has k name then (.ok (), rest.erase k name) else (.error Failure.notFound, rest)

/-- The names of a kind, each once and in order. -/
def sortedNames (c : Cluster) (k : Kind) : List String :=
  (c.names.get k).eraseDups.mergeSort fun a b => decide (a ≤ b)

theorem has_iff (c : Cluster) (k : Kind) (name : String) :
    c.has k name = true ↔ name ∈ c.names.get k := by
  simp [has]

theorem mem_insert (c : Cluster) (k : Kind) (name other : String) :
    other ∈ (c.insert k name).names.get k ↔ other = name ∨ other ∈ c.names.get k := by
  simp [insert]

theorem mem_erase (c : Cluster) (k : Kind) (name other : String) :
    other ∈ (c.erase k name).names.get k ↔ other ∈ c.names.get k ∧ other ≠ name := by
  simp [erase]

end Cluster

namespace Action

def readSecret (name space : Option String) : Action Cluster SecretData := do
  call (.readSecret name space)
  let c ← get
  ofExcept c.secret

def readDeployment (name space : Option String) : Action Cluster (Option Metadata) := do
  call (.readDeployment name space)
  let c ← get
  ofExcept c.deployment

def create (k : Kind) (body : Configuration) : Action Cluster Unit := fun c =>
  let answer := c.created k body.name
  ⟨answer.1, answer.2, [.create k body], []⟩

def delete (k : Kind) (name : String) : Action Cluster Unit := fun c =>
  let answer := c.deleted k name
  ⟨answer.1, answer.2, [.delete k name], []⟩

end Action

end AdmissionHooks
