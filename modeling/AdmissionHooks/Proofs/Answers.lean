import AdmissionHooks.Cluster

/-!
# Answers of the cluster

What a creation and a deletion can do, said once. Every later statement about names, faults and
answers goes through the two case lemmas or through the frame lemmas behind them: a call takes the
next fault of its own verb and kind, changes at most the name that it was made for, and leaves the
secret and the deployment alone.
-/

namespace AdmissionHooks.Cluster

/-- Every call fails with failures of requests at most, and the read of the deployment with anything
but a request to stop. -/
structure Ordinary (c : Cluster) : Prop where
  deletions : ∀ k e, some e ∈ c.deleteFaults.get k → e.isRequestFailure = true
  creations : ∀ k e, some e ∈ c.createFaults.get k → e.isRequestFailure = true
  secret : ∀ e, c.secret = .error e → e.isRequestFailure = true
  deployment : ∀ e, c.deployment = .error e → e.isStop = false

theorem mem_of_join_head? {fs : List (Option Failure)} {e : Failure}
    (h : fs.head?.join = some e) : some e ∈ fs := by
  cases fs with
  | nil => simp at h
  | cons f fs =>
      have : f = some e := by simpa using h
      simp [this]

theorem join_head?_of_none {fs : List (Option Failure)} (none : ∀ fault ∈ fs, fault = .none) :
    fs.head?.join = .none := by
  cases fs with
  | nil => rfl
  | cons f fs => simpa using none f List.mem_cons_self

theorem Ordinary.of_deleteFault {c : Cluster} (ordinary : c.Ordinary) {k : Kind} {e : Failure}
    (h : c.deleteFault k = some e) : e.isRequestFailure = true :=
  ordinary.deletions k e (mem_of_join_head? h)

theorem Ordinary.of_createFault {c : Cluster} (ordinary : c.Ordinary) {k : Kind} {e : Failure}
    (h : c.createFault k = some e) : e.isRequestFailure = true :=
  ordinary.creations k e (mem_of_join_head? h)

variable (c : Cluster) (k : Kind) (name : String)

theorem deleted_cases :
    (∃ e, c.deleteFault k = some e ∧ c.deleted k name = (.error e, c.dropDeleteFault k)) ∨
    (c.deleteFault k = none ∧ name ∉ c.names.get k ∧
      c.deleted k name = (.error Failure.notFound, c.dropDeleteFault k)) ∨
    (c.deleteFault k = none ∧ name ∈ c.names.get k ∧
      c.deleted k name = (.ok (), (c.dropDeleteFault k).erase k name)) := by
  unfold deleted
  cases c.deleteFault k with
  | some e => exact .inl ⟨e, rfl, rfl⟩
  | none =>
      by_cases h : name ∈ c.names.get k
      · exact .inr (.inr ⟨rfl, h, by simp [(c.has_iff k name).2 h]⟩)
      · have absent : c.has k name = false := by simpa [has] using h
        exact .inr (.inl ⟨rfl, h, by simp [absent]⟩)

theorem created_cases :
    (∃ e, c.createFault k = some e ∧ c.created k name = (.error e, c.dropCreateFault k)) ∨
    (c.createFault k = none ∧ name ∈ c.names.get k ∧
      c.created k name = (.error Failure.conflict, c.dropCreateFault k)) ∨
    (c.createFault k = none ∧ name ∉ c.names.get k ∧
      c.created k name = (.ok (), (c.dropCreateFault k).insert k name)) := by
  unfold created
  cases c.createFault k with
  | some e => exact .inl ⟨e, rfl, rfl⟩
  | none =>
      by_cases h : name ∈ c.names.get k
      · exact .inr (.inl ⟨rfl, h, by simp [(c.has_iff k name).2 h]⟩)
      · have absent : c.has k name = false := by simpa [has] using h
        exact .inr (.inr ⟨rfl, h, by simp [absent]⟩)

/-- What the creation of a configuration fails with, if it fails. -/
def creationFailure : Option Failure :=
  match c.createFault k with
  | some e => some e
  | none => if c.has k name then some Failure.conflict else none

theorem created_fst :
    (c.created k name).1 =
      match c.creationFailure k name with
      | some e => .error e
      | none => .ok () := by
  unfold created creationFailure
  cases c.createFault k with
  | some e => rfl
  | none => by_cases h : c.has k name = true <;> simp [h]

/-- What the deletion of a configuration fails with, if it fails. -/
def deletionFailure : Option Failure :=
  match c.deleteFault k with
  | some e => some e
  | none => if c.has k name then none else some Failure.notFound

theorem deleted_fst :
    (c.deleted k name).1 =
      match c.deletionFailure k name with
      | some e => .error e
      | none => .ok () := by
  unfold deleted deletionFailure
  cases c.deleteFault k with
  | some e => rfl
  | none => by_cases h : c.has k name = true <;> simp [h]

/-- A creation meets the same failure wherever the next fault and the presence of the name agree. -/
theorem creationFailure_congr {c d : Cluster} {k : Kind} {name : String}
    (fault : c.createFault k = d.createFault k)
    (presence : name ∈ c.names.get k ↔ name ∈ d.names.get k) :
    c.creationFailure k name = d.creationFailure k name := by
  unfold creationFailure has
  rw [fault]
  simp [presence]

/-- A deletion meets the same failure wherever the next fault and the presence of the name agree. -/
theorem deletionFailure_congr {c d : Cluster} {k : Kind} {name : String}
    (fault : c.deleteFault k = d.deleteFault k)
    (presence : name ∈ c.names.get k ↔ name ∈ d.names.get k) :
    c.deletionFailure k name = d.deletionFailure k name := by
  unfold deletionFailure has
  rw [fault]
  simp [presence]

/-! ## Names -/

theorem mem_erase_iff (l : Kind) (m : String) :
    m ∈ (c.erase k name).names.get l ↔ m ∈ c.names.get l ∧ ¬ (l = k ∧ m = name) := by
  by_cases hl : l = k
  · subst hl
    simp [mem_erase]
  · simp [erase, ByKind.get_set_of_ne _ _ hl, hl]

theorem mem_insert_iff (l : Kind) (m : String) :
    m ∈ (c.insert k name).names.get l ↔ m ∈ c.names.get l ∨ (l = k ∧ m = name) := by
  by_cases hl : l = k
  · subst hl
    simp [mem_insert, or_comm]
  · simp [insert, ByKind.get_set_of_ne _ _ hl, hl]

/-- A deletion without a fault leaves the name absent, and no other name changes. -/
theorem mem_deleted (l : Kind) (m : String) :
    m ∈ (c.deleted k name).2.names.get l ↔
      m ∈ c.names.get l ∧ ¬ (l = k ∧ m = name ∧ c.deleteFault k = none) := by
  rcases deleted_cases c k name with ⟨e, hf, h⟩ | ⟨hf, absent, h⟩ | ⟨hf, -, h⟩
  · simp [h, hf, dropDeleteFault]
  · have other : m ∈ c.names.get l → ¬ (l = k ∧ m = name) := by
      rintro hm ⟨rfl, rfl⟩
      exact absent hm
    simpa [h, hf, dropDeleteFault] using other
  · rw [h, mem_erase_iff]
    simp [hf, dropDeleteFault]

/-- A creation that does not fail adds the name, and no other name changes. -/
theorem mem_created (l : Kind) (m : String) :
    m ∈ (c.created k name).2.names.get l ↔
      m ∈ c.names.get l ∨ (l = k ∧ m = name ∧ c.creationFailure k name = none) := by
  unfold creationFailure
  rcases created_cases c k name with ⟨e, fault, h⟩ | ⟨fault, present, h⟩ | ⟨fault, absent, h⟩
  · simp [h, fault, dropCreateFault]
  · simp [h, fault, (c.has_iff k name).2 present, dropCreateFault]
  · have absent : c.has k name = false := by simpa [has] using absent
    rw [h, mem_insert_iff]
    simp [fault, absent, dropCreateFault]

/-! ## What a call leaves alone -/

@[simp] theorem secret_deleted : (c.deleted k name).2.secret = c.secret := by
  rcases deleted_cases c k name with ⟨e, -, h⟩ | ⟨-, -, h⟩ | ⟨-, -, h⟩ <;> rw [h] <;> rfl

@[simp] theorem deployment_deleted : (c.deleted k name).2.deployment = c.deployment := by
  rcases deleted_cases c k name with ⟨e, -, h⟩ | ⟨-, -, h⟩ | ⟨-, -, h⟩ <;> rw [h] <;> rfl

@[simp] theorem createFaults_deleted : (c.deleted k name).2.createFaults = c.createFaults := by
  rcases deleted_cases c k name with ⟨e, -, h⟩ | ⟨-, -, h⟩ | ⟨-, -, h⟩ <;> rw [h] <;> rfl

@[simp] theorem secret_created : (c.created k name).2.secret = c.secret := by
  rcases created_cases c k name with ⟨e, -, h⟩ | ⟨-, -, h⟩ | ⟨-, -, h⟩ <;> rw [h] <;> rfl

@[simp] theorem deployment_created : (c.created k name).2.deployment = c.deployment := by
  rcases created_cases c k name with ⟨e, -, h⟩ | ⟨-, -, h⟩ | ⟨-, -, h⟩ <;> rw [h] <;> rfl

@[simp] theorem deleteFaults_created : (c.created k name).2.deleteFaults = c.deleteFaults := by
  rcases created_cases c k name with ⟨e, -, h⟩ | ⟨-, -, h⟩ | ⟨-, -, h⟩ <;> rw [h] <;> rfl

theorem deleteFaults_deleted :
    (c.deleted k name).2.deleteFaults = c.deleteFaults.set k (c.deleteFaults.get k).tail := by
  rcases deleted_cases c k name with ⟨e, -, h⟩ | ⟨-, -, h⟩ | ⟨-, -, h⟩ <;> rw [h] <;> rfl

theorem createFaults_created :
    (c.created k name).2.createFaults = c.createFaults.set k (c.createFaults.get k).tail := by
  rcases created_cases c k name with ⟨e, -, h⟩ | ⟨-, -, h⟩ | ⟨-, -, h⟩ <;> rw [h] <;> rfl

theorem deleteFault_deleted_of_ne {l : Kind} (h : l ≠ k) :
    (c.deleted k name).2.deleteFault l = c.deleteFault l := by
  simp [deleteFault, deleteFaults_deleted, ByKind.get_set_of_ne _ _ h]

theorem createFault_created_of_ne {l : Kind} (h : l ≠ k) :
    (c.created k name).2.createFault l = c.createFault l := by
  simp [createFault, createFaults_created, ByKind.get_set_of_ne _ _ h]

@[simp] theorem createFault_deleted (l : Kind) :
    (c.deleted k name).2.createFault l = c.createFault l := by
  simp [createFault]

/-! ## Other answers -/

/-- The cluster with these answers about the secret and the deployment. -/
def answering (secret : Except Failure SecretData)
    (deployment : Except Failure (Option Metadata)) : Cluster :=
  { c with secret, deployment }

variable (secret : Except Failure SecretData) (deployment : Except Failure (Option Metadata))

/-- A deletion does not look at the answers. -/
theorem deleted_answering :
    (c.answering secret deployment).deleted k name =
      ((c.deleted k name).1, (c.deleted k name).2.answering secret deployment) := by
  have fault : (c.answering secret deployment).deleteFault k = c.deleteFault k := rfl
  have presence : (c.answering secret deployment).has k name = c.has k name := rfl
  unfold deleted
  rw [fault, presence]
  cases c.deleteFault k with
  | some e => rfl
  | none => by_cases h : c.has k name = true <;> simp only [h] <;> rfl

theorem created_answering :
    (c.answering secret deployment).created k name =
      ((c.created k name).1, (c.created k name).2.answering secret deployment) := by
  have fault : (c.answering secret deployment).createFault k = c.createFault k := rfl
  have presence : (c.answering secret deployment).has k name = c.has k name := rfl
  unfold created
  rw [fault, presence]
  cases c.createFault k with
  | some e => rfl
  | none => by_cases h : c.has k name = true <;> simp only [h] <;> rfl

end AdmissionHooks.Cluster
