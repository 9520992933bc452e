import AdmissionHooks.Configuration
import AdmissionHooks.Log.Record

/-!
# Actions

An action works on a state and either yields a value or fails. Beside that it leaves a trace: the
calls that it made and the records that it logged, in order. What was done before a failure stays
done.
-/

namespace AdmissionHooks

/-- A call to the outside: to the API server, or to a source of its client configuration. -/
inductive Call where
  | readSecret (name space : Option String)
  | readDeployment (name space : Option String)
  | create (kind : Kind) (body : Configuration)
  | delete (kind : Kind) (name : String)
  | loadInCluster
  | loadKubeconfig (file : Option String)
  deriving DecidableEq, Repr

def Call.isLoad : Call → Bool
  | .loadInCluster => true
  | .loadKubeconfig _ => true
  | _ => false

/-- What an action leaves behind. -/
structure Run (σ α : Type) where
  outcome : Except Failure α
  state : σ
  calls : List Call
  records : List Log.Record

def Action (σ α : Type) : Type := σ → Run σ α

namespace Action

variable {σ τ α β : Type}

def run (x : Action σ α) (s : σ) : Run σ α := x s

/-- What a second part adds to the trace of a first. -/
def join (first : Run σ α) (second : Run σ β) : Run σ β :=
  { second with
    calls := first.calls ++ second.calls
    records := first.records ++ second.records }

def yield (a : α) : Action σ α := fun s => ⟨.ok a, s, [], []⟩

def andThen (x : Action σ α) (f : α → Action σ β) : Action σ β := fun s =>
  let first := x s
  match first.outcome with
  | .error e => { first with outcome := .error e }
  | .ok a => join first (f a first.state)

instance : Monad (Action σ) where
  pure := yield
  bind := andThen

def fail (e : Failure) : Action σ α := fun s => ⟨.error e, s, [], []⟩

/-- The outcome of an action as a value. -/
def attempt (x : Action σ α) : Action σ (Except Failure α) := fun s =>
  let done := x s
  { done with outcome := .ok done.outcome }

def ofExcept (r : Except Failure α) : Action σ α := fun s => ⟨r, s, [], []⟩

def get : Action σ σ := fun s => ⟨.ok s, s, [], []⟩

def modify (f : σ → σ) : Action σ Unit := fun s => ⟨.ok (), f s, [], []⟩

def call (c : Call) : Action σ Unit := fun s => ⟨.ok (), s, [c], []⟩

def log (r : Log.Record) : Action σ Unit := fun s => ⟨.ok (), s, [], [r]⟩

def within (part : τ → σ) (put : σ → τ → τ) (x : Action σ α) : Action τ α := fun t =>
  let done := x (part t)
  ⟨done.outcome, put done.state t, done.calls, done.records⟩

@[simp] theorem run_pure (a : α) (s : σ) :
    (Pure.pure a : Action σ α).run s = ⟨.ok a, s, [], []⟩ := rfl

theorem run_bind_of_ok {x : Action σ α} {f : α → Action σ β} {s : σ} {a : α}
    (h : (x.run s).outcome = .ok a) :
    (x >>= f).run s = join (x.run s) ((f a).run (x.run s).state) := by
  show andThen x f s = _
  unfold andThen
  simp only [run] at h ⊢
  rw [h]

theorem run_bind_of_error {x : Action σ α} {f : α → Action σ β} {s : σ} {e : Failure}
    (h : (x.run s).outcome = .error e) :
    (x >>= f).run s =
      ⟨.error e, (x.run s).state, (x.run s).calls, (x.run s).records⟩ := by
  show andThen x f s = _
  unfold andThen
  simp only [run] at h ⊢
  rw [h]

@[simp] theorem run_fail (e : Failure) (s : σ) :
    (fail e : Action σ α).run s = ⟨.error e, s, [], []⟩ := rfl

@[simp] theorem run_log (r : Log.Record) (s : σ) :
    (log r : Action σ Unit).run s = ⟨.ok (), s, [], [r]⟩ := rfl

@[simp] theorem run_call (c : Call) (s : σ) :
    (call c : Action σ Unit).run s = ⟨.ok (), s, [c], []⟩ := rfl

@[simp] theorem run_attempt (x : Action σ α) (s : σ) :
    (attempt x).run s =
      ⟨.ok (x.run s).outcome, (x.run s).state, (x.run s).calls, (x.run s).records⟩ := rfl

end Action

def recordOf (logger : String) (level : Log.Level) (message : String)
    (fields : List (Log.Field × Json)) : Log.Record :=
  { logger, level, message, attributes := fields.map fun f => (f.1.name, .plain f.2) }

end AdmissionHooks
