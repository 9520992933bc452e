import AdmissionHooks.Proofs.Replay
import AdmissionHooks.Proofs.Deregistration

/-!
# Routine records

Most of what a registration logs tells neither that a configuration was created or deleted, nor that
the registration has come to its end, nor that it failed. Such a record is told apart by how its
message begins. The lookups of the bundle and of the owner log nothing else.
-/

namespace AdmissionHooks

/-! ## What an action logs -/

namespace Action

variable {σ α β : Type} {P : Log.Record → Prop}

/-- From any state, the action logs only such records. -/
def Logs (P : Log.Record → Prop) (x : Action σ α) : Prop := ∀ s, ∀ r ∈ (x.run s).records, P r

theorem Logs.pure (a : α) : Logs P (Pure.pure a : Action σ α) := fun _ _ told => by cases told

theorem Logs.fail (e : Failure) : Logs P (fail e : Action σ α) := fun _ _ told => by cases told

theorem Logs.log {r : Log.Record} (h : P r) : Logs P (log r : Action σ Unit) := by
  intro s told member
  rw [List.mem_singleton.1 member]
  exact h

theorem Logs.attempt {x : Action σ α} (logs : Logs P x) : Logs P x.attempt := logs

theorem Logs.bind {x : Action σ α} {f : α → Action σ β} (first : Logs P x)
    (second : ∀ a, Logs P (f a)) : Logs P (x >>= f) := by
  intro s r told
  rcases run_bind_cases x f s with ⟨e, -, h⟩ | ⟨a, -, h⟩
  · rw [h] at told
    exact first s r told
  · rw [h] at told
    rcases List.mem_append.1 told with told | told
    · exact first s r told
    · exact second a _ r told

end Action

/-! ## Messages -/

namespace Log.Record

def Begins (message start : String) : Prop := start.toList <+: message.toList

instance (message start : String) : Decidable (Begins message start) :=
  inferInstanceAs (Decidable (start.toList <+: message.toList))

theorem Begins.refl (start : String) : Begins start start := List.prefix_rfl

theorem Begins.append {message start : String} (begins : Begins message start) (rest : String) :
    Begins (message ++ rest) start := by
  unfold Begins
  rw [String.toList_append]
  exact List.IsPrefix.trans begins (List.prefix_append _ _)

/-- How the message at the end of a registration begins. -/
def closingStart : String := "Registered admission webhooks "

/-- How the messages begin that are told apart. -/
def tellingStarts : List String :=
  closingStart :: Entry.headings.map fun h => Entry.heading h.1 h.2

/-- The first letters of these messages, as many as tell them from others. -/
def signs : List (List Char) :=
  [['R', 'e', 'g', 'i', 's', 't', 'e', 'r', 'e'], ['C', 'r'], ['D', 'e', 'l']]

theorem exists_sign : ∀ other ∈ tellingStarts, ∃ sign ∈ signs, sign <+: other.toList := by
  decide +kernel

/-- No text that begins so has the first letters of one of these messages. -/
def Apart (start : String) : Prop :=
  ∀ sign ∈ signs, ¬ sign <+: start.toList ∧ ¬ start.toList <+: sign

instance (start : String) : Decidable (Apart start) :=
  inferInstanceAs (Decidable (∀ sign ∈ signs, ¬ sign <+: start.toList ∧ ¬ start.toList <+: sign))

theorem not_begins_of_apart {message start other : String} (apart : Apart start)
    (begins : Begins message start) (telling : other ∈ tellingStarts) : ¬ Begins message other := by
  intro same
  obtain ⟨sign, member, first⟩ := exists_sign other telling
  rcases List.prefix_or_prefix_of_prefix (first.trans same) begins with h | h
  · exact (apart sign member).1 h
  · exact (apart sign member).2 h

theorem heading_mem_tellingStarts (d : Deed) (k : Kind) : Entry.heading d k ∈ tellingStarts :=
  List.mem_cons_of_mem _ (List.mem_map.2 ⟨(d, k), Entry.mem_headings d k, rfl⟩)

/-- The loggers of a registration. -/
def loggers : List String :=
  [Registrar.logger, Builder.logger, AuthorityLookup.logger, OwnerLookup.logger]

/-- A record that tells nothing that a reader of the log looks for. -/
def Aside (r : Log.Record) : Prop := ∃ start, Begins r.message start ∧ Apart start

/-- Such a record of a registration, if it is no error. -/
structure Routine (r : Log.Record) : Prop where
  logger : r.logger ∈ loggers
  level : Level.debug ≤ r.level ∧ r.level < Level.error
  aside : r.Aside

theorem Aside.not_begins {r : Log.Record} (aside : r.Aside) {other : String}
    (telling : other ∈ tellingStarts) : ¬ Begins r.message other := by
  obtain ⟨start, begins, apart⟩ := aside
  exact not_begins_of_apart apart begins telling

theorem Aside.ofRecord?_eq_none {r : Log.Record} (aside : r.Aside) : Entry.ofRecord? r = none := by
  cases read : Entry.ofRecord? r with
  | none => rfl
  | some e =>
      have same : r.message = Entry.heading e.deed e.kind ++ e.name := Entry.ofText?_eq_some_iff.1 read
      refine absurd ?_ (aside.not_begins (heading_mem_tellingStarts e.deed e.kind))
      rw [same]
      exact (Begins.refl _).append _

end Log.Record

open Log.Record (Routine Apart Begins)
open AdmissionHooks.Action (Logs)

/-- A record of a known logger and level is routine by the start of its message. -/
theorem routine_recordOf {logger start message : String} {level : Log.Level}
    {fields : List (Log.Field × Json)} (known : logger ∈ Log.Record.loggers)
    (bounds : Log.Level.debug ≤ level ∧ level < Log.Level.error) (begins : Begins message start)
    (apart : Apart start) : (recordOf logger level message fields).Routine :=
  ⟨known, bounds, start, begins, apart⟩

/-! ## The bundle and the owner -/

namespace AuthorityLookup

variable (a : AuthorityLookup) (files : FileSystem)

theorem routine_debugRecord {start message : String} {fields : List (Log.Field × Json)}
    (begins : Begins message start) (apart : Apart start) : (debugRecord message fields).Routine :=
  routine_recordOf (by decide) (by decide) begins apart

theorem routine_warning {start message : String} (begins : Begins message start)
    (apart : Apart start) : (warning message).Routine :=
  routine_recordOf (by decide) (by decide) begins apart

theorem routine_failedRead (e : Failure) : (a.failedRead e).Routine := by
  cases e with
  | api status reason body =>
      unfold failedRead
      dsimp only
      split
      · exact routine_debugRecord (((Begins.refl _).append _).append _) (by decide)
      · exact routine_warning ((((Begins.refl _).append _).append _).append _) (by decide)
  | _ => exact routine_warning ((((Begins.refl _).append _).append _).append _) (by decide)

theorem logs_decodeEntry (data : SecretData) : Logs Routine (a.decodeEntry data) := by
  unfold decodeEntry
  cases entry? data with
  | none =>
      have record : a.withoutEntry.Routine := routine_debugRecord
        (((((Begins.refl _).append _).append _).append _).append _) (by decide)
      exact (Logs.log record).bind fun _ => Logs.pure _
  | some text =>
      dsimp only
      cases Base64.decode text with
      | ok bytes => exact Logs.pure _
      | error e =>
          have record : (a.invalidEntry e).Routine := routine_warning
            ((((((Begins.refl _).append _).append _).append _).append _).append _) (by decide)
          exact (Logs.log record).bind fun _ => Logs.pure _

theorem logs_readSecret : Logs Routine a.readSecret := by
  have reads : Logs Routine (Action.readSecret a.secretName a.space) :=
    fun _ _ told => by cases told
  refine reads.attempt.bind fun answer => ?_
  cases answer with
  | ok data => exact a.logs_decodeEntry data
  | error e =>
      dsimp only
      split
      · exact (Logs.log (a.routine_failedRead e)).bind fun _ => Logs.pure _
      · exact Logs.fail _

theorem logs_readFile (path : String) : Logs Routine (readFile files path) := by
  unfold readFile
  split
  · exact Logs.fail _
  · cases files.open? path with
    | ok content => exact Logs.pure _
    | error e =>
        have record : (unreadableFile path e).Routine := routine_warning
          ((((Begins.refl _).append _).append _).append _) (by decide)
        exact (Logs.log record).bind fun _ => Logs.pure _

theorem logs_readClient : Logs Routine (a.readClient files) := by
  unfold readClient
  cases nonEmpty a.tls.file with
  | none => exact Logs.pure _
  | some path => exact logs_readFile files path

/-- A lookup of the bundle logs routine records only. -/
theorem logs_resolve : Logs Routine (a.resolve files) := by
  refine a.logs_readSecret.bind fun bytes => ?_
  split
  · have record : a.fromSecret.Routine := routine_debugRecord ((Begins.refl _).append _) (by decide)
    exact (Logs.log record).bind fun _ => Logs.pure _
  · refine (a.logs_readClient files).bind fun own => ?_
    split
    · have record : fromClient.Routine := routine_debugRecord (Begins.refl _) (by decide)
      exact (Logs.log record).bind fun _ => Logs.pure _
    · exact Logs.fail _

end AuthorityLookup

/-- A lookup of the owner logs routine records only. -/
theorem Builder.routine_ownerRecords (b : Builder) (answer : Except Failure (Option Metadata)) :
    ∀ r ∈ b.ownerRecords answer, r.Routine := by
  have warned {start message : String} (begins : Begins message start)
      (apart : Apart start) : (OwnerLookup.warning message).Routine :=
    routine_recordOf (by decide) (by decide) begins apart
  intro r told
  unfold Builder.ownerRecords at told
  split at told
  · rename_i o _ _
    unfold OwnerLookup.told at told
    split at told
    · split at told
      · cases told
      · rw [List.mem_singleton.1 told]
        exact warned ((((Begins.refl _).append _).append _).append _) (by decide)
    · split at told
      · cases told
      · rw [List.mem_singleton.1 told]
        exact warned (((Begins.refl _).append _).append _) (by decide)
  · cases told

theorem Builder.routine_buildRecords (b : Builder) (k : Kind) : ∀ r ∈ b.buildRecords k, r.Routine := by
  intro r told
  unfold Builder.buildRecords at told
  split at told
  · rw [List.mem_singleton.1 told]
    exact routine_recordOf (by decide) (by decide) ((Begins.refl _).append _) (by decide)
  · cases told

namespace Registrar

variable (r : Registrar)

theorem routine_openingRecord : r.openingRecord.Routine := by
  unfold openingRecord
  cases r.mode with
  | debug => exact routine_recordOf (by decide) (by decide) ((Begins.refl _).append _) (by decide)
  | production =>
      exact routine_recordOf (by decide) (by decide)
        ((((Begins.refl _).append _).append _).append _) (by decide)

/-- The record of a deletion that failed is routine: the failure is told, and the log goes on. -/
theorem routine_notDeletedRecord (k : Kind) (name text : String) (e : Failure) :
    (notDeletedRecord k name (Failure.wrap text e)).Routine := by
  unfold notDeletedRecord
  rw [Failure.message_wrap]
  exact routine_recordOf (by decide) (by decide) (((Begins.refl _).append _).append _) (by decide)

end Registrar

end AdmissionHooks
