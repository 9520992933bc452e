import AdmissionHooks.Proofs.Builds
import AdmissionHooks.Proofs.Indifference

/-!
# What tells the two kinds apart

Two builds, one of each kind, from one state and for one bundle and owner. They differ in the names
and the path of their kind and in nothing else: each result is the other one with these exchanged.
-/

namespace AdmissionHooks

def Kind.other : Kind → Kind
  | .mutating => .validating
  | .validating => .mutating

/-- The text with the name of one kind exchanged for that of the other. -/
def exchanged (name : Kind → String) (text : String) : String :=
  match Kind.all.find? fun k => name k = text with
  | some k => name k.other
  | none => text

/-- The text with the path at its end exchanged. -/
def exchangedEnd (text : String) : String :=
  match Kind.all.find? fun k => k.path.toList.isSuffixOf text.toList with
  | some k =>
      String.ofList (text.toList.take (text.toList.length - k.path.toList.length)) ++ k.other.path
  | none => text

def Target.exchanged : Target → Target
  | .url address => .url (exchangedEnd address)
  | .service space name path => .service space name (exchangedEnd path)

def Webhook.exchanged (w : Webhook) : Webhook :=
  { w with
    name := AdmissionHooks.exchanged Kind.webhookName w.name
    target := w.target.exchanged }

/-- The configuration of the other kind. -/
def Configuration.exchanged (m : Mode) (c : Configuration) : Configuration :=
  { c with
    kind := c.kind.other
    name := AdmissionHooks.exchanged (fun k => k.configurationName m) c.name
    webhooks := c.webhooks.map Webhook.exchanged }

/-- A record that tells an address, with the path at the end of that address exchanged; any other
record as it is. -/
def Log.Record.exchanged (r : Log.Record) : Log.Record :=
  match r.field? .url with
  | some (.str url) =>
      { r with
        message := exchangedEnd r.message
        attributes := r.attributes.map fun a =>
          if a.1 = Log.Field.url.name then (a.1, .plain (.str (exchangedEnd url))) else a }
  | _ => r

/-! ## Texts -/

theorem exchanged_webhookName (k : Kind) :
    exchanged Kind.webhookName k.webhookName = k.other.webhookName := by
  cases k <;> decide

theorem exchanged_configurationName (k : Kind) (m : Mode) :
    exchanged (fun k => k.configurationName m) (k.configurationName m) =
      k.other.configurationName m := by
  cases k <;> cases m <;> decide

theorem eq_of_path_suffix {k l : Kind} (h : k.path.toList <:+ l.path.toList) : k = l := by
  cases k <;> cases l <;> first | rfl | exact absurd h (by decide)

/-- Neither path ends in the other, so a text ends in one of them at most. -/
theorem path_suffix_iff (start : String) (k l : Kind) :
    k.path.toList <:+ (start ++ l.path).toList ↔ k = l := by
  have whole : l.path.toList <:+ (start ++ l.path).toList := by
    rw [String.toList_append]
    exact List.suffix_append _ _
  constructor
  · intro ends
    rcases List.suffix_or_suffix_of_suffix ends whole with h | h
    · exact eq_of_path_suffix h
    · exact (eq_of_path_suffix h).symm
  · rintro rfl
    exact whole

theorem exchangedEnd_append (start : String) (k : Kind) :
    exchangedEnd (start ++ k.path) = start ++ k.other.path := by
  have found : (Kind.all.find? fun l => l.path.toList.isSuffixOf (start ++ k.path).toList) =
      some k := by
    have ends (l : Kind) : l.path.toList.isSuffixOf (start ++ k.path).toList = decide (l = k) := by
      rw [Bool.eq_iff_iff, List.isSuffixOf_iff_suffix, path_suffix_iff, decide_eq_true_iff]
    simp only [ends]
    cases k <;> rfl
  unfold exchangedEnd
  rw [found]
  simp

theorem exchangedEnd_path (k : Kind) : exchangedEnd k.path = k.other.path := by
  simpa using exchangedEnd_append "" k

namespace Builder

variable (b : Builder)

theorem exchangedEnd_url (k : Kind) : exchangedEnd (b.url k.path) = b.url k.other.path :=
  exchangedEnd_append ("https://" ++ shown b.address) k

/-! ## Records -/

/-- A lookup of the owner tells no address. -/
theorem map_exchanged_givenRecords (given : Option OwnerResolution)
    (answer : Except Failure (Option Metadata)) :
    (b.givenRecords given answer).map Log.Record.exchanged = b.givenRecords given answer := by
  cases given with
  | some owner => rfl
  | none =>
      show (b.ownerRecords answer).map _ = b.ownerRecords answer
      rcases b.warns_ownerRecords answer with none | ⟨message, one⟩
      · rw [none]
        rfl
      · rw [one]
        rfl

theorem exchanged_addressRecord (k : Kind) :
    (b.addressRecord k).exchanged = b.addressRecord k.other := by
  have message : exchangedEnd (b.addressRecord k).message = (b.addressRecord k.other).message := by
    have spelled (l : Kind) : (b.addressRecord l).message =
        "Debug webhook configured with url " ++ ("https://" ++ shown b.address) ++ l.path :=
      String.append_assoc.symm
    rw [spelled, spelled, exchangedEnd_append]
  have told : (b.addressRecord k).field? .url = some (.str (b.url k.path)) := rfl
  unfold Log.Record.exchanged
  rw [told]
  simp only [message, exchangedEnd_url]
  rfl

theorem buildRecords_other (k : Kind) :
    b.buildRecords k.other = (b.buildRecords k).map Log.Record.exchanged := by
  unfold buildRecords
  split
  · simp [exchanged_addressRecord]
  · rfl

/-! ## Configurations -/

theorem target_other (k : Kind) : b.target k.other = (b.target k).map Target.exchanged := by
  unfold target
  cases b.mode with
  | debug => simp [Except.map, Target.exchanged, exchangedEnd_url]
  | production =>
      cases b.serviceName with
      | none => rfl
      | some name =>
          cases b.space with
          | none => rfl
          | some space =>
              show Except.ok (Target.service space name k.other.path) =
                .ok (.service space name (exchangedEnd k.path))
              rw [exchangedEnd_path]

theorem configuration_other (k : Kind) (target : Target) (bundle : Bytes)
    (owner : OwnerResolution) :
    b.configuration k.other target.exchanged bundle owner =
      (b.configuration k target bundle owner).exchanged b.mode := by
  have name : b.configurationName k.other =
      exchanged (fun k => k.configurationName b.mode) (b.configurationName k) :=
    (exchanged_configurationName k b.mode).symm
  simp only [configuration, Configuration.exchanged, webhook, Webhook.exchanged, List.map_cons,
    List.map_nil, exchanged_webhookName, name]

/-! ## Builds -/

section

variable (k : Kind) (s : Site) (given : Option OwnerResolution)

/-- A build with a bundle and the build of the other kind. -/
theorem run_build_other {bundle : Bytes} (present : bundle ≠ []) :
    (b.build k.other bundle given).run s =
      { (b.build k bundle given).run s with
        outcome := ((b.build k bundle given).run s).outcome.map (Configuration.exchanged b.mode)
        records := ((b.build k bundle given).run s).records.map Log.Record.exchanged } := by
  cases found : b.ownerGiven given s.cluster.deployment with
  | error e =>
      simp only [b.run_build_of_stopped _ given s present found, map_exchanged_givenRecords]
      rfl
  | ok owner =>
      have outcome : ((b.target k.other).map fun t => b.configuration k.other t bundle owner) =
          ((b.target k).map fun t => b.configuration k t bundle owner).map
            (Configuration.exchanged b.mode) := by
        rw [target_other]
        cases b.target k with
        | error e => rfl
        | ok target => exact congrArg Except.ok (b.configuration_other k target bundle owner)
      simp only [b.run_build_of_owner _ given s present found, outcome, List.map_append,
        map_exchanged_givenRecords, buildRecords_other]

/-- What a service that is not named in full ends with; its name is asked for first. -/
def Unnamed (e : Failure) : Prop :=
  b.serviceName = none ∧
      e = .raised "ValueError" "Invalid value for `name`, must not be `None`" ∨
    b.serviceName.isSome = true ∧ b.space = none ∧
      e = .raised "ValueError" "Invalid value for `namespace`, must not be `None`"

theorem unnamed_of_target {e : Failure} (failed : b.target k = .error e) :
    b.mode = .production ∧ b.Unnamed e := by
  unfold target at failed
  unfold Unnamed
  cases mode : b.mode with
  | debug =>
      rw [mode] at failed
      cases failed
  | production =>
      rw [mode] at failed
      cases name : b.serviceName with
      | none =>
          rw [name] at failed
          cases failed
          exact ⟨rfl, .inl ⟨rfl, rfl⟩⟩
      | some name' =>
          cases space : b.space with
          | none =>
              rw [name, space] at failed
              cases failed
              exact ⟨rfl, .inr ⟨rfl, rfl, rfl⟩⟩
          | some space' =>
              rw [name, space] at failed
              cases failed

/-- A build with a bundle that makes no configuration, with what kept it from that: in production a
lookup that was asked to stop, or a service that is not named in full. -/
theorem obstacle_of_build {bundle : Bytes} (present : bundle ≠ []) {e : Failure}
    (failed : ((b.build k bundle given).run s).outcome = .error e) :
    b.mode = .production ∧
      (given = none ∧ b.owner.isSome = true ∧ s.cluster.deployment = .error e ∧ e.isStop = true ∨
        b.Unnamed e) := by
  cases found : b.ownerGiven given s.cluster.deployment with
  | error stop =>
      rw [b.run_build_of_stopped k given s present found] at failed
      obtain rfl := Except.error.inj failed
      cases given with
      | some owner => cases found
      | none =>
          obtain ⟨mode, lookup, asked⟩ := b.ownerFor_eq_error found
          exact ⟨mode, .inl ⟨rfl, lookup, asked⟩⟩
  | ok owner =>
      rw [b.run_build_of_owner k given s present found] at failed
      cases reached : b.target k with
      | ok target =>
          rw [reached] at failed
          cases failed
      | error missing =>
          rw [reached] at failed
          cases failed
          obtain ⟨mode, unnamed⟩ := b.unnamed_of_target k reached
          exact ⟨mode, .inr unnamed⟩

end

/-- Both kinds fail for want of a bundle, each under the name of its configuration. -/
def Refused (m : Mode) (outcome : Kind → Except Failure Configuration) : Prop :=
  ∃ before after, ∀ k, outcome k =
    .error (.report (.build (.str (before ++ k.configurationName m ++ after)) .null)
      (some Failure.noCa))

/-- Both kinds have a configuration, and each is the other with the names and the path exchanged. -/
def Matched (m : Mode) (outcome : Kind → Except Failure Configuration) : Prop :=
  ∀ k, ∃ body, outcome k = .ok body ∧ outcome k.other = .ok (body.exchanged m)

theorem refused_of_nil (s : Site) (given : Option OwnerResolution) :
    Refused b.mode fun k => ((b.build k [] given).run s).outcome := by
  refine ⟨"Cannot build webhook configuration ", ": " ++ noCaData, fun k => ?_⟩
  dsimp only
  rw [run_build_of_nil, withoutBundle, String.append_assoc]
  rfl

/-- Whatever the builder, the cluster, the bundle and the owner: builds of both kinds do the same and
tell the same up to the path in an address. Their results correspond, unless one failure keeps both
from a result. -/
theorem kinds_agree (b : Builder) (s : Site) (bundle : Bytes) (given : Option OwnerResolution) :
    let run := fun k => (b.build k bundle given).run s
    let outcome := fun k => (run k).outcome
    (run .mutating).calls = (run .validating).calls ∧
    (run .mutating).state = (run .validating).state ∧
    (∀ k, (run k.other).records = (run k).records.map Log.Record.exchanged) ∧
    (bundle = [] ∧ Refused b.mode outcome ∨
      bundle ≠ [] ∧ Matched b.mode outcome ∨
      bundle ≠ [] ∧ ∃ e, (∀ k, outcome k = .error e) ∧ b.mode = .production ∧
        (given = none ∧ b.owner.isSome = true ∧ s.cluster.deployment = .error e ∧
            e.isStop = true ∨
          b.Unnamed e)) := by
  intro run outcome
  by_cases absent : bundle = []
  · subst absent
    exact ⟨rfl, rfl, fun k => rfl, .inl ⟨rfl, b.refused_of_nil s given⟩⟩
  have other (k : Kind) : run k.other =
      { run k with
        outcome := (outcome k).map (Configuration.exchanged b.mode)
        records := (run k).records.map Log.Record.exchanged } :=
    b.run_build_other k s given absent
  refine ⟨?_, ?_, fun k => by rw [other], ?_⟩
  · exact (congrArg Run.calls (other .mutating)).symm
  · exact (congrArg Run.state (other .mutating)).symm
  have mirrored (k : Kind) : outcome k.other = (outcome k).map (Configuration.exchanged b.mode) :=
    congrArg Run.outcome (other k)
  cases first : outcome .mutating with
  | error e =>
      refine .inr (.inr ⟨absent, e, ?_, b.obstacle_of_build .mutating s given absent first⟩)
      intro k
      cases k with
      | mutating => exact first
      | validating => exact (mirrored .mutating).trans (by rw [first]; rfl)
  | ok body =>
      refine .inr (.inl ⟨absent, fun k => ?_⟩)
      have second : outcome .validating = .ok (body.exchanged b.mode) :=
        (mirrored .mutating).trans (by rw [first]; rfl)
      cases k with
      | mutating => exact ⟨body, first, second⟩
      | validating => exact ⟨_, second, (mirrored .validating).trans (by rw [second]; rfl)⟩

/-- The process is told to stop while it asks about the deployment. -/
def interruptedSite : Site :=
  ⟨{ deployment := .error (.runtime "KeyboardInterrupt" (.str "")) }, none⟩

theorem not_refused_or_matched :
    let outcome := fun k => ((ownedBuilder.build k [65, 66] none).run interruptedSite).outcome
    ¬ (Refused ownedBuilder.mode outcome ∨ Matched ownedBuilder.mode outcome) := by
  intro outcome
  have stopped (k : Kind) : outcome k = .error (.runtime "KeyboardInterrupt" (.str "")) := by
    cases k <;> rfl
  rintro (⟨before, after, refused⟩ | matched)
  · have other := refused .mutating
    rw [stopped] at other
    cases other
  · obtain ⟨body, built, -⟩ := matched .mutating
    rw [stopped] at built
    cases built

end Builder

end AdmissionHooks
