import AdmissionHooks.Proofs.Base64.RoundTrip
import AdmissionHooks.Proofs.Course

/-!
# What is sent

Every configuration that is sent to be created is made by one registration, out of its client and of
the bundle and the owner that it looked up. `Sound` says what such a configuration is. A session
changes its client, its cluster and its files at will between registrations, and sends sound
configurations only.
-/

namespace AdmissionHooks

theorem Mode.ofAddress_eq_debug {address : Option String} (h : Mode.ofAddress address = .debug) :
    ∃ text, address = some text ∧ text ≠ "" := by
  cases address with
  | none => cases h
  | some text =>
      refine ⟨text, rfl, ?_⟩
      rintro rfl
      cases h

/-- The deployment tells its name and its uid. -/
def Cluster.Identified (c : Cluster) (name uid : String) : Prop :=
  c.deployment = .ok (some ⟨some name, some uid⟩) ∧ name ≠ "" ∧ uid ≠ ""

theorem OwnerLookup.reference?_eq_some_iff {m : Option Metadata} {o : OwnerReference} :
    reference? m = some o ↔
      ∃ name uid, m = some ⟨some name, some uid⟩ ∧ name ≠ "" ∧ uid ≠ "" ∧
        o = ⟨deploymentApiVersion, deploymentKind, name, uid⟩ := by
  rcases m with _ | ⟨_ | name, _ | uid⟩
  · simp [reference?]
  · simp [reference?]
  · simp [reference?]
  · simp [reference?]
  · constructor
    · intro h
      simp only [reference?, bind, Option.bind, String.isEmpty_iff, Bool.or_eq_true] at h
      split at h
      · cases h
      · rename_i known
        cases h
        exact ⟨name, uid, rfl, fun hn => known (.inl hn), fun hu => known (.inr hu), rfl⟩
    · rintro ⟨_, _, same, hn, hu, rfl⟩
      cases same
      simp [reference?, hn, hu]

/-- A lookup that ends always writes owners: the deployment if it is identified, else nobody. -/
theorem OwnerLookup.owners_of_resolution {c : Cluster} {owner : OwnerResolution}
    (resolved : resolution c.deployment = .ok owner) :
    ∃ owners, owner.owners = some owners ∧
      (∀ name uid, c.Identified name uid → owners = [⟨"apps/v1", "Deployment", name, uid⟩]) ∧
      ((∀ name uid, ¬ c.Identified name uid) → owners = []) := by
  unfold resolution at resolved
  cases read : c.deployment with
  | error e =>
      rw [read] at resolved
      by_cases stop : e.isStop = true
      · simp [stop] at resolved
      · simp only [stop] at resolved
        cases resolved
        exact ⟨[], rfl, by simp [Cluster.Identified, read], fun _ => rfl⟩
  | ok metadata =>
      rw [read] at resolved
      cases reference : reference? metadata with
      | none =>
          simp only [reference] at resolved
          cases resolved
          refine ⟨[], rfl, ?_, fun _ => rfl⟩
          rintro name uid ⟨told, hn, hu⟩
          rw [read] at told
          cases told
          have given := reference?_eq_some_iff.2 ⟨name, uid, rfl, hn, hu, rfl⟩
          rw [reference] at given
          cases given
      | some o =>
          simp only [reference] at resolved
          cases resolved
          obtain ⟨name, uid, rfl, hn, hu, rfl⟩ := reference?_eq_some_iff.1 reference
          refine ⟨_, rfl, ?_, fun anonymous => absurd ⟨read, hn, hu⟩ (anonymous name uid)⟩
          rintro _ _ ⟨told, -, -⟩
          rw [read] at told
          cases told
          rfl

namespace Registrar

variable (r : Registrar) (files : FileSystem) (s : Site)

/-- The webhook is called where the mode has its server. -/
def Reaches (k : Kind) (w : Webhook) : Prop :=
  match r.mode with
  | .debug => ∃ address, r.address = some address ∧ address ≠ "" ∧
      w.target.members = [("url", .str ("https://" ++ address ++ k.path))]
  | .production => ∃ space name, r.space = some space ∧ r.serviceName = some name ∧
      w.target.members = [("service",
        .obj [("namespace", .str space), ("name", .str name), ("path", .str k.path)])]

/-- The configuration is owned as the mode and the deployment have it. -/
def Owned (c : Cluster) (body : Configuration) : Prop :=
  match r.mode with
  | .debug => body.ownerMembers = []
  | .production => ∃ owners : List OwnerReference,
      body.ownerMembers = [("ownerReferences", .arr (owners.map OwnerReference.wire))] ∧
        (∀ name uid, c.Identified name uid → owners = [⟨"apps/v1", "Deployment", name, uid⟩]) ∧
        ((∀ name uid, ¬ c.Identified name uid) → owners = [])

structure SoundWebhook (k : Kind) (w : Webhook) : Prop where
  rules : w.rules = [⟨["CREATE"], ["*"], ["*"], ["*/*"]⟩]
  bundle : ∃ bytes, (r.lookup files s).outcome = .ok bytes ∧ bytes ≠ [] ∧ w.caBundle ≠ "" ∧
    Base64.decode w.caBundle = .ok bytes
  target : r.Reaches k w

/-- What a registration at a site may send to be created among the configurations of a kind. -/
structure Sound (k : Kind) (body : Configuration) : Prop where
  kind : body.kind = k
  name : body.name = k.configurationName r.mode
  labels : body.labels = r.labels
  owners : r.Owned s.cluster body
  webhook : ∃ w, body.webhooks = [w] ∧ r.SoundWebhook files s k w

/-! ## One registration -/

theorem reaches_of_target {k : Kind} {target : Target} (bundle : Bytes)
    (found : r.builder.target k = .ok target) :
    r.Reaches k (Builder.webhook k target bundle) := by
  unfold Reaches
  rcases r.builder.target_cases k with
    ⟨mode, h⟩ | ⟨mode, name, space, named, placed, h⟩ | ⟨-, -, e, h⟩
  all_goals rw [h] at found; cases found
  · obtain ⟨address, given, nonempty⟩ := Mode.ofAddress_eq_debug mode
    rw [show r.mode = .debug from mode]
    refine ⟨address, given, nonempty, ?_⟩
    simp only [Builder.webhook, Target.members, Builder.url, given, shown]
  · rw [show r.mode = .production from mode]
    exact ⟨space, name, placed, named, rfl⟩

theorem owned_of_ownership {owner : OwnerResolution} (k : Kind) (target : Target) (bundle : Bytes)
    (resolved : (r.ownership s).outcome = .ok owner) :
    r.Owned s.cluster (r.builder.configuration k target bundle owner) := by
  rw [outcome_ownership] at resolved
  unfold Builder.ownerFor at resolved
  unfold Owned
  cases mode : r.mode with
  | debug =>
      rw [show r.builder.mode = .debug from mode] at resolved
      cases resolved
      rfl
  | production =>
      rw [show r.builder.mode = .production from mode] at resolved
      obtain ⟨owners, written, whose⟩ := OwnerLookup.owners_of_resolution resolved
      refine ⟨owners, ?_, whose⟩
      simp [Configuration.ownerMembers, Builder.configuration, written]

/-- The registration at a site makes the configuration, out of what it looked up there. -/
def Made (k : Kind) (body : Configuration) : Prop :=
  ∃ bundle owner target, (r.lookup files s).outcome = .ok bundle ∧
    (r.ownership s).outcome = .ok owner ∧ r.builder.target k = .ok target ∧
    body = r.builder.configuration k target bundle owner

theorem made_of_place {k l : Kind} {body : Configuration} {bundle : Bytes}
    {owner : OwnerResolution} {t : Site} (found : (r.lookup files s).outcome = .ok bundle)
    (resolved : (r.ownership s).outcome = .ok owner)
    (sent : Call.create l body ∈ ((r.place k bundle owner).run t).calls) :
    r.Made files s l body := by
  have given := r.ne_nil_of_lookup files s found
  rcases r.place_cases k owner t given with ⟨e, rs, -, h⟩ | ⟨target, rs, reached, h⟩
  · simp [h] at sent
  · simp only [h, List.mem_singleton, Call.create.injEq] at sent
    obtain ⟨rfl, rfl⟩ := sent
    exact ⟨bundle, owner, target, found, resolved, reached, rfl⟩

/-- What a registration at a site may call. -/
inductive MayCall : Call → Prop where
  | delete (k : Kind) : MayCall (.delete k (r.configurationName k))
  | readSecret : MayCall (.readSecret (some r.secretName) r.space)
  | readDeployment (production : r.mode = .production) :
      MayCall (.readDeployment r.deploymentName r.space)
  | create {k : Kind} {body : Configuration} (made : r.Made files s k body) :
      MayCall (.create k body)

theorem mayCall_of_deregister {c : Cluster} {call : Call}
    (called : call ∈ (r.deregister.run c).calls) : r.MayCall files s call := by
  rcases r.deregister_cases c with ⟨e, -, -, calls⟩ | ⟨-, calls⟩
  · rw [calls] at called
    rw [List.mem_singleton.1 called]
    exact .delete .mutating
  · rw [calls] at called
    simp only [List.mem_cons, List.not_mem_nil, or_false] at called
    rcases called with rfl | rfl
    · exact .delete .mutating
    · exact .delete .validating

theorem mayCall_of_ownership {call : Call} (called : call ∈ (r.ownership s).calls) :
    r.MayCall files s call := by
  rw [calls_ownership] at called
  obtain ⟨o, production, ⟨⟩, rfl⟩ := r.builder.mem_ownerCalls called
  exact .readDeployment production

theorem mayCall_of_place {k : Kind} {bundle : Bytes} {owner : OwnerResolution} {t : Site}
    {call : Call} (found : (r.lookup files s).outcome = .ok bundle)
    (resolved : (r.ownership s).outcome = .ok owner)
    (called : call ∈ ((r.place k bundle owner).run t).calls) : r.MayCall files s call := by
  have given := r.ne_nil_of_lookup files s found
  rcases r.place_cases k owner t given with ⟨e, rs, -, h⟩ | ⟨target, rs, -, h⟩
  · simp [h] at called
  · have sent := called
    simp only [h, List.mem_singleton] at called
    subst called
    exact .create (r.made_of_place files s found resolved sent)

/-- A registration deletes and creates under its own names, and reads what it is set up to read. -/
theorem mayCall_of_register {call : Call} (called : call ∈ ((r.register files).run s).calls) :
    r.MayCall files s call := by
  have reset {call : Call} (h : call ∈ (r.reset s).calls) : r.MayCall files s call :=
    r.mayCall_of_deregister files s h
  have lookup {call : Call} (h : call ∈ (r.lookup files s).calls) : r.MayCall files s call := by
    rw [calls_lookup] at h
    rw [List.mem_singleton.1 h]
    exact .readSecret
  have ownership {call : Call} (h : call ∈ (r.ownership s).calls) : r.MayCall files s call :=
    r.mayCall_of_ownership files s h
  have course := r.register_course files s
  generalize (r.register files).run s = result at course called
  cases course with
  | resetFails => exact reset called
  | lookupFails =>
      rcases List.mem_append.1 called with h | h
      · exact reset h
      · exact lookup h
  | ownershipFails =>
      simp only [List.mem_append] at called
      rcases called with h | h | h
      · exact reset h
      · exact lookup h
      · exact ownership h
  | firstFails _ found resolved =>
      simp only [List.mem_append] at called
      rcases called with h | h | h | h
      · exact reset h
      · exact lookup h
      · exact ownership h
      · exact r.mayCall_of_place files s found resolved h
  | secondFails _ found resolved =>
      simp only [List.mem_append] at called
      rcases called with h | h | h | h | h
      · exact reset h
      · exact lookup h
      · exact ownership h
      · exact r.mayCall_of_place files s found resolved h
      · exact r.mayCall_of_place files s found resolved h
  | completes _ found resolved =>
      simp only [List.mem_append] at called
      rcases called with h | h | h | h | h
      · exact reset h
      · exact lookup h
      · exact ownership h
      · exact r.mayCall_of_place files s found resolved h
      · exact r.mayCall_of_place files s found resolved h

/-- Whatever a registration sends, it has made. -/
theorem made_of_register {k : Kind} {body : Configuration}
    (sent : Call.create k body ∈ ((r.register files).run s).calls) : r.Made files s k body := by
  cases r.mayCall_of_register files s sent with
  | create made => exact made

theorem sound_of_made {k : Kind} {body : Configuration} (made : r.Made files s k body) :
    r.Sound files s k body := by
  obtain ⟨bundle, owner, target, found, resolved, reached, rfl⟩ := made
  have given := r.ne_nil_of_lookup files s found
  have trusted := Base64.decode_encode bundle
  exact
    { kind := rfl
      name := rfl
      labels := rfl
      owners := r.owned_of_ownership s _ target bundle resolved
      webhook := ⟨_, rfl,
        { rules := rfl
          bundle := ⟨bundle, found, given, Base64.encode_ne_empty given, trusted⟩
          target := r.reaches_of_target bundle reached }⟩ }

end Registrar

/-! ## Sessions -/

/-- A client with all that its registrations meet. -/
structure Session where
  client : Registrar
  site : Site
  files : FileSystem

/-- What happens next in a session: a client acts, or something around it changes. -/
inductive Move where
  | register
  | deregister
  | newClient (client : Registrar)
  | newCluster (cluster : Cluster)
  | newFiles (files : FileSystem)

namespace Session

/-- One move, with the calls that it makes. A new client has given no configuration an owner. -/
def step (s : Session) : Move → Session × List Call
  | .register =>
      let done := (s.client.register s.files).run s.site
      ({ s with site := done.state }, done.calls)
  | .deregister =>
      let done := s.client.deregister.atSite.run s.site
      ({ s with site := done.state }, done.calls)
  | .newClient client => ({ s with client, site := ⟨s.site.cluster, none⟩ }, [])
  | .newCluster cluster => ({ s with site := { s.site with cluster } }, [])
  | .newFiles files => ({ s with files }, [])

/-- The calls of a run, each with the session at whose move it was made. -/
def sent (s : Session) : List Move → List (Session × Call)
  | [] => []
  | move :: moves =>
      let next := s.step move
      next.2.map (s, ·) ++ next.1.sent moves

theorem sound_of_step {s : Session} {move : Move} {k : Kind} {body : Configuration}
    (sent : Call.create k body ∈ (s.step move).2) : s.client.Sound s.files s.site k body := by
  cases move with
  | register =>
      have made := s.client.made_of_register s.files s.site sent
      exact s.client.sound_of_made s.files s.site made
  | deregister => exact absurd sent (s.client.create_not_mem_deregister k body _)
  | newClient client => cases sent
  | newCluster cluster => cases sent
  | newFiles files => cases sent

/-- Whatever a session sends to be created is sound for the registration that sent it. -/
theorem sent_sound (start : Session) (moves : List Move) {here : Session} {k : Kind}
    {body : Configuration} (made : (here, Call.create k body) ∈ start.sent moves) :
    here.client.Sound here.files here.site k body := by
  induction moves generalizing start with
  | nil => cases made
  | cons move moves ih =>
      rcases List.mem_append.1 made with now | later
      · obtain ⟨call, called, same⟩ := List.mem_map.1 now
        cases same
        exact sound_of_step called
      · exact ih _ later

/-- A client with inline data, in a cluster with an identified deployment. -/
def ownedSession : Session where
  client :=
    { space := some "policies", serviceName := some "hooks", deploymentName := some "controller"
      tls := { data := some [0x41, 0x42] } }
  site := ⟨{ deployment := .ok (some ⟨some "controller", some "7b0e"⟩) }, none⟩
  files := {}

theorem sent_sound_ownedSession :
    ∃ body, (ownedSession, Call.create .mutating body) ∈ ownedSession.sent [.register] ∧
      ∃ owner, body.ownerMembers = [("ownerReferences", .arr [OwnerReference.wire owner])] ∧
        owner.uid = "7b0e" := by
  let owner : OwnerReference := ⟨"apps/v1", "Deployment", "controller", "7b0e"⟩
  let body : Configuration :=
    ownedSession.client.builder.configuration .mutating (.service "policies" "hooks" "/mutate")
      [0x41, 0x42] { status := .resolved, reference := some owner }
  have made : (ownedSession, Call.create .mutating body) ∈ ownedSession.sent [.register] :=
    .tail _ (.tail _ (.tail _ (.tail _ (.head _))))
  obtain ⟨owners, written, whose, -⟩ := (sent_sound ownedSession [.register] made).owners
  have identified : ownedSession.site.cluster.Identified "controller" "7b0e" :=
    ⟨rfl, by decide, by decide⟩
  rw [whose _ _ identified] at written
  exact ⟨_, made, _, written, rfl⟩

end Session

end AdmissionHooks
