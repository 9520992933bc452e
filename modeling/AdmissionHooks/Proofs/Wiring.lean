import AdmissionHooks.Proofs.Indifference
import AdmissionHooks.Proofs.Memory
import AdmissionHooks.Proofs.Settings.Resolution

/-!
# From the settings to the wire

The mode is told by the address alone, and everything that a start sends is of that mode: the names of
its configurations, where they are called, what they are read from and whether they are owned. The
names of the service, the namespace and the deployment come through as they were set.
-/

namespace AdmissionHooks

open Settings (textOf rawValue)

theorem Settings.mode_eq_debug_iff (settings : Settings) :
    settings.mode = .debug ↔ settings.address ≠ "" := by
  unfold Settings.mode Mode.ofAddress
  by_cases empty : settings.address = "" <;> simp [empty]

/-- The mode is debug exactly when the address has a character that is not blank. -/
theorem Settings.mode_ofValues_eq_debug_iff (value : Setting → Json) :
    (Settings.ofValues value).mode = .debug ↔
      ∃ c ∈ (textOf (value .address)).toList, Text.isBlank c = false := by
  rw [Settings.mode_eq_debug_iff, ne_eq,
    show (Settings.ofValues value).address = Text.trim (textOf (value .address)) from rfl,
    Text.trim_eq_empty_iff]
  simp

/-- Where webhooks are called under these settings. -/
def Settings.target (settings : Settings) (k : Kind) : Target :=
  match settings.mode with
  | .debug => .url ("https://" ++ settings.address ++ k.path)
  | .production => .service settings.space settings.serviceName k.path

/-- The call is one for these settings: in their mode, and with the names that they have. -/
def Settings.Wires (settings : Settings) : Call → Prop
  | .readSecret name space =>
      name = some (settings.serviceName ++ "." ++ settings.space ++ ".svc." ++
        "kube-policy-tls-ca") ∧ space = some settings.space
  | .readDeployment name space =>
      settings.mode = .production ∧ name = some settings.deploymentName ∧ space = some settings.space
  | .create k body =>
      body.kind = k ∧ body.name = k.configurationName settings.mode ∧
        ∃ w, body.webhooks = [w] ∧ w.target = settings.target k
  | .delete k name => name = k.configurationName settings.mode
  | .loadInCluster => True
  | .loadKubeconfig file => file = nonEmpty (some settings.kubeconfig)

namespace Registrar

variable (settings : Settings) (found : ClientConfiguration)

/-- The client is of the mode of the settings, and so is the builder of its configurations. -/
theorem mode_ofSettings : (ofSettings settings found).mode = settings.mode ∧
    (ofSettings settings found).builder.mode = settings.mode := ⟨rfl, rfl⟩

theorem target_ofSettings (k : Kind) :
    (ofSettings settings found).builder.target k = .ok (settings.target k) := by
  unfold Settings.target
  rcases (ofSettings settings found).builder.target_cases k with
    ⟨debug, h⟩ | ⟨production, name, space, named, placed, h⟩ | ⟨-, missing, -⟩
  · rw [h, show settings.mode = .debug from debug]
    rfl
  · rw [h, show settings.mode = .production from production]
    cases named
    cases placed
    rfl
  · rcases missing with missing | missing <;> cases missing

theorem wires_of_mayCall {files : FileSystem} {s : Site} {call : Call}
    (may : (ofSettings settings found).MayCall files s call) : settings.Wires call := by
  cases may with
  | delete k => rfl
  | readSecret => exact ⟨rfl, rfl⟩
  | readDeployment production => exact ⟨production, rfl, rfl⟩
  | @create k body made =>
      obtain ⟨bundle, owner, target, -, -, reached, rfl⟩ := made
      rw [target_ofSettings] at reached
      cases reached
      exact ⟨rfl, rfl, _, rfl, rfl⟩

/-- In production a registration that finds a bundle asks once for the deployment that was set. -/
theorem reads_of_production (files : FileSystem) (c : Cluster) {bundle : Bytes}
    (production : settings.mode = .production)
    (requests : ∀ k e, c.deleteFault k = some e → e.isRequestFailure = true)
    (resolved :
      (((ofSettings settings found).authority.resolve files).run c).outcome = .ok bundle) :
    (((ofSettings settings found).register files).run ⟨c, none⟩).calls.filter Call.readsDeployment =
      [.readDeployment (some settings.deploymentName) (some settings.space)] := by
  have reset := (ofSettings settings found).deregister_of_requests requests
  have lookup : ((ofSettings settings found).lookup files ⟨c, none⟩).outcome = .ok bundle := by
    rw [outcome_lookup, ← resolved, AuthorityLookup.outcome_resolve]
    rfl
  rw [(ofSettings settings found).reads_of_lookup files ⟨c, none⟩ reset lookup]
  exact (ofSettings settings found).builder.ownerCalls_of_lookup production rfl

end Registrar

namespace Controller

variable (settings : Settings) (sources : ClientSources) (files : FileSystem)
  (memo : Option Registrar) (c : Cluster)

theorem wires_of_startup {call : Call}
    (called : call ∈ (startup settings sources files memo c).calls) : settings.Wires call := by
  rw [calls_startup, List.mem_append] at called
  rcases called with loads | later
  · unfold ClientSources.loadCalls at loads
    cases answer : sources.inCluster with
    | ok found =>
        rw [answer] at loads
        cases List.mem_singleton.1 loads
        trivial
    | error e =>
        rw [answer] at loads
        by_cases none : e.isConfiguration = true
        · simp only [none, if_true, List.mem_cons, List.not_mem_nil, or_false] at loads
          rcases loads with rfl | rfl
          · trivial
          · rfl
        · simp only [none, if_false, List.mem_singleton, Bool.false_eq_true] at loads
          subst loads
          trivial
  · cases h : prepared settings sources with
    | error e =>
        rw [h] at later
        cases later
    | ok r =>
        obtain ⟨found, rfl⟩ := eq_ofSettings_of_prepared settings sources h
        rw [h] at later
        exact Registrar.wires_of_mayCall settings found
          (Registrar.mayCall_of_register _ files ⟨c, none⟩ later)

theorem reads_startup {client : Registrar} {bundle : Bytes} (production : settings.mode = .production)
    (requests : ∀ k e, c.deleteFault k = some e → e.isRequestFailure = true)
    (made : ((createRegistrar settings sources).run c).outcome = .ok client)
    (resolved : ((client.authority.resolve files).run c).outcome = .ok bundle) :
    (startup settings sources files memo c).calls.filter Call.readsDeployment =
      [.readDeployment (some settings.deploymentName) (some settings.space)] := by
  have prepared := (prepared_eq_ok_iff settings sources c client).2 made
  obtain ⟨found, rfl⟩ := eq_ofSettings_of_prepared settings sources prepared
  have loads : (sources.loadCalls (some settings.kubeconfig)).filter Call.readsDeployment = [] := by
    refine List.filter_eq_nil_iff.2 fun call member => ?_
    have load := sources.isLoad_of_mem_loadCalls member
    cases call <;> first | exact Bool.false_ne_true | cases load
  rw [calls_startup, prepared, List.filter_append, loads, List.nil_append]
  exact Registrar.reads_of_production settings found files c production requests resolved

end Controller

/-- Settings that were loaded have one mode, told by the address that was found. The client made of
them is of this mode, and whatever a start with them meets, each of its calls is. In production a
start that finds a bundle asks once for the deployment. -/
theorem one_mode (sources : SettingSources) (settings : Settings)
    (loaded : Settings.load sources = .ok settings) :
    (∃ address, sources.Selected .address (.str address) ∧
      Text.Trimmed address settings.address ∧
      (settings.mode = .debug ↔ ∃ c ∈ address.toList, Text.isBlank c = false)) ∧
    sources.Selected .space (.str settings.space) ∧
    sources.Selected .serviceName (.str settings.serviceName) ∧
    sources.Selected .deploymentName (.str settings.deploymentName) ∧
    ∀ (clientSources : ClientSources) (files : FileSystem) (memo : Option Registrar) (c : Cluster),
      let start := Controller.startup settings clientSources files memo c
      (∀ call ∈ start.calls, settings.Wires call) ∧
      ∀ client, ((Controller.createRegistrar settings clientSources).run c).outcome = .ok client →
        client.mode = settings.mode ∧ client.builder.mode = settings.mode ∧
        ∀ bundle, ((client.authority.resolve files).run c).outcome = .ok bundle →
          (∀ k e, c.deleteFault k = some e → e.isRequestFailure = true) →
          settings.mode = .production →
          start.calls.filter Call.readsDeployment =
            [.readDeployment (some settings.deploymentName) (some settings.space)] := by
  obtain ⟨accepted, rfl⟩ := Settings.load_eq_ok_iff.1 loaded
  have selected (s : Setting) (text : s.isFlag = false) :
      sources.Selected s (.str (textOf (rawValue sources s))) := by
    rw [sources.selected_iff, ← Settings.eq_str_of_accepts text (accepted s)]
  refine ⟨⟨textOf (rawValue sources .address), selected .address rfl, Text.trimmed_trim _,
    Settings.mode_ofValues_eq_debug_iff _⟩, selected .space rfl, selected .serviceName rfl,
    selected .deploymentName rfl, ?_⟩
  intro clientSources files memo c start
  refine ⟨fun call called => Controller.wires_of_startup _ clientSources files memo c called, ?_⟩
  intro client made
  obtain ⟨found, rfl⟩ := Controller.eq_ofSettings_of_prepared _ clientSources
    ((Controller.prepared_eq_ok_iff _ clientSources c client).2 made)
  obtain ⟨client, builder⟩ :=
    Registrar.mode_ofSettings (Settings.ofValues (rawValue sources)) found
  refine ⟨client, builder, fun bundle resolved requests production => ?_⟩
  exact Controller.reads_startup _ clientSources files memo c production requests made resolved

/-- An address among blanks, and a namespace. -/
def paddedSources : SettingSources where
  environment := [("KUBE_POLICY_SERVER_IP", " 10.0.0.5:8443\t"), ("KUBE_POLICY_NAMESPACE", "policies")]

def paddedSettings : Settings :=
  { Settings.ofValues Setting.default with address := "10.0.0.5:8443", space := "policies" }

theorem load_paddedSources : Settings.load paddedSources = .ok paddedSettings := by
  rfl

theorem one_mode_paddedSources :
    paddedSettings.mode = .debug ∧
    ∀ k body,
      .create k body ∈ (Controller.startup paddedSettings strandingTurn.sources {} none
        (strandingTurn.cluster ⟨[], []⟩)).calls →
      ∃ w, body.webhooks = [w] ∧ w.target = .url ("https://10.0.0.5:8443" ++ k.path) := by
  obtain ⟨⟨address, found, -, mode⟩, -, -, -, starts⟩ :=
    one_mode paddedSources paddedSettings load_paddedSources
  obtain ⟨wires, -⟩ := starts strandingTurn.sources {} none (strandingTurn.cluster ⟨[], []⟩)
  rw [SettingSources.selected_iff] at found
  cases found
  have digit : '1' ∈ " 10.0.0.5:8443\t".toList := by decide
  refine ⟨mode.2 ⟨'1', digit, rfl⟩, fun k body sent => ?_⟩
  obtain ⟨-, -, w, only, target⟩ := wires _ sent
  exact ⟨w, only, target⟩

end AdmissionHooks
