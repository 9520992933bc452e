import AdmissionHooks.Proofs.Blindness
import AdmissionHooks.Proofs.Sent
import AdmissionHooks.Proofs.Sources

/-!
# From the secret to the configurations

A bundle that the secret holds reaches every configuration that a registration sends, in its one
padded form. In which of its forms the secret has it makes no difference: a registration cannot tell
two texts apart that decode to one bundle.
-/

namespace AdmissionHooks

/-- A lookup cannot tell two answers apart that hold one bundle. -/
theorem AuthorityLookup.blind_readSecret_of_held (a : AuthorityLookup)
    {secret secret' : Except Failure SecretData}
    {deployment deployment' : Except Failure (Option Metadata)} {bytes : Bytes}
    (held : Holds secret bytes) (held' : Holds secret' bytes) :
    Action.Blind (Cluster.Swapped secret secret' deployment deployment') a.readSecret := by
  intro c d swapped
  rw [← swapped.secret] at held
  rw [← swapped.secret_eq] at held'
  rw [a.run_readSecret_of_held held, a.run_readSecret_of_held held']
  exact ⟨rfl, rfl, rfl, swapped⟩

namespace Registrar

variable (r : Registrar) (files : FileSystem)

/-- What a registration sends has the bundle that the secret holds. -/
theorem caBundle_of_held {s : Site} {bytes : Bytes}
    (held : AuthorityLookup.Holds s.cluster.secret bytes) {k : Kind} {body : Configuration}
    (sent : Call.create k body ∈ ((r.register files).run s).calls) :
    ∃ w, body.webhooks = [w] ∧ w.caBundle = Base64.encode bytes := by
  obtain ⟨bundle, owner, target, found, -, -, rfl⟩ := r.made_of_register files s sent
  rw [outcome_lookup, AuthorityLookup.bundle_of_held held] at found
  cases found
  exact ⟨_, rfl, rfl⟩

/-- Registrations that differ in how their secrets hold one bundle go the same way. -/
theorem register_of_held (s : Site) (deployment : Except Failure (Option Metadata))
    {secret secret' : Except Failure SecretData} {bytes : Bytes}
    (held : AuthorityLookup.Holds secret bytes) (held' : AuthorityLookup.Holds secret' bytes) :
    let one := (r.register files).run (s.answering secret deployment)
    (r.register files).run (s.answering secret' deployment) =
      { one with state := one.state.answering secret' deployment } := by
  have same (c d : Cluster) (swapped : c.Swapped secret secret' deployment deployment d) :
      c.deployment = d.deployment := by
    rw [swapped.deployment, swapped.deployment_eq]
  have reads : Action.Blind (Cluster.Swapped secret secret' deployment deployment)
      r.authority.readSecret :=
    r.authority.blind_readSecret_of_held held held'
  exact r.register_answering files s (r.authority.blind_resolve files reads)
    (r.builder.blind_resolveOwner same)

/-- Whatever text the secret has for a bundle, every configuration that a registration sends has the
padded text of it, which decodes to it again. Any other text for the bundle, the padded one among
them, makes a registration that ends, calls and logs the same and leaves the same, but for the secret
that the cluster keeps. -/
theorem register_passes_bundle (r : Registrar) (files : FileSystem) (s : Site)
    (deployment : Except Failure (Option Metadata)) {bytes : Bytes} (given : bytes ≠ [])
    {entries : List (String × String)} {text : String}
    (stored : entries.lookup "rootCA.crt" = some text) (decoded : Base64.decode text = .ok bytes) :
    let done (entries : List (String × String)) :=
      (r.register files).run (s.answering (.ok (some entries)) deployment)
    (∀ k body, Call.create k body ∈ (done entries).calls →
      ∃ w, body.webhooks = [w] ∧ w.caBundle = Base64.encode bytes) ∧
    Base64.decode (Base64.encode bytes) = .ok bytes ∧
    ∀ others text', others.lookup "rootCA.crt" = some text' → Base64.decode text' = .ok bytes →
      (done others).outcome = (done entries).outcome ∧
      (done others).calls = (done entries).calls ∧
      (done others).records = (done entries).records ∧
      (done others).state = (done entries).state.answering (.ok (some others)) deployment := by
  have holds {entries : List (String × String)} {text : String}
      (stored : entries.lookup "rootCA.crt" = some text)
      (decoded : Base64.decode text = .ok bytes) :
      AuthorityLookup.Holds (.ok (some entries)) bytes := by
    refine ⟨entries, text, rfl, stored, ?_, decoded⟩
    rintro rfl
    cases decoded
    exact given rfl
  intro done
  have held := holds stored decoded
  refine ⟨fun k body sent => r.caBundle_of_held files held sent, Base64.decode_encode bytes, ?_⟩
  intro others text' stored' decoded'
  have same := r.register_of_held files s deployment held (holds stored' decoded')
  rw [show done others = _ from same]
  exact ⟨rfl, rfl, rfl, rfl⟩

/-- The text has a padding sign behind its full group, where none is needed. -/
theorem register_passes_bundle_needlessPadding :
    let done (text : String) := (Session.ownedSession.client.register {}).run
      (Session.ownedSession.site.answering (.ok (some [("rootCA.crt", text)])) (.error Failure.notFound))
    (∃ body w, Call.create .mutating body ∈ (done "QUJD=").calls ∧ body.webhooks = [w] ∧
      w.caBundle = "QUJD") ∧
      (done "QUJD").calls = (done "QUJD=").calls := by
  intro done
  have given : ([0x41, 0x42, 0x43] : Bytes) ≠ [] := by decide
  have stored (text : String) : [("rootCA.crt", text)].lookup "rootCA.crt" = some text := rfl
  have padded : Base64.decode "QUJD=" = .ok [0x41, 0x42, 0x43] := rfl
  have plain : Base64.decode "QUJD" = .ok [0x41, 0x42, 0x43] := rfl
  obtain ⟨bundles, -, others⟩ := register_passes_bundle Session.ownedSession.client {}
    Session.ownedSession.site (.error Failure.notFound) given (stored "QUJD=") padded
  obtain ⟨-, calls, -⟩ := others _ _ (stored "QUJD") plain
  refine ⟨?_, calls⟩
  have sent : ∃ body, Call.create .mutating body ∈ (done "QUJD=").calls :=
    ⟨_, .tail _ (.tail _ (.tail _ (.tail _ (.head _))))⟩
  obtain ⟨body, sent⟩ := sent
  obtain ⟨w, only, trusted⟩ := bundles .mutating body sent
  exact ⟨body, w, sent, only, trusted.trans (by decide)⟩

end Registrar

end AdmissionHooks
