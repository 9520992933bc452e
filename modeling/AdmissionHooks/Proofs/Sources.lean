import AdmissionHooks.Proofs.Base64.RoundTrip
import AdmissionHooks.Proofs.Bundle
import AdmissionHooks.Proofs.Files

/-!
# Where a bundle comes from

A lookup takes the bundle of the secret if the secret holds one, and then asks nothing else. Without
one it turns to the client: to its file if one is named, whatever that gives, and else to its inline
data. `Chooses` says so source by source, and the lookup ends as the one source that applies has it.
-/

namespace AdmissionHooks.AuthorityLookup

/-- An answer about the secret holds a bundle: its entry is there, is not empty, and decodes to it. -/
def Holds (answer : Except Failure SecretData) (bytes : Bytes) : Prop :=
  ∃ entries text, answer = .ok (some entries) ∧ entries.lookup "rootCA.crt" = some text ∧
    text ≠ "" ∧ Base64.decode text = .ok bytes

/-- How a lookup ends, by the source that decides it. -/
inductive Chooses (tls : TlsAuthority) (files : FileSystem) (answer : Except Failure SecretData) :
    Except Failure Bytes → Prop where
  | secret {bytes} (held : Holds answer bytes) : Chooses tls files answer (.ok bytes)
  | file {path content} (without : ∀ bytes, ¬ Holds answer bytes)
      (named : tls.file = some path) (nonempty : path ≠ "")
      (read : files.open? path = .ok content) (given : content ≠ []) :
      Chooses tls files answer (.ok content)
  | noFile {path} (without : ∀ bytes, ¬ Holds answer bytes)
      (named : tls.file = some path) (nonempty : path ≠ "")
      (unread : ∀ content, files.open? path = .ok content → content = []) :
      Chooses tls files answer (.error Failure.noCa)
  | data {bytes} (without : ∀ bytes, ¬ Holds answer bytes)
      (unnamed : tls.file = none ∨ tls.file = some "")
      (inline : tls.data = some bytes) (given : bytes ≠ []) :
      Chooses tls files answer (.ok bytes)
  | nothing (without : ∀ bytes, ¬ Holds answer bytes)
      (unnamed : tls.file = none ∨ tls.file = some "")
      (absent : tls.data = none ∨ tls.data = some []) :
      Chooses tls files answer (.error Failure.noCa)

/-! ## The secret -/

theorem entry?_eq_some_iff {data : SecretData} {text : String} :
    entry? data = some text ↔
      ∃ entries, data = some entries ∧ entries.lookup "rootCA.crt" = some text ∧ text ≠ "" := by
  unfold entry? nonEmpty
  cases data with
  | none => simp
  | some entries => simp [Option.filter_eq_some_iff, rootCaSecretKey]

/-- An entry that decodes to nothing is empty, so a bundle that is held is not empty. -/
theorem holds_iff {answer : Except Failure SecretData} {bytes : Bytes} :
    Holds answer bytes ↔ secretBytes answer = .ok bytes ∧ bytes ≠ [] := by
  constructor
  · rintro ⟨entries, text, rfl, found, nonempty, decoded⟩
    have entry : entry? (some entries) = some text :=
      entry?_eq_some_iff.2 ⟨entries, rfl, found, nonempty⟩
    refine ⟨?_, Base64.ne_nil_of_decode nonempty decoded⟩
    simp [secretBytes, entryBytes, entry, decoded]
  · rintro ⟨read, given⟩
    cases answer with
    | error e =>
        by_cases request : e.isRequestFailure = true
        · have none : bytes = [] := by simpa [secretBytes, request, eq_comm] using read
          exact absurd none given
        · simp [secretBytes, request] at read
    | ok data =>
        have held : entryBytes data = bytes := by simpa [secretBytes] using read
        unfold entryBytes at held
        cases entry : entry? data with
        | none =>
            rw [entry] at held
            exact absurd held.symm given
        | some text =>
            rw [entry] at held
            obtain ⟨entries, rfl, found, nonempty⟩ := entry?_eq_some_iff.1 entry
            cases decoded : Base64.decode text with
            | error e =>
                simp only [decoded] at held
                exact absurd held.symm given
            | ok more =>
                simp only [decoded] at held
                subst held
                exact ⟨entries, text, rfl, found, nonempty, decoded⟩

/-- A bundle that is held is read without a word. -/
theorem run_readSecret_of_held (a : AuthorityLookup) {c : Cluster} {bytes : Bytes}
    (held : Holds c.secret bytes) :
    a.readSecret.run c = ⟨.ok bytes, c, [.readSecret a.secretName a.space], []⟩ := by
  obtain ⟨entries, text, told, found, nonempty, decoded⟩ := held
  have answer : (Action.readSecret a.secretName a.space).run c =
      ⟨.ok (some entries), c, [.readSecret a.secretName a.space], []⟩ := by
    rw [← told]
    rfl
  have entry : entry? (some entries) = some text :=
    entry?_eq_some_iff.2 ⟨entries, rfl, found, nonempty⟩
  unfold readSecret
  rw [Action.run_attempt_bind, answer]
  simp [decodeEntry, entry, decoded, Action.join]

theorem secretBytes_of_requests {answer : Except Failure SecretData}
    (requests : ∀ e, answer = .error e → e.isRequestFailure = true) :
    ∃ bytes, secretBytes answer = .ok bytes := by
  cases answer with
  | ok data => exact ⟨_, rfl⟩
  | error e => exact ⟨[], by simp [secretBytes, requests e rfl]⟩

theorem secretBytes_of_without {answer : Except Failure SecretData}
    (requests : ∀ e, answer = .error e → e.isRequestFailure = true)
    (without : ∀ bytes, ¬ Holds answer bytes) : secretBytes answer = .ok [] := by
  obtain ⟨bytes, read⟩ := secretBytes_of_requests requests
  by_cases none : bytes = []
  · rw [read, none]
  · exact absurd (holds_iff.2 ⟨read, none⟩) (without bytes)

/-! ## The client -/

theorem nonEmpty_of_unnamed {file : Option String} (unnamed : file = none ∨ file = some "") :
    nonEmpty file = none := by
  rcases unnamed with rfl | rfl <;> rfl

theorem fileBytes_of_noNull (files : FileSystem) {path : String} (noNull : '\x00' ∉ path.toList) :
    fileBytes files path = .ok ((files.open? path).toOption.getD []) := by
  unfold fileBytes
  rw [if_neg (by simpa using noNull)]
  cases files.open? path <;> rfl

theorem clientBytes_of_named (files : FileSystem) {tls : TlsAuthority} {path : String}
    (named : tls.file = some path) (nonempty : path ≠ "") (noNull : '\x00' ∉ path.toList) :
    clientBytes tls files = .ok ((files.open? path).toOption.getD []) := by
  unfold clientBytes
  rw [named, nonEmpty_some nonempty]
  exact fileBytes_of_noNull files noNull

theorem clientBytes_of_unnamed (files : FileSystem) {tls : TlsAuthority}
    (unnamed : tls.file = none ∨ tls.file = some "") :
    clientBytes tls files = .ok (tls.data.getD []) := by
  unfold clientBytes
  rw [nonEmpty_of_unnamed unnamed]

/-! ## The choice -/

section

variable {tls : TlsAuthority} {files : FileSystem} {answer : Except Failure SecretData}

theorem bundle_of_held {bytes : Bytes} (held : Holds answer bytes) :
    bundle tls files answer = .ok bytes := by
  obtain ⟨read, given⟩ := holds_iff.1 held
  unfold bundle
  rw [read]
  cases bytes with
  | nil => exact absurd rfl given
  | cons b bs => rfl

theorem bundle_of_client {own : Bytes} (nothing : secretBytes answer = .ok [])
    (client : clientBytes tls files = .ok own) : bundle tls files answer = orNone own := by
  simp [bundle, nothing, client, Except.bind]

/-- Some source always applies. -/
theorem exists_chooses (tls : TlsAuthority) (files : FileSystem) (answer : Except Failure SecretData) :
    ∃ result, Chooses tls files answer result := by
  by_cases held : ∃ bytes, Holds answer bytes
  · obtain ⟨bytes, held⟩ := held
    exact ⟨_, .secret held⟩
  have without (bytes : Bytes) : ¬ Holds answer bytes := fun found => held ⟨bytes, found⟩
  by_cases unnamed : tls.file = none ∨ tls.file = some ""
  · by_cases absent : tls.data = none ∨ tls.data = some []
    · exact ⟨_, .nothing without unnamed absent⟩
    · obtain ⟨missing, empty⟩ := not_or.1 absent
      obtain ⟨bytes, inline⟩ := Option.ne_none_iff_exists'.1 missing
      exact ⟨_, .data without unnamed inline fun none => empty (by rw [inline, none])⟩
  · obtain ⟨missing, empty⟩ := not_or.1 unnamed
    obtain ⟨path, named⟩ := Option.ne_none_iff_exists'.1 missing
    have nonempty : path ≠ "" := fun none => empty (by rw [named, none])
    by_cases read : ∃ content, files.open? path = .ok content ∧ content ≠ []
    · obtain ⟨content, read, given⟩ := read
      exact ⟨_, .file without named nonempty read given⟩
    · refine ⟨_, .noFile without named nonempty fun content opened => ?_⟩
      exact Decidable.byContradiction fun given => read ⟨content, opened, given⟩

variable (requests : ∀ e, answer = .error e → e.isRequestFailure = true)
  (noNull : ∀ path, tls.file = some path → '\x00' ∉ path.toList)

include requests noNull

theorem bundle_of_chooses {result : Except Failure Bytes}
    (chosen : Chooses tls files answer result) : bundle tls files answer = result := by
  cases chosen with
  | secret held => exact bundle_of_held held
  | @file path content without named nonempty read given =>
      have client := clientBytes_of_named files named nonempty (noNull path named)
      rw [bundle_of_client (secretBytes_of_without requests without) client, read]
      exact orNone_eq_ok_iff.2 ⟨rfl, given⟩
  | @noFile path without named nonempty unread =>
      have client := clientBytes_of_named files named nonempty (noNull path named)
      rw [bundle_of_client (secretBytes_of_without requests without) client]
      cases read : files.open? path with
      | error e => rfl
      | ok content =>
          rw [unread content read]
          rfl
  | @data bytes without unnamed inline given =>
      have client := clientBytes_of_unnamed files unnamed
      rw [bundle_of_client (secretBytes_of_without requests without) client, inline]
      exact orNone_eq_ok_iff.2 ⟨rfl, given⟩
  | nothing without unnamed absent =>
      have client := clientBytes_of_unnamed files unnamed
      rw [bundle_of_client (secretBytes_of_without requests without) client]
      rcases absent with absent | absent <;> rw [absent] <;> rfl

theorem chooses_iff {result : Except Failure Bytes} :
    Chooses tls files answer result ↔ bundle tls files answer = result := by
  refine ⟨bundle_of_chooses requests noNull, ?_⟩
  rintro rfl
  obtain ⟨result, chosen⟩ := exists_chooses tls files answer
  rw [bundle_of_chooses requests noNull chosen]
  exact chosen

end

/-- A lookup that finds the bundle in the secret ends there. -/
theorem run_resolve_of_held (a : AuthorityLookup) (files : FileSystem) {c : Cluster} {bytes : Bytes}
    (held : Holds c.secret bytes) :
    (a.resolve files).run c =
      ⟨.ok bytes, c, [.readSecret a.secretName a.space], [a.fromSecret]⟩ := by
  have read := a.run_readSecret_of_held held
  unfold resolve
  rw [Action.run_bind_of_ok (a := bytes) (by rw [read]), read]
  cases bytes with
  | nil => exact absurd rfl (holds_iff.1 held).2
  | cons b bs => rfl

/-- A lookup reads the secret once, leaves the cluster as it was and ends as its source has it. Where
the secret holds a bundle, no other file and no other authority of the client would make a difference
to what is seen of it. It gives no empty bundle, and neither of the two that it asks ever fails. -/
theorem resolve_chooses (a : AuthorityLookup) (files : FileSystem) (c : Cluster)
    (requests : ∀ e, c.secret = .error e → e.isRequestFailure = true)
    (noNull : ∀ path, a.tls.file = some path → '\x00' ∉ path.toList) :
    let done := (a.resolve files).run c
    done.calls = [.readSecret a.secretName a.space] ∧ done.state = c ∧
    (∀ result, Chooses a.tls files c.secret result ↔ done.outcome = result) ∧
    (∀ bytes, Holds c.secret bytes → ∀ (tls : TlsAuthority) (others : FileSystem),
      ({ a with tls }.resolve others).run c = done) ∧
    (∀ bytes, done.outcome = .ok bytes → bytes ≠ []) ∧
    (∃ bytes, (a.readSecret.run c).outcome = .ok bytes) ∧
    ∃ bytes, ((a.readClient files).run c).outcome = .ok bytes := by
  intro done
  have outcome : done.outcome = bundle a.tls files c.secret := a.outcome_resolve files c
  refine ⟨a.calls_resolve files c, a.state_resolve files c, fun result => ?_, ?_, ?_, ?_, ?_⟩
  · rw [outcome]
    exact chooses_iff requests noNull
  · intro bytes held tls others
    have same := { a with tls }.run_resolve_of_held others held
    exact same.trans (a.run_resolve_of_held files held).symm
  · intro bytes found
    rw [outcome] at found
    exact bundle_ne_nil files found
  · rw [outcome_readSecret]
    exact secretBytes_of_requests requests
  · obtain ⟨records, run⟩ := a.run_readClient files c
    rw [run]
    cases own : clientBytes a.tls files with
    | ok bytes => exact ⟨bytes, rfl⟩
    | error e =>
        obtain ⟨-, path, named, null⟩ := (clientBytes_eq_error_iff files).1 own
        exact absurd null (noNull path named)

/-- The file is named and there is inline data beside it. -/
def strictLookup : AuthorityLookup :=
  ⟨some "root", some "policies", { file := some "gone.crt", data := some [0x41] }⟩

/-- The file that a cluster mounts for the account of a service. -/
def mountedFile : String := "/var/run/secrets/kubernetes.io/serviceaccount/ca.crt"

theorem plain_mountedFile : Files.Plain mountedFile := by
  constructor <;> decide

def mountedFiles : Files := Files.usual.put mountedFile [0x42]

def mountedLookup : AuthorityLookup :=
  { strictLookup with tls := { strictLookup.tls with file := some mountedFile } }

def spoiltCluster : Cluster := { secret := .ok (some [("rootCA.crt", "QUJ")]) }

/-- The content of the file is taken where it is mounted. Where it is not, the inline data is of no
use. -/
theorem resolve_chooses_mountedLookup :
    ((mountedLookup.resolve mountedFiles).run spoiltCluster).outcome = .ok [0x42] ∧
      ((mountedLookup.resolve Files.usual).run spoiltCluster).outcome = .error Failure.noCa ∧
      ((mountedLookup.resolve mountedFiles).run spoiltCluster).calls =
        [.readSecret (some "root") (some "policies")] := by
  have requests (e : Failure) (failed : spoiltCluster.secret = .error e) :
      e.isRequestFailure = true := by
    cases failed
  have noNull (path : String) (named : mountedLookup.tls.file = some path) :
      '\x00' ∉ path.toList := by
    cases named
    decide
  have without (bytes : Bytes) : ¬ Holds spoiltCluster.secret bytes := by
    rintro ⟨entries, text, told, found, -, decoded⟩
    cases told
    cases found
    cases decoded
  obtain ⟨calls, -, mounted, -⟩ :=
    resolve_chooses mountedLookup mountedFiles spoiltCluster requests noNull
  obtain ⟨-, -, missing, -⟩ :=
    resolve_chooses mountedLookup Files.usual spoiltCluster requests noNull
  have read := Files.usual.open?_put [0x42] plain_mountedFile
  have unread : Files.usual.open? mountedFile = .error .missing := rfl
  refine ⟨(mounted _).1 (.file without rfl (by decide) read (by decide)),
    (missing _).1 (.noFile without rfl (by decide) ?_), calls⟩
  intro content opened
  exact absurd (unread.symm.trans opened) (by simp)

end AdmissionHooks.AuthorityLookup
