import AdmissionHooks.CertificateAuthority
import AdmissionHooks.Proofs.Runs

/-!
# The bundle that a lookup finds

The lookup as a plain choice: the bytes of the secret if there are any, else the client's own. It
reads the secret once, changes nothing, and depends on the cluster through the answer about the
secret alone.
-/

namespace AdmissionHooks.AuthorityLookup

/-- The bytes that an entry holds, none when it is missing or cannot be decoded. -/
def entryBytes (data : SecretData) : Bytes :=
  match entry? data with
  | none => []
  | some text =>
      match Base64.decode text with
      | .ok bytes => bytes
      | .error _ => []

/-- What reading the secret comes to. -/
def secretBytes : Except Failure SecretData → Except Failure Bytes
  | .ok data => .ok (entryBytes data)
  | .error e => if e.isRequestFailure then .ok [] else .error e

/-- What reading a file comes to: nothing when it cannot be opened, but a failure when its path
cannot be asked for. -/
def fileBytes (files : FileSystem) (path : String) : Except Failure Bytes :=
  if path.toList.contains '\x00' then .error nullInPath
  else
    match files.open? path with
    | .ok content => .ok content
    | .error _ => .ok []

/-- What the client's own authority comes to. -/
def clientBytes (tls : TlsAuthority) (files : FileSystem) : Except Failure Bytes :=
  match nonEmpty tls.file with
  | none => .ok (tls.data.getD [])
  | some path => fileBytes files path

def orNone (bytes : Bytes) : Except Failure Bytes :=
  if bytes.isEmpty then .error Failure.noCa else .ok bytes

/-- The bundle for an answer about the secret. -/
def bundle (tls : TlsAuthority) (files : FileSystem) (answer : Except Failure SecretData) :
    Except Failure Bytes :=
  match secretBytes answer with
  | .error e => .error e
  | .ok [] => (clientBytes tls files).bind orNone
  | .ok found => .ok found

variable (a : AuthorityLookup) (files : FileSystem) (c : Cluster)

theorem run_decodeEntry (data : SecretData) :
    ∃ rs, (a.decodeEntry data).run c = ⟨.ok (entryBytes data), c, [], rs⟩ := by
  unfold decodeEntry entryBytes
  cases entry? data with
  | none => exact ⟨_, rfl⟩
  | some text =>
      cases h : Base64.decode text with
      | ok bytes => exact ⟨[], by simp [h]⟩
      | error e => exact ⟨[a.invalidEntry e], by simp only [h]; rfl⟩

theorem run_readSecret :
    ∃ rs, a.readSecret.run c =
      ⟨secretBytes c.secret, c, [.readSecret a.secretName a.space], rs⟩ := by
  have answer : (Action.readSecret a.secretName a.space).run c =
      ⟨c.secret, c, [.readSecret a.secretName a.space], []⟩ := rfl
  unfold readSecret
  rw [Action.run_attempt_bind, answer]
  cases hs : c.secret with
  | ok data =>
      obtain ⟨rs, h⟩ := a.run_decodeEntry c data
      exact ⟨rs, by simp [h, secretBytes, Action.join]⟩
  | error e =>
      by_cases request : e.isRequestFailure = true
      · exact ⟨[a.failedRead e], by simp [request, secretBytes, Action.run_log_bind, Action.join]⟩
      · exact ⟨[], by simp [request, secretBytes, Action.join]⟩

@[simp] theorem outcome_readSecret : (a.readSecret.run c).outcome = secretBytes c.secret := by
  obtain ⟨rs, h⟩ := a.run_readSecret c
  rw [h]

theorem run_readFile (path : String) :
    ∃ rs, (readFile files path).run c = ⟨fileBytes files path, c, [], rs⟩ := by
  unfold readFile fileBytes
  by_cases null : path.toList.contains '\x00' = true
  · exact ⟨[], by rw [if_pos null, if_pos null]; rfl⟩
  · rw [if_neg null, if_neg null]
    cases h : files.open? path with
    | ok content => exact ⟨[], by simp only; rfl⟩
    | error e => exact ⟨[unreadableFile path e], by simp only; rfl⟩

theorem run_readClient :
    ∃ rs, (a.readClient files).run c = ⟨clientBytes a.tls files, c, [], rs⟩ := by
  unfold readClient clientBytes
  cases nonEmpty a.tls.file with
  | none => exact ⟨[], rfl⟩
  | some path => exact run_readFile files c path

/-- The last step of a lookup: the client's own bytes, unless there are none. -/
theorem run_useClient :
    ∃ rs, (do
        let own ← a.readClient files
        if !own.isEmpty then
          Action.log fromClient
          return own
        Action.fail Failure.noCa : Action Cluster Bytes).run c =
      ⟨(clientBytes a.tls files).bind orNone, c, [], rs⟩ := by
  obtain ⟨rs, own⟩ := a.run_readClient files c
  cases h : clientBytes a.tls files with
  | error e =>
      refine ⟨rs, ?_⟩
      rw [Action.run_bind_of_error (e := e) (by rw [own, h]), own]
      rfl
  | ok bytes =>
      rw [Action.run_bind_of_ok (a := bytes) (by rw [own, h]), own]
      cases bytes with
      | nil => exact ⟨rs ++ [], rfl⟩
      | cons b bs => exact ⟨rs ++ [fromClient], rfl⟩

/-- A lookup reads the secret once, leaves the cluster as it was and ends with the bundle. -/
theorem run_resolve :
    ∃ rs, (a.resolve files).run c =
      ⟨bundle a.tls files c.secret, c, [.readSecret a.secretName a.space], rs⟩ := by
  obtain ⟨rs, found⟩ := a.run_readSecret c
  unfold resolve bundle
  cases h : secretBytes c.secret with
  | error e =>
      refine ⟨rs, ?_⟩
      rw [Action.run_bind_of_error (e := e) (by rw [found, h]), found]
  | ok bytes =>
      rw [Action.run_bind_of_ok (a := bytes) (by rw [found, h]), found]
      cases bytes with
      | nil =>
          obtain ⟨rs', own⟩ := a.run_useClient files c
          let first : Run Cluster Bytes :=
            ⟨.ok [], c, [.readSecret a.secretName a.space], rs⟩
          exact ⟨rs ++ rs', congrArg (Action.join first) own⟩
      | cons b bs => exact ⟨rs ++ [a.fromSecret], rfl⟩

@[simp] theorem outcome_resolve :
    ((a.resolve files).run c).outcome = bundle a.tls files c.secret := by
  obtain ⟨rs, h⟩ := a.run_resolve files c
  rw [h]

@[simp] theorem state_resolve : ((a.resolve files).run c).state = c := by
  obtain ⟨rs, h⟩ := a.run_resolve files c
  rw [h]

@[simp] theorem calls_resolve :
    ((a.resolve files).run c).calls = [.readSecret a.secretName a.space] := by
  obtain ⟨rs, h⟩ := a.run_resolve files c
  rw [h]

/-! ## What a bundle can be -/

theorem orNone_eq_ok_iff {bytes found : Bytes} :
    orNone bytes = .ok found ↔ bytes = found ∧ found ≠ [] := by
  cases bytes with
  | nil => simp [orNone, eq_comm]
  | cons b bs =>
      simp only [orNone, List.isEmpty_cons, Bool.false_eq_true, if_false, Except.ok.injEq]
      constructor
      · rintro rfl
        exact ⟨rfl, by simp⟩
      · exact And.left

theorem bundle_ne_nil {tls : TlsAuthority} {answer : Except Failure SecretData} {bytes : Bytes}
    (h : bundle tls files answer = .ok bytes) : bytes ≠ [] := by
  unfold bundle at h
  split at h
  · cases h
  · obtain ⟨found, -, kept⟩ := exists_of_bind_eq_ok h
    exact (orNone_eq_ok_iff.1 kept).2
  · rename_i found empty _
    cases h
    exact empty

theorem nonEmpty_some {text : String} (h : text ≠ "") : nonEmpty (some text) = some text := by
  simp [nonEmpty, Option.filter, h]

theorem ne_empty_of_ofFile {file : Option String} {path : String}
    (h : (TlsAuthority.ofFile file).file = some path) : path ≠ "" := by
  have kept := (Option.filter_eq_some_iff.1 h).2
  rintro rfl
  cases kept

theorem fileBytes_eq_error_iff {path : String} {e : Failure} :
    fileBytes files path = .error e ↔ e = nullInPath ∧ '\x00' ∈ path.toList := by
  unfold fileBytes
  by_cases null : '\x00' ∈ path.toList
  · rw [if_pos (by simpa using null)]
    simp [null, eq_comm]
  · rw [if_neg (by simpa using null)]
    cases files.open? path <;> simp [null]

/-- The client's own authority fails only on a path with a null character. -/
theorem clientBytes_eq_error_iff {tls : TlsAuthority} {e : Failure} :
    clientBytes tls files = .error e ↔
      e = nullInPath ∧ ∃ path, tls.file = some path ∧ '\x00' ∈ path.toList := by
  unfold clientBytes
  cases tls.file with
  | none => simp [nonEmpty]
  | some path =>
      by_cases empty : path = ""
      · subst empty
        simp [show nonEmpty (some "") = none from rfl]
      · rw [nonEmpty_some empty]
        simp [fileBytes_eq_error_iff]

theorem bundle_of_null {tls : TlsAuthority} {answer : Except Failure SecretData} {path : String}
    (nothing : secretBytes answer = .ok []) (named : tls.file = some path)
    (null : '\x00' ∈ path.toList) : bundle tls files answer = .error nullInPath := by
  have own := (clientBytes_eq_error_iff files).2 ⟨rfl, path, named, null⟩
  simp [bundle, nothing, own, Except.bind]

theorem bundle_of_unreadable {tls : TlsAuthority} {answer : Except Failure SecretData}
    {path : String} {e : FileError} (nothing : secretBytes answer = .ok [])
    (named : tls.file = some path) (nonempty : path ≠ "") (noNull : '\x00' ∉ path.toList)
    (unreadable : files.open? path = .error e) :
    bundle tls files answer = .error Failure.noCa := by
  have own : clientBytes tls files = .ok [] := by
    simp [clientBytes, named, nonEmpty_some nonempty, fileBytes, noNull, unreadable]
  simp [bundle, nothing, own, Except.bind, orNone]

/-- With request failures alone, a lookup finds a bundle, or finds none, or is stopped by a path
with a null character when the secret gives nothing. -/
theorem bundle_cases (tls : TlsAuthority) {answer : Except Failure SecretData}
    (requests : ∀ e, answer = .error e → e.isRequestFailure = true) :
    (∃ bytes, bytes ≠ [] ∧ bundle tls files answer = .ok bytes) ∨
    bundle tls files answer = .error Failure.noCa ∨
    (bundle tls files answer = .error nullInPath ∧ secretBytes answer = .ok [] ∧
      ∃ path, tls.file = some path ∧ '\x00' ∈ path.toList) := by
  obtain ⟨found, hs⟩ : ∃ found, secretBytes answer = .ok found := by
    cases answer with
    | ok data => exact ⟨_, rfl⟩
    | error e => exact ⟨[], by simp [secretBytes, requests e rfl]⟩
  cases found with
  | cons b bs => exact .inl ⟨b :: bs, by simp, by simp [bundle, hs]⟩
  | nil =>
      cases own : clientBytes tls files with
      | error e =>
          obtain ⟨rfl, path⟩ := (clientBytes_eq_error_iff files).1 own
          exact .inr (.inr ⟨by simp [bundle, hs, own, Except.bind], hs, path⟩)
      | ok bytes =>
          cases bytes with
          | nil => exact .inr (.inl (by simp [bundle, hs, own, Except.bind, orNone]))
          | cons b bs =>
              exact .inl ⟨b :: bs, by simp, by simp [bundle, hs, own, Except.bind, orNone]⟩

end AdmissionHooks.AuthorityLookup
