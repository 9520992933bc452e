import AdmissionHooks.Proofs.Base64.Grammar
import AdmissionHooks.Proofs.Sources

/-!
# The text that a secret holds

A secret that can be read gives a bundle exactly if the text under the root key is grammatical. Any
other text counts as none and never stops the lookup; it leaves one record behind, a warning unless
the text is empty.
-/

namespace AdmissionHooks.AuthorityLookup

/-- What is logged of an entry that gives no bytes. -/
def entryRecords (a : AuthorityLookup) (data : SecretData) : List Log.Record :=
  match entry? data with
  | none => [a.withoutEntry]
  | some text =>
      match Base64.decode text with
      | .ok _ => []
      | .error e => [a.invalidEntry e]

theorem run_readSecret_of_read (a : AuthorityLookup) {c : Cluster} {data : SecretData}
    (read : c.secret = .ok data) :
    a.readSecret.run c =
      ⟨.ok (entryBytes data), c, [.readSecret a.secretName a.space], a.entryRecords data⟩ := by
  have answer : (Action.readSecret a.secretName a.space).run c =
      ⟨.ok data, c, [.readSecret a.secretName a.space], []⟩ := by
    rw [← read]
    rfl
  unfold readSecret
  rw [Action.run_attempt_bind, answer]
  simp only [decodeEntry, entryBytes, entryRecords]
  cases entry? data with
  | none => rfl
  | some text =>
      cases decoded : Base64.decode text with
      | ok bytes => simp [decoded, Action.join]
      | error e => simp [decoded, Action.join, Action.run_log_bind]

section

variable (a : AuthorityLookup) {entries : List (String × String)} {text : String}
  (stored : entries.lookup "rootCA.crt" = some text)

include stored

/-- A grammatical text is decoded without a word. -/
theorem entry_of_grammatical {symbols : List Char} {count : Nat}
    (grammatical : Base64.Grammatical text.toList symbols count) :
    (entryBytes (some entries)).length = count ∧
      Base64.byteBits (entryBytes (some entries)) =
        (Base64.symbolBits symbols).take (8 * count) ∧
      entryBytes (some entries) ≠ [] ∧ a.entryRecords (some entries) = [] := by
  have nonempty : text ≠ "" := by
    rintro rfl
    exact Base64.ne_nil_of_grammatical grammatical String.toList_empty
  have entry : entry? (some entries) = some text :=
    entry?_eq_some_iff.2 ⟨entries, rfl, stored, nonempty⟩
  obtain ⟨bytes, decoded, length, concatenated⟩ := Base64.decodeChars_of_grammatical grammatical
  have decoded : Base64.decode text = .ok bytes := decoded
  have same : entryBytes (some entries) = bytes := by simp [entryBytes, entry, decoded]
  rw [same]
  refine ⟨length, concatenated, Base64.ne_nil_of_decode nonempty decoded, ?_⟩
  simp [entryRecords, entry, decoded]

/-- Any other text is told of in one record, and gives no bytes. -/
theorem entry_of_ungrammatical
    (without : ∀ symbols count, ¬ Base64.Grammatical text.toList symbols count) :
    entryBytes (some entries) = [] ∧
      ∃ record, a.entryRecords (some entries) = [record] ∧ record.logger = logger ∧
        record.level = if text = "" then Log.Level.debug else Log.Level.warning := by
  by_cases empty : text = ""
  · subst empty
    have entry : entry? (some entries) = none := by
      simp [nonEmpty, entry?, rootCaSecretKey, stored]
    exact ⟨by simp [entryBytes, entry], a.withoutEntry, by simp [entryRecords, entry], rfl, rfl⟩
  have entry : entry? (some entries) = some text :=
    entry?_eq_some_iff.2 ⟨entries, rfl, stored, empty⟩
  cases decoded : Base64.decode text with
  | error e =>
      refine ⟨by simp [entryBytes, entry, decoded], a.invalidEntry e, ?_, rfl, (if_neg empty).symm⟩
      simp [entryRecords, entry, decoded]
  | ok bytes =>
      have written : text.toList ≠ [] := fun none => empty (String.toList_eq_nil_iff.1 none)
      obtain ⟨symbols, count, grammatical, -⟩ := (Base64.decodeChars_eq_ok_iff written).1 decoded
      exact absurd grammatical (without symbols count)

/-- Reading a secret that holds a text under the root key never fails. It gives bytes exactly if the
text is grammatical, those that its symbols stand for, without a word; for any other text it gives
none, after one record. -/
theorem readSecret_accepts (c : Cluster) (read : c.secret = .ok (some entries)) :
    let done := a.readSecret.run c
    ∃ bytes, done.outcome = .ok bytes ∧
      (bytes ≠ [] ↔ ∃ symbols count, Base64.Grammatical text.toList symbols count) ∧
      (∀ symbols count, Base64.Grammatical text.toList symbols count →
        bytes.length = count ∧
        Base64.byteBits bytes = (Base64.symbolBits symbols).take (8 * count) ∧
        done.records = []) ∧
      ((∀ symbols count, ¬ Base64.Grammatical text.toList symbols count) →
        bytes = [] ∧ ∃ record, done.records = [record] ∧
          record.logger = "kube_policy.webhooks.ca" ∧
          record.level = if text = "" then Log.Level.debug else Log.Level.warning) := by
  intro done
  have run : done = ⟨.ok (entryBytes (some entries)), c, [.readSecret a.secretName a.space],
      a.entryRecords (some entries)⟩ := a.run_readSecret_of_read read
  rw [run]
  refine ⟨_, rfl, ?_, ?_, fun without => a.entry_of_ungrammatical stored without⟩
  · constructor
    · intro given
      refine Classical.byContradiction fun without => given ?_
      refine (a.entry_of_ungrammatical stored fun symbols count grammatical => ?_).1
      exact without ⟨symbols, count, grammatical⟩
    · intro ⟨symbols, count, grammatical⟩
      exact (a.entry_of_grammatical stored grammatical).2.2.1
  · intro symbols count grammatical
    obtain ⟨length, concatenated, -, told⟩ := a.entry_of_grammatical stored grammatical
    exact ⟨length, concatenated, told⟩

end

def storing (text : String) : Cluster := { secret := .ok (some [("rootCA.crt", text)]) }

/-- The last two symbols leave four bits over that are not zero, or there is a line break at the end. -/
theorem readSecret_accepts_leftoverBits :
    let done (text : String) := strictLookup.readSecret.run (storing text)
    (∃ bytes, (done "QUJDRF==").outcome = .ok bytes ∧ bytes.length = 4 ∧
      Base64.byteBits bytes = (Base64.symbolBits ['Q', 'U', 'J', 'D', 'R', 'F']).take 32 ∧
      (done "QUJDRF==").records = []) ∧
    (done "QUJD\n").outcome = .ok [] ∧
      ∃ record, (done "QUJD\n").records = [record] ∧ record.level = Log.Level.warning := by
  intro done
  have stored (text : String) : [("rootCA.crt", text)].lookup "rootCA.crt" = some text := rfl
  have grammatical :
      Base64.Grammatical "QUJDRF==".toList ['Q', 'U', 'J', 'D', 'R', 'F'] (3 * 1 + 1) := by
    have text : "QUJDRF==".toList = ['Q', 'U', 'J', 'D', 'R', 'F'] ++ ['=', '='] := by decide
    rw [text]
    exact .two (by simp [Base64.alphabet]) rfl
  have without (symbols : List Char) (count : Nat) :
      ¬ Base64.Grammatical "QUJD\n".toList symbols count := by
    intro grammatical
    obtain ⟨bytes, decoded, -⟩ := Base64.decodeChars_of_grammatical grammatical
    have foreign : Base64.decodeChars "QUJD\n".toList = .error .foreignCharacter := rfl
    rw [foreign] at decoded
    cases decoded
  constructor
  · obtain ⟨bytes, outcome, -, accepted, -⟩ :=
      readSecret_accepts strictLookup (stored "QUJDRF==") (storing _) rfl
    obtain ⟨length, concatenated, told⟩ := accepted _ _ grammatical
    exact ⟨bytes, outcome, length, concatenated, told⟩
  · obtain ⟨bytes, outcome, -, -, refused⟩ :=
      readSecret_accepts strictLookup (stored "QUJD\n") (storing _) rfl
    obtain ⟨rfl, record, told, -, level⟩ := refused without
    exact ⟨outcome, record, told, level⟩

end AdmissionHooks.AuthorityLookup
