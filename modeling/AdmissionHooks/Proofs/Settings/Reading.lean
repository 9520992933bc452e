import AdmissionHooks.Settings.Basic

/-!
# Reading settings

What each setting takes, and what a load makes of the eight values that it finds. It succeeds when
every setting takes its value, and then each is what its value says. Otherwise it names the settings
that do not, in their order, each with the value that was found for it.
-/

namespace AdmissionHooks

/-! ## Trimming -/

namespace Text

/-- The one text is the other without the blanks at its two ends. -/
structure Trimmed (whole part : String) : Prop where
  around : ∃ before after, whole.toList = before ++ part.toList ++ after ∧
    (∀ c ∈ before, isBlank c = true) ∧ ∀ c ∈ after, isBlank c = true
  head : ∀ c, part.toList.head? = some c → isBlank c = false
  last : ∀ c, part.toList.getLast? = some c → isBlank c = false

theorem head?_trimLeft {cs : List Char} {c : Char} (h : (trimLeft cs).head? = some c) :
    isBlank c = false := by
  have first := List.head?_dropWhile_not isBlank cs
  rw [show cs.dropWhile isBlank = trimLeft cs from rfl, h] at first
  simpa using first

theorem trimRight_append (cs : List Char) :
    cs = trimRight cs ++ (cs.reverse.takeWhile isBlank).reverse := by
  have whole := congrArg List.reverse (List.takeWhile_append_dropWhile (p := isBlank) (l := cs.reverse))
  rw [List.reverse_append, List.reverse_reverse] at whole
  exact whole.symm

theorem trimmed_trim (s : String) : Trimmed s (trim s) := by
  have left := List.takeWhile_append_dropWhile (p := isBlank) (l := s.toList)
  have right := trimRight_append (trimLeft s.toList)
  have inside : (trim s).toList = trimRight (trimLeft s.toList) := String.toList_ofList
  refine ⟨⟨s.toList.takeWhile isBlank,
    ((trimLeft s.toList).reverse.takeWhile isBlank).reverse, ?_, ?_, ?_⟩, ?_, ?_⟩
  · rw [inside, List.append_assoc, ← right]
    exact left.symm
  · intro c member
    exact List.all_eq_true.1 List.all_takeWhile c member
  · intro c member
    exact List.all_eq_true.1 List.all_takeWhile c (List.mem_reverse.1 member)
  · intro c first
    rw [inside] at first
    have front : (trimLeft s.toList).head? = some c := by
      rw [right, List.head?_append, first]
      rfl
    exact head?_trimLeft front
  · intro c last
    rw [inside, trimRight, List.getLast?_reverse] at last
    have front : (trimLeft (trimLeft s.toList).reverse).head? = some c := last
    exact head?_trimLeft front

theorem trim_eq_empty_iff (s : String) :
    trim s = "" ↔ ∀ c ∈ s.toList, isBlank c = true := by
  rw [← trimLeft_eq_nil_iff, ← String.toList_eq_nil_iff]
  have inside : (trim s).toList = trimRight (trimLeft s.toList) := String.toList_ofList
  rw [inside]
  constructor
  · intro empty
    -- what is trimmed on the right is blank, and the first character is not
    have right := trimRight_append (trimLeft s.toList)
    rw [empty, List.nil_append] at right
    cases first : (trimLeft s.toList).head? with
    | none => exact List.head?_eq_none_iff.1 first
    | some c =>
        have member : c ∈ (trimLeft s.toList).reverse.takeWhile isBlank := by
          rw [← List.mem_reverse, ← right]
          exact List.mem_of_mem_head? first
        have blank := List.all_eq_true.1 List.all_takeWhile c member
        rw [head?_trimLeft first] at blank
        cases blank
  · intro empty
    rw [empty]
    rfl

end Text

/-! ## Values -/

namespace Settings

def flagWords : Bool → List String
  | false => falseWords
  | true => trueWords

/-- What counts as a flag: a flag itself, a zero or a one, or a word for it in any case. -/
inductive ReadsFlag : Json → Bool → Prop where
  | flag (b : Bool) : ReadsFlag (.bool b) b
  | zero : ReadsFlag (.int 0) false
  | one : ReadsFlag (.int 1) true
  | word {text : String} {b : Bool}
      (word : String.ofList (text.toList.map Text.smallAscii) ∈ flagWords b) :
      ReadsFlag (.str text) b

theorem flagWords_disjoint {word : String} (h : word ∈ flagWords true) :
    word ∉ flagWords false := by
  have apart : ∀ word ∈ trueWords, word ∉ falseWords := by decide
  exact apart word h

theorem readFlag_eq_ok_iff (v : Json) (b : Bool) : readFlag v = .ok b ↔ ReadsFlag v b := by
  constructor
  · intro read
    unfold readFlag at read
    split at read
    next flag =>
      cases read
      exact .flag _
    next text =>
      dsimp only at read
      split at read
      next word =>
        cases read
        exact .word (List.contains_iff_mem.1 word)
      next =>
        split at read
        next word =>
          cases read
          exact .word (List.contains_iff_mem.1 word)
        next => cases read
    next n =>
      split at read
      next zero =>
        cases read
        subst zero
        exact .zero
      next =>
        split at read
        next one =>
          cases read
          subst one
          exact .one
        next => split at read <;> cases read
    next => cases read
  · intro reads
    cases reads with
    | flag => rfl
    | zero => rfl
    | one => rfl
    | @word text b word =>
        cases b with
        | false => simp [readFlag, show _ ∈ falseWords from word]
        | true =>
            have other : _ ∉ falseWords := flagWords_disjoint word
            simp [readFlag, show _ ∈ trueWords from word, other]

theorem readText_eq_ok_iff (v : Json) (text : String) : readText v = .ok text ↔ v = .str text := by
  cases v <;> simp [readText]

end Settings

namespace Setting

open Settings (ReadsFlag)

/-- A flag takes what counts as one, and any other setting takes texts. -/
def Accepts (s : Setting) (v : Json) : Prop :=
  if s.isFlag then ∃ b, ReadsFlag v b else ∃ text, v = .str text

theorem refusal?_eq_none_iff (s : Setting) (v : Json) :
    Settings.refusal? s v = none ↔ s.Accepts v := by
  unfold Settings.refusal? Accepts
  by_cases flag : s.isFlag = true
  · simp only [flag, if_true, ← Settings.readFlag_eq_ok_iff]
    cases Settings.readFlag v <;> simp
  · simp only [flag, Bool.false_eq_true, if_false, ← Settings.readText_eq_ok_iff]
    cases Settings.readText v <;> simp

instance (s : Setting) (v : Json) : Decidable (s.Accepts v) :=
  decidable_of_iff _ (refusal?_eq_none_iff s v)

theorem mem_all (s : Setting) : s ∈ all := by
  cases s <;> decide

end Setting

/-! ## Loading -/

namespace Settings

/-- What a setting is when this value was found for it. The address loses the blanks around it. -/
def Holds (settings : Settings) (v : Json) : Setting → Prop
  | .space => v = .str settings.space
  | .deploymentName => v = .str settings.deploymentName
  | .serviceName => v = .str settings.serviceName
  | .address => ∃ text, v = .str text ∧ Text.Trimmed text settings.address
  | .kubeconfig => v = .str settings.kubeconfig
  | .logLevel => v = .str settings.logLevel
  | .jsonLogs => ReadsFlag v settings.jsonLogs
  | .correlationIds => ReadsFlag v settings.correlationIds

theorem eq_str_of_accepts {s : Setting} {v : Json} (text : s.isFlag = false) (accepts : s.Accepts v) :
    v = .str (textOf v) := by
  unfold Setting.Accepts at accepts
  rw [text] at accepts
  obtain ⟨text, rfl⟩ := accepts
  rfl

theorem readsFlag_of_accepts {s : Setting} {v : Json} (flag : s.isFlag = true)
    (accepts : s.Accepts v) : ReadsFlag v (flagOf v) := by
  unfold Setting.Accepts at accepts
  rw [flag] at accepts
  obtain ⟨b, reads⟩ := accepts
  have read := (readFlag_eq_ok_iff v b).2 reads
  rw [show flagOf v = b by rw [flagOf, read]; rfl]
  exact reads

theorem holds_ofValues {value : Setting → Json} (accepted : ∀ s : Setting, s.Accepts (value s))
    (s : Setting) :
    (ofValues value).Holds (value s) s := by
  cases s with
  | address => exact ⟨_, eq_str_of_accepts rfl (accepted .address), Text.trimmed_trim _⟩
  | jsonLogs => exact readsFlag_of_accepts rfl (accepted .jsonLogs)
  | correlationIds => exact readsFlag_of_accepts rfl (accepted .correlationIds)
  | _ => exact eq_str_of_accepts rfl (accepted _)

variable {sources : SettingSources}

theorem refused_eq_nil_iff :
    refused sources = [] ↔ ∀ s : Setting, s.Accepts (rawValue sources s) := by
  unfold refused
  rw [List.filterMap_eq_nil_iff]
  constructor
  · intro takes s
    exact (s.refusal?_eq_none_iff _).1 (Option.map_eq_none_iff.1 (takes s s.mem_all))
  · intro accepted s _
    exact Option.map_eq_none_iff.2 ((s.refusal?_eq_none_iff _).2 (accepted s))

/-- The settings that were refused, by their variables and with their values. -/
theorem map_refused : (refused sources).map (fun r => (r.setting.variableName, r.value)) =
    (Setting.all.filter fun s => ¬ s.Accepts (rawValue sources s)).map fun s =>
      (s.variableName, rawValue sources s) := by
  unfold refused
  induction Setting.all with
  | nil => rfl
  | cons s rest ih =>
      have refusal := s.refusal?_eq_none_iff (rawValue sources s)
      cases found : refusal? s (rawValue sources s) with
      | none => simp [found, refusal.1 found, ih]
      | some e =>
          have refused : ¬ s.Accepts (rawValue sources s) := by
            rw [← refusal, found]
            simp
          simp [found, refused, ih]

theorem load_eq_ok_iff {settings : Settings} :
    load sources = .ok settings ↔
      (∀ s : Setting, s.Accepts (rawValue sources s)) ∧ settings = ofValues (rawValue sources) := by
  rw [← refused_eq_nil_iff]
  unfold load
  cases refused sources with
  | nil => simp only [true_and, Except.ok.injEq, eq_comm]
  | cons r rest => simp

theorem load_eq_error_iff {details : List Refused} :
    load sources = .error details ↔
      (∃ s : Setting, ¬ s.Accepts (rawValue sources s)) ∧ details = refused sources := by
  rw [← Classical.not_forall, ← refused_eq_nil_iff]
  unfold load
  cases refused sources with
  | nil => simp
  | cons r rest => simp [eq_comm]

end Settings

end AdmissionHooks
