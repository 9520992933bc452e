import AdmissionHooks.Daemon

/-!
# Which texts choose a level

A text that spells no level chooses the information level, but two words are refused. When the log
is set up with such a word, the handler has been replaced already while the levels stay as they
were, and the process ends there: its loop is never started.
-/

namespace AdmissionHooks

namespace Text

def Large (c : Char) : Prop := 65 ≤ c.toNat ∧ c.toNat ≤ 90

instance (c : Char) : Decidable (Large c) := inferInstanceAs (Decidable (_ ∧ _))

theorem large_of_small {n : Nat} (small : 97 ≤ n ∧ n ≤ 122) : Large (Char.ofNat (n - 32)) := by
  have letters : ∀ n < 123, 97 ≤ n → Large (Char.ofNat (n - 32)) := by decide
  exact letters n (by omega) small.1

/-- A character is its own capital, or its capital form is of large letters. -/
theorem capital_cases (c : Char) :
    capital c = [c] ∨ (capital c).all (fun d => decide (Large d)) = true := by
  have choice {p : Prop} [Decidable p] {letters others : List Char}
      (large : p → letters.all (fun d => decide (Large d)) = true)
      (rest : others = [c] ∨ others.all (fun d => decide (Large d)) = true) :
      (if p then letters else others) = [c] ∨
        (if p then letters else others).all (fun d => decide (Large d)) = true := by
    by_cases chosen : p
    · rw [if_pos chosen]
      exact .inr (large chosen)
    · rw [if_neg chosen]
      exact rest
  unfold capital
  apply choice
  · intro small
    rw [List.all_cons, decide_eq_true (large_of_small small)]
    rfl
  · iterate 9 apply choice (fun _ => by decide)
    exact .inl rfl

theorem capital_of_large {c : Char} (large : Large c) : capital c = [c] := by
  have letters : ∀ n < 91, 65 ≤ n → capital (Char.ofNat n) = [Char.ofNat n] := by decide
  have own := letters c.toNat (Nat.lt_succ_of_le large.2) large.1
  rwa [Char.ofNat_toNat] at own

theorem capital_of_mem_capital {c d : Char} (shown : d ∈ capital c) : capital d = [d] := by
  rcases capital_cases c with kept | large
  · rw [kept, List.mem_singleton] at shown
    rw [shown, kept]
  · exact capital_of_large (of_decide_eq_true (List.all_eq_true.1 large d shown))

theorem capitals_capitals (s : String) : capitals (capitals s) = capitals s := by
  have kept : ∀ d ∈ s.toList.flatMap capital, capital d = [d] := by
    intro d shown
    obtain ⟨c, -, shown⟩ := List.mem_flatMap.1 shown
    exact capital_of_mem_capital shown
  unfold capitals
  rw [String.toList_ofList, List.flatMap_def, List.map_congr_left kept, ← List.flatMap_def,
    List.flatMap_singleton']

end Text

namespace Log

namespace Level

/-- The words that stand in the list of the levels and name none. -/
def Barred (text : String) : Prop :=
  Text.capitals text = "BASIC_FORMAT" ∨ Text.capitals text = "_STYLES"

instance (text : String) : Decidable (Barred text) := inferInstanceAs (Decidable (_ ∨ _))

/-- What is said of such a word: it stands for a text that is no level, or for no text at all. -/
def refusal (text : String) : Failure :=
  if Text.capitals text = "BASIC_FORMAT" then
    .raised "ValueError" ("Unknown level: " ++ Text.quote basicFormat)
  else .raised "TypeError" ("Level not an integer or a valid string: " ++ styles)

/-- The level that a text spells, or else the information level. -/
def chosen (text : String) : Level := (named.lookup (Text.capitals text)).getD info

variable {text : String}

theorem ofText_of_barred (barred : Barred text) : ofText text = .error (refusal text) := by
  have format : named.lookup "BASIC_FORMAT" = none := by decide
  have table : named.lookup "_STYLES" = none := by decide
  rcases barred with word | word
  · simp [ofText, refusal, word, format]
  · simp [ofText, refusal, word, table]

theorem ofText_of_not_barred (proper : ¬ Barred text) : ofText text = .ok (chosen text) := by
  rw [Barred, not_or] at proper
  unfold ofText chosen
  cases spelt : named.lookup (Text.capitals text) with
  | some n => simp [spelt]
  | none => simp [spelt, proper.1, proper.2]

theorem ofText_capitals (text : String) : ofText (Text.capitals text) = ofText text := by
  unfold ofText
  rw [Text.capitals_capitals]

end Level

namespace Setup

variable {given : List (String × Json)}

theorem configureBy_of_accepted (s : Setup)
    (accepted : parameters.check (given.map (·.1)) = .ok ()) :
    s.configureBy given =
      s.configure (Level.ofValue ((given.lookup "log_level").getD (.str "INFO")))
        (flag given "enable_json_formatting") (flag given "correlation_id_enabled") := by
  rw [configureBy, accepted]

end Setup

namespace Journal

variable (j : Journal) (now : Instant)

theorem setup_handle (r : Record) (h : Handler) : (j.handle now r h).2.setup = j.setup := by
  unfold handle
  dsimp only
  split <;> rfl

theorem setup_handleAll (r : Record) (handlers : List Handler) :
    (j.handleAll now r handlers).2.setup = j.setup := by
  induction handlers generalizing j with
  | nil => rfl
  | cons h handlers ih =>
      unfold handleAll
      dsimp only
      split
      · exact j.setup_handle now r h
      · rw [ih, setup_handle]

theorem setup_write (r : Record) : (j.write now r).2.setup = j.setup := by
  unfold write
  split
  · split
    · unfold writeBare
      split <;> rfl
    · exact j.setup_handleAll now r j.setup.handlers
  · rfl

theorem setup_writeAll (rs : List Record) : (j.writeAll now rs).setup = j.setup := by
  unfold writeAll
  induction rs generalizing j with
  | nil => rfl
  | cons r rs ih => rw [List.foldl_cons, ih, setup_write]

end Journal

end Log

open Log

namespace Daemon

variable (p : Daemon) (ended : Option Failure)

/-- The text of the settings is turned to capitals once more than is needed. -/
theorem configureLogging_of_ofText {level : Except Failure Level}
    (read : Level.ofText p.settings.logLevel = level) :
    p.configureLogging.1.outcome = (p.journal.setup.configure level p.settings.jsonLogs
        p.settings.correlationIds).1 ∧
      p.configureLogging.2.journal.setup = (p.journal.setup.configure level p.settings.jsonLogs
        p.settings.correlationIds).2 := by
  rw [configureLogging, Level.ofText_capitals, read]
  exact ⟨rfl, rfl⟩

theorem serve_of_error {e : Failure} (failed : p.configureLogging.1.outcome = .error e) :
    p.serve ended = (⟨.error e, [], []⟩, p.configureLogging.2) := by
  delta serve
  dsimp only
  rw [failed]

theorem serve_of_ok (configured : p.configureLogging.1.outcome = .ok ()) :
    (p.serve ended).1.outcome = (Controller.exitOf ended).1.map (fun exit => (exit, [{}])) ∧
      (p.serve ended).2 = (p.configureLogging.2.finish ended).2 := by
  delta serve
  dsimp only
  rw [configured]
  exact ⟨rfl, rfl⟩

end Daemon

open Log.Level

/-- A text of the level is accepted unless it is one of the barred words. An accepted text chooses
the level that it spells in any case, or else the information level. At a barred word the setup of
the log fails, as the start of the process does, when the handler has been replaced already; the
levels stay as they were. -/
theorem level_chosen_or_barred (text : String) :
    (∀ (s : Setup) (given : List (String × Json)),
      Setup.parameters.check (given.map (·.1)) = .ok () →
      (given.lookup "log_level").getD (.str "INFO") = .str text →
      (¬ Barred text → (s.configureBy given).1 = .ok () ∧
        (s.configureBy given).2.level = chosen text) ∧
      (Barred text → (s.configureBy given).1 = .error (refusal text) ∧
        (s.configureBy given).2.level = s.level ∧
        (s.configureBy given).2.foreignLevels = s.foreignLevels ∧
        (s.configureBy given).2.handlers =
          [Handler.ofFlags (Setup.flag given "enable_json_formatting")
            (Setup.flag given "correlation_id_enabled")])) ∧
    ∀ (p : Daemon) (ended : Option Failure), p.settings.logLevel = text →
      (¬ Barred text → p.configureLogging.1.outcome = .ok () ∧
        p.configureLogging.2.journal.setup.level = chosen text ∧
        (p.serve ended).1.outcome = (Controller.exitOf ended).1.map (fun exit => (exit, [{}])) ∧
        (p.serve ended).2.journal.setup.level = chosen text) ∧
      (Barred text → p.configureLogging.1.outcome = .error (refusal text) ∧
        (p.serve ended).1.outcome = .error (refusal text) ∧
        (p.serve ended).2.journal.setup.level = p.journal.setup.level ∧
        (p.serve ended).2.journal.setup.handlers =
          [Handler.ofFlags p.settings.jsonLogs p.settings.correlationIds]) := by
  constructor
  · intro s given accepted asked
    rw [s.configureBy_of_accepted accepted, asked]
    constructor
    · intro proper
      rw [ofValue, ofText_of_not_barred proper]
      exact ⟨rfl, rfl⟩
    · intro barred
      rw [ofValue, ofText_of_barred barred]
      exact ⟨rfl, rfl, rfl, Setup.handlers_install s _⟩
  · intro p ended asked
    subst asked
    constructor
    · intro proper
      obtain ⟨configured, setup⟩ := p.configureLogging_of_ofText (ofText_of_not_barred proper)
      obtain ⟨outcome, after⟩ := p.serve_of_ok ended configured
      have root : p.configureLogging.2.journal.setup.level = chosen p.settings.logLevel := by
        rw [setup]
        rfl
      have kept : (p.serve ended).2.journal.setup = p.configureLogging.2.journal.setup := by
        rw [after]
        exact Journal.setup_writeAll _ _ _
      exact ⟨configured, root, outcome, by rw [kept, root]⟩
    · intro barred
      obtain ⟨failed, setup⟩ := p.configureLogging_of_ofText (ofText_of_barred barred)
      rw [p.serve_of_error ended failed, setup]
      exact ⟨failed, rfl, rfl, Setup.handlers_install _ _⟩

/-- A process whose level is a barred word, spelt with the long letter s. -/
def barredDaemon : Daemon where
  settings := ⟨"kube-policy", "deployment", "service", "", "", "ba\u017fic_format", false, true⟩
  sources := ⟨.ok { host := "cluster" }, .ok { host := "cluster" }⟩
  journal := { setup := { handlers := [.silent, .silent] } }
  now := ⟨2024, 1, 2, 3, 4, 5, 0⟩

theorem level_chosen_or_barred_barredDaemon :
    Barred "ba\u017fic_format" ∧
      (barredDaemon.serve none).1.outcome = .error (refusal "ba\u017fic_format") ∧
      (barredDaemon.serve none).2.journal.setup.level = debug ∧
      (barredDaemon.serve none).2.journal.setup.handlers = [.writer (.plain true) true] ∧
      ¬ Barred "verbose" ∧
      (Setup.configureBy {} [("log_level", .str "verbose")]).1 = .ok () ∧
      (Setup.configureBy {} [("log_level", .str "verbose")]).2.level = info := by
  have barred : Barred "ba\u017fic_format" := by decide
  have proper : ¬ Barred "verbose" := by decide
  obtain ⟨-, process⟩ := level_chosen_or_barred "ba\u017fic_format"
  obtain ⟨-, failed⟩ := process barredDaemon none rfl
  obtain ⟨-, outcome, level, handlers⟩ := failed barred
  obtain ⟨setup, -⟩ := level_chosen_or_barred "verbose"
  obtain ⟨accepted, -⟩ := setup {} [("log_level", .str "verbose")] rfl rfl
  obtain ⟨configured, root⟩ := accepted proper
  exact ⟨barred, outcome, level, handlers, proper, configured, root⟩

end AdmissionHooks
