import AdmissionHooks.Proofs.Settings.Selection

/-!
# The resolution of settings

Each setting has one value that counts, and a load is told by these eight values alone. Entries of
other names, and entries that a higher source or another entry puts aside, come into it only where a
value of the file refers to them.
-/

namespace AdmissionHooks

/-! ## References -/

namespace Reference

open Variables (final? ofList)

/-- What a reference stands for, told from the entries before it and from those of the environment. -/
def valueAt? (environment : List (String × String)) (earlier : List (String × Option String))
    (name : String) : Option String :=
  match final? earlier name with
  | some value => some (value.getD "")
  | none => final? environment name

def resolvedEntry (environment : List (String × String)) (earlier : List (String × Option String))
    (e : String × Option String) : String × Option String :=
  (e.1, e.2.map fun text => String.ofList (expand (valueAt? environment earlier) text.toList))

/-- Entries behind others, with the references in each value resolved by the entries before it. -/
def resolvedBehind (environment : List (String × String)) (earlier : List (String × Option String)) :
    List (String × Option String) → List (String × Option String)
  | [] => earlier
  | e :: rest =>
      resolvedBehind environment (earlier ++ [resolvedEntry environment earlier e]) rest

theorem resolvedBehind_cons (environment : List (String × String))
    (earlier : List (String × Option String)) (e : String × Option String)
    (rest : List (String × Option String)) :
    resolvedBehind environment earlier (e :: rest) =
      resolvedBehind environment (earlier ++ [resolvedEntry environment earlier e]) rest := rfl

/-- The value of the entry refers to the name. -/
def RefersTo (e : String × Option String) (name : String) : Prop :=
  ∃ text, e.2 = some text ∧ name ∈ names text.toList

theorem value?_ofList (environment : List (String × String))
    (earlier : List (String × Option String)) :
    value? (ofList environment) (ofList earlier) = valueAt? environment earlier := by
  funext name
  unfold value? valueAt?
  rewrite [Variables.lookup_ofList, Variables.lookup_ofList]
  rfl

/-- Resolving the variables of a file is resolving its entries. -/
theorem resolveAll_ofList (environment : List (String × String))
    (entries : List (String × Option String)) :
    resolveAll (ofList environment) entries = ofList (resolvedBehind environment [] entries) := by
  have step (earlier : List (String × Option String)) :
      entries.foldl (resolve (ofList environment)) (ofList earlier) =
        ofList (resolvedBehind environment earlier entries) := by
    induction entries generalizing earlier with
    | nil => rfl
    | cons e rest ih =>
        have one : resolve (ofList environment) (ofList earlier) e =
            ofList (earlier ++ [resolvedEntry environment earlier e]) := by
          unfold resolve
          rw [value?_ofList, Variables.ofList_append_singleton]
          rfl
        rw [List.foldl_cons, one, ih]
        rfl
  exact step []

/-- Only the values of the names that a text refers to come into its expansion. -/
theorem expand_congr {one other : String → Option String} {cs : List Char}
    (same : ∀ name ∈ names cs, one name = other name) : expand one cs = expand other cs := by
  unfold expand
  rw [List.flatMap_def, List.flatMap_def]
  refine congrArg List.flatten (List.map_congr_left fun part member => ?_)
  cases part with
  | text c => rfl
  | reference name default =>
      have referred : String.ofList name ∈ names cs :=
        List.mem_filterMap.2 ⟨_, member, rfl⟩
      simp only [Part.expand, same _ referred]

theorem resolvedEntry_congr {environment environment' : List (String × String)}
    {earlier earlier' : List (String × Option String)} {e : String × Option String}
    (same : ∀ name, RefersTo e name →
      valueAt? environment earlier name = valueAt? environment' earlier' name) :
    resolvedEntry environment earlier e = resolvedEntry environment' earlier' e := by
  obtain ⟨own, value⟩ := e
  unfold resolvedEntry
  cases value with
  | none => rfl
  | some text =>
      have expanded := expand_congr fun name referred => same name ⟨text, rfl, referred⟩
      simp only [Option.map_some, expanded]

/-- Entries that count resolve by themselves if they refer only to names that count, which mean the
same in the two environments. -/
theorem filter_resolvedBehind {p : String → Bool} (environment environment' : List (String × String))
    {entries : List (String × Option String)} (earlier : List (String × Option String))
    (closed : ∀ e ∈ entries, p e.1 = true → ∀ name, RefersTo e name →
      p name = true ∧ final? environment name = final? environment' name) :
    (resolvedBehind environment earlier entries).filter (fun e => p e.1) =
      resolvedBehind environment' (earlier.filter fun e => p e.1)
        (entries.filter fun e => p e.1) := by
  induction entries generalizing earlier with
  | nil => rfl
  | cons e rest ih =>
      rw [resolvedBehind_cons, ih _ fun e' later => closed e' (List.mem_cons_of_mem e later),
        List.filter_append]
      by_cases counts : p e.1 = true
      · have same : resolvedEntry environment earlier e =
            resolvedEntry environment' (earlier.filter fun e => p e.1) e := by
          refine resolvedEntry_congr fun name referred => ?_
          obtain ⟨kept, agree⟩ := closed e List.mem_cons_self counts name referred
          unfold valueAt?
          rw [Variables.final?_filter _ kept, agree]
        have own : p (resolvedEntry environment' (earlier.filter fun e => p e.1) e).1 = true :=
          counts
        simp only [List.filter_cons, counts, if_true, List.filter_nil, same, own,
          resolvedBehind_cons]
      · have own : ¬ p (resolvedEntry environment earlier e).1 = true := counts
        simp only [List.filter_cons, counts, own, if_false, List.filter_nil, List.append_nil,
          Bool.false_eq_true]

theorem resolvedBehind_congr {environment environment' : List (String × String)}
    {entries : List (String × Option String)} (earlier : List (String × Option String))
    (same : ∀ e ∈ entries, ∀ name, RefersTo e name →
      final? environment name = final? environment' name) :
    resolvedBehind environment earlier entries = resolvedBehind environment' earlier entries := by
  have all := filter_resolvedBehind (p := fun _ => true) environment environment' earlier
    fun e member _ name referred => ⟨rfl, same e member name referred⟩
  have whole (l : List (String × Option String)) : l.filter (fun _ => true) = l :=
    List.filter_eq_self.2 fun _ _ => rfl
  simpa only [whole] using all

/-- Entries that do not refer to a name resolve the same behind either value of it. -/
theorem resolvedBehind_replaced (environment : List (String × String))
    {entries : List (String × Option String)} {name : String}
    (silent : ∀ e ∈ entries, ¬ RefersTo e name) (before between : List (String × Option String))
    (v w : Option String) :
    ∃ after, after.map Prod.fst = between.map Prod.fst ++ entries.map Prod.fst ∧
      resolvedBehind environment (before ++ (name, v) :: between) entries =
        before ++ (name, v) :: after ∧
      resolvedBehind environment (before ++ (name, w) :: between) entries =
        before ++ (name, w) :: after := by
  induction entries generalizing between with
  | nil => exact ⟨between, by simp, rfl, rfl⟩
  | cons e rest ih =>
      have same : resolvedEntry environment (before ++ (name, v) :: between) e =
          resolvedEntry environment (before ++ (name, w) :: between) e := by
        refine resolvedEntry_congr fun other referred => ?_
        have differs : other ≠ name := by
          rintro rfl
          exact silent e List.mem_cons_self referred
        unfold valueAt?
        rw [Variables.final?_replaced before between name v w differs]
      obtain ⟨after, names, first, second⟩ :=
        ih (fun e' later => silent e' (List.mem_cons_of_mem e later))
          (between ++ [resolvedEntry environment (before ++ (name, v) :: between) e])
      refine ⟨after, ?_, ?_, ?_⟩
      · simpa [resolvedEntry] using names
      · rw [resolvedBehind_cons, ← first]
        simp
      · rw [resolvedBehind_cons, ← same, ← second]
        simp

theorem resolvedBehind_append (environment : List (String × String))
    (earlier before after : List (String × Option String)) :
    resolvedBehind environment earlier (before ++ after) =
      resolvedBehind environment (resolvedBehind environment earlier before) after := by
  induction before generalizing earlier with
  | nil => rfl
  | cons e rest ih => exact ih _

theorem names_resolvedBehind (environment : List (String × String))
    (earlier entries : List (String × Option String)) :
    (resolvedBehind environment earlier entries).map Prod.fst =
      earlier.map Prod.fst ++ entries.map Prod.fst := by
  induction entries generalizing earlier with
  | nil => simp [resolvedBehind]
  | cons e rest ih => simp [resolvedBehind_cons, ih, resolvedEntry]

end Reference

/-! ## The value that counts -/

namespace Variables

variable {α : Type}

theorem first?_eq_some_iff {vars : List (String × α)} {name : String} {a : α} :
    first? vars name = some a ↔ ∃ before spelling after,
      vars = before ++ (spelling, a) :: after ∧ Text.sameName spelling name = true ∧
        ∀ e ∈ before, Text.sameName e.1 name = false := by
  unfold first?
  rw [Option.map_eq_some_iff]
  constructor
  · rintro ⟨⟨spelling, a'⟩, found, rfl⟩
    obtain ⟨same, before, after, split, others⟩ := List.find?_eq_some_iff_append.1 found
    exact ⟨before, spelling, after, split, same, fun e member => by simpa using others e member⟩
  · rintro ⟨before, spelling, after, split, same, others⟩
    exact ⟨(spelling, a), List.find?_eq_some_iff_append.2
      ⟨same, before, after, split, fun e member => by simpa using others e member⟩, rfl⟩

theorem first?_eq_none_iff {vars : List (String × α)} {name : String} :
    first? vars name = none ↔ ∀ e ∈ vars, Text.sameName e.1 name = false := by
  unfold first?
  rw [Option.map_eq_none_iff, List.find?_eq_none]
  simp

end Variables

open Variables (first? standing? final? Overtaken)

namespace SettingSources

variable (sources : SettingSources) (s : Setting)

def NotGiven : Prop := ∀ e ∈ sources.given, Text.sameName e.1 s.variableName = false

def NotInEnvironment : Prop :=
  ∀ e ∈ sources.environment, Text.sameName e.1 s.variableName = false

/-- The entries of the file, with the references in their values resolved. -/
def resolvedEntries : List (String × Option String) :=
  Reference.resolvedBehind sources.environment [] sources.file.entries

/-- The value that counts for a setting: the first one given under its name, or else what stands for
its name in the environment, or else in the file, or else its default. -/
inductive Selected (s : Setting) : Json → Prop where
  | given {before spelling v after}
      (split : sources.given = before ++ (spelling, v) :: after)
      (own : Text.sameName spelling s.variableName = true)
      (first : ∀ e ∈ before, Text.sameName e.1 s.variableName = false) :
      Selected s v
  | environment {text} (notGiven : sources.NotGiven s)
      (stands : standing? sources.environment s.variableName = some text) :
      Selected s (.str text)
  | file {text} (notGiven : sources.NotGiven s) (notInEnvironment : sources.NotInEnvironment s)
      (stands : standing? sources.resolvedEntries s.variableName = some (some text)) :
      Selected s (.str text)
  | default (notGiven : sources.NotGiven s) (notInEnvironment : sources.NotInEnvironment s)
      (unset : ∀ text, standing? sources.resolvedEntries s.variableName ≠ some (some text)) :
      Selected s s.default

theorem rawValue_eq : Settings.rawValue sources s =
    match first? sources.given s.variableName with
    | some v => v
    | none =>
        match standing? sources.environment s.variableName with
        | some text => .str text
        | none =>
            match (standing? sources.resolvedEntries s.variableName).join with
            | some text => .str text
            | none => s.default := by
  unfold Settings.rawValue fileVariables environmentVariables resolvedEntries
  rewrite [Reference.resolveAll_ofList, Variables.last?_ofList, Variables.last?_ofList]
  rfl

theorem selected_rawValue : sources.Selected s (Settings.rawValue sources s) := by
  rw [rawValue_eq]
  cases given : first? sources.given s.variableName with
  | some v =>
      obtain ⟨before, spelling, after, split, own, first⟩ := Variables.first?_eq_some_iff.1 given
      exact .given split own first
  | none =>
      have notGiven : sources.NotGiven s := Variables.first?_eq_none_iff.1 given
      cases environment : standing? sources.environment s.variableName with
      | some text => exact .environment notGiven environment
      | none =>
          have notInEnvironment : sources.NotInEnvironment s :=
            (Variables.standing?_eq_none_iff _ _).1 environment
          cases file : standing? sources.resolvedEntries s.variableName with
          | none => exact .default notGiven notInEnvironment (by simp [file])
          | some value =>
              cases value with
              | some text => exact .file notGiven notInEnvironment file
              | none => exact .default notGiven notInEnvironment (by simp [file])

theorem selected_iff {v : Json} : sources.Selected s v ↔ v = Settings.rawValue sources s := by
  constructor
  · intro selected
    rw [rawValue_eq]
    cases selected with
    | given split own first =>
        rw [Variables.first?_eq_some_iff.2 ⟨_, _, _, split, own, first⟩]
    | environment notGiven stands => rw [Variables.first?_eq_none_iff.2 notGiven, stands]
    | file notGiven notInEnvironment stands =>
        rw [Variables.first?_eq_none_iff.2 notGiven,
          (Variables.standing?_eq_none_iff _ _).2 notInEnvironment, stands]
        rfl
    | default notGiven notInEnvironment unset =>
        rw [Variables.first?_eq_none_iff.2 notGiven,
          (Variables.standing?_eq_none_iff _ _).2 notInEnvironment]
        cases stands : standing? sources.resolvedEntries s.variableName with
        | none => rfl
        | some value =>
            cases value with
            | none => rfl
            | some text => exact absurd stands (unset text)
  · rintro rfl
    exact sources.selected_rawValue s

end SettingSources

/-! ## What does not count -/

namespace Settings

variable {one other : SettingSources}

theorem load_congr (same : ∀ s, rawValue one s = rawValue other s) : load one = load other := by
  have values : rawValue one = rawValue other := funext same
  unfold load refused
  rw [values]

/-- Sources load the same when they have the same values given, the same standing in the environment
for each setting that is not given, and the same in the file for each that is in neither. -/
theorem load_congr_of_standing
    (given : ∀ s : Setting, first? one.given s.variableName = first? other.given s.variableName)
    (environment : ∀ s, one.NotGiven s →
      standing? one.environment s.variableName = standing? other.environment s.variableName)
    (file : ∀ s, one.NotGiven s → one.NotInEnvironment s →
      standing? one.resolvedEntries s.variableName =
        standing? other.resolvedEntries s.variableName) :
    load one = load other := by
  refine load_congr fun s => ?_
  rw [SettingSources.rawValue_eq, SettingSources.rawValue_eq, ← given s]
  cases found : first? one.given s.variableName with
  | some v => rfl
  | none =>
      have notGiven : one.NotGiven s := Variables.first?_eq_none_iff.1 found
      rw [← environment s notGiven]
      cases stands : standing? one.environment s.variableName with
      | some text => rfl
      | none =>
          have notInEnvironment : one.NotInEnvironment s :=
            (Variables.standing?_eq_none_iff _ _).1 stands
          rw [← file s notGiven notInEnvironment]

end Settings

namespace SettingSources

/-- Two sources that agree on what counts. In the environment these are the names of settings that are
not given, in the file those of settings that are in neither, and all names that a value of the file
refers to that counts itself. -/
structure Alike (one other : SettingSources) (inEnvironment inFile : String → Bool) : Prop where
  given : ∀ s : Setting, first? one.given s.variableName = first? other.given s.variableName
  environment : one.environment.filter (fun e => inEnvironment e.1) =
    other.environment.filter fun e => inEnvironment e.1
  file : one.file.entries.filter (fun e => inFile e.1) =
    other.file.entries.filter fun e => inFile e.1
  ofSettings : ∀ s name, one.NotGiven s → Text.sameName name s.variableName = true →
    inEnvironment name = true ∧ (one.NotInEnvironment s → inFile name = true)
  ofReferences : ∀ e ∈ one.file.entries, inFile e.1 = true → ∀ name, Reference.RefersTo e name →
    inEnvironment name = true ∧ inFile name = true

variable {one other : SettingSources} {inEnvironment inFile : String → Bool}

theorem Alike.resolvedEntries (alike : one.Alike other inEnvironment inFile) :
    one.resolvedEntries.filter (fun e => inFile e.1) =
      other.resolvedEntries.filter fun e => inFile e.1 := by
  have values (name : String) (counts : inEnvironment name = true) :
      final? one.environment name = final? other.environment name := by
    rw [← Variables.final?_filter one.environment counts, alike.environment,
      Variables.final?_filter other.environment counts]
  have left := Reference.filter_resolvedBehind one.environment other.environment []
    fun e (member : e ∈ one.file.entries) (counts : inFile e.1 = true) name referred =>
      have closed := alike.ofReferences e member counts name referred
      ⟨closed.2, values name closed.1⟩
  have right := Reference.filter_resolvedBehind other.environment other.environment []
    fun e (member : e ∈ other.file.entries) (counts : inFile e.1 = true) name referred => by
      -- what counts in the one file is what counts in the other
      have both : e ∈ one.file.entries.filter fun e => inFile e.1 := by
        rw [alike.file]
        exact List.mem_filter.2 ⟨member, counts⟩
      have closed := alike.ofReferences e (List.mem_filter.1 both).1 counts name referred
      exact ⟨closed.2, rfl⟩
  unfold SettingSources.resolvedEntries
  rw [left, right, alike.file]

theorem Alike.load_eq (alike : one.Alike other inEnvironment inFile) :
    Settings.load other = Settings.load one := by
  refine (Settings.load_congr_of_standing alike.given ?_ ?_).symm
  · intro s notGiven
    have counts (name : String) (same : Text.sameName name s.variableName = true) :
        inEnvironment name = true := (alike.ofSettings s name notGiven same).1
    rw [← Variables.standing?_filter one.environment counts, alike.environment,
      Variables.standing?_filter other.environment counts]
  · intro s notGiven notInEnvironment
    have counts (name : String) (same : Text.sameName name s.variableName = true) :
        inFile name = true := (alike.ofSettings s name notGiven same).2 notInEnvironment
    rw [← Variables.standing?_filter one.resolvedEntries counts, alike.resolvedEntries,
      Variables.standing?_filter other.resolvedEntries counts]

/-- The value of an overtaken entry of the environment does not count, unless a value of the file
refers to it. -/
theorem load_of_overtaken_environment (sources : SettingSources)
    {before after : List (String × String)} {name : String} (v w : String)
    (split : sources.environment = before ++ (name, v) :: after)
    (overtaken : Overtaken (before.map Prod.fst) name (after.map Prod.fst))
    (unread : name ∈ after.map Prod.fst ∨
      ∀ e ∈ sources.file.entries, ¬ Reference.RefersTo e name) :
    Settings.load { sources with environment := before ++ (name, w) :: after } =
      Settings.load sources := by
  have stands (s : Setting) : standing? (before ++ (name, w) :: after) s.variableName =
      standing? sources.environment s.variableName := by
    rw [split]
    exact Variables.standing?_overtaken before after name w v overtaken _
  have resolved : Reference.resolvedBehind (before ++ (name, w) :: after) []
      sources.file.entries = sources.resolvedEntries := by
    refine Reference.resolvedBehind_congr [] fun e member other referred => ?_
    rw [split]
    rcases unread with later | silent
    · exact Variables.final?_rewritten before after name w v later other
    · have differs : other ≠ name := by
        rintro rfl
        exact silent e member referred
      exact Variables.final?_replaced before after name w v differs
  refine Settings.load_congr_of_standing (fun _ => rfl) (fun s _ => stands s) fun s _ _ => ?_
  exact congrArg (standing? · s.variableName) resolved

/-- The value of an overtaken entry of the file does not count, unless one behind it refers to it. -/
theorem load_of_overtaken_file (sources : SettingSources) (text : String)
    {before after : List (String × Option String)} {name : String} (v w : Option String)
    (split : sources.file.entries = before ++ (name, v) :: after)
    (replaced : (EnvFile.ofText text).entries = before ++ (name, w) :: after)
    (overtaken : Overtaken (before.map Prod.fst) name (after.map Prod.fst))
    (unread : ∀ e ∈ after, ¬ Reference.RefersTo e name) :
    Settings.load { sources with fileText := some text } = Settings.load sources := by
  let earlier := Reference.resolvedBehind sources.environment [] before
  let entry (value : Option String) :=
    Reference.resolvedEntry sources.environment earlier (name, value)
  obtain ⟨later, names, first, second⟩ := Reference.resolvedBehind_replaced sources.environment
    unread earlier [] (entry w).2 (entry v).2
  have one : { sources with fileText := some text }.resolvedEntries =
      earlier ++ (name, (entry w).2) :: later := by
    have entries : { sources with fileText := some text }.file.entries =
        before ++ (name, w) :: after := replaced
    unfold resolvedEntries
    rw [entries, Reference.resolvedBehind_append]
    exact first
  have other : sources.resolvedEntries = earlier ++ (name, (entry v).2) :: later := by
    unfold resolvedEntries
    rw [split, Reference.resolvedBehind_append]
    exact second
  have same : Overtaken (earlier.map Prod.fst) name (later.map Prod.fst) := by
    rw [Reference.names_resolvedBehind, names]
    exact overtaken
  refine Settings.load_congr_of_standing (fun _ => rfl) (fun _ _ => rfl) fun s _ _ => ?_
  rw [one, other]
  exact Variables.standing?_overtaken earlier later name _ _ same _

/-- Each setting has exactly one value that counts. A load succeeds when every setting takes its own,
and then each is what its value says; otherwise it names those that do not, in order. Entries that do
not count change nothing, nor do the values of entries that others have overtaken, but for those that
a value of the file refers to. -/
theorem load_resolves (sources : SettingSources) :
    ∃ value : Setting → Json,
      (∀ s v, sources.Selected s v ↔ v = value s) ∧
      ((∃ settings, Settings.load sources = .ok settings) ↔ ∀ s : Setting, s.Accepts (value s)) ∧
      (∀ settings, Settings.load sources = .ok settings → ∀ s, settings.Holds (value s) s) ∧
      (∀ details, Settings.load sources = .error details →
        details.map (fun d => (d.setting.variableName, d.value)) =
          (Setting.all.filter fun s => ¬ s.Accepts (value s)).map fun s =>
            (s.variableName, value s)) ∧
      (∀ other inEnvironment inFile, sources.Alike other inEnvironment inFile →
        Settings.load other = Settings.load sources) ∧
      (∀ before name v w after, sources.environment = before ++ (name, v) :: after →
        Overtaken (before.map Prod.fst) name (after.map Prod.fst) →
        (name ∈ after.map Prod.fst ∨
          ∀ e ∈ sources.file.entries, ¬ Reference.RefersTo e name) →
        Settings.load { sources with environment := before ++ (name, w) :: after } =
          Settings.load sources) ∧
      ∀ text before name v w after, sources.file.entries = before ++ (name, v) :: after →
        (EnvFile.ofText text).entries = before ++ (name, w) :: after →
        Overtaken (before.map Prod.fst) name (after.map Prod.fst) →
        (∀ e ∈ after, ¬ Reference.RefersTo e name) →
        Settings.load { sources with fileText := some text } = Settings.load sources := by
  refine ⟨Settings.rawValue sources, fun s v => sources.selected_iff s, ?_, ?_, ?_, ?_, ?_, ?_⟩
  · constructor
    · rintro ⟨settings, loaded⟩
      exact (Settings.load_eq_ok_iff.1 loaded).1
    · intro accepted
      exact ⟨_, Settings.load_eq_ok_iff.2 ⟨accepted, rfl⟩⟩
  · intro settings loaded s
    obtain ⟨accepted, rfl⟩ := Settings.load_eq_ok_iff.1 loaded
    exact Settings.holds_ofValues accepted s
  · intro details refused
    obtain ⟨-, rfl⟩ := Settings.load_eq_error_iff.1 refused
    exact Settings.map_refused
  · intro other inEnvironment inFile alike
    exact alike.load_eq
  · intro before name v w after split overtaken unread
    exact sources.load_of_overtaken_environment v w split overtaken unread
  · intro text before name v w after split replaced overtaken unread
    exact sources.load_of_overtaken_file text v w split replaced overtaken unread

/-- A name whose first spelling is set again behind another one, and a word that is no flag, overtaken
by one that is. -/
def corrected : SettingSources where
  environment := [("KUBE_POLICY_NAMESPACE", "a"), ("kube_policy_namespace", "b"),
    ("KUBE_POLICY_NAMESPACE", "c"), ("JSON_LOGS", "maybe"), ("json_logs", "OFF")]

theorem load_corrected : Settings.load corrected =
    .ok { Settings.ofValues Setting.default with space := "b", jsonLogs := false } := by
  rfl

theorem load_resolves_corrected :
    corrected.Selected .space (.str "b") ∧
    Settings.load { corrected with environment := corrected.environment.take 3 ++
        [("JSON_LOGS", "perhaps"), ("json_logs", "OFF")] } =
      Settings.load corrected := by
  obtain ⟨value, selected, -, holds, -, -, overtaken, -⟩ := load_resolves corrected
  have space : value .space = .str "b" := holds _ load_corrected .space
  refine ⟨(selected .space _).2 space.symm,
    overtaken _ "JSON_LOGS" "maybe" "perhaps" [("json_logs", "OFF")] rfl ?_ (.inr ?_)⟩
  · exact ⟨"json_logs", List.mem_singleton_self _, by decide, .inr (by decide)⟩
  · intro e member
    cases member

/-- The same name in a file. -/
def respelled : SettingSources where
  fileText := some
    "KUBE_POLICY_NAMESPACE=a\nkube_policy_namespace=b\nKUBE_POLICY_NAMESPACE=c\n"

theorem load_respelled :
    Settings.load respelled = .ok (Settings.ofValues (Settings.rawValue respelled)) := by
  have none : (Settings.refused respelled).isEmpty = true := by decide +kernel
  exact Settings.load_eq_ok_iff.2 ⟨Settings.refused_eq_nil_iff.1 (List.isEmpty_iff.1 none), rfl⟩

/-- The last entry of a name is not always the one that counts. -/
theorem not_last_entry_counts :
    ¬ ∀ (sources : SettingSources) (settings : Settings) (name text : String),
      Settings.load sources = .ok settings →
      sources.NotGiven .space → sources.NotInEnvironment .space →
      (sources.file.entries.reverse.find? fun e =>
        Text.sameName e.1 Setting.space.variableName) = some (name, some text) →
      settings.space = text := by
  intro last
  have notGiven : respelled.NotGiven .space := by unfold NotGiven; decide
  have notInEnvironment : respelled.NotInEnvironment .space := by unfold NotInEnvironment; decide
  have counts := last respelled _ Setting.space.variableName "c" load_respelled notGiven
    notInEnvironment (by decide +kernel)
  exact absurd counts (by decide +kernel)

end SettingSources

end AdmissionHooks
