import AdmissionHooks.Proofs.Json.Limits
import AdmissionHooks.Proofs.Json.RoundTrip
import AdmissionHooks.Proofs.Log.Incidents

/-!
# What the line of a record tells

The JSON line of a record is visible ASCII whatever the record holds, and reading it gives an object
with the general members, the story of a failure if there is one, and the fields that are among the
attributes. An attribute under any other name has no say in it. A record has no line if one of its
values is too deep or has an integer of too many digits.
-/

namespace AdmissionHooks

namespace Json

theorem printable_joinMembers {members : List (String × List Char)}
    (each : ∀ m ∈ members, Printable m.2) : Printable (joinMembers members) := by
  induction members with
  | nil => decide
  | cons m members ih =>
      have first : Printable m.2 := each m List.mem_cons_self
      have others := ih fun n later => each n (List.mem_cons_of_mem m later)
      simp [joinMembers, printable_printText m.1, first, others]

theorem printable_joinObject {members : List (String × List Char)}
    (each : ∀ m ∈ members, Printable m.2) : Printable (joinObject members) := by
  cases members with
  | nil => decide
  | cons m members =>
      have first : Printable m.2 := each m List.mem_cons_self
      have others := printable_joinMembers fun n later => each n (List.mem_cons_of_mem m later)
      simp [joinObject, printable_printText m.1, first, others]

theorem member?_cons (m : String × Json) (members : List (String × Json)) (name : String) :
    member? (.obj (m :: members)) name =
      (member? (.obj members) name).or (if m.1 = name then some m.2 else none) := by
  by_cases same : m.1 = name <;> simp [member?, List.find?_append, same]

theorem member?_eq_none {members : List (String × Json)} {name : String}
    (absent : name ∉ members.map (·.1)) : member? (.obj members) name = none := by
  induction members with
  | nil => rfl
  | cons m members ih =>
      rw [List.map_cons, List.mem_cons, not_or] at absent
      obtain ⟨other, absent⟩ := absent
      rw [member?_cons, ih absent, if_neg (Ne.symm other)]
      rfl

/-- Of members with different names each is found under its own. -/
theorem member?_of_mem {members : List (String × Json)} {name : String} {v : Json}
    (nodup : (members.map (·.1)).Nodup) (member : (name, v) ∈ members) :
    member? (.obj members) name = some v := by
  induction members with
  | nil => cases member
  | cons m members ih =>
      obtain ⟨absent, nodup⟩ := List.nodup_cons.1 nodup
      rw [member?_cons]
      rcases List.mem_cons.1 member with rfl | later
      · rw [member?_eq_none absent, if_pos rfl]
        rfl
      · rw [ih nodup later]
        rfl

end Json

namespace Log

theorem Message.printable_quoted (m : Message) : Json.Printable m.quoted := by
  have glyph : ∀ g ∈ m, Json.Printable g.escaped := by
    intro g _
    cases g with
    | char c => exact Json.printable_escapeChar c
    | half n => exact Json.printable_escapeUnit n
  simp [quoted, Json.printable_flatMap glyph, Json.printable_nil]

namespace Record

/-- The names of the members that every line has, in their order. -/
def generalNames : List String := ["timestamp", "level", "logger", "message", correlationName]

def incidentNames (incident : Option Incident) : List String :=
  if incident.isSome then ["exception"] else []

/-- The names of the fields that a record has, in the order of the fields. -/
def fieldNames (r : Record) : List String :=
  (Field.all.filter fun f => (r.field? f).isSome).map Field.name

/-- What the members of a line tell of the record, whose message and incident are known. -/
structure Tells (r : Record) (now : Instant) (message : String) (incident : Option Incident)
    (members : List (String × Json)) : Prop where
  names : members.map (·.1) = generalNames ++ incidentNames incident ++ r.fieldNames
  nodup : (members.map (·.1)).Nodup
  timestamp : Json.member? (.obj members) "timestamp" = some (.str now.timestamp)
  level : Json.member? (.obj members) "level" = some r.shownLevel
  logger : Json.member? (.obj members) "logger" = some r.shownLogger
  message : Json.member? (.obj members) "message" = some (.str message)
  correlation : Json.member? (.obj members) correlationName =
    some ((r.attribute? correlationName).getD (.str ""))
  exception : ∀ i, incident = some i →
    ∃ shown, i.Shows shown ∧ Json.member? (.obj members) "exception" = some (.str shown)
  noException : incident = none → Json.member? (.obj members) "exception" = none
  fields : ∀ f : Field, Json.member? (.obj members) f.name = r.field? f

/-- The names of parts of a record that an attribute can stand in the place of, and of what makes
its message. -/
def ownNames : List String := [makerName, "msg", "args", "levelname", "name", "exc_info"]

/-- The names under which an attribute has a say in a line. -/
def Heeded (name : String) : Prop :=
  name ∈ ownNames ∨ name = correlationName ∨ ∃ f : Field, f.name = name

theorem heeded_iff {name : String} :
    Heeded name ↔ name ∈ ownNames ++ correlationName :: Field.all.map Field.name := by
  simp [Heeded, Field.mem_all]

instance (name : String) : Decidable (Heeded name) := decidable_of_iff _ heeded_iff.symm

/-- No attribute stands in the place of a part of the record. -/
def Intact (r : Record) : Prop := ∀ name ∈ ownNames, r.value? name = none

/-- The values that a line shows of a record, beside texts of its own. -/
def values (r : Record) : List Json :=
  r.shownLevel :: r.shownLogger :: r.correlation :: r.fieldMembers.map (·.2)

/-- Every value stands below the line's own object within the levels there are, and has no integer
of too many digits. -/
def Fits (r : Record) (limits : Json.Limits) : Prop :=
  ∀ v ∈ r.values, v.depth < limits.levels ∧ Json.Short limits v.integers

/-- A value is beyond one of the limits. -/
def Exceeds (r : Record) (limits : Json.Limits) (o : Json.Obstacle) : Prop :=
  ∃ v ∈ r.values, Json.Met limits limits.levels (v.depth + 1) v.integers o

variable (r : Record) (now : Instant) (limits : Json.Limits)

/-! ## Limits -/

section

variable (incident : Option Incident)

theorem members_values : (r.openingMembers now ++ r.closingMembers incident).map (·.2) =
    .str now.timestamp :: r.shownLevel :: r.shownLogger :: r.correlation ::
      ((incidentMembers incident).map (·.2) ++ r.fieldMembers.map (·.2)) := by
  simp [openingMembers, closingMembers]

theorem text_of_mem_incidentMembers {v : Json}
    (listed : v ∈ (incidentMembers incident).map (·.2)) : ∃ s, v = .str s := by
  cases incident with
  | none => cases listed
  | some i => exact ⟨i.text, List.mem_singleton.1 listed⟩

theorem mem_values_or_text {v : Json}
    (listed : v ∈ (r.openingMembers now ++ r.closingMembers incident).map (·.2)) :
    v ∈ r.values ∨ ∃ s, v = .str s := by
  rw [members_values] at listed
  simp only [List.mem_cons, List.mem_append] at listed
  rcases listed with stamp | level | logger | id | told | field
  · exact .inr ⟨_, stamp⟩
  · exact .inl (by simp [values, level])
  · exact .inl (by simp [values, logger])
  · exact .inl (by simp [values, id])
  · exact .inr (text_of_mem_incidentMembers incident told)
  · exact .inl (by simp only [values, List.mem_cons, field, or_true])

theorem values_subset :
    r.values ⊆ (r.openingMembers now ++ r.closingMembers incident).map (·.2) := by
  intro v shown
  rw [members_values]
  simp only [values, List.mem_cons] at shown
  rcases shown with level | logger | id | field
  · simp [level]
  · simp [logger]
  · simp [id]
  · simp only [List.mem_cons, List.mem_append, field, or_true]

theorem members_ne_nil : r.openingMembers now ++ r.closingMembers incident ≠ [] :=
  List.cons_ne_nil _ _

theorem obstacle?_eq_none_iff : r.obstacle? now incident limits = none ↔ r.Fits limits := by
  rw [obstacle?, Json.obstacle?_obj_eq_none_iff (r.members_ne_nil now incident)]
  constructor
  · exact fun all v shown => all v (r.values_subset now incident shown)
  · intro fits v listed
    rcases r.mem_values_or_text now incident listed with shown | ⟨s, rfl⟩
    · exact fits v shown
    · have level := (fits r.shownLevel List.mem_cons_self).1
      exact ⟨Nat.zero_lt_of_lt level, Json.short_nil limits⟩

theorem exceeds_of_obstacle? {o : Json.Obstacle}
    (ended : r.obstacle? now incident limits = some o) : r.Exceeds limits o := by
  obtain ⟨v, listed, met⟩ :=
    Json.met_obstacle?_obj (r.members_ne_nil now incident) ended
  rcases r.mem_values_or_text now incident listed with shown | ⟨s, rfl⟩
  · exact ⟨v, shown, met⟩
  · -- A text has no integers and no depth, so the level's name is no better off.
    exact ⟨r.shownLevel, List.mem_cons_self,
      met.mono (Nat.succ_le_succ (Nat.zero_le _)) (List.nil_subset _)⟩

end

/-! ## Lines -/

theorem jsonLine_of_ok {message : Message} {incident : Option Incident}
    (composed : r.fullMessage = .ok message) (told : r.fullIncident = .ok incident) :
    r.jsonLine now limits =
      match r.obstacle? now incident limits with
      | some o => .error (obstacleFailure limits o)
      | none => .ok (String.ofList (r.lineOf now message incident)) := by
  rw [jsonLine, composed, told]
  rfl

theorem jsonLine_eq_ok_iff {line : String} :
    r.jsonLine now limits = .ok line ↔
      ∃ message incident, r.fullMessage = .ok message ∧ r.fullIncident = .ok incident ∧
        r.Fits limits ∧ line = String.ofList (r.lineOf now message incident) := by
  cases composed : r.fullMessage with
  | error e => simp [jsonLine, composed, bind, Except.bind]
  | ok message =>
      cases told : r.fullIncident with
      | error e => simp [jsonLine, composed, told, bind, Except.bind]
      | ok incident =>
          rw [r.jsonLine_of_ok now limits composed told, ← r.obstacle?_eq_none_iff now limits incident]
          cases r.obstacle? now incident limits <;> simp [eq_comm]

/-- A line is not made for want of a message or of an incident, or because of a value. -/
theorem jsonLine_eq_error {e : Failure} (failed : r.jsonLine now limits = .error e) :
    r.fullMessage = .error e ∨ r.fullIncident = .error e ∨
      ∃ o, e = obstacleFailure limits o ∧ r.Exceeds limits o := by
  cases composed : r.fullMessage with
  | error f =>
      rw [jsonLine, composed] at failed
      cases failed
      exact .inl rfl
  | ok message =>
      cases told : r.fullIncident with
      | error f =>
          rw [jsonLine, composed, told] at failed
          cases failed
          exact .inr (.inl rfl)
      | ok incident =>
          rw [r.jsonLine_of_ok now limits composed told] at failed
          cases ended : r.obstacle? now incident limits with
          | none =>
              rw [ended] at failed
              cases failed
          | some o =>
              rw [ended] at failed
              cases failed
              exact .inr (.inr ⟨o, rfl, r.exceeds_of_obstacle? now limits incident ended⟩)

theorem printable_printMember (m : String × Json) : Json.Printable (Json.printMember m).2 :=
  Json.printable_print m.2

theorem printable_lineOf (message : Message) (incident : Option Incident) :
    Json.Printable (r.lineOf now message incident) := by
  apply Json.printable_joinObject
  intro m member
  rcases List.mem_append.1 member with opening | later
  · obtain ⟨n, -, rfl⟩ := List.mem_map.1 opening
    exact printable_printMember n
  · rcases List.mem_cons.1 later with rfl | closing
    · exact message.printable_quoted
    · obtain ⟨n, -, rfl⟩ := List.mem_map.1 closing
      exact printable_printMember n

theorem names_fieldMembers : r.fieldMembers.map (·.1) = r.fieldNames := by
  unfold fieldMembers fieldNames
  induction Field.all with
  | nil => rfl
  | cons f fields ih => cases given : r.field? f <;> simp [given, ih]

theorem mem_fieldMembers {f : Field} {v : Json} (given : r.field? f = some v) :
    (f.name, v) ∈ r.fieldMembers :=
  List.mem_filterMap.2 ⟨f, Field.mem_all f, by rw [given]; rfl⟩

/-- The members of a line whose message is of characters alone. -/
def members (message : String) (incident : Option Incident) : List (String × Json) :=
  r.openingMembers now ++ ("message", .str message) :: r.closingMembers incident

theorem names_members (message : String) (incident : Option Incident) :
    (r.members now message incident).map (·.1) =
      generalNames ++ incidentNames incident ++ r.fieldNames := by
  cases incident <;>
    simp [members, openingMembers, closingMembers, generalNames, incidentNames, incidentMembers,
      names_fieldMembers]

theorem general_sublist {incident : Option Incident} :
    (generalNames ++ incidentNames incident).Sublist (generalNames ++ ["exception"]) := by
  cases incident <;> simp [incidentNames]

/-- No name comes twice, whatever fields the record has. -/
theorem nodup_names (incident : Option Incident) :
    (generalNames ++ incidentNames incident ++ r.fieldNames).Nodup := by
  have all : (generalNames ++ ["exception"] ++ Field.all.map Field.name).Nodup := by decide
  have fields : r.fieldNames.Sublist (Field.all.map Field.name) := List.filter_sublist.map _
  exact all.sublist (general_sublist.append fields)

theorem name_mem_fieldNames_iff {f : Field} : f.name ∈ r.fieldNames ↔ (r.field? f).isSome := by
  constructor
  · intro listed
    obtain ⟨g, kept, same⟩ := List.mem_map.1 listed
    rw [← Field.name_inj same]
    exact (List.mem_filter.1 kept).2
  · exact fun given => List.mem_map.2 ⟨f, List.mem_filter.2 ⟨Field.mem_all f, given⟩, rfl⟩

theorem name_not_mem_generalNames (f : Field) : f.name ∉ generalNames ++ ["exception"] := by
  cases f <;> decide

theorem exception_not_mem_fieldNames : "exception" ∉ r.fieldNames := by
  intro listed
  obtain ⟨f, -, same⟩ := List.mem_map.1 listed
  exact name_not_mem_generalNames f (by rw [same]; decide)

theorem member?_members_eq_none {message : String} {incident : Option Incident} {name : String}
    (general : name ∉ generalNames ++ incidentNames incident) (field : name ∉ r.fieldNames) :
    Json.member? (.obj (r.members now message incident)) name = none := by
  apply Json.member?_eq_none
  rw [names_members, List.mem_append, not_or]
  exact ⟨general, field⟩

theorem tells_members (message : String) (incident : Option Incident) :
    r.Tells now message incident (r.members now message incident) := by
  have names := r.names_members now message incident
  have nodup : ((r.members now message incident).map (·.1)).Nodup := by
    rw [names]
    exact r.nodup_names incident
  constructor
  case names => exact names
  case nodup => exact nodup
  case timestamp => exact Json.member?_of_mem nodup (by simp [members, openingMembers])
  case level => exact Json.member?_of_mem nodup (by simp [members, openingMembers])
  case logger => exact Json.member?_of_mem nodup (by simp [members, openingMembers])
  case message => exact Json.member?_of_mem nodup (by simp [members])
  case correlation =>
    exact Json.member?_of_mem nodup (by simp [members, closingMembers, correlation])
  case exception =>
    intro i met
    subst met
    exact ⟨i.text, Incident.shows_iff.2 rfl,
      Json.member?_of_mem nodup (by simp [members, closingMembers, incidentMembers])⟩
  case noException =>
    intro none
    subst none
    exact r.member?_members_eq_none now (by decide) r.exception_not_mem_fieldNames
  case fields =>
    intro f
    cases given : r.field? f with
    | none =>
      have absent : f.name ∉ r.fieldNames := by
        rw [name_mem_fieldNames_iff, given]
        exact Bool.false_ne_true
      apply r.member?_members_eq_none now _ absent
      intro general
      exact name_not_mem_generalNames f (general_sublist.subset general)
    | some v =>
      have listed := r.mem_fieldMembers given
      exact Json.member?_of_mem nodup (by simp [members, closingMembers, listed])

/-! ## Attributes -/

section

variable {r}

theorem Intact.shownLevel (intact : r.Intact) : r.shownLevel = .str (Level.name r.level) := by
  unfold Record.shownLevel attribute?
  rw [intact "levelname" (by decide)]
  rfl

theorem Intact.shownLogger (intact : r.Intact) : r.shownLogger = .str r.logger := by
  unfold Record.shownLogger attribute?
  rw [intact "name" (by decide)]
  rfl

theorem Intact.fullIncident (intact : r.Intact) : r.fullIncident = .ok r.incident := by
  unfold Record.fullIncident
  rw [intact "exc_info" (by decide)]

theorem Intact.fullMessage (intact : r.Intact) :
    r.fullMessage = (render r.message (.ofRow r.arguments)).mapError failureOf := by
  unfold Record.fullMessage template fullArguments
  rw [intact makerName (by decide), intact "msg" (by decide), intact "args" (by decide)]

/-- Without arguments the message is the text that the record was made with. -/
theorem Intact.fullMessage_of_nil (intact : r.Intact) (plain : r.arguments = []) :
    r.fullMessage = .ok (Message.ofText r.message) := by
  rw [intact.fullMessage, plain, render_of_isVoid _ rfl]
  rfl

end

/-- Only the attributes under heeded names decide what the line is. -/
theorem jsonLine_of_heeded {attributes : List (String × Value)}
    (same : ∀ name, Heeded name → attributes.lookup name = r.value? name) :
    ({ r with attributes := attributes } : Record).jsonLine now limits =
      r.jsonLine now limits := by
  let s : Record := { r with attributes := attributes }
  have own (name : String) (h : name ∈ ownNames) : s.value? name = r.value? name :=
    same name (.inl h)
  have message : s.fullMessage = r.fullMessage := by
    unfold Record.fullMessage template fullArguments
    rw [own makerName (by decide), own "msg" (by decide), own "args" (by decide)]
  have incident : s.fullIncident = r.fullIncident := by
    unfold Record.fullIncident
    rw [own "exc_info" (by decide)]
  have level : s.shownLevel = r.shownLevel := by
    unfold Record.shownLevel attribute?
    rw [own "levelname" (by decide)]
  have logger : s.shownLogger = r.shownLogger := by
    unfold Record.shownLogger attribute?
    rw [own "name" (by decide)]
  have id : s.correlation = r.correlation := by
    unfold correlation attribute?
    rw [show s.value? correlationName = r.value? correlationName from same _ (.inr (.inl rfl))]
  have fields : s.fieldMembers = r.fieldMembers := by
    have field (f : Field) : s.field? f = r.field? f :=
      congrArg (Option.map Value.json) (same f.name (.inr (.inr ⟨f, rfl⟩)))
    unfold fieldMembers
    simp only [field]
  change s.jsonLine now limits = r.jsonLine now limits
  simp only [jsonLine, obstacle?, lineOf, openingMembers, closingMembers, message, incident, level,
    logger, id, fields]

/-- A line is visible ASCII. A record has one exactly if it has a message and tells of an incident
that can be shown, as one without arguments has whose parts no attribute takes the place of, and if
none of its values is beyond the limits; otherwise one of these is what it fails for. If the message
is of characters alone, the line reads back as the record's own values, whatever the attributes
under other names are. -/
theorem jsonLine_tells :
    (∀ line, r.jsonLine now limits = .ok line → Json.Printable line.toList) ∧
    ((∃ line, r.jsonLine now limits = .ok line) ↔ (∃ message, r.fullMessage = .ok message) ∧
      (∃ incident, r.fullIncident = .ok incident) ∧ r.Fits limits) ∧
    (∀ e, r.jsonLine now limits = .error e → r.fullMessage = .error e ∨
      r.fullIncident = .error e ∨ ∃ o, e = obstacleFailure limits o ∧ r.Exceeds limits o) ∧
    (r.Intact → r.fullIncident = .ok r.incident ∧
      r.fullMessage = (render r.message (.ofRow r.arguments)).mapError failureOf ∧
      (r.arguments = [] → r.fullMessage = .ok (Message.ofText r.message)) ∧
      r.shownLevel = .str (Level.name r.level) ∧ r.shownLogger = .str r.logger) ∧
    ∀ text incident, r.fullMessage = .ok (Message.ofText text) → r.fullIncident = .ok incident →
      r.Fits limits →
      ∃ line members, r.jsonLine now limits = .ok line ∧ Json.read? line = some (.obj members) ∧
        r.Tells now text incident members ∧
        ∀ attributes : List (String × Value),
          (∀ name, Heeded name → attributes.lookup name = r.value? name) →
            ({ r with attributes := attributes } : Record).jsonLine now limits = .ok line := by
  refine ⟨?_, ?_, fun e failed => r.jsonLine_eq_error now limits failed, ?_, ?_⟩
  · intro line made
    obtain ⟨message, incident, -, -, -, rfl⟩ := (r.jsonLine_eq_ok_iff now limits).1 made
    rw [String.toList_ofList]
    exact r.printable_lineOf now message incident
  · constructor
    · intro made
      obtain ⟨line, made⟩ := made
      obtain ⟨message, incident, composed, told, fits, -⟩ :=
        (r.jsonLine_eq_ok_iff now limits).1 made
      exact ⟨⟨message, composed⟩, ⟨incident, told⟩, fits⟩
    · intro parts
      obtain ⟨⟨message, composed⟩, ⟨incident, told⟩, fits⟩ := parts
      exact ⟨_, (r.jsonLine_eq_ok_iff now limits).2
        ⟨message, incident, composed, told, fits, rfl⟩⟩
  · intro intact
    exact ⟨intact.fullIncident, intact.fullMessage, intact.fullMessage_of_nil, intact.shownLevel,
      intact.shownLogger⟩
  · intro text incident composed told fits
    have same := r.lineOf_ofText now text incident
    have made : r.jsonLine now limits = .ok (Json.line (.obj (r.members now text incident))) :=
      (r.jsonLine_eq_ok_iff now limits).2
        ⟨_, incident, composed, told, fits, congrArg String.ofList same.symm⟩
    refine ⟨_, r.members now text incident, made, Json.read?_line _,
      r.tells_members now text incident, ?_⟩
    intro attributes unheeded
    rw [r.jsonLine_of_heeded now limits unheeded, made]

/-! ### Beyond the limits -/

/-- A record with a field and nothing else about it. -/
def urlRecord (v : Json) : Record where
  logger := "kube_policy"
  level := Level.info
  message := "registered"
  attributes := [("url", .plain v)]

theorem intact_urlRecord (v : Json) : (urlRecord v).Intact := by
  intro name own
  simp only [ownNames, List.mem_cons, List.not_mem_nil, or_false] at own
  rcases own with rfl | rfl | rfl | rfl | rfl | rfl <;> rfl

/-- What ends the printing of the field ends that of the line. -/
theorem jsonLine_urlRecord {v : Json} {o : Json.Obstacle} (room : 0 < limits.levels)
    (ended : Json.obstacle? limits (limits.levels - 1) v = some o) :
    (urlRecord v).jsonLine now limits = .error (obstacleFailure limits o) := by
  have composed := (intact_urlRecord v).fullMessage_of_nil rfl
  have fields : (urlRecord v).fieldMembers = [("url", v)] := rfl
  have id : (urlRecord v).correlation = .str "" := rfl
  have met : (urlRecord v).obstacle? now none limits = some o := by
    rw [obstacle?, Json.obstacle?, if_neg (Nat.ne_of_gt room)]
    simp [openingMembers, closingMembers, incidentMembers, fields, id, Json.membersObstacle?,
      Json.obstacle?, (intact_urlRecord v).shownLevel, (intact_urlRecord v).shownLogger, ended]
  have told : (urlRecord v).fullIncident = .ok none := rfl
  rw [jsonLine_of_ok _ now limits composed told, met]

/-- A field may be too deep or have an integer of too many digits. And an attribute that has the
name of what makes a message is asked for it. -/
theorem jsonLine_fails :
    (urlRecord (Json.nest 100000)).Intact ∧
      (urlRecord (Json.nest 100000)).jsonLine ⟨2024, 1, 2, 3, 4, 5, 0⟩ = .error
        (.raised "RecursionError" "maximum recursion depth exceeded while encoding a JSON object") ∧
      (urlRecord (Json.leastLong {})).Intact ∧
      (urlRecord (Json.leastLong {})).jsonLine ⟨2024, 1, 2, 3, 4, 5, 0⟩ = .error
        (.raised "ValueError" ("Exceeds the limit (4300 digits) for integer string conversion; " ++
          "use sys.set_int_max_str_digits() to increase the limit")) ∧
      ((urlRecord .null).withAttribute "getMessage" (.str "x")).jsonLine ⟨2024, 1, 2, 3, 4, 5, 0⟩ =
        .error (.raised "TypeError" "'str' object is not callable") := by
  have deep := jsonLine_urlRecord ⟨2024, 1, 2, 3, 4, 5, 0⟩ {} (by decide)
    (Json.obstacle?_nest {} (by decide : 989 < 100000))
  have long := jsonLine_urlRecord ⟨2024, 1, 2, 3, 4, 5, 0⟩ {} (by decide)
    (Json.obstacle?_leastLong {} (by decide) 989)
  exact ⟨intact_urlRecord _, deep, intact_urlRecord _, long, rfl⟩

/-- A record whose message holds line breaks and the beginning of another line, with a nested field,
a field that is a failure, an attribute that has no say, and a failure met while another one was
dealt with. -/
def forgedRecord : Record where
  logger := "kube_policy\u2028\u0000"
  level := Level.warning
  message := "a\r\n\x7b\"level\": \"INFO\"\x7d\\ \u007f 😀"
  attributes :=
    [("url", .plain (.obj [("a\nb", .arr [.int (-1208925819614629174706176), .null, .obj []])])),
      ("stray", .plain (.str "x")), ("http_status", .failure (.missingKey "k"))]
  incident := some (.raised ⟨.missingKey "\u00e9\n", ["  File \"a\", line 1\n"]⟩
    [(.context, ⟨.raised "ValueError" "", []⟩)])

def forgedStory : String :=
  "ValueError\n\nDuring handling of the above exception, another exception occurred:\n\n" ++
    "Traceback (most recent call last):\n  File \"a\", line 1\nKeyError: '\u00e9\\n'"

theorem fits_forgedRecord : forgedRecord.Fits {} :=
  (forgedRecord.obstacle?_eq_none_iff ⟨2024, 1, 2, 3, 4, 5, 0⟩ {} forgedRecord.incident).1 rfl

theorem jsonLine_tells_forgedRecord :
    forgedRecord.fullMessage = .ok (Message.ofText forgedRecord.message) ∧
      forgedRecord.fullIncident = .ok forgedRecord.incident ∧ forgedRecord.Fits {} ∧
      ∃ line members, forgedRecord.jsonLine ⟨2024, 1, 2, 3, 4, 5, 0⟩ = .ok line ∧
        Json.read? line = some (.obj members) ∧
        members.map (·.1) =
          ["timestamp", "level", "logger", "message", "correlation_id", "exception", "url",
            "http_status"] ∧
        Json.member? (.obj members) "correlation_id" = some (.str "") ∧
        Json.member? (.obj members) "exception" = some (.str forgedStory) ∧
        ({ forgedRecord with attributes := forgedRecord.attributes.eraseIdx 1 } : Record).jsonLine
          ⟨2024, 1, 2, 3, 4, 5, 0⟩ = .ok line := by
  have composed : forgedRecord.fullMessage = .ok (Message.ofText forgedRecord.message) := rfl
  have told : forgedRecord.fullIncident = .ok forgedRecord.incident := rfl
  obtain ⟨-, -, -, -, tells⟩ := jsonLine_tells forgedRecord ⟨2024, 1, 2, 3, 4, 5, 0⟩ {}
  obtain ⟨line, members, made, read, told', unheeded⟩ := tells _ _ composed told fits_forgedRecord
  obtain ⟨shown, shows, exception⟩ := told'.exception _ rfl
  have story : shown = forgedStory := (Incident.shows_iff.1 shows).trans (by decide +kernel)
  rw [story] at exception
  refine ⟨composed, told, fits_forgedRecord, line, members, made, read, told'.names,
    told'.correlation, exception, ?_⟩
  have stray : ¬ Heeded "stray" := by decide
  apply unheeded
  intro name heeded
  have other : (name == "stray") = false := beq_false_of_ne fun same => stray (same ▸ heeded)
  simp only [forgedRecord, value?, List.eraseIdx, List.lookup_cons, other]

end Record

end Log

end AdmissionHooks
