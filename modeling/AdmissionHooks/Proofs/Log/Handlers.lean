import AdmissionHooks.Log.Setup
import AdmissionHooks.Proofs.Log.Ids
import AdmissionHooks.Proofs.Log.Line

/-!
# The one handler

However often the log was set up and however it ended, the root has one handler, the one of the last
time. Its layout and its filter fit together: every field that the format names is on the record
when it is filled in, so a line can only fail to be made because of the record itself.
-/

namespace AdmissionHooks.Log

/-! ## Formats -/

namespace Layout

/-- The placeholder of a field that is shown as it is. -/
def fieldPiece (name : String) (index : Nat) : Piece :=
  .placeholder
    ⟨.named name.toList, ⟨false, false, false, false, false⟩, .none, .none, some 's', index⟩

def gap : List Piece := separator.toList.map .text

/-- The fields that a format names, with the places of their letters. -/
def places : Layout → List (String × Nat)
  | .json => [("message", 10)]
  | .plain true =>
      [("asctime", 10), (Record.correlationName, 31), ("name", 42), ("levelname", 58),
        ("message", 72)]
  | .plain false => [("asctime", 10), ("name", 21), ("levelname", 37), ("message", 51)]

def fieldPieces (places : List (String × Nat)) : List Piece :=
  gap.intercalate (places.map fun p => [fieldPiece p.1 p.2])

theorem fieldPieces_cons_cons (p q : String × Nat) (later : List (String × Nat)) :
    fieldPieces (p :: q :: later) = fieldPiece p.1 p.2 :: (gap ++ fieldPieces (q :: later)) := rfl

theorem pieces_format (l : Layout) :
    Template.pieces l.format.toList = fieldPieces l.places := by
  rcases l with _ | (_ | _) <;> decide +kernel

theorem fill_zero (s : Placeholder.Shown) (m : Marks) :
    s.fill m 0 = Message.ofChars s.front ++ s.body := by
  simp [Placeholder.Shown.fill, Placeholder.repeated]

variable {source : Option Json} {pending : List Value} {name : String} {index : Nat}
  {rest : List Piece}

theorem compose_gap {m : Message} (composed : compose source pending rest = .ok m) :
    compose source pending (gap ++ rest) = .ok (Message.ofChars separator.toList ++ m) := by
  have each (cs : List Char) :
      compose source pending (cs.map .text ++ rest) = .ok (Message.ofChars cs ++ m) := by
    induction cs with
    | nil => exact composed
    | cons c cs ih =>
        rw [List.map_cons, List.cons_append, compose, ih]
        rfl
  exact each separator.toList

/-- A field that is there is shown as it is, whatever was to be taken in turn. -/
theorem compose_fieldPiece {v : Json} (found : Placeholder.member source name = .ok v) :
    compose source pending (fieldPiece name index :: rest) =
      (compose source [] rest).map (Message.ofChars v.display ++ ·) := by
  have key : Placeholder.select source pending (.named name.toList) = .ok [.plain v] := by
    rw [Placeholder.select, String.ofList_toList, found]
    rfl
  have unbounded : Placeholder.widthOf ((none : Option Int).getD 0) = 0 := by decide
  have reached : ¬ Placeholder.widthBound ≤ 0 := by decide
  have uncut : Placeholder.cut (Option.map Int.toNat none) (Value.plain v).display = v.display :=
    rfl
  rw [fieldPiece, compose, Placeholder.resolve, key]
  simp only [bind, Except.bind, pure, Except.pure, Placeholder.measure, Placeholder.take,
    Placeholder.convert, if_true, unbounded, if_neg reached, fill_zero, uncut]
  rfl

/-- What a format shows of a field. -/
def shown (source : Option Json) (name : String) : List Char :=
  match Placeholder.member source name with
  | .ok v => v.display
  | .error _ => []

def filling (source : Option Json) (places : List (String × Nat)) : List Char :=
  separator.toList.intercalate (places.map fun p => shown source p.1)

theorem filling_cons_cons (source : Option Json) (p q : String × Nat)
    (later : List (String × Nat)) :
    filling source (p :: q :: later) =
      shown source p.1 ++ (separator.toList ++ filling source (q :: later)) := by
  simp only [filling, List.map_cons, List.intercalate_cons_cons, List.append_assoc]

/-- A format whose fields are all there is filled in with them. -/
theorem compose_fieldPieces (given : source.isSome = true) {places : List (String × Nat)}
    (found : ∀ p ∈ places, ∃ v, Placeholder.member source p.1 = .ok v) :
    compose source pending (fieldPieces places) = .ok (Message.ofChars (filling source places)) := by
  have ended (pending : List Value) : compose source pending [] = .ok [] := by
    rw [compose, given, Bool.or_true, if_pos rfl]
  induction places generalizing pending with
  | nil => exact ended pending
  | cons p later ih =>
      obtain ⟨v, first⟩ := found p List.mem_cons_self
      have display : shown source p.1 = v.display := by rw [shown, first]
      cases later with
      | nil => simp [fieldPieces, filling, compose_fieldPiece first, ended, display, Except.map]
      | cons q later =>
        have rest (pending : List Value) : compose source pending (fieldPieces (q :: later)) =
            .ok (Message.ofChars (filling source (q :: later))) :=
          ih fun n listed => found n (List.mem_cons_of_mem p listed)
        rw [fieldPieces_cons_cons, filling_cons_cons, compose_fieldPiece first,
          compose_gap (rest []), display]
        simp [Except.map, Message.ofChars]

end Layout

theorem Value.display_json (v : Value) : v.json.display = v.display := by cases v <;> rfl

namespace Record

/-- The fields by which a plain line tells of a record. -/
def lineFields (r : Record) (now : Instant) (message : Message) : List (String × Json) :=
  [("asctime", .str now.clock), ("name", .str r.logger), ("levelname", .str (Level.name r.level)),
    ("message", .str message.plain)] ++
    (r.attribute? correlationName).toList.map fun id => (correlationName, id)

def lineSource (r : Record) (now : Instant) (message : Message) : Option Json :=
  some (.obj (r.lineFields now message))

theorem names_lineFields (r : Record) (now : Instant) (message : Message) :
    (r.lineFields now message).map (·.1) = ["asctime", "name", "levelname", "message"] ++
      if (r.attribute? correlationName).isSome then [correlationName] else [] := by
  cases given : r.attribute? correlationName <;> simp [lineFields, given]

theorem nodup_lineFields (r : Record) (now : Instant) (message : Message) :
    ((r.lineFields now message).map (·.1)).Nodup := by
  rw [names_lineFields]
  split <;> decide

end Record

namespace Layout

variable {r : Record} {now : Instant} {message : Message}

/-- A format, filled in with the fields of a record. -/
def fill (l : Layout) (r : Record) (now : Instant) (message : Message) :
    Except MessageError Message :=
  render l.format (.single (.plain (.obj (r.lineFields now message))))

theorem member_of_mem {name : String} {v : Json} (listed : (name, v) ∈ r.lineFields now message) :
    Placeholder.member (r.lineSource now message) name = .ok v := by
  rw [Record.lineSource, Placeholder.member,
    Json.member?_of_mem (r.nodup_lineFields now message) listed]

theorem shown_of_mem {name : String} {v : Json} (listed : (name, v) ∈ r.lineFields now message) :
    shown (r.lineSource now message) name = v.display := by
  rw [shown, member_of_mem listed]

/-- A format is filled in with the fields of a record that has all that it names. -/
theorem fill_of_named {l : Layout}
    (named : ∀ p ∈ l.places, p.1 ∈ (r.lineFields now message).map (·.1)) :
    l.fill r now message = .ok (Message.ofChars (filling (r.lineSource now message) l.places)) := by
  have found : ∀ p ∈ l.places,
      ∃ v, Placeholder.member (r.lineSource now message) p.1 = .ok v := by
    intro p listed
    obtain ⟨⟨name, v⟩, field, same⟩ := List.mem_map.1 (named p listed)
    rw [← same]
    exact ⟨v, member_of_mem field⟩
  have given : (Arguments.single (.plain (.obj (r.lineFields now message)))).isVoid = false := by
    simp [Arguments.isVoid, Value.isVoid, Json.isVoid, Record.lineFields]
  rw [fill, render, given, pieces_format]
  exact compose_fieldPieces rfl found

theorem named_places {l : Layout}
    (marked : l = .plain true → (r.attribute? Record.correlationName).isSome) :
    ∀ p ∈ l.places, p.1 ∈ (r.lineFields now message).map (·.1) := by
  rw [r.names_lineFields now message]
  rcases l with _ | (_ | _)
  · split <;> decide
  · split <;> decide
  · rw [if_pos (marked rfl)]
    decide

/-- What the format of a plain line shows of a record are the parts of the line. -/
theorem filling_places {correlated : Bool} {parts : List String}
    (made : plainParts correlated r now message = .ok parts) :
    filling (r.lineSource now message) (plain correlated).places =
      (String.intercalate separator parts).toList := by
  have clock : shown (r.lineSource now message) "asctime" = now.clock.toList :=
    shown_of_mem (v := .str now.clock) (by simp [Record.lineFields])
  have logger : shown (r.lineSource now message) "name" = r.logger.toList :=
    shown_of_mem (v := .str r.logger) (by simp [Record.lineFields])
  have level : shown (r.lineSource now message) "levelname" =
      (Level.name r.level).toList :=
    shown_of_mem (v := .str (Level.name r.level)) (by simp [Record.lineFields])
  have text : shown (r.lineSource now message) "message" = message.plain.toList :=
    shown_of_mem (v := .str message.plain) (by simp [Record.lineFields])
  rw [filling, String.toList_intercalate]
  congr 1
  cases correlated with
  | false =>
    cases made
    simp [places, clock, logger, level, text]
  | true =>
    cases given : r.value? Record.correlationName with
    | none => simp [plainParts, given] at made
    | some id =>
      have marked : r.attribute? Record.correlationName = some id.json := by
        rw [Record.attribute?, given]
        rfl
      have mark : shown (r.lineSource now message) Record.correlationName =
          id.display := by
        rw [← id.display_json]
        apply shown_of_mem
        simp [Record.lineFields, marked]
      simp only [plainParts, given, if_true, Except.ok.injEq] at made
      subst made
      simp [places, clock, logger, level, text, mark]

/-- A plain line is the format, filled in with the fields of the record, and the incident. -/
theorem plainLine_eq {correlated : Bool} (composed : r.fullMessage = .ok message)
    (marked : correlated = true → (r.attribute? Record.correlationName).isSome) :
    ∃ text, plainLine correlated r now = .ok (withIncident text r.incident) ∧
      (plain correlated).fill r now message = .ok (Message.ofText text) := by
  obtain ⟨parts, made⟩ : ∃ parts, plainParts correlated r now message = .ok parts := by
    cases correlated with
    | false => exact ⟨_, rfl⟩
    | true =>
      obtain ⟨id, given⟩ := Option.isSome_iff_exists.1 (marked rfl)
      obtain ⟨v, given, -⟩ := Option.map_eq_some_iff.1 given
      exact ⟨_, by simp only [plainParts, given, if_true]; rfl⟩
  refine ⟨String.intercalate separator parts, ?_, ?_⟩
  · simp [plainLine, composed, made, bind, Except.bind, pure, Except.pure]
  · have named : ∀ p ∈ (plain correlated).places, p.1 ∈ (r.lineFields now message).map (·.1) :=
      named_places fun same => marked (by simpa using same)
    rw [fill_of_named named, filling_places made]
    rfl

end Layout

/-! ## A record and its handler -/

namespace Record

theorem value?_withAttribute_of_ne (r : Record) {name other : String} (v : Json)
    (different : other ≠ name) : (r.withAttribute name v).value? other = r.value? other := by
  simp [value?, withAttribute, List.lookup_cons, beq_false_of_ne different]

theorem fullMessage_withAttribute (r : Record) (id : Json) :
    (r.withAttribute correlationName id).fullMessage = r.fullMessage := by
  unfold fullMessage template fullArguments
  rw [r.value?_withAttribute_of_ne id (by decide), r.value?_withAttribute_of_ne id (by decide),
    r.value?_withAttribute_of_ne id (by decide)]
  rfl

theorem fullIncident_withAttribute (r : Record) (id : Json) :
    (r.withAttribute correlationName id).fullIncident = r.fullIncident := by
  unfold fullIncident
  rw [r.value?_withAttribute_of_ne id (by decide)]
  rfl

end Record

namespace Handler

variable (json correlated : Bool) (now : Instant) (c : Correlation) (r : Record)
  (limits : Json.Limits)

/-- The record as the filter leaves it. -/
def marked : Record := (prepare correlated c r).1

theorem fullMessage_marked : (marked correlated c r).fullMessage = r.fullMessage := by
  cases correlated with
  | false => rfl
  | true => exact r.fullMessage_withAttribute c.next.1

theorem fullIncident_marked : (marked correlated c r).fullIncident = r.fullIncident := by
  cases correlated with
  | false => rfl
  | true => exact r.fullIncident_withAttribute c.next.1

theorem incident_marked : (marked correlated c r).incident = r.incident := by
  cases correlated <;> rfl

theorem attribute?_marked :
    (marked true c r).attribute? Record.correlationName = some c.next.1 :=
  r.attribute?_withAttribute_self Record.correlationName c.next.1

/-- What holds of every record that meets a handler with these flags. -/
structure Meets : Prop where
  /-- With ids, the record is marked with one that counts, as those to be drawn do. -/
  id : c.Stocked → correlated = true → ∃ id, id.isVoid = false ∧
    (marked correlated c r).attribute? Record.correlationName = some id
  /-- The record has every field that the format names. -/
  fields : ∀ message, ∃ filled,
    (Layout.ofFlags json correlated).fill (marked correlated c r) now message = .ok filled
  /-- A plain line is the format, filled in. -/
  plain : json = false → ∀ message, r.fullMessage = .ok message →
    ∃ text, ((ofFlags json correlated).handle now c r limits).1 =
        some (.ok (Layout.withIncident text r.incident)) ∧
      (Layout.ofFlags json correlated).fill (marked correlated c r) now message =
        .ok (Message.ofText text)
  /-- The line is made if the record has a message and an incident that can be told, and its values
  are within the limits of a JSON line. -/
  written : ∀ message incident, r.fullMessage = .ok message → r.fullIncident = .ok incident →
    (json = true → (marked correlated c r).Fits limits) →
    ∃ line, ((ofFlags json correlated).handle now c r limits).1 = some (.ok line)
  /-- If it is not made, it is for want of one of these. -/
  fails : ∀ e, ((ofFlags json correlated).handle now c r limits).1 = some (.error e) →
    r.fullMessage = .error e ∨ r.fullIncident = .error e ∨
      json = true ∧ ∃ o, e = Record.obstacleFailure limits o ∧
        (marked correlated c r).Exceeds limits o

variable {json correlated now c r limits}

theorem isSome_marked (on : correlated = true) :
    ((marked correlated c r).attribute? Record.correlationName).isSome := by
  subst on
  rw [attribute?_marked]
  rfl

theorem handle_plain {message : Message} (composed : r.fullMessage = .ok message) :
    ∃ text, ((ofFlags false correlated).handle now c r limits).1 =
        some (.ok (Layout.withIncident text r.incident)) ∧
      (Layout.ofFlags false correlated).fill (marked correlated c r) now message =
        .ok (Message.ofText text) := by
  rw [← fullMessage_marked correlated c r] at composed
  obtain ⟨text, made, filled⟩ := Layout.plainLine_eq composed isSome_marked
  rw [incident_marked] at made
  exact ⟨text, congrArg some made, filled⟩

theorem handle_json : ((ofFlags true correlated).handle now c r limits).1 =
    some ((marked correlated c r).jsonLine now limits) := rfl

theorem handle_written {message : Message} {incident : Option Incident}
    (composed : r.fullMessage = .ok message) (told : r.fullIncident = .ok incident)
    (fits : json = true → (marked correlated c r).Fits limits) :
    ∃ line, ((ofFlags json correlated).handle now c r limits).1 = some (.ok line) := by
  cases json with
  | false =>
    obtain ⟨text, made, -⟩ := handle_plain composed
    exact ⟨_, made⟩
  | true =>
    rw [← fullMessage_marked correlated c r] at composed
    rw [← fullIncident_marked correlated c r] at told
    have made := (Record.jsonLine_eq_ok_iff _ now limits).2
      ⟨message, incident, composed, told, fits rfl, rfl⟩
    exact ⟨_, handle_json.trans (congrArg some made)⟩

theorem handle_fails {e : Failure}
    (failed : ((ofFlags json correlated).handle now c r limits).1 = some (.error e)) :
    r.fullMessage = .error e ∨ r.fullIncident = .error e ∨
      json = true ∧ ∃ o, e = Record.obstacleFailure limits o ∧
        (marked correlated c r).Exceeds limits o := by
  cases json with
  | true =>
    rw [handle_json, Option.some.injEq] at failed
    have reasons := Record.jsonLine_eq_error _ now limits failed
    rw [fullMessage_marked, fullIncident_marked] at reasons
    rcases reasons with message | incident | value
    · exact .inl message
    · exact .inr (.inl incident)
    · exact .inr (.inr ⟨rfl, value⟩)
  | false =>
    cases composed : r.fullMessage with
    | ok message =>
      obtain ⟨text, made, -⟩ := handle_plain composed
      rw [made] at failed
      cases failed
    | error f =>
      have same := (fullMessage_marked correlated c r).trans composed
      have line : Layout.plainLine correlated (marked correlated c r) now = .error f := by
        rw [Layout.plainLine, same]
        rfl
      have told : Except.error f = .error e := line.symm.trans (Option.some.inj failed)
      cases told
      exact .inl rfl

theorem meets (json correlated : Bool) (now : Instant) (c : Correlation) (r : Record)
    (limits : Json.Limits) : Meets json correlated now c r limits := by
  constructor
  case id =>
    intro stocked on
    subst on
    exact ⟨c.next.1, stocked.isVoid_next, attribute?_marked c r⟩
  case fields =>
    intro message
    refine ⟨_, Layout.fill_of_named (Layout.named_places ?_)⟩
    intro same
    cases json with
    | false => exact isSome_marked (by simpa [Layout.ofFlags] using same)
    | true => cases same
  case plain =>
    intro off message composed
    subst off
    exact handle_plain composed
  case written => exact fun _ _ composed told fits => handle_written composed told fits
  case fails => exact fun _ failed => handle_fails failed

end Handler

/-! ## The root -/

namespace Setup

/-- The handler that the given flags ask for. -/
def handlerOf (given : List (String × Json)) : Handler :=
  Handler.ofFlags (flag given "enable_json_formatting") (flag given "correlation_id_enabled")

def Accepted (given : List (String × Json)) : Prop :=
  parameters.check (given.map (·.1)) = .ok ()

def afterCalls (s : Setup) (calls : List (List (String × Json))) : Setup :=
  calls.foldl (fun s given => (s.configureBy given).2) s

theorem afterCalls_append (s : Setup) (calls later : List (List (String × Json))) :
    s.afterCalls (calls ++ later) = (s.afterCalls calls).afterCalls later := List.foldl_append

theorem handlers_configureBy (s : Setup) {given : List (String × Json)}
    (accepted : Accepted given) : (s.configureBy given).2.handlers = [handlerOf given] := by
  have handlers (level : Except Failure Level) (json correlated : Bool) :
      (s.configure level json correlated).2.handlers = [Handler.ofFlags json correlated] := by
    cases level <;> exact handlers_install s _
  rw [configureBy, show parameters.check _ = _ from accepted]
  exact handlers _ _ _

theorem configureBy_of_error (s : Setup) {given : List (String × Json)} {e : Failure}
    (refused : parameters.check (given.map (·.1)) = .error e) :
    s.configureBy given = (.error e, s) := by
  rw [configureBy, refused]

end Setup

/-- The handlers of the root with numbers that tell them apart, equal ones too. A new handler gets a
number that none had before. -/
structure Roster where
  handlers : List (Nat × Handler)
  next : Nat

namespace Roster

/-- The same replacement, of the numbered handlers. -/
def configureBy (m : Roster) (given : List (String × Json)) : Roster :=
  match Setup.parameters.check (given.map (·.1)) with
  | .error _ => m
  | .ok () => ⟨Setup.replaced m.handlers (m.next, Setup.handlerOf given), m.next + 1⟩

def afterCalls (m : Roster) (calls : List (List (String × Json))) : Roster :=
  calls.foldl configureBy m

theorem afterCalls_append (m : Roster) (calls later : List (List (String × Json))) :
    m.afterCalls (calls ++ later) = (m.afterCalls calls).afterCalls later := List.foldl_append

/-- The numbered handlers are those of the root, and a number is left for the next one. -/
structure Tracks (m : Roster) (s : Setup) : Prop where
  handlers : m.handlers.map (·.2) = s.handlers
  fresh : ∀ h ∈ m.handlers, h.1 < m.next

variable {m : Roster} {s : Setup}

theorem configureBy_of_accepted {given : List (String × Json)} (accepted : Setup.Accepted given) :
    m.configureBy given = ⟨[(m.next, Setup.handlerOf given)], m.next + 1⟩ := by
  rw [configureBy, show Setup.parameters.check _ = _ from accepted]
  simp only [Setup.replaced_eq]

theorem Tracks.configureBy (tracks : m.Tracks s) (given : List (String × Json)) :
    (m.configureBy given).Tracks (s.configureBy given).2 := by
  cases checked : Setup.parameters.check (given.map (·.1)) with
  | error e =>
      rw [s.configureBy_of_error checked, Roster.configureBy, checked]
      exact tracks
  | ok done =>
      constructor
      case handlers =>
        rw [configureBy_of_accepted checked, s.handlers_configureBy checked]
        rfl
      case fresh =>
        rw [configureBy_of_accepted checked]
        intro h listed
        rw [List.mem_singleton.1 listed]
        exact Nat.lt_succ_self m.next

theorem Tracks.afterCalls (tracks : m.Tracks s) (calls : List (List (String × Json))) :
    (m.afterCalls calls).Tracks (s.afterCalls calls) := by
  induction calls generalizing m s with
  | nil => exact tracks
  | cons given calls ih => exact ih (tracks.configureBy given)

theorem next_le_configureBy (m : Roster) (given : List (String × Json)) :
    m.next ≤ (m.configureBy given).next := by
  unfold configureBy
  split
  · exact Nat.le_refl m.next
  · exact Nat.le_succ m.next

theorem next_le_afterCalls (m : Roster) (calls : List (List (String × Json))) :
    m.next ≤ (m.afterCalls calls).next := by
  induction calls generalizing m with
  | nil => exact Nat.le_refl m.next
  | cons given calls ih =>
      exact Nat.le_trans (m.next_le_configureBy given) (ih (m.configureBy given))

end Roster

/-- After any calls, whatever came of them, the root has the handler that the flags of the last call
ask for, and no other. It is none of those that the root had before at any time. A layout with the
id comes with the filter that sets the id, so whatever the ids are, every record has the fields that
the format names, and with ids enabled an id that counts. -/
theorem root_handler {m : Roster} {s : Setup} (tracks : m.Tracks s)
    (earlier : List (List (String × Json))) {last : List (String × Json)}
    (accepted : Setup.Accepted last) :
    let json := Setup.flag last "enable_json_formatting"
    let correlated := Setup.flag last "correlation_id_enabled"
    (s.afterCalls (earlier ++ [last])).handlers = [Handler.ofFlags json correlated] ∧
    (∃ number,
      (m.afterCalls (earlier ++ [last])).handlers = [(number, Handler.ofFlags json correlated)] ∧
      ∀ past, past <+: earlier → (m.afterCalls past).Tracks (s.afterCalls past) ∧
        ∀ h ∈ (m.afterCalls past).handlers, h.1 ≠ number) ∧
    (Layout.ofFlags json correlated = .plain true → correlated = true) ∧
    ∀ (now : Instant) (c : Correlation) (r : Record) (limits : Json.Limits),
      Handler.Meets json correlated now c r limits := by
  intro json correlated
  refine ⟨?_, ⟨(m.afterCalls earlier).next, ?_, ?_⟩, ?_, ?_⟩
  · rw [s.afterCalls_append]
    exact Setup.handlers_configureBy _ accepted
  · rw [m.afterCalls_append]
    exact congrArg Roster.handlers (Roster.configureBy_of_accepted accepted)
  · intro past before
    obtain ⟨later, rfl⟩ := before
    have meanwhile := tracks.afterCalls past
    refine ⟨meanwhile, fun h listed => ?_⟩
    have old : h.1 < (m.afterCalls past).next := meanwhile.fresh h listed
    rw [m.afterCalls_append]
    exact Nat.ne_of_lt (Nat.lt_of_lt_of_le old (Roster.next_le_afterCalls _ later))
  · intro layout
    cases on : json with
    | false => simpa [Layout.ofFlags, on] using layout
    | true => simp [Layout.ofFlags, on] at layout
  · exact Handler.meets json correlated

/-- The numbers of three equal handlers. Their root is set up with a barred word, then with a
parameter that is not taken, and then for plain lines with ids. -/
def crowdedRoster : Roster := ⟨[(0, .silent), (1, .silent), (2, .silent)], 3⟩

theorem root_handler_crowdedRoster :
    let s : Setup := { handlers := [.silent, .silent, .silent] }
    let earlier : List (List (String × Json)) :=
      [[("log_level", .str "basic_format")], [("stray", .null)]]
    let last : List (String × Json) := [("enable_json_formatting", .bool false)]
    let c := Correlation.ofLongIds ["1F0E2D3C-4B5A-6978-8796-A5B4C3D2E1F0"]
    let r : Record := { logger := "kopf", level := Level.info, message := "started" }
    crowdedRoster.Tracks s ∧ Setup.Accepted last ∧ c.Stocked ∧
      (s.afterCalls (earlier ++ [last])).handlers = [.writer (.plain true) true] ∧
      (∃ number, (crowdedRoster.afterCalls (earlier ++ [last])).handlers =
          [(number, .writer (.plain true) true)] ∧
        number ≠ 2) ∧
      (∃ id, id.isVoid = false ∧
        (Handler.marked true c r).attribute? Record.correlationName = some id) ∧
      ∃ line, ((Handler.ofFlags false true).handle ⟨2024, 1, 2, 3, 4, 5, 0⟩ c r).1 =
        some (.ok line) := by
  intro s earlier last c r
  have tracks : crowdedRoster.Tracks s := ⟨rfl, by decide⟩
  have accepted : Setup.Accepted last := rfl
  have stocked : c.Stocked := Correlation.stocked_ofLongIds (by decide)
  obtain ⟨handlers, ⟨number, numbered, others⟩, -, meets⟩ := root_handler tracks earlier accepted
  obtain ⟨-, apart⟩ := others [] List.nil_prefix
  have met := meets ⟨2024, 1, 2, 3, 4, 5, 0⟩ c r {}
  exact ⟨tracks, accepted, stocked, handlers,
    ⟨number, numbered, (apart (2, .silent) (by decide)).symm⟩, met.id stocked rfl,
    met.written _ _ rfl rfl fun json => nomatch json⟩

end AdmissionHooks.Log
