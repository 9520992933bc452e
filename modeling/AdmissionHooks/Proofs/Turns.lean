import AdmissionHooks.Proofs.Leftovers

/-!
# Handlers one after the other

Between two handlers the memo and the names in the cluster last, and everything else may change. A
start that fails is not remembered, although its registration may have created the first of its two
configurations. Without faults of deletions this is the only way in which a stop leaves one behind.
-/

namespace AdmissionHooks

inductive Handler where
  | start
  | stop
  deriving DecidableEq

/-- The run of a handler, with what it meets beside the names in the cluster. -/
structure Turn where
  handler : Handler
  sources : ClientSources
  files : FileSystem := {}
  secret : Except Failure SecretData := .error Failure.notFound
  deployment : Except Failure (Option Metadata) := .error Failure.notFound
  createFaults : ByKind (List (Option Failure)) := ⟨[], []⟩
  deleteFaults : ByKind (List (Option Failure)) := ⟨[], []⟩

/-- What lasts from one handler to the next. -/
structure Standing where
  memo : Option Registrar := none
  names : ByKind (List String) := ⟨[], []⟩

/-- The deletions of the turn meet no faults. -/
def Turn.Quiet (t : Turn) : Prop := ∀ k, ∀ fault ∈ t.deleteFaults.get k, fault = none

def Turn.cluster (t : Turn) (names : ByKind (List String)) : Cluster where
  names := names
  secret := t.secret
  deployment := t.deployment
  createFaults := t.createFaults
  deleteFaults := t.deleteFaults

def Turn.handled (settings : Settings) (t : Turn) (s : Standing) : Handled :=
  match t.handler with
  | .start => Controller.startup settings t.sources t.files s.memo (t.cluster s.names)
  | .stop => Controller.cleanup s.memo (t.cluster s.names)

def Handled.standing (h : Handled) : Standing := ⟨h.memo, h.cluster.names⟩

/-- What lasts after some turns, and what their handlers left behind; both lists latest first. -/
def Standing.after (settings : Settings) (start : Standing) :
    List Turn → Standing × List Handled
  | [] => (start, [])
  | turn :: earlier =>
      let before := start.after settings earlier
      let h := turn.handled settings before.1
      (h.standing, h :: before.2)

def Handled.Deletes (h : Handled) : Prop := ∃ k name, Call.delete k name ∈ h.calls

/-- The handler failed when it had sent the second configuration, and so had created the first. -/
def Handled.Strands (h : Handled) : Prop :=
  (∃ body, Call.create .validating body ∈ h.calls) ∧ h.outcome ≠ .ok ()

/-- A handler has stranded a configuration, and none has deleted any since. -/
def Stranded : List Handled → Prop
  | [] => False
  | h :: earlier => h.Strands ∨ (¬ h.Deletes ∧ Stranded earlier)

theorem stranded_cons_of_deletes {h : Handled} (deletes : h.Deletes) (earlier : List Handled) :
    Stranded (h :: earlier) ↔ h.Strands := by
  simp [Stranded, deletes]

/-- What an empty memo leaves unremembered. -/
structure Unremembered (settings : Settings) (s : Standing) (history : List Handled) : Prop where
  mode : ∀ r, s.memo = some r → r.mode = settings.mode
  validating : s.memo = none →
    Kind.validating.configurationName settings.mode ∉ s.names.get .validating
  mutating : s.memo = none →
    (Kind.mutating.configurationName settings.mode ∈ s.names.get .mutating ↔ Stranded history)

theorem Turn.Quiet.deleteFault {t : Turn} (quiet : t.Quiet) (names : ByKind (List String))
    (k : Kind) : (t.cluster names).deleteFault k = none :=
  Cluster.join_head?_of_none (quiet k)

theorem create_not_mem_of_isLoad {calls : List Call} (loads : ∀ call ∈ calls, call.isLoad = true)
    (k : Kind) (body : Configuration) : Call.create k body ∉ calls := by
  intro made
  cases loads _ made

theorem delete_not_mem_of_isLoad {calls : List Call} (loads : ∀ call ∈ calls, call.isLoad = true)
    (k : Kind) (name : String) : Call.delete k name ∉ calls := by
  intro made
  cases loads _ made

namespace Unremembered

variable {settings : Settings} {s : Standing} {history : List Handled}

/-- A handler that leaves memo and names alone, and makes neither creations nor deletions. -/
theorem of_idle {h : Handled} (before : Unremembered settings s history) (same : h.standing = s)
    (creates : ∀ k body, Call.create k body ∉ h.calls)
    (deletes : ∀ k name, Call.delete k name ∉ h.calls) :
    Unremembered settings h.standing (h :: history) := by
  rw [same]
  refine ⟨before.mode, before.validating, fun fresh => (before.mutating fresh).trans ?_⟩
  simp [Stranded, Handled.Strands, Handled.Deletes, creates, deletes]

theorem of_remembered {h : Handled} {r : Registrar} (kept : h.memo = some r)
    (mode : r.mode = settings.mode) (later : List Handled) :
    Unremembered settings h.standing later := by
  have full : h.standing.memo ≠ none := by
    show h.memo ≠ none
    simp [kept]
  refine ⟨?_, fun empty => absurd empty full, fun empty => absurd empty full⟩
  intro r' found
  rw [show h.standing.memo = some r from kept] at found
  cases found
  exact mode

theorem stop (t : Turn) (before : Unremembered settings s history) :
    Unremembered settings (Controller.cleanup s.memo (t.cluster s.names)).standing
      (Controller.cleanup s.memo (t.cluster s.names) :: history) := by
  rcases s with ⟨_ | r, names⟩
  · exact before.of_idle rfl (by simp [Controller.cleanup]) (by simp [Controller.cleanup])
  · exact of_remembered (r := r) rfl (before.mode r rfl) _

theorem start (t : Turn) (quiet : t.Quiet) (before : Unremembered settings s history) :
    Unremembered settings
      (Controller.startup settings t.sources t.files s.memo (t.cluster s.names)).standing
      (Controller.startup settings t.sources t.files s.memo (t.cluster s.names) :: history) := by
  cases prepared : Controller.prepared settings t.sources with
  | error e =>
      obtain ⟨calls, rs, h, loads⟩ :=
        Controller.startup_of_error settings t.sources t.files s.memo (t.cluster s.names) prepared
      rw [h]
      exact before.of_idle rfl (create_not_mem_of_isLoad loads) (delete_not_mem_of_isLoad loads)
  | ok r =>
      obtain ⟨found, rfl⟩ := Controller.eq_ofSettings_of_prepared settings t.sources prepared
      obtain ⟨calls, loads, outcome, cluster, made, memo⟩ :=
        Controller.startup_of_ok settings t.sources t.files s.memo (t.cluster s.names) prepared
      obtain ⟨deletion, leftovers⟩ := Registrar.register_leftovers t.files
        (s := ⟨t.cluster s.names, none⟩) (Registrar.namesService_ofSettings settings found)
        (quiet.deleteFault s.names)
      cases ended : (Controller.registration t.files (t.cluster s.names)
          (Registrar.ofSettings settings found)).outcome with
      | ok u =>
          rw [ended] at memo
          exact of_remembered memo rfl _
      | error e =>
          rw [ended] at memo outcome
          obtain ⟨validating, mutating⟩ := leftovers e ended
          have failed : (Controller.conclude (.error e)).1 ≠ .ok () := by
            simp [Controller.conclude_eq_ok_iff]
          generalize Controller.startup settings t.sources t.files s.memo (t.cluster s.names) = h
            at outcome cluster made memo ⊢
          -- the reset has deleted, so of the history only this handler counts
          have deletes : h.Deletes := by
            unfold Handled.Deletes
            rw [made]
            exact ⟨_, _, List.mem_append_right _ deletion⟩
          refine ⟨fun r kept => before.mode r (memo.symm.trans kept), fun _ => ?_, fun _ => ?_⟩
          · rw [show h.standing.names = h.cluster.names from rfl, cluster]
            exact validating
          · rw [show h.standing.names = h.cluster.names from rfl, cluster,
              stranded_cons_of_deletes deletes]
            unfold Handled.Strands
            rw [outcome, made]
            simp only [List.mem_append, create_not_mem_of_isLoad loads, false_or]
            exact mutating.trans (and_iff_left failed).symm

theorem turn (t : Turn) (quiet : t.Quiet) (before : Unremembered settings s history) :
    Unremembered settings (t.handled settings s).standing (t.handled settings s :: history) := by
  unfold Turn.handled
  cases t.handler with
  | start => exact before.start t quiet
  | stop => exact before.stop t

/-- A run of quiet turns keeps what an empty memo leaves unremembered. -/
theorem after {start : Standing} (fresh : start.memo = none)
    (absent : ∀ k, k.configurationName settings.mode ∉ start.names.get k) {turns : List Turn}
    (quiet : ∀ t ∈ turns, t.Quiet) :
    Unremembered settings (start.after settings turns).1 (start.after settings turns).2 := by
  induction turns with
  | nil =>
      refine ⟨fun r kept => ?_, fun _ => absent .validating, fun _ => ?_⟩
      · rw [Standing.after, fresh] at kept
        cases kept
      · exact iff_of_false (absent .mutating) id
  | cons t earlier ih =>
      -- the head is the latest turn, which meets what the earlier ones have left
      have before := ih fun t' earlier => quiet t' (List.mem_cons_of_mem _ earlier)
      exact before.turn t (quiet t List.mem_cons_self)

end Unremembered

/-- A stop that finds nothing to clean up leaves the second name absent, and the first one present
exactly when a start has stranded it. A stop that finds something leaves neither. -/
theorem stop_leaves (settings : Settings) (start : Standing) (turns : List Turn) (last : Turn)
    (fresh : start.memo = none)
    (absent : ∀ k, k.configurationName settings.mode ∉ start.names.get k)
    (quiet : ∀ t ∈ last :: turns, t.Quiet) (stops : last.handler = .stop) :
    let before := start.after settings turns
    let done := last.handled settings before.1
    Kind.validating.configurationName settings.mode ∉ done.cluster.names.get .validating ∧
    (Kind.mutating.configurationName settings.mode ∈ done.cluster.names.get .mutating ↔
      Controller.nothingRecord ∈ done.records ∧ Stranded before.2) := by
  intro before done
  have kept : Unremembered settings before.1 before.2 :=
    Unremembered.after fresh absent fun t earlier => quiet t (List.mem_cons_of_mem _ earlier)
  have ran : done = Controller.cleanup before.1.memo (last.cluster before.1.names) := by
    simp only [done, Turn.handled, stops]
  rw [ran, Controller.nothingRecord_mem_cleanup_iff]
  cases memo : before.1.memo with
  | none => exact ⟨kept.validating memo, (kept.mutating memo).trans (by simp)⟩
  | some r =>
      obtain ⟨-, -, clean⟩ := r.deregister_of_noFault
        ((quiet last List.mem_cons_self).deleteFault before.1.names)
      unfold Registrar.configurationName at clean
      rw [kept.mode r memo] at clean
      exact ⟨clean .validating, iff_of_false (clean .mutating) (by simp)⟩

/-- A start that fails at its second creation. -/
def strandingTurn : Turn where
  handler := .start
  sources := ⟨.ok { host := some "https://cluster" }, .error (.configuration .null)⟩
  secret := .ok (some [(rootCaSecretKey, "QUJD")])
  createFaults := ⟨[], [some (.api (.int 500) (.str "Internal Server Error") .null)]⟩

def stoppingTurn : Turn where
  handler := .stop
  sources := strandingTurn.sources

theorem strandingTurns_quiet : ∀ t ∈ [stoppingTurn, strandingTurn], t.Quiet := by
  intro t member k fault met
  simp only [List.mem_cons, List.not_mem_nil, or_false] at member
  rcases member with rfl | rfl <;> cases k <;> cases met

theorem strandingTurns_requests : ∀ t ∈ [stoppingTurn, strandingTurn], ∀ k e,
    some e ∈ t.createFaults.get k → e.isRequestFailure = true := by
  intro t member k e met
  simp only [List.mem_cons, List.not_mem_nil, or_false] at member
  rcases member with rfl | rfl
  · cases k <;> cases met
  · cases k with
    | mutating => cases met
    | validating =>
        cases List.mem_singleton.1 met
        rfl

theorem stop_leaves_strandingTurn :
    Stranded (({} : Standing).after (Settings.ofValues Setting.default) [strandingTurn]).2 := by
  obtain ⟨-, left⟩ := stop_leaves (Settings.ofValues Setting.default) {} [strandingTurn]
    stoppingTurn rfl (by intro k; cases k <;> decide) strandingTurns_quiet rfl
  exact (left.1 (by decide)).2

/-- Cleaning up nothing does not mean that there is nothing left. -/
theorem not_stop_cleans :
    ¬ ∀ (settings : Settings) (start : Standing) (turns : List Turn) (last : Turn),
      start.memo = none → (∀ k, k.configurationName settings.mode ∉ start.names.get k) →
      (∀ t ∈ last :: turns, t.Quiet) →
      (∀ t ∈ last :: turns, ∀ k e, some e ∈ t.createFaults.get k → e.isRequestFailure = true) →
      last.handler = .stop →
      let done := last.handled settings (start.after settings turns).1
      Controller.nothingRecord ∈ done.records →
        ∀ k, k.configurationName settings.mode ∉ done.cluster.names.get k := by
  intro cleans
  have gone := cleans (Settings.ofValues Setting.default) {} [strandingTurn] stoppingTurn rfl
    (by intro k; cases k <;> decide) strandingTurns_quiet strandingTurns_requests rfl
    ((Controller.nothingRecord_mem_cleanup_iff _ _).2 rfl) .mutating
  exact gone (by decide)

end AdmissionHooks
