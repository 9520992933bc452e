import AdmissionHooks.Proofs.Startup

/-!
# What a failed registration leaves

A registration that fails has reset the two names, and leaves the first of them there when it fails
at the second. What a stop tells depends on the memo alone.
-/

namespace AdmissionHooks

namespace Registrar

variable {r : Registrar}

/-- A reset without faults leaves neither of its names. -/
theorem deregister_of_noFault {c : Cluster} (noFault : ∀ k, c.deleteFault k = none) :
    (∃ reports, (r.deregister.run c).outcome = .ok reports) ∧
      Call.delete .mutating (r.configurationName .mutating) ∈ (r.deregister.run c).calls ∧
      ∀ k, r.configurationName k ∉ (r.deregister.run c).state.names.get k := by
  have done := r.outcome_deregister_of_noFault noFault
  refine ⟨⟨_, done⟩, by simp [(r.state_deregister_of_ok done).2], fun k => ?_⟩
  simp [r.mem_deregister_of_noFault noFault]

/-- Placing a configuration that is absent sends it once, and it is there if that ended well. -/
theorem place_leftovers (named : r.NamesService) (k : Kind) {bundle : Bytes} (given : bundle ≠ [])
    (owner : OwnerResolution) {s : Site}
    (absent : r.configurationName k ∉ s.cluster.names.get k) :
    (∃ body, ((r.place k bundle owner).run s).calls = [.create k body]) ∧
    (r.configurationName k ∈ ((r.place k bundle owner).run s).state.cluster.names.get k ↔
      ((r.place k bundle owner).run s).outcome = .ok ()) ∧
    ∀ l name, l ≠ k →
      (name ∈ ((r.place k bundle owner).run s).state.cluster.names.get l ↔
        name ∈ s.cluster.names.get l) := by
  obtain ⟨outcome, state, sent⟩ := place_of_namesService named k given owner s
  refine ⟨sent, ?_, ?_⟩
  · rw [outcome, state, creation_eq_ok_iff, Cluster.mem_created]
    simp [absent]
  · intro l name other
    rw [state, Cluster.mem_created]
    simp [other]

/-- A registration that fails leaves the second configuration absent, and the first one present
exactly where it has gone on to the second. -/
theorem register_leftovers (files : FileSystem) {s : Site} (named : r.NamesService)
    (noFault : ∀ k, s.cluster.deleteFault k = none) :
    Call.delete .mutating (r.configurationName .mutating) ∈ ((r.register files).run s).calls ∧
    ∀ e, ((r.register files).run s).outcome = .error e →
      r.configurationName .validating ∉
          ((r.register files).run s).state.cluster.names.get .validating ∧
        (r.configurationName .mutating ∈
            ((r.register files).run s).state.cluster.names.get .mutating ↔
          ∃ body, Call.create .validating body ∈ ((r.register files).run s).calls) := by
  obtain ⟨⟨reports, done⟩, deletion, clean⟩ := r.deregister_of_noFault noFault
  have absent (k : Kind) : r.configurationName k ∉ (r.resetSite s).cluster.names.get k := clean k
  have noReset (body : Configuration) := r.create_not_mem_reset s .validating body
  have noLookup (body : Configuration) := r.create_not_mem_lookup files s .validating body
  have noOwnership (body : Configuration) := r.create_not_mem_ownership s .validating body
  have course := r.register_course files s
  generalize (r.register files).run s = result at course ⊢
  cases course with
  | resetFails reset => rw [Registrar.reset, done] at reset; cases reset
  | lookupFails reset lookup =>
      refine ⟨List.mem_append_left _ deletion, fun _ _ => ⟨absent .validating, ?_⟩⟩
      simp only [List.mem_append, noReset, noLookup, or_self, exists_false, iff_false]
      exact absent .mutating
  | ownershipFails reset lookup ownership =>
      refine ⟨List.mem_append_left _ deletion, fun _ _ => ⟨absent .validating, ?_⟩⟩
      simp only [List.mem_append, noReset, noLookup, noOwnership, or_self, exists_false, iff_false]
      exact absent .mutating
  | @firstFails _ bundle owner e reset lookup ownership failed =>
      have given := r.ne_nil_of_lookup files s lookup
      obtain ⟨⟨body, sent⟩, present, others⟩ :=
        place_leftovers named .mutating given owner (absent .mutating)
      unfold first at failed ⊢
      refine ⟨List.mem_append_left _ deletion, fun _ _ => ⟨?_, ?_⟩⟩
      · rw [others .validating _ (by decide)]
        exact absent .validating
      · rw [present, failed]
        refine iff_of_false (by simp) ?_
        rintro ⟨other, made⟩
        simp only [List.mem_append, noReset, noLookup, noOwnership, sent, List.mem_singleton,
          false_or] at made
        cases made
  | @secondFails _ bundle owner e reset lookup ownership passed failed =>
      have given := r.ne_nil_of_lookup files s lookup
      obtain ⟨-, first, others⟩ :=
        place_leftovers named .mutating given owner (absent .mutating)
      -- the second name has been absent since the reset, so its creation meets no conflict
      have still : r.configurationName .validating ∉
          (r.first s bundle owner).state.cluster.names.get .validating := by
        unfold Registrar.first
        rw [others .validating _ (by decide)]
        exact absent .validating
      obtain ⟨⟨body, sent⟩, second, kept⟩ :=
        place_leftovers named .validating given owner still
      unfold Registrar.second at failed ⊢
      refine ⟨List.mem_append_left _ deletion, fun _ _ => ⟨?_, ?_⟩⟩
      · rw [second, failed]
        simp
      · rw [kept .mutating _ (by decide)]
        exact iff_of_true (first.2 passed) ⟨body, by simp [sent]⟩
  | completes => exact ⟨List.mem_append_left _ deletion, fun _ failed => by cases failed⟩

/-! ## What a stop tells -/

theorem logger_of_deregister (c : Cluster) :
    ∀ record ∈ (r.deregister.run c).records, record.logger = logger := by
  intro record told
  unfold deregister at told
  rcases Action.run_bind_cases (r.remove .mutating) _ c with ⟨e, -, h⟩ | ⟨first, -, h⟩
  · rw [h] at told
    exact r.logger_of_remove .mutating c record told
  rw [h, Action.records_join] at told
  rcases List.mem_append.1 told with told | told
  · exact r.logger_of_remove .mutating c record told
  rcases Action.run_bind_cases (r.remove .validating) _ ((r.remove .mutating).run c).state with
    ⟨e, -, h⟩ | ⟨second, -, h⟩
  · rw [h] at told
    exact r.logger_of_remove .validating _ record told
  · rw [h, Action.records_join] at told
    exact r.logger_of_remove .validating _ record (by simpa using told)

end Registrar

namespace Controller

/-- A stop tells that there is nothing to clean up exactly when the memo is empty. -/
theorem nothingRecord_mem_cleanup_iff (memo : Option Registrar) (c : Cluster) :
    nothingRecord ∈ (cleanup memo c).records ↔ memo = none := by
  cases memo with
  | none => simp [cleanup, Handled.records, Stretch.records]
  | some r =>
      refine iff_of_false ?_ (by simp)
      intro told
      simp only [cleanup, Handled.records, Stretch.records, List.flatMap_cons, List.flatMap_nil,
        List.mem_append, List.append_nil, List.mem_singleton] at told
      rcases told with opening | during | closing
      · exact absurd (congrArg Log.Record.message opening) (by decide)
      · have other := Registrar.logger_of_deregister c nothingRecord during
        exact absurd other (by decide)
      · cases ended : (r.deregister.run c).outcome with
        | error e =>
            rw [ended] at closing
            cases closing
        | ok reports =>
            rw [ended] at closing
            cases reports with
            | nil =>
                have same := List.mem_singleton.1 closing
                exact absurd (congrArg Log.Record.message same) (by decide)
            | cons report reports =>
                obtain ⟨e, -, same⟩ := List.mem_map.1 closing
                exact absurd (congrArg Log.Record.level same)
                  (show Log.Level.warning ≠ Log.Level.info by decide)

end Controller

end AdmissionHooks
