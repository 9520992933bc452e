import AdmissionHooks.Log.Setup

/-!
# Which records are written

The loggers above a logger have names that begin its own. None of the foreign loggers stands above
those of the registration, so the level of the root decides alone which of their records are written.
-/

namespace AdmissionHooks.Log

namespace Lineage

theorem suffix_of_mem_namesAbove {reversed above : List Char} (member : above ∈ namesAbove reversed) :
    above <:+ reversed := by
  fun_induction namesAbove reversed with
  | case1 => cases member
  | case2 => cases member
  | case3 reversed dot c rest split ih =>
      have whole : c :: rest <:+ reversed := by
        refine (List.suffix_cons dot (c :: rest)).trans ?_
        rw [← split]
        exact List.dropWhile_suffix _
      rcases List.mem_cons.1 member with rfl | further
      · exact whole
      · exact (ih further).trans ((List.suffix_cons c rest).trans whole)

theorem prefix_of_parent? {known : List String} {name above : String}
    (found : parent? known name = some above) : above.toList <+: name.toList := by
  obtain ⟨reversed, member, rfl⟩ := List.mem_map.1 (List.mem_of_find?_eq_some found)
  have shorter := List.reverse_prefix.2 (suffix_of_mem_namesAbove member)
  rw [List.reverse_reverse] at shorter
  rwa [String.toList_ofList]

theorem prefix_of_mem_climb {known : List String} {count : Nat} {name above : String}
    (member : above ∈ climb known count name) : above.toList <+: name.toList := by
  induction count generalizing name with
  | zero =>
      obtain rfl := List.mem_singleton.1 member
      exact List.prefix_rfl
  | succ count ih =>
      rcases List.mem_cons.1 member with rfl | further
      · exact List.prefix_rfl
      · cases parent : parent? known name with
        | none =>
            rw [parent] at further
            cases further
        | some between =>
            rw [parent] at further
            exact (ih further).trans (prefix_of_parent? parent)

end Lineage

namespace Setup

/-- The root lets everything pass that is meant for debugging, and only the foreign loggers have
levels of their own. -/
structure Debugging (s : Setup) : Prop where
  level : s.level = Level.debug
  foreignLevels : ∀ own ∈ s.foreignLevels, own.1 ∈ foreign

theorem debugging_configure (s : Setup) (json correlated : Bool) :
    (s.configure (.ok Level.debug) json correlated).2.Debugging where
  level := rfl
  foreignLevels own given := by
    obtain ⟨name, member, rfl⟩ := List.mem_map.1 given
    exact member

variable {s : Setup}

theorem Debugging.levelOf (debugging : s.Debugging) {logger : String}
    (own : ∀ name ∈ foreign, ¬ name.toList <+: logger.toList) : s.levelOf logger = Level.debug := by
  have none : (lineage s.known logger).findSome? s.ownLevel? = none := by
    rw [List.findSome?_eq_none_iff]
    intro above member
    have begins : above.toList <+: logger.toList := Lineage.prefix_of_mem_climb member
    have absent : s.foreignLevels.lookup above = none := by
      rw [List.lookup_eq_none_iff]
      intro level given
      rw [bne_iff_ne]
      rintro rfl
      exact own _ (debugging.foreignLevels level given) begins
    unfold ownLevel?
    rw [absent]
    rfl
  unfold Setup.levelOf
  rw [none, Option.getD_none, debugging.level]

theorem Debugging.passes (debugging : s.Debugging) {r : Record}
    (own : ∀ name ∈ foreign, ¬ name.toList <+: r.logger.toList) (level : Level.debug ≤ r.level) :
    s.passes r = true := by
  unfold Setup.passes
  rw [debugging.levelOf own]
  have positive : 0 < r.level := Int.lt_of_lt_of_le (by decide) level
  simp [positive, level]

end Setup

end AdmissionHooks.Log
