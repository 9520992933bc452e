import AdmissionHooks.Proofs.Settings.Reading
import Mathlib.Data.List.Induction

/-!
# Where settings come from

The value of a setting, told from what its sources list. Among entries a spelling of a name keeps the
place where it first came up, and takes the value that it was given last; of several spellings the
one with the last place stands for the name. An entry counts that stands for a setting which no
higher source has, and one that such an entry refers to. No other does, whatever its value.
-/

namespace AdmissionHooks

theorem Text.sameName_trans {a b c : String} (first : sameName a b = true)
    (second : sameName b c = true) : sameName a c = true := by
  unfold sameName at first second ⊢
  exact beq_iff_eq.2 ((beq_iff_eq.1 first).trans (beq_iff_eq.1 second))

namespace Variables

variable {α : Type}

/-- The spelling that stands for a name: of those that come up among some names, each at the place
where it first does, the last. -/
def spelling? (names : List String) (name : String) : Option String :=
  (names.eraseDups.filter (Text.sameName · name)).getLast?

/-- The value that a spelling was given last. -/
def final? (entries : List (String × α)) (spelling : String) : Option α :=
  entries.reverse.lookup spelling

/-- The value that stands for a name. -/
def standing? (entries : List (String × α)) (name : String) : Option α :=
  (spelling? (entries.map Prod.fst) name).bind (final? entries)

theorem ofList_append_singleton (entries : List (String × α)) (e : String × α) :
    ofList (entries ++ [e]) = put e.1 e.2 (ofList entries) := by
  simp [ofList]

/-! ## Names and values -/

theorem names_put (name : String) (a : α) (vars : List (String × α)) :
    (put name a vars).map Prod.fst =
      if name ∈ vars.map Prod.fst then vars.map Prod.fst else vars.map Prod.fst ++ [name] := by
  induction vars with
  | nil => rfl
  | cons e rest ih =>
      obtain ⟨first, b⟩ := e
      by_cases same : first = name
      · simp [put, same]
      · by_cases later : name ∈ rest.map Prod.fst
        · simp only [later, if_true] at ih
          simp [put, same, ih, later]
        · simp only [later, if_false] at ih
          simp [put, same, Ne.symm same, ih, later]

theorem eraseDups_append_singleton (names : List String) (name : String) :
    (names ++ [name]).eraseDups =
      if name ∈ names then names.eraseDups else names.eraseDups ++ [name] := by
  rw [List.eraseDups_append]
  by_cases known : name ∈ names <;> simp [List.removeAll, List.eraseDups_cons, known]

/-- The variables stand where their names first came up. -/
theorem names_ofList (entries : List (String × α)) :
    (ofList entries).map Prod.fst = (entries.map Prod.fst).eraseDups := by
  induction entries using List.reverseRecOn with
  | nil => rfl
  | append_singleton entries e ih =>
      rw [ofList_append_singleton, names_put, ih, List.map_append, List.map_singleton,
        eraseDups_append_singleton]
      simp only [List.mem_eraseDups]

theorem nodup_put (name : String) (a : α) {vars : List (String × α)}
    (nodup : (vars.map Prod.fst).Nodup) : ((put name a vars).map Prod.fst).Nodup := by
  rw [names_put]
  split
  next => exact nodup
  next fresh =>
    refine List.nodup_append.2 ⟨nodup, List.pairwise_singleton _ _, ?_⟩
    intro other member last single
    rw [List.mem_singleton.1 single]
    rintro rfl
    exact fresh member

theorem nodup_ofList (entries : List (String × α)) :
    ((ofList entries).map Prod.fst).Nodup := by
  induction entries using List.reverseRecOn with
  | nil => exact List.nodup_nil
  | append_singleton entries e ih =>
      rw [ofList_append_singleton]
      exact nodup_put e.1 e.2 ih

/-- A variable has the value that it was given last. -/
theorem lookup_ofList (entries : List (String × α)) (name : String) :
    (ofList entries).lookup name = final? entries name := by
  induction entries using List.reverseRecOn with
  | nil => rfl
  | append_singleton entries e ih =>
      obtain ⟨other, a⟩ := e
      unfold final? at ih ⊢
      rw [ofList_append_singleton, List.reverse_append, List.reverse_singleton,
        List.singleton_append, List.lookup_cons]
      by_cases same : name = other
      · rw [same, lookup_put_self, BEq.rfl]
      · rw [lookup_put_of_ne a _ same, beq_eq_false_iff_ne.2 same]
        exact ih

theorem lookup_of_mem {vars : List (String × α)} (nodup : (vars.map Prod.fst).Nodup)
    {e : String × α} (member : e ∈ vars) : vars.lookup e.1 = some e.2 := by
  induction vars with
  | nil => cases member
  | cons first rest ih =>
      obtain ⟨fresh, nodup⟩ := List.nodup_cons.1 nodup
      rcases List.mem_cons.1 member with rfl | later
      · rw [List.lookup_cons, BEq.rfl]
      · have other : e.1 ≠ first.1 := by
          intro same
          exact fresh (same ▸ List.mem_map_of_mem later)
        rw [List.lookup_cons, beq_eq_false_iff_ne.2 other]
        exact ih nodup later

/-- The last variable of a name has the value that stands for it among the entries. -/
theorem last?_ofList (entries : List (String × α)) (name : String) :
    last? (ofList entries) name = standing? entries name := by
  unfold standing? spelling? last?
  rw [← names_ofList, List.getLast?_filter, ← List.map_reverse, List.find?_map]
  rw [show ((Text.sameName · name) ∘ Prod.fst : String × α → Bool) =
    fun e => Text.sameName e.1 name from rfl]
  cases found : (ofList entries).reverse.find? fun e => Text.sameName e.1 name with
  | none => rfl
  | some e =>
      have member := List.mem_reverse.1 (List.mem_of_find?_eq_some found)
      have value := lookup_of_mem (nodup_ofList entries) member
      rw [lookup_ofList] at value
      exact value.symm

theorem spelling?_eq_none_iff (names : List String) (name : String) :
    spelling? names name = none ↔ ∀ other ∈ names, Text.sameName other name = false := by
  unfold spelling?
  rw [List.getLast?_eq_none_iff, List.filter_eq_nil_iff]
  simp

theorem final?_eq_none_iff (entries : List (String × α)) (spelling : String) :
    final? entries spelling = none ↔ spelling ∉ entries.map Prod.fst := by
  unfold final?
  rw [List.lookup_eq_none_iff, List.mem_map]
  simp only [List.mem_reverse, bne_iff_ne, ne_eq, not_exists, not_and]
  exact ⟨fun others e member same => others e member same.symm,
    fun others e member same => others e member same.symm⟩

/-- Nothing stands for a name that no entry has. -/
theorem standing?_eq_none_iff (entries : List (String × α)) (name : String) :
    standing? entries name = none ↔ ∀ e ∈ entries, Text.sameName e.1 name = false := by
  have names : (∀ e ∈ entries, Text.sameName e.1 name = false) ↔
      spelling? (entries.map Prod.fst) name = none := by
    rw [spelling?_eq_none_iff, List.forall_mem_map]
  rw [names]
  unfold standing?
  cases found : spelling? (entries.map Prod.fst) name with
  | none => simp
  | some spelling =>
      have member := List.mem_of_getLast? found
      have known := List.mem_eraseDups.1 (List.mem_filter.1 member).1
      simp only [Option.bind_some, final?_eq_none_iff, reduceCtorEq, iff_false, not_not]
      exact known

/-! ## Entries that do not count -/

section

variable {p : String → Bool}

theorem filter_put (name : String) (a : α) (vars : List (String × α)) :
    (put name a vars).filter (fun e => p e.1) =
      if p name then put name a (vars.filter fun e => p e.1) else vars.filter fun e => p e.1 := by
  induction vars with
  | nil => by_cases counts : p name = true <;> simp [put, counts]
  | cons e rest ih =>
      obtain ⟨first, b⟩ := e
      by_cases same : first = name
      · subst same
        by_cases counts : p first = true <;> simp [put, counts]
      · by_cases counts : p first = true
        · by_cases other : p name = true <;> simp_all [put]
        · by_cases other : p name = true <;> simp_all [put]

theorem filter_ofList (entries : List (String × α)) :
    (ofList entries).filter (fun e => p e.1) = ofList (entries.filter fun e => p e.1) := by
  induction entries using List.reverseRecOn with
  | nil => rfl
  | append_singleton entries e ih =>
      rw [ofList_append_singleton, filter_put, ih, List.filter_append]
      by_cases counts : p e.1 = true
      · simp only [List.filter_cons, counts, if_true, List.filter_nil, ofList_append_singleton]
      · simp only [List.filter_cons, counts, if_false, List.filter_nil, List.append_nil,
          Bool.false_eq_true]

/-- What stands for a name does not depend on entries of other names. -/
theorem standing?_filter (entries : List (String × α)) {name : String}
    (counts : ∀ other, Text.sameName other name = true → p other = true) :
    standing? (entries.filter fun e => p e.1) name = standing? entries name := by
  rw [← last?_ofList, ← last?_ofList, ← filter_ofList]
  unfold last?
  rw [← List.filter_reverse, List.find?_filter]
  congr 2
  funext e
  by_cases same : Text.sameName e.1 name = true
  · simp [same, counts e.1 same]
  · simp [same]

theorem lookup_filter (entries : List (String × α)) {name : String} (counts : p name = true) :
    (entries.filter fun e => p e.1).lookup name = entries.lookup name := by
  induction entries with
  | nil => rfl
  | cons e rest ih =>
      obtain ⟨first, a⟩ := e
      by_cases same : name = first
      · subst same
        simp only [List.filter_cons, counts, if_true, List.lookup_cons, BEq.rfl]
      · have other := beq_eq_false_iff_ne.2 same
        by_cases kept : p first = true
        · simp only [List.filter_cons, kept, if_true, List.lookup_cons, other, ih]
        · simp only [List.filter_cons, kept, if_false, List.lookup_cons, other, ih,
            Bool.false_eq_true]

theorem final?_filter (entries : List (String × α)) {name : String} (counts : p name = true) :
    final? (entries.filter fun e => p e.1) name = final? entries name := by
  unfold final?
  rw [← List.filter_reverse, lookup_filter _ counts]

end

/-! ## Entries that others overtake -/

/-- A later name takes the place of a name: it is the same spelling, or another one of the same name
that has not come up before. -/
def Overtaken (before : List String) (name : String) (after : List String) : Prop :=
  ∃ other ∈ after, Text.sameName other name = true ∧ (other = name ∨ other ∉ before)

section

variable (before after : List (String × α)) (name : String) (a b : α)

theorem final?_middle (spelling : String) :
    final? (before ++ (name, a) :: after) spelling =
      (final? after spelling).or
        (if spelling = name then some a else final? before spelling) := by
  unfold final?
  rw [List.reverse_append, List.reverse_cons, List.append_assoc, List.lookup_append,
    List.singleton_append, List.lookup_cons]
  by_cases same : spelling = name
  · simp [same]
  · simp [same, beq_eq_false_iff_ne.2 same]

theorem final?_replaced {spelling : String} (other : spelling ≠ name) :
    final? (before ++ (name, a) :: after) spelling =
      final? (before ++ (name, b) :: after) spelling := by
  rw [final?_middle, final?_middle, if_neg other, if_neg other]

theorem final?_rewritten (later : name ∈ after.map Prod.fst) (spelling : String) :
    final? (before ++ (name, a) :: after) spelling =
      final? (before ++ (name, b) :: after) spelling := by
  rw [final?_middle, final?_middle]
  by_cases same : spelling = name
  · subst same
    cases found : final? after spelling with
    | none => exact absurd later ((final?_eq_none_iff after spelling).1 found)
    | some value => rfl
  · rw [if_neg same, if_neg same]

/-- A spelling does not stand for its name if another comes up first behind it. -/
theorem ne_of_spelling? {names later : List String} {name other fresh standing : String}
    (found : spelling? (names ++ name :: later) other = some standing)
    (known : Text.sameName fresh other = true) (behind : fresh ∈ later)
    (new : fresh ∉ names ++ [name]) : standing ≠ name := by
  rintro rfl
  -- the fresh spelling first comes up behind the name, so the last place is not the name's
  unfold spelling? at found
  rw [← List.singleton_append, ← List.append_assoc, List.eraseDups_append, List.filter_append,
    List.getLast?_append] at found
  have member : fresh ∈ (later.removeAll (names ++ [standing])).eraseDups.filter
      (Text.sameName · other) := by
    simp only [List.mem_filter, List.mem_eraseDups, List.removeAll, known, and_true, behind,
      true_and]
    simpa using new
  cases last : ((later.removeAll (names ++ [standing])).eraseDups.filter
      (Text.sameName · other)).getLast? with
  | none =>
      rw [List.getLast?_eq_none_iff.1 last] at member
      cases member
  | some found' =>
      rw [last, Option.some_or] at found
      cases found
      have inside := (List.mem_filter.1 (List.mem_of_getLast? last)).1
      simp [List.removeAll] at inside

/-- The value of an entry that another has overtaken does not count. -/
theorem standing?_overtaken
    (overtaken : Overtaken (before.map Prod.fst) name (after.map Prod.fst)) (other : String) :
    standing? (before ++ (name, a) :: after) other =
      standing? (before ++ (name, b) :: after) other := by
  obtain ⟨later, member, same, place⟩ := overtaken
  unfold standing?
  rw [List.map_append, List.map_append, List.map_cons, List.map_cons]
  cases found : spelling? (before.map Prod.fst ++ name :: after.map Prod.fst) other with
  | none => rfl
  | some spelling =>
      simp only [Option.bind_some]
      by_cases own : spelling = name
      · subst own
        by_cases respelled : later = spelling
        · exact final?_rewritten before after _ a b (respelled ▸ member) _
        · -- the overtaken spelling does not stand
          have known := (List.mem_filter.1 (List.mem_of_getLast? found)).2
          have fresh : later ∉ before.map Prod.fst ++ [spelling] := by
            simpa [respelled] using place.resolve_left respelled
          exact absurd rfl (ne_of_spelling? found (Text.sameName_trans same known) member fresh)
      · exact final?_replaced before after name a b own

end

end Variables

end AdmissionHooks
