import AdmissionHooks.Files

/-!
# Putting a file and opening it

What is put into a tree under a path is what opening the path gives, wherever the path starts and
whatever stood on its way before. Only the places on the way to the file are touched.
-/

namespace AdmissionHooks.Files

/-- A name that leads one directory further down. -/
def Downward (name : String) : Prop := name ≠ "." ∧ name ≠ ".."

/-- A path to a file, of names that lead downward and are not too long for the system. -/
structure Plain (path : String) : Prop where
  nonempty : path ≠ ""
  closed : path.toList.getLast? ≠ some '/'
  short : path.utf8ByteSize ≤ longestPath
  downward : ∀ name ∈ pathNames path, Downward name
  names : ∀ name ∈ pathNames path, name.utf8ByteSize ≤ longestName

instance (name : String) : Decidable (Downward name) := inferInstanceAs (Decidable (_ ∧ _))

/-! ## Names -/

theorem splitPath_slash (cs : List Char) : splitPath ('/' :: cs) = [] :: splitPath cs := rfl

theorem exists_splitPath_of_ne {c : Char} (cs : List Char) (other : c ≠ '/') :
    ∃ part parts, splitPath (c :: cs) = (c :: part) :: parts := by
  rw [splitPath, List.foldr_cons, if_neg other]
  split
  · exact ⟨[], [], rfl⟩
  · exact ⟨_, _, rfl⟩

theorem exists_part {cs : List Char} (other : ∃ c ∈ cs, c ≠ '/') :
    ∃ part ∈ splitPath cs, part ≠ [] := by
  induction cs with
  | nil => simp at other
  | cons c cs ih =>
      by_cases slash : c = '/'
      · subst slash
        have later : ∃ d ∈ cs, d ≠ '/' := by simpa using other
        obtain ⟨part, listed, nonempty⟩ := ih later
        rw [splitPath_slash]
        exact ⟨part, List.mem_cons_of_mem _ listed, nonempty⟩
      · obtain ⟨part, parts, split⟩ := exists_splitPath_of_ne cs slash
        rw [split]
        exact ⟨c :: part, List.mem_cons_self, List.cons_ne_nil _ _⟩

theorem Plain.pathNames_ne_nil {path : String} (plain : Plain path) : pathNames path ≠ [] := by
  have some : path.toList ≠ [] := fun none => plain.nonempty (by simpa using none)
  have last : path.toList.getLast some ≠ '/' := fun slash =>
    plain.closed (by rw [List.getLast?_eq_some_getLast some, slash])
  obtain ⟨part, listed, nonempty⟩ := exists_part ⟨_, List.getLast_mem some, last⟩
  have kept : String.ofList part ∈ pathNames path :=
    List.mem_map_of_mem (List.mem_filter.2 ⟨listed, by simpa using nonempty⟩)
  exact List.ne_nil_of_mem kept

theorem Plain.downward_dropLast {path : String} (plain : Plain path) :
    ∀ name ∈ (pathNames path).dropLast, Downward name :=
  fun name listed => plain.downward name (List.dropLast_subset _ listed)

/-! ## Directories -/

section

variable (t : Files) {here place names : List String}

@[simp] theorem workingDirectory_makeDirectories :
    (t.makeDirectories here names).1.workingDirectory = t.workingDirectory := by
  induction names generalizing t here with
  | nil => rfl
  | cons name names ih =>
      unfold makeDirectories
      split
      · exact ih t
      split
      · exact ih t
      · exact ih (t.enter (here ++ [name]) (some .directory))

theorem makeDirectories_cons {name : String} (down : Downward name) :
    t.makeDirectories here (name :: names) =
      (t.enter (here ++ [name]) (some .directory)).makeDirectories (here ++ [name]) names := by
  obtain ⟨single, double⟩ := down
  rw [makeDirectories, if_neg single, if_neg double]

theorem makeDirectories_snd (down : ∀ name ∈ names, Downward name) :
    (t.makeDirectories here names).2 = here ++ names := by
  induction names generalizing t here with
  | nil => simp [makeDirectories]
  | cons name names ih =>
      obtain ⟨first, later⟩ := List.forall_mem_cons.1 down
      rw [t.makeDirectories_cons first, ih _ later, List.append_assoc]
      rfl

/-- A place that is not on the way stays as it was. -/
theorem node?_makeDirectories_of_off (down : ∀ name ∈ names, Downward name)
    (off : ∀ way, way ≠ [] → way <+: names → place ≠ here ++ way) :
    (t.makeDirectories here names).1.node? place = t.node? place := by
  induction names generalizing t here with
  | nil => rfl
  | cons name names ih =>
      obtain ⟨first, later⟩ := List.forall_mem_cons.1 down
      have different : place ≠ here ++ [name] :=
        off [name] (by simp) (List.cons_prefix_cons.2 ⟨rfl, List.nil_prefix⟩)
      rw [t.makeDirectories_cons first, ih _ later, t.node?_enter_of_ne _ different]
      intro way _ onWay
      rw [← List.append_cons]
      exact off (name :: way) (List.cons_ne_nil _ _) (List.cons_prefix_cons.2 ⟨rfl, onWay⟩)

/-- Every place on the way is a directory afterwards. -/
theorem node?_makeDirectories (down : ∀ name ∈ names, Downward name) {way : List String}
    (nonempty : way ≠ []) (onWay : way <+: names) :
    (t.makeDirectories here names).1.node? (here ++ way) = some .directory := by
  induction names generalizing t here way with
  | nil => exact absurd (List.prefix_nil.1 onWay) nonempty
  | cons name names ih =>
      obtain ⟨first, later⟩ := List.forall_mem_cons.1 down
      obtain ⟨head, way, rfl⟩ := List.exists_cons_of_ne_nil nonempty
      obtain ⟨rfl, further⟩ := List.cons_prefix_cons.1 onWay
      have below : here ++ head :: way = here ++ [head] ++ way := List.append_cons here head way
      rw [t.makeDirectories_cons first, below]
      by_cases ended : way = []
      · subst ended
        rw [List.append_nil, node?_makeDirectories_of_off _ later, node?_enter_self]
        intro way some _ same
        exact some (List.self_eq_append_right.1 same)
      · exact ih _ later ended further

/-- A walk down a way of directories ends at the file behind them. -/
theorem walk_eq_file {last : String} {content : Bytes}
    (down : ∀ name ∈ names ++ [last], Downward name)
    (short : ∀ name ∈ names ++ [last], name.utf8ByteSize ≤ longestName)
    (way : ∀ way, way ≠ [] → way <+: names → t.node? (here ++ way) = some .directory)
    (file : t.node? (here ++ names ++ [last]) = some (.file content)) :
    t.walk (.directory here) (names ++ [last]) = .ok (.file content) := by
  induction names generalizing here with
  | nil =>
      obtain ⟨single, double⟩ := down last (by simp)
      have fits : ¬ longestName < last.utf8ByteSize := Nat.not_lt.2 (short last (by simp))
      rw [List.append_nil] at file
      simp [walk, step, single, double, fits, file, bind, Except.bind]
  | cons name names ih =>
      obtain ⟨⟨single, double⟩, downLater⟩ := List.forall_mem_cons.1 down
      obtain ⟨first, shortLater⟩ := List.forall_mem_cons.1 short
      have fits : ¬ longestName < name.utf8ByteSize := Nat.not_lt.2 first
      have entered : t.node? (here ++ [name]) = some .directory :=
        way [name] (by simp) (by simp)
      have rest : t.walk (.directory (here ++ [name])) (names ++ [last]) = .ok (.file content) := by
        apply ih downLater shortLater
        · intro later nonempty onWay
          have found := way (name :: later) (by simp) (List.cons_prefix_cons.2 ⟨rfl, onWay⟩)
          simpa using found
        · simpa using file
      simp [walk, step, single, double, fits, entered, rest, bind, Except.bind]

end

/-! ## Files -/

section

variable (t : Files) {path : String} (content : Bytes)

@[simp] theorem start_put : (t.put path content).start path = t.start path := by
  simp [start, put]

theorem put_eq (plain : Plain path) :
    t.put path content =
      (t.makeDirectories (t.start path) (pathNames path).dropLast).1.enter
        (t.start path ++ pathNames path) (some (.file content)) := by
  have nonempty := plain.pathNames_ne_nil
  have place : (pathNames path).dropLast ++ (pathNames path).getLast?.toList = pathNames path := by
    rw [List.getLast?_eq_some_getLast nonempty]
    exact List.dropLast_concat_getLast nonempty
  rw [put, t.makeDirectories_snd plain.downward_dropLast, List.append_assoc, place]

/-- A file that was put is read back, from the root or from the working directory. -/
theorem open?_put (plain : Plain path) : (t.put path content).open? path = .ok content := by
  have nonempty := plain.pathNames_ne_nil
  have split := List.dropLast_concat_getLast nonempty
  have walked : (t.put path content).walk (.directory (t.start path)) (pathNames path) =
      .ok (.file content) := by
    rw [t.put_eq content plain, ← split, List.dropLast_concat]
    apply walk_eq_file
    · rw [split]
      exact plain.downward
    · rw [split]
      exact plain.names
    · intro way some onWay
      have shorter : way.length < (pathNames path).length := by
        have bound := onWay.length_le
        have last := List.length_pos_iff.2 nonempty
        rw [List.length_dropLast] at bound
        omega
      have different : t.start path ++ way ≠ t.start path ++ pathNames path := by
        intro same
        rw [List.append_cancel_left same] at shorter
        omega
      rw [split, node?_enter_of_ne _ _ different]
      exact t.node?_makeDirectories plain.downward_dropLast some onWay
    · rw [List.append_assoc, split, node?_enter_self]
  have short : ¬ longestPath < path.utf8ByteSize := Nat.not_lt.2 plain.short
  have given : ¬ path.isEmpty = true := by simpa using plain.nonempty
  rw [open?, if_neg short, if_neg given, start_put, walked]
  exact if_neg plain.closed

/-- Putting a file leaves every place alone that is not on the way to it. -/
theorem node?_put_of_not_prefix (plain : Plain path) {place : List String}
    (apart : ¬ place <+: t.start path ++ pathNames path) :
    (t.put path content).node? place = t.node? place := by
  have different : place ≠ t.start path ++ pathNames path := by
    intro same
    rw [same] at apart
    exact apart (List.prefix_refl _)
  rw [t.put_eq content plain, node?_enter_of_ne _ _ different]
  apply t.node?_makeDirectories_of_off plain.downward_dropLast
  intro way _ onWay same
  rw [same] at apart
  exact apart ((List.prefix_append_right_inj _).2 (onWay.trans (List.dropLast_prefix _)))

end

/-- Paths that do not go down only. -/
def sample : Files := ofPaths [("./certs//ca.crt", [1, 2])] ["passed/../empty"]

example : sample.open? "./certs/../certs//ca.crt" = .ok [1, 2] := rfl
example : sample.open? "certs/ca.crt/" = .error .notDirectory := rfl
example : sample.open? "certs/ca.crt/.." = .error .notDirectory := rfl
example : sample.open? "../work/passed" = .error .isDirectory := rfl
example : sample.open? "/etc/ssl/none/ca.crt" = .error .missing := rfl
example : sample.open? "../../dev/null" = .ok [] := rfl

end AdmissionHooks.Files
