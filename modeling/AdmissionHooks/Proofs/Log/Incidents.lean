import AdmissionHooks.Log.Record

/-!
# The text of an incident

What the text of an incident has to be is laid down apart from how it is made: the line of a
failure, the account of one failure with its traceback, and the accounts of a chain of failures, the
oldest first, with the sentence that leads from each one to the next. There is one text that fits,
and it is the one that is written.
-/

namespace AdmissionHooks.Log

/-- The line of a failure: the place and the name of its class, and its words if it has any. -/
inductive Headline (e : Failure) : String → Prop where
  | bare (silent : e.told = "") : Headline e (e.origin ++ e.name)
  | worded (speaks : e.told ≠ "") : Headline e (e.origin ++ e.name ++ ": " ++ e.told)

/-- The account of a failure: its line, behind the entries of its traceback if there are any. -/
inductive Accounts (r : Raised) : String → Prop where
  | untraced {line} (direct : r.entries = []) (headline : Headline r.failure line) :
      Accounts r (line ++ "\n")
  | traced {line} (called : r.entries ≠ []) (headline : Headline r.failure line) :
      Accounts r ("Traceback (most recent call last):\n" ++ String.join r.entries ++ line ++ "\n")

/-- The accounts of a failure and of those that it followed from, the oldest first. -/
inductive Recounts : Raised → List (Tie × Raised) → String → Prop where
  | alone {r text} (account : Accounts r text) : Recounts r [] text
  | caused {r before earlier past text} (told : Recounts before earlier past)
      (account : Accounts r text) :
      Recounts r ((.cause, before) :: earlier) (past ++
        "\nThe above exception was the direct cause of the following exception:\n\n" ++ text)
  | meanwhile {r before earlier past text} (told : Recounts before earlier past)
      (account : Accounts r text) :
      Recounts r ((.context, before) :: earlier) (past ++
        "\nDuring handling of the above exception, another exception occurred:\n\n" ++ text)

/-- What an incident shows. The line break behind the last account is left out. -/
inductive Incident.Shows : Incident → String → Prop where
  | absent : Shows .absent "NoneType: None"
  | raised {last earlier text} (told : Recounts last earlier (text ++ "\n")) :
      Shows (.raised last earlier) text

/-! ## One failure -/

theorem headline_iff {e : Failure} {line : String} : Headline e line ↔ line = e.summary := by
  constructor
  · intro headline
    cases headline with
    | bare silent => simp [Failure.summary, silent]
    | worded speaks => simp [Failure.summary, speaks]
  · rintro rfl
    by_cases silent : e.told = ""
    · have summary : e.summary = e.origin ++ e.name := by simp [Failure.summary, silent]
      rw [summary]
      exact .bare silent
    · have summary : e.summary = e.origin ++ e.name ++ ": " ++ e.told := by
        simp [Failure.summary, silent]
      rw [summary]
      exact .worded silent

theorem accounts_iff {r : Raised} {text : String} : Accounts r text ↔ text = r.account := by
  constructor
  · intro account
    cases account with
    | untraced direct headline => simp [Raised.account, direct, headline_iff.1 headline]
    | traced called headline =>
        simp [Raised.account, called, headline_iff.1 headline, String.append_assoc]
  · rintro rfl
    have headline : Headline r.failure r.failure.summary := headline_iff.2 rfl
    by_cases direct : r.entries = []
    · have account : r.account = r.failure.summary ++ "\n" := by simp [Raised.account, direct]
      rw [account]
      exact .untraced direct headline
    · have account : r.account = "Traceback (most recent call last):\n" ++
          String.join r.entries ++ r.failure.summary ++ "\n" := by
        simp [Raised.account, direct, String.append_assoc]
      rw [account]
      exact .traced direct headline

/-! ## A chain of failures -/

/-- Along the chain, from the latest failure to the oldest. -/
theorem recounts_iff {r : Raised} {earlier : List (Tie × Raised)} {text : String} :
    Recounts r earlier text ↔ text = r.story earlier := by
  induction earlier generalizing r text with
  | nil =>
      constructor
      · intro told
        cases told with
        | alone account => exact accounts_iff.1 account
      · exact fun same => .alone (accounts_iff.2 same)
  | cons before earlier ih =>
      obtain ⟨tie, before⟩ := before
      constructor
      · intro told
        cases told with
        | caused told account => rw [ih.1 told, accounts_iff.1 account]; rfl
        | meanwhile told account => rw [ih.1 told, accounts_iff.1 account]; rfl
      · rintro rfl
        cases tie with
        | cause => exact .caused (ih.2 rfl) (accounts_iff.2 rfl)
        | context => exact .meanwhile (ih.2 rfl) (accounts_iff.2 rfl)

theorem exists_account_eq (r : Raised) : ∃ told, r.account = told ++ "\n" := by
  have account : Accounts r r.account := accounts_iff.2 rfl
  generalize r.account = text at account ⊢
  cases account with
  | untraced => exact ⟨_, rfl⟩
  | traced => exact ⟨_, rfl⟩

/-- The account of the latest failure ends a story, so a story ends in a line break. -/
theorem exists_story_eq (r : Raised) (earlier : List (Tie × Raised)) :
    ∃ told, r.story earlier = told ++ "\n" := by
  obtain ⟨last, account⟩ := exists_account_eq r
  cases earlier with
  | nil => exact ⟨last, account⟩
  | cons before earlier =>
      refine ⟨before.2.story earlier ++ before.1.sentence ++ last, ?_⟩
      rw [Raised.story, account, String.append_assoc, String.append_assoc, String.append_assoc]

/-! ## Incidents -/

namespace Incident

theorem dropBreak_append (s : String) : dropBreak (s ++ "\n") = s := by
  have last : "\n".toList = ['\n'] := rfl
  simp [dropBreak, last]

theorem shows_iff {i : Incident} {text : String} : i.Shows text ↔ text = i.text := by
  cases i with
  | absent =>
      constructor
      · rintro ⟨⟩
        rfl
      · rintro rfl
        exact .absent
  | raised last earlier =>
      obtain ⟨told, story⟩ := exists_story_eq last earlier
      have written : (raised last earlier).text = told := by
        rw [Incident.text, story, dropBreak_append]
      rw [written]
      constructor
      · intro shows
        cases shows with
        | raised recounted =>
            have same := congrArg dropBreak ((recounts_iff.1 recounted).trans story)
            rwa [dropBreak_append, dropBreak_append] at same
      · rintro rfl
        exact .raised (recounts_iff.2 story.symm)

end Incident

end AdmissionHooks.Log
