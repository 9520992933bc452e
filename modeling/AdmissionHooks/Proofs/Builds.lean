import AdmissionHooks.Proofs.Ownership

/-!
# What a build comes to

A build without a bundle fails before it does anything. With a bundle it takes the owner that it was
given or looks one up, and only a lookup that is asked to stop can end it there. From then on the site
remembers that owner, and the configuration is written with it.
-/

namespace AdmissionHooks.Builder

variable (b : Builder)

/-- The owner that a build is given, or else the one for an answer about the deployment. -/
def ownerGiven (given : Option OwnerResolution) (answer : Except Failure (Option Metadata)) :
    Except Failure OwnerResolution :=
  match given with
  | some owner => .ok owner
  | none => b.ownerFor answer

/-- The calls of a build with a bundle. -/
def buildCalls (given : Option OwnerResolution) : List Call :=
  match given with
  | some _ => []
  | none => b.ownerCalls

/-- What is logged of the owner that a build was not given. -/
def givenRecords (given : Option OwnerResolution) (answer : Except Failure (Option Metadata)) :
    List Log.Record :=
  match given with
  | some _ => []
  | none => b.ownerRecords answer

theorem ownerGiven_eq_ok_iff {given : Option OwnerResolution} {c : Cluster}
    {owner : OwnerResolution} :
    b.ownerGiven given c.deployment = .ok owner ↔
      (∀ r, given = some r → owner = r) ∧
        (given = none → (b.resolveOwner.run c).outcome = .ok owner) := by
  cases given with
  | some r => simp [ownerGiven, eq_comm]
  | none => simp [ownerGiven]

theorem exists_ownerGiven (given : Option OwnerResolution)
    {answer : Except Failure (Option Metadata)}
    (noStop : ∀ e, answer = .error e → e.isStop = false) :
    ∃ owner, b.ownerGiven given answer = .ok owner := by
  cases given with
  | some owner => exact ⟨owner, rfl⟩
  | none => exact b.ownerFor_of_noStop noStop

theorem run_ownerOr (given : Option OwnerResolution) (c : Cluster) :
    (b.ownerOr given).run c =
      ⟨b.ownerGiven given c.deployment, c, b.buildCalls given,
        b.givenRecords given c.deployment⟩ := by
  cases given with
  | some owner => rfl
  | none => exact b.run_resolveOwner c

section

variable (k : Kind) (given : Option OwnerResolution) (s : Site)

theorem run_build_of_nil :
    (b.build k [] given).run s = ⟨.error (withoutBundle (b.configurationName k)), s, [], []⟩ := rfl

variable {bundle : Bytes} (present : bundle ≠ [])

include present

theorem run_build_of_stopped {e : Failure}
    (stopped : b.ownerGiven given s.cluster.deployment = .error e) :
    (b.build k bundle given).run s =
      ⟨.error e, s, b.buildCalls given, b.givenRecords given s.cluster.deployment⟩ := by
  have some : bundle.isEmpty = false := by simpa using present
  have lookup : ((b.ownerOr given).atSite.run s).outcome = .error e := by
    rw [Action.run_atSite, run_ownerOr]
    exact stopped
  unfold build
  rw [some, if_neg (by decide), Action.run_bind_of_error lookup, Action.run_atSite, run_ownerOr]

/-- Once its owner is found, a build goes on as with an owner that it was given. -/
theorem run_build_of_owner {owner : OwnerResolution}
    (found : b.ownerGiven given s.cluster.deployment = .ok owner) :
    (b.build k bundle given).run s =
      ⟨(b.target k).map fun target => b.configuration k target bundle owner,
        { s with lastOwner := owner }, b.buildCalls given,
        b.givenRecords given s.cluster.deployment ++ b.buildRecords k⟩ := by
  have some : bundle.isEmpty = false := by simpa using present
  have lookup : ((b.ownerOr given).atSite.run s).outcome = .ok owner := by
    rw [Action.run_atSite, run_ownerOr]
    exact found
  have rest : (b.build k bundle given).run s =
      Action.join ((b.ownerOr given).atSite.run s) ((b.build k bundle owner).run s) := by
    unfold build
    rw [some, if_neg (by decide), if_neg (by decide), Action.run_bind_of_ok lookup,
      Action.run_atSite, run_ownerOr]
    rfl
  rw [rest, b.run_build k owner s present, Action.run_atSite, run_ownerOr]
  simp [Action.join]

end

/-- A builder in production that looks its owner up. -/
def ownedBuilder : Builder where
  space := some "ns"
  serviceName := some "svc"
  owner := some ⟨some "dep", some "ns"⟩

end AdmissionHooks.Builder
