import AdmissionHooks.Proofs.Course

/-!
# What a client leaves alone

Whatever comes of a registration or a deregistration, it changes no name but the client's own two.
The answers of the cluster stay, and of the faults it takes some from the front, so that a cluster
without faults stays one.
-/

namespace AdmissionHooks

namespace Cluster

/-- No deletion meets a fault. -/
def Quiet (c : Cluster) : Prop := ∀ k, ∀ fault ∈ c.deleteFaults.get k, fault = none

/-- Neither a deletion nor a creation meets a fault. -/
structure Faultless (c : Cluster) : Prop where
  quiet : c.Quiet
  creations : ∀ k, ∀ fault ∈ c.createFaults.get k, fault = none

theorem Quiet.deleteFault {c : Cluster} (quiet : c.Quiet) (k : Kind) : c.deleteFault k = none :=
  join_head?_of_none (quiet k)

theorem Faultless.createFault {c : Cluster} (faultless : c.Faultless) (k : Kind) :
    c.createFault k = none :=
  join_head?_of_none (faultless.creations k)

end Cluster

namespace Registrar

/-- What a client has done to a cluster at most. -/
structure Confined (r : Registrar) (c d : Cluster) : Prop where
  names : ∀ k name, name ≠ r.configurationName k →
    (name ∈ d.names.get k ↔ name ∈ c.names.get k)
  secret : d.secret = c.secret
  deployment : d.deployment = c.deployment
  createFaults : ∀ k, d.createFaults.get k <:+ c.createFaults.get k
  deleteFaults : ∀ k, d.deleteFaults.get k <:+ c.deleteFaults.get k

theorem Confined.refl (r : Registrar) (c : Cluster) : r.Confined c c where
  names _ _ _ := Iff.rfl
  secret := rfl
  deployment := rfl
  createFaults _ := List.suffix_rfl
  deleteFaults _ := List.suffix_rfl

theorem Confined.trans {r : Registrar} {c d e : Cluster} (first : r.Confined c d)
    (second : r.Confined d e) : r.Confined c e where
  names k name other := (second.names k name other).trans (first.names k name other)
  secret := second.secret.trans first.secret
  deployment := second.deployment.trans first.deployment
  createFaults k := (second.createFaults k).trans (first.createFaults k)
  deleteFaults k := (second.deleteFaults k).trans (first.deleteFaults k)

theorem Confined.quiet {r : Registrar} {c d : Cluster} (done : r.Confined c d)
    (quiet : c.Quiet) : d.Quiet :=
  fun k fault met => quiet k fault ((done.deleteFaults k).subset met)

theorem Confined.faultless {r : Registrar} {c d : Cluster} (done : r.Confined c d)
    (faultless : c.Faultless) : d.Faultless where
  quiet := done.quiet faultless.quiet
  creations k fault met := faultless.creations k fault ((done.createFaults k).subset met)

variable (r : Registrar)

theorem suffix_set_tail (faults : ByKind (List (Option Failure))) (k l : Kind) :
    (faults.set k (faults.get k).tail).get l <:+ faults.get l := by
  by_cases same : l = k
  · subst same
    rw [ByKind.get_set_self]
    exact List.tail_suffix _
  · simpa only [ByKind.get_set_of_ne _ _ same] using List.suffix_rfl

theorem confined_deleted (k : Kind) (c : Cluster) :
    r.Confined c (c.deleted k (r.configurationName k)).2 where
  names l name other := by
    rw [Cluster.mem_deleted]
    refine and_iff_left ?_
    rintro ⟨rfl, own, -⟩
    exact other own
  secret := Cluster.secret_deleted _ _ _
  deployment := Cluster.deployment_deleted _ _ _
  createFaults l := by
    simpa only [Cluster.createFaults_deleted] using List.suffix_rfl
  deleteFaults l := by
    rw [Cluster.deleteFaults_deleted]
    exact suffix_set_tail _ k l

theorem confined_created (k : Kind) (c : Cluster) :
    r.Confined c (c.created k (r.configurationName k)).2 where
  names l name other := by
    rw [Cluster.mem_created]
    refine or_iff_left ?_
    rintro ⟨rfl, own, -⟩
    exact other own
  secret := Cluster.secret_created _ _ _
  deployment := Cluster.deployment_created _ _ _
  createFaults l := by
    rw [Cluster.createFaults_created]
    exact suffix_set_tail _ k l
  deleteFaults l := by
    simpa only [Cluster.deleteFaults_created] using List.suffix_rfl

theorem confined_deregister (c : Cluster) : r.Confined c (r.deregister.run c).state := by
  have first := r.confined_deleted .mutating c
  rcases r.deregister_cases c with ⟨e, -, state, -⟩ | ⟨state, -⟩
  · rw [state]
    exact first
  · rw [state]
    exact first.trans (r.confined_deleted .validating _)

theorem confined_place (k : Kind) {bundle : Bytes} (given : bundle ≠ []) (owner : OwnerResolution)
    (s : Site) : r.Confined s.cluster ((r.place k bundle owner).run s).state.cluster := by
  rcases r.place_cases k owner s given with ⟨e, rs, -, h⟩ | ⟨target, rs, -, h⟩
  · rw [h]
    exact .refl r _
  · rw [h]
    exact r.confined_created k _

theorem confined_first (files : FileSystem) (s : Site) {bundle : Bytes} (owner : OwnerResolution)
    (found : (r.lookup files s).outcome = .ok bundle) :
    r.Confined s.cluster (r.first s bundle owner).state.cluster :=
  (r.confined_deregister s.cluster).trans
    (r.confined_place .mutating (r.ne_nil_of_lookup files s found) owner (r.resetSite s))

theorem confined_second (files : FileSystem) (s : Site) {bundle : Bytes} (owner : OwnerResolution)
    (found : (r.lookup files s).outcome = .ok bundle) :
    r.Confined s.cluster (r.second s bundle owner).state.cluster :=
  (r.confined_first files s owner found).trans
    (r.confined_place .validating (r.ne_nil_of_lookup files s found) owner _)

theorem confined_register (files : FileSystem) (s : Site) :
    r.Confined s.cluster ((r.register files).run s).state.cluster := by
  have reset : r.Confined s.cluster (r.resetSite s).cluster := r.confined_deregister s.cluster
  have course := r.register_course files s
  generalize (r.register files).run s = result at course ⊢
  cases course with
  | resetFails => exact reset
  | lookupFails => exact reset
  | ownershipFails => exact reset
  | firstFails _ lookup => exact r.confined_first files s _ lookup
  | secondFails _ lookup => exact r.confined_second files s _ lookup
  | completes _ lookup => exact r.confined_second files s _ lookup

end Registrar

end AdmissionHooks
