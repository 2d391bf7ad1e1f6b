import PolicyAudit.Proofs.Store.Calls

/-! # Listings

A listing shows what is stored and nothing of how it came there.  It holds each stored policy once,
the older ones first and those of one instant in the order of the bytes of their names
(`IsListing`).  These are the lists that a store may show as its map visits the entries in one order
or another (`isListing_iff`).

Where no two stored policies share instant and name (`Tieless`), there is one such list alone
(`IsListing.eq_of_stored`).  So calls that leave the same policies behind leave the same listing
behind, however saves, deletes and refused calls took turns, and however the map visits its entries:
`list_eq_of_stored`. -/

namespace PolicyAudit.PolicyStore

variable {Caller Caller' : Type}

/-! ### What a listing is -/

/-- The events saved the policy, and its id was not deleted since. -/
def Stored (es : List (Event Caller)) (p : Policy) : Prop := IsLatest es p.id p

/-- Stored policies differ in the instant of their creation or in name. -/
def Tieless (es : List (Event Caller)) : Prop :=
  ∀ p q, Stored es p → Stored es q → p.createdAt = q.createdAt → p.name = q.name → p = q

/-- The stored policies, each once, in order. -/
structure IsListing (es : List (Event Caller)) (ps : List Policy) : Prop where
  nodup : ps.Nodup
  mem_iff : ∀ p, p ∈ ps ↔ Stored es p
  sorted : ps.Pairwise NotAfter

/-! ### The listing of a store -/

/-- What a store lists is a listing of what was stored, in whatever order its map visits the
entries. -/
theorem isListing_list (calls : List (Caller × Call)) (visits : Arrangement) :
    IsListing (trace .empty calls) ((performAll .empty calls).list visits) where
  nodup := nodup_list _ visits
  mem_iff p := by
    rw [mem_list_iff, get?_performAll]
    exact contents_eq_some_iff _ _ _
  sorted := list_pairwise _ visits

theorem stored_iff_mem {calls : List (Caller × Call)} {p : Policy} :
    Stored (trace .empty calls) p ↔ p ∈ (performAll .empty calls).policies := by
  rw [← (isListing_list calls .unchanged).mem_iff, (list_perm _ _).mem_iff]

/-- The listings are what a store may list. -/
theorem isListing_iff {calls : List (Caller × Call)} {ps : List Policy} :
    IsListing (trace .empty calls) ps ↔
      ∃ visits, (performAll .empty calls).list visits = ps := by
  constructor
  · intro h
    refine exists_list_eq_iff.mpr ⟨?_, h.sorted⟩
    have hnodup : (performAll .empty calls).policies.Nodup :=
      (list_perm _ .unchanged).nodup_iff.mp (nodup_list _ _)
    exact (List.perm_ext_iff_of_nodup h.nodup hnodup).mpr fun p => by
      rw [h.mem_iff, stored_iff_mem]
  · rintro ⟨visits, rfl⟩
    exact isListing_list calls visits

/-- Listings of the same policies are equal, when no two of these share instant and name. -/
theorem IsListing.eq_of_stored {es : List (Event Caller)} {es' : List (Event Caller')}
    {ps qs : List Policy} (hps : IsListing es ps) (hqs : IsListing es' qs) (h : Tieless es)
    (hsame : ∀ p, Stored es p ↔ Stored es' p) : ps = qs := by
  have hperm : ps.Perm qs := by
    refine (List.perm_ext_iff_of_nodup hps.nodup hqs.nodup).mpr fun p => ?_
    rw [hps.mem_iff, hsame, hqs.mem_iff]
  refine List.Perm.eq_of_pairwise ?_ hps.sorted hqs.sorted hperm
  intro p q hp hq hpq hqp
  obtain ⟨htime, hname⟩ := hpq.antisymm hqp
  exact h p q ((hps.mem_iff p).mp hp) ((hps.mem_iff q).mp (hperm.mem_iff.mpr hq)) htime hname

/-- Whatever calls took effect, whoever made them, and in whatever order the map visits its entries,
a listing is never refused and changes nothing.  It holds each policy that is stored once and
nothing else, by the instant of creation and then by the bytes of the name; policies that share both
may come in any order, as the map visits them.  When no two stored policies share both, there is one
list in that order, and any other calls that leave the same policies behind leave it behind too, in
whatever order the map visits its entries then. -/
theorem list_eq_of_stored (calls : List (Caller × Call)) :
    (∀ visits, (performAll .empty calls).perform (.list visits) =
      (.listed ((performAll .empty calls).list visits), performAll .empty calls)) ∧
    (∀ visits, IsListing (trace .empty calls) ((performAll .empty calls).list visits)) ∧
    (∀ ps, IsListing (trace .empty calls) ps →
      ∃ visits, (performAll .empty calls).list visits = ps) ∧
    (Tieless (trace .empty calls) →
      (∀ visits ps, IsListing (trace .empty calls) ps →
        (performAll .empty calls).list visits = ps) ∧
      ∀ {Caller' : Type} (calls' : List (Caller' × Call)),
        (∀ p, Stored (trace .empty calls) p ↔ Stored (trace .empty calls') p) →
          ∀ visits visits', (performAll .empty calls).list visits =
            (performAll .empty calls').list visits') := by
  have hlist (visits : Arrangement) := isListing_list calls visits
  refine ⟨fun _ => rfl, hlist, fun ps => isListing_iff.mp, fun htieless => ⟨?_, ?_⟩⟩
  · intro visits ps hps
    exact (hlist visits).eq_of_stored hps htieless fun _ => Iff.rfl
  · intro Caller' calls' hsame visits visits'
    exact (hlist visits).eq_of_stored (isListing_list calls' visits') htieless hsame

/-- A policy that was made half a second into the leap second at the end of 2016. -/
def leapPolicy : Policy :=
  ⟨Uuid.ofNat 3, "ssh", none, [], ⟨2016, 12, 31, by decide⟩, ⟨86399, 1500000000, by decide⟩⟩

/-- A policy that was made half a second into 2017. -/
def newYearPolicy (id : Nat) (name : String) : Policy :=
  ⟨Uuid.ofNat id, name, none, [], ⟨2017, 1, 1, by decide⟩, ⟨0, 500000000, by decide⟩⟩

/-- In order: the leap second stands before the new year, the byte of "z" before those of "é". -/
def sampleListing : List Policy := [leapPolicy, newYearPolicy 2 "z", newYearPolicy 1 "é"]

/-- Three saves of one caller. -/
def directCalls : List (Unit × Call) :=
  [((), .save leapPolicy), ((), .save (newYearPolicy 2 "z")), ((), .save (newYearPolicy 1 "é"))]

/-- Calls of two callers that come to the same, after two refusals and a change of name. -/
def windingCalls : List (Bool × Call) :=
  [(true, .save (newYearPolicy 1 "é")), (false, .delete leapPolicy.id),
    (true, .save (newYearPolicy 2 "b")), (false, .save (newYearPolicy 1 "a")),
    (false, .delete (Uuid.ofNat 2)), (true, .save leapPolicy), (true, .save (newYearPolicy 2 "z"))]

/-- Two saves of policies that share instant and name. -/
def tiedCalls : List (Unit × Call) :=
  [((), .save (newYearPolicy 1 "ssh")), ((), .save (newYearPolicy 2 "ssh"))]

theorem list_eq_of_stored_sample :
    Tieless (trace .empty directCalls) ∧
      (∀ visits, (performAll .empty directCalls).list visits = sampleListing) ∧
      (∀ visits, (performAll .empty windingCalls).list visits = sampleListing) ∧
      (∃ visits, (performAll .empty tiedCalls).list visits =
        [newYearPolicy 1 "ssh", newYearPolicy 2 "ssh"]) ∧
      ∃ visits, (performAll .empty tiedCalls).list visits =
        [newYearPolicy 2 "ssh", newYearPolicy 1 "ssh"] := by
  have hdirect : (performAll .empty directCalls).policies.Perm sampleListing := by decide +kernel
  have hwinding : (performAll .empty windingCalls).policies.Perm sampleListing := by
    decide +kernel
  have hmem (p : Policy) : Stored (trace .empty directCalls) p ↔ p ∈ sampleListing := by
    rw [stored_iff_mem, hdirect.mem_iff]
  have hsame (p : Policy) :
      Stored (trace .empty directCalls) p ↔ Stored (trace .empty windingCalls) p := by
    rw [hmem, stored_iff_mem, hwinding.mem_iff]
  have htieless : Tieless (trace .empty directCalls) := by
    have hdiffer : ∀ p ∈ sampleListing, ∀ q ∈ sampleListing,
        p.createdAt = q.createdAt → p.name = q.name → p = q := by decide +kernel
    intro p q hp hq
    exact hdiffer p ((hmem p).mp hp) q ((hmem q).mp hq)
  obtain ⟨-, -, -, hunique⟩ := list_eq_of_stored directCalls
  obtain ⟨hone, hsamelist⟩ := hunique htieless
  have hlist (visits : Arrangement) : (performAll .empty directCalls).list visits = sampleListing :=
    hone visits _ ⟨by decide +kernel, fun p => (hmem p).symm, by decide +kernel⟩
  have hlist' (visits : Arrangement) :
      (performAll .empty windingCalls).list visits = sampleListing := by
    rw [← hsamelist windingCalls hsame .unchanged visits, hlist]
  have hpolicies : (performAll .empty tiedCalls).policies =
      [newYearPolicy 2 "ssh", newYearPolicy 1 "ssh"] := by decide +kernel
  have hlast : IsListing (trace .empty tiedCalls)
      [newYearPolicy 2 "ssh", newYearPolicy 1 "ssh"] :=
    ⟨by decide +kernel, fun p => by rw [stored_iff_mem, hpolicies], by decide +kernel⟩
  have hfirst : IsListing (trace .empty tiedCalls)
      [newYearPolicy 1 "ssh", newYearPolicy 2 "ssh"] := by
    refine ⟨by decide +kernel, fun p => ?_, by decide +kernel⟩
    rw [stored_iff_mem, hpolicies, List.mem_pair, List.mem_pair, or_comm]
  obtain ⟨-, -, htied, -⟩ := list_eq_of_stored tiedCalls
  exact ⟨htieless, hlist, hlist', htied _ hfirst, htied _ hlast⟩

end PolicyAudit.PolicyStore
