import Mathlib.Data.List.Pairwise
import Mathlib.Data.String.Basic
import PolicyAudit.PolicyStore
import PolicyAudit.Proofs.Text.Utf8

/-! # Contents of a store

What a store shows depends on its policies alone, not on the order in which they were saved: a
policy is found by its id exactly if it is stored (`get?_eq_some_iff`), and a listing holds the
stored policies, each once, the older ones first and those of one instant in the order of the bytes
of their names (`NotAfter`).  The order in which the map visits its entries decides only on policies
that share both, and it can bring these into any order (`exists_list_eq_iff`).

Stores that hold the same policies find the same ones (`get?_eq_of_perm`), and a listing of policies
whose times of creation differ is their one order by time (`list_eq_of_perm`). -/

namespace PolicyAudit
namespace PolicyStore

/-! ### Look-ups -/

/-- Policies of one store with one id are one policy. -/
theorem eq_of_id_eq {s : PolicyStore} {p q : Policy} (hp : p ∈ s.policies) (hq : q ∈ s.policies)
    (h : p.id = q.id) : p = q := by
  have : Std.Symm fun p q : Policy => p.id ≠ q.id := ⟨fun _ _ hne => hne.symm⟩
  by_contra hne
  exact s.distinct.forall hp hq hne h

/-- A policy is found by its id exactly if it is stored. -/
theorem get?_eq_some_iff {s : PolicyStore} {id : Uuid} {p : Policy} :
    s.get? id = some p ↔ p ∈ s.policies ∧ p.id = id := by
  constructor
  · intro h
    exact ⟨List.mem_of_find?_eq_some h, by simpa using List.find?_some h⟩
  · rintro ⟨hmem, hid⟩
    cases hget : s.get? id with
    | none => exact absurd hid (get?_eq_none_iff.mp hget p hmem)
    | some q =>
      have hq : q.id = id := by simpa using List.find?_some hget
      rw [eq_of_id_eq hmem (List.mem_of_find?_eq_some hget) (hid.trans hq.symm)]

/-- Stores with the same policies find the same ones. -/
theorem get?_eq_of_perm {s t : PolicyStore} (h : s.policies.Perm t.policies) (id : Uuid) :
    s.get? id = t.get? id := by
  refine Option.ext fun p => ?_
  rw [get?_eq_some_iff, get?_eq_some_iff, h.mem_iff]

/-! ### Changes -/

theorem exists_save_eq_ok {s : PolicyStore} {p : Policy} (h : ∀ q ∈ s.policies, q.id ≠ p.id) :
    ∃ t, s.save p = .ok t ∧ t.policies = p :: s.policies := by
  unfold save
  rw [dif_pos (get?_eq_none_iff.mpr h)]
  exact ⟨_, rfl, rfl⟩

theorem save_eq_error {s : PolicyStore} {p q : Policy} (h : q ∈ s.policies) (hid : q.id = p.id) :
    s.save p = .error (.alreadyExists ("Policy with id " ++ p.id.text ++ " already exists")) := by
  have hget : s.get? p.id ≠ none := by
    rw [get?_eq_some_iff.mpr ⟨h, hid⟩]
    exact Option.some_ne_none q
  unfold save
  rw [dif_neg hget]

theorem exists_delete_eq_ok {s : PolicyStore} {p : Policy} (h : p ∈ s.policies) :
    ∃ t, s.delete p.id = .ok t ∧ t.policies = s.policies.filter (·.id ≠ p.id) := by
  have hget : s.get? p.id ≠ none := by
    rw [get?_eq_some_iff.mpr ⟨h, rfl⟩]
    exact Option.some_ne_none p
  unfold delete
  rw [if_neg hget]
  exact ⟨_, rfl, rfl⟩

theorem delete_eq_error {s : PolicyStore} {id : Uuid} (h : ∀ q ∈ s.policies, q.id ≠ id) :
    s.delete id = .error (.notFound ("Policy with id " ++ id.text ++ " not found")) := by
  unfold delete
  rw [if_pos (get?_eq_none_iff.mpr h)]

end PolicyStore

/-! ### Order in time -/

namespace Instant

/-- The parts of an instant, from year to nanosecond.  A leap second stands behind the second that
it prolongs, with more nanoseconds. -/
def parts (i : Instant) : List Int :=
  [i.date.year, i.date.month, i.date.day, i.time.second, i.time.nano]

/-- The rank orders instants by the first of their parts that differ. -/
theorem rank_lt_iff {i j : Instant} : i.rank < j.rank ↔ i.parts < j.parts := by
  obtain ⟨-, -, hmonth, hmonth', hday, hday'⟩ := i.date.isDate
  obtain ⟨-, -, kmonth, kmonth', kday, kday'⟩ := j.date.isDate
  obtain ⟨hsecond, hnano, -⟩ := i.time.isTime
  obtain ⟨ksecond, knano, -⟩ := j.time.isTime
  have hlast : i.date.day ≤ 31 := Nat.le_trans hday' (daysInMonth_le _ _)
  have klast : j.date.day ≤ 31 := Nat.le_trans kday' (daysInMonth_le _ _)
  simp only [secondsPerDay, nanosPerSecond] at hsecond hnano ksecond knano
  simp only [rank, parts, secondsPerDay, nanosPerSecond, List.cons_lt_cons_iff, List.not_lt_nil,
    and_false, or_false]
  omega

end Instant

namespace PolicyStore

/-! ### Listings -/

/-- The policy was created first, or at the same instant and its name does not come after that of
the other policy. -/
def NotAfter (p q : Policy) : Prop :=
  p.createdAt.parts < q.createdAt.parts ∨
    (p.createdAt = q.createdAt ∧ Text.bytes p.name ≤ Text.bytes q.name)

instance (p q : Policy) : Decidable (NotAfter p q) := by
  unfold NotAfter; infer_instance

/-- Policies neither of which stands after the other share the instant and the name. -/
theorem NotAfter.antisymm {p q : Policy} (h : NotAfter p q) (h' : NotAfter q p) :
    p.createdAt = q.createdAt ∧ p.name = q.name := by
  rcases h with hlt | ⟨htime, hname⟩
  · rcases h' with hlt' | ⟨htime', -⟩
    · exact absurd hlt' (List.lt_asymm hlt)
    · exact absurd (htime' ▸ hlt) (List.lt_irrefl _)
  · rcases h' with hlt' | ⟨-, hname'⟩
    · exact absurd (htime ▸ hlt') (List.lt_irrefl _)
    · exact ⟨htime, Text.bytes_injective (List.le_antisymm hname hname')⟩

theorem listedBefore_iff_rank {p q : Policy} :
    listedBefore p q = true ↔ p.createdAt.rank < q.createdAt.rank ∨
      (p.createdAt.rank = q.createdAt.rank ∧ p.name ≤ q.name) := by
  rw [listedBefore]
  by_cases hrank : p.createdAt.rank = q.createdAt.rank
  · simp [hrank]
  · simp [hrank]

theorem listedBefore_iff_notAfter {p q : Policy} : listedBefore p q = true ↔ NotAfter p q := by
  have htime : p.createdAt.rank = q.createdAt.rank ↔ p.createdAt = q.createdAt :=
    ⟨fun h => Instant.rank_injective h, fun h => h ▸ rfl⟩
  rw [listedBefore_iff_rank, NotAfter, Instant.rank_lt_iff, htime, Text.le_iff_bytes_le]

theorem listedBefore_total (p q : Policy) : (listedBefore p q || listedBefore q p) = true := by
  rw [Bool.or_eq_true, listedBefore_iff_rank, listedBefore_iff_rank]
  rcases lt_trichotomy p.createdAt.rank q.createdAt.rank with hrank | hrank | hrank
  · exact .inl (.inl hrank)
  · rcases le_total p.name q.name with hname | hname
    · exact .inl (.inr ⟨hrank, hname⟩)
    · exact .inr (.inr ⟨hrank.symm, hname⟩)
  · exact .inr (.inl hrank)

theorem listedBefore_trans (p q r : Policy) (hpq : listedBefore p q = true)
    (hqr : listedBefore q r = true) : listedBefore p r = true := by
  rw [listedBefore_iff_rank] at hpq hqr ⊢
  rcases hpq with hpq | ⟨hpq, hname⟩
  · rcases hqr with hqr | ⟨hqr, -⟩
    · exact .inl (hpq.trans hqr)
    · exact .inl (hqr ▸ hpq)
  · rcases hqr with hqr | ⟨hqr, hname'⟩
    · exact .inl (hpq ▸ hqr)
    · exact .inr ⟨hpq.trans hqr, hname.trans hname'⟩

/-- A listing holds the stored policies, each once. -/
theorem list_perm (s : PolicyStore) (visits : Arrangement) : (s.list visits).Perm s.policies :=
  (List.mergeSort_perm _ _).trans (visits.perm _)

/-- A listing is in order. -/
theorem list_pairwise (s : PolicyStore) (visits : Arrangement) :
    (s.list visits).Pairwise NotAfter :=
  (List.pairwise_mergeSort listedBefore_trans listedBefore_total _).imp
    listedBefore_iff_notAfter.mp

/-- The entries visited as they stand in a list, if it is one of them all. -/
def visitsAlong (ps : List Policy) : Arrangement where
  order qs := if ps.Perm qs then ps else qs
  perm qs := by
    split
    · assumption
    · exact .refl _

theorem visitsAlong_order {ps qs : List Policy} (h : ps.Perm qs) :
    (visitsAlong ps).order qs = ps := if_pos h

/-- A store can list its policies in every order of time and name, and in no other. -/
theorem exists_list_eq_iff {s : PolicyStore} {ps : List Policy} :
    (∃ visits, s.list visits = ps) ↔ ps.Perm s.policies ∧ ps.Pairwise NotAfter := by
  constructor
  · rintro ⟨visits, rfl⟩
    exact ⟨list_perm s visits, list_pairwise s visits⟩
  · rintro ⟨hperm, hsorted⟩
    refine ⟨visitsAlong ps, ?_⟩
    rw [list, visitsAlong_order hperm]
    -- A stable sort leaves a list that is in order as it is.
    exact List.mergeSort_of_pairwise (hsorted.imp listedBefore_iff_notAfter.mpr)

/-- Policies that were created one after the other are listed in that order. -/
theorem list_eq_of_perm {s : PolicyStore} {ps : List Policy} (h : s.policies.Perm ps)
    (hps : ps.Pairwise fun p q => p.createdAt.rank < q.createdAt.rank) (visits : Arrangement) :
    s.list visits = ps := by
  have hperm : (s.list visits).Perm ps := (list_perm s visits).trans h
  have hanti : ∀ p q, p ∈ s.list visits → q ∈ ps → NotAfter p q → NotAfter q p → p = q := by
    intro p q hp hq hpq hqp
    by_contra hne
    have hsymm : Std.Symm fun p q : Policy => p.createdAt.rank ≠ q.createdAt.rank :=
      ⟨fun _ _ hne => hne.symm⟩
    have hrank : p.createdAt.rank ≠ q.createdAt.rank :=
      (hps.imp fun hlt => hlt.ne).forall (hperm.mem_iff.mp hp) hq hne
    exact hrank (congrArg Instant.rank (hpq.antisymm hqp).1)
  exact List.Perm.eq_of_pairwise hanti (list_pairwise s visits)
    (hps.imp fun hlt => .inl (Instant.rank_lt_iff.mp hlt)) hperm

end PolicyStore
end PolicyAudit
