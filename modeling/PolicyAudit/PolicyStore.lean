import PolicyAudit.Policy.Basic

/-! # Stored policies

A `PolicyStore` holds policies with ids that differ from each other.  A stored policy never changes:
it is saved once, found by its id, and deleted.  Saving under an id that is taken and deleting an
id that is not stored are errors and leave the store as it is.

`PolicyStore.list` orders the policies by the time of their creation, then by name.  The sort is
stable, and so policies that share both stay in the order in which the map visits its entries.  That
order is not the store's to decide: an `Arrangement` stands for it. -/

namespace PolicyAudit

inductive StoreError where
  | notFound (what : String)
  | alreadyExists (what : String)
  | internal (what : String)
deriving DecidableEq, Repr

def StoreError.message : StoreError → String
  | notFound what => "Not found: " ++ what
  | alreadyExists what => "Already exists: " ++ what
  | internal what => "Internal error: " ++ what

structure PolicyStore where
  policies : List Policy
  distinct : policies.Pairwise fun p q => p.id ≠ q.id

/-- An order in which the entries of a map are visited. -/
structure Arrangement where
  order : List Policy → List Policy
  perm : ∀ ps, (order ps).Perm ps

/-- Entries visited as they stand. -/
def Arrangement.unchanged : Arrangement := ⟨id, fun _ => .refl _⟩

namespace PolicyStore

def empty : PolicyStore := ⟨[], .nil⟩

/-- The policy with an id. -/
def get? (s : PolicyStore) (id : Uuid) : Option Policy := s.policies.find? (·.id = id)

/-- A policy that is not found has an id of its own. -/
theorem get?_eq_none_iff {s : PolicyStore} {id : Uuid} :
    s.get? id = none ↔ ∀ p ∈ s.policies, p.id ≠ id := by
  simp [get?]

/-- The store with one more policy. -/
def save (s : PolicyStore) (p : Policy) : Except StoreError PolicyStore :=
  if h : s.get? p.id = none then
    .ok ⟨p :: s.policies, List.pairwise_cons.mpr
      ⟨fun q hq e => get?_eq_none_iff.mp h q hq e.symm, s.distinct⟩⟩
  else .error (.alreadyExists ("Policy with id " ++ p.id.text ++ " already exists"))

/-- The store without the policy of an id. -/
def delete (s : PolicyStore) (id : Uuid) : Except StoreError PolicyStore :=
  if s.get? id = none then
    .error (.notFound ("Policy with id " ++ id.text ++ " not found"))
  else .ok ⟨s.policies.filter (·.id ≠ id), s.distinct.filter _⟩

/-- The order of a listing: by creation, then by name. -/
def listedBefore (p q : Policy) : Bool :=
  if p.createdAt.rank ≠ q.createdAt.rank then p.createdAt.rank < q.createdAt.rank
  else p.name ≤ q.name

/-- All policies, in the order of a listing, when the map visits its entries in some order. -/
def list (s : PolicyStore) (visits : Arrangement) : List Policy :=
  (visits.order s.policies).mergeSort listedBefore

/-! ### Look-ups -/

theorem get?_empty (id : Uuid) : empty.get? id = none := rfl

/-- What is found after a policy was saved. -/
theorem get?_save {s t : PolicyStore} {p : Policy} (h : s.save p = .ok t) (id : Uuid) :
    t.get? id = if p.id = id then some p else s.get? id := by
  rw [save] at h
  split at h
  · obtain rfl := Except.ok.inj h
    rw [get?, List.find?_cons]
    by_cases hid : p.id = id <;> simp [hid, get?]
  · cases h

/-- What is found after an id was deleted. -/
theorem get?_delete {s t : PolicyStore} {gone : Uuid} (h : s.delete gone = .ok t) (id : Uuid) :
    t.get? id = if gone = id then none else s.get? id := by
  rw [delete] at h
  split at h
  · cases h
  · obtain rfl := Except.ok.inj h
    simp only [get?, List.find?_filter]
    by_cases hid : gone = id
    · subst hid
      simp
    · simp only [hid, if_false]
      congr
      funext p
      by_cases hp : p.id = id
      · simp [hp, Ne.symm hid]
      · simp [hp]

end PolicyStore
end PolicyAudit
