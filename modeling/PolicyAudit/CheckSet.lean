/-! # Sets of check names

A `CheckSet` holds names of checks, each once, in the order of their code points.  The order is part
of the type, so that two sets with the same members are equal (`CheckSet.ext_mem`).  Names are
compared character by character. -/

namespace PolicyAudit

structure CheckSet where
  names : List String
  ascending : names.Pairwise (· < ·)
deriving DecidableEq, Repr

namespace CheckSet

instance : Membership String CheckSet := ⟨fun s name => name ∈ s.names⟩

instance (name : String) (s : CheckSet) : Decidable (name ∈ s) :=
  inferInstanceAs (Decidable (name ∈ s.names))

def empty : CheckSet := ⟨[], .nil⟩

/-- The number of names. -/
def size (s : CheckSet) : Nat := s.names.length

/-- Puts a name at its place unless it is there. -/
def insertName (name : String) : List String → List String
  | [] => [name]
  | n :: ns =>
    if name < n then name :: n :: ns
    else if name = n then n :: ns
    else n :: insertName name ns

theorem mem_insertName {x name : String} {ns : List String} :
    x ∈ insertName name ns ↔ x = name ∨ x ∈ ns := by
  induction ns with
  | nil => simp [insertName]
  | cons n ns ih =>
    rw [insertName]
    split
    · simp
    · split
      · next h => subst h; simp
      · simp [ih, or_left_comm]

theorem pairwise_insertName {name : String} {ns : List String} (h : ns.Pairwise (· < ·)) :
    (insertName name ns).Pairwise (· < ·) := by
  induction ns with
  | nil => simp [insertName]
  | cons n ns ih =>
    rw [List.pairwise_cons] at h
    rw [insertName]
    split
    · next hlt =>
      rw [List.pairwise_cons]
      refine ⟨?_, List.pairwise_cons.mpr h⟩
      intro m hm
      rcases List.mem_cons.mp hm with rfl | hm
      · exact hlt
      · exact String.lt_trans hlt (h.1 m hm)
    · next hnlt =>
      split
      · exact List.pairwise_cons.mpr h
      · next hne =>
        rw [List.pairwise_cons]
        refine ⟨?_, ih h.2⟩
        intro m hm
        rcases mem_insertName.mp hm with rfl | hm
        · exact Std.lt_of_le_of_ne (Std.not_lt.mp hnlt) (Ne.symm hne)
        · exact h.1 m hm

def insert (s : CheckSet) (name : String) : CheckSet :=
  ⟨insertName name s.names, pairwise_insertName s.ascending⟩

def ofList (names : List String) : CheckSet := names.foldl insert empty

/-- The names of both sets. -/
def union (s t : CheckSet) : CheckSet := t.names.foldl insert s

instance : Union CheckSet := ⟨union⟩

/-! ### Membership -/

theorem mem_insert {x name : String} {s : CheckSet} : x ∈ s.insert name ↔ x = name ∨ x ∈ s :=
  mem_insertName

theorem mem_foldl_insert {x : String} {names : List String} {s : CheckSet} :
    x ∈ names.foldl insert s ↔ x ∈ names ∨ x ∈ s := by
  induction names generalizing s with
  | nil => simp
  | cons n ns ih =>
    rw [List.foldl_cons, ih, mem_insert, List.mem_cons]
    grind

theorem not_mem_empty {x : String} : x ∉ empty := by
  intro h; cases h

theorem mem_ofList {x : String} {names : List String} : x ∈ ofList names ↔ x ∈ names := by
  rw [ofList, mem_foldl_insert]
  exact ⟨fun h => h.resolve_right not_mem_empty, Or.inl⟩

theorem mem_union {x : String} {s t : CheckSet} : x ∈ s ∪ t ↔ x ∈ s ∨ x ∈ t := by
  show x ∈ t.names.foldl insert s ↔ _
  rw [mem_foldl_insert, Or.comm]
  exact Iff.rfl

/-- Sets with the same members are equal. -/
theorem ext_mem {s t : CheckSet} (h : ∀ x, x ∈ s ↔ x ∈ t) : s = t := by
  obtain ⟨ns, hs⟩ := s
  obtain ⟨ms, ht⟩ := t
  congr
  change ∀ x, x ∈ ns ↔ x ∈ ms at h
  induction ns generalizing ms with
  | nil =>
    cases ms with
    | nil => rfl
    | cons m ms => exact absurd ((h m).mpr List.mem_cons_self) List.not_mem_nil
  | cons n ns ih =>
    cases ms with
    | nil => exact absurd ((h n).mp List.mem_cons_self) List.not_mem_nil
    | cons m ms =>
      rw [List.pairwise_cons] at hs ht
      have hnm : n = m := by
        rcases List.mem_cons.mp ((h n).mp List.mem_cons_self) with e | hn
        · exact e
        · rcases List.mem_cons.mp ((h m).mpr List.mem_cons_self) with e | hm
          · exact e.symm
          · exact absurd (String.lt_trans (ht.1 n hn) (hs.1 m hm)) (String.lt_irrefl m)
      subst hnm
      congr
      refine ih hs.2 ms ht.2 fun x => ?_
      have hx := h x
      simp only [List.mem_cons] at hx
      constructor
      · intro hm
        exact (hx.mp (Or.inr hm)).resolve_left
          fun e => String.lt_irrefl n (e ▸ hs.1 x hm)
      · intro hm
        exact (hx.mpr (Or.inr hm)).resolve_left
          fun e => String.lt_irrefl n (e ▸ ht.1 x hm)

end CheckSet
end PolicyAudit
