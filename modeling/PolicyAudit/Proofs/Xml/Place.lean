import PolicyAudit.Xml.Node

/-! # Document order

An element stands at a place: the number of a node among the nodes at the top, then that of a node
inside it, and so on (`At`).  Places are compared number by number, and one that goes on comes
after the one that it goes on from.  This is document order, in which an element comes before those
inside it, and these before the next node.

`placedOf` lists the elements of some nodes with their places.  It lists what `elementsOf` does
(`map_snd_placedOf`), it lists every place of an element (`mem_placedOf_iff`), and its places ascend
(`pairwise_placedOf`). -/

namespace PolicyAudit.Xml.Node

/-- The element at a place among nodes. -/
inductive At : List Node → List Nat → Element → Prop
  | top {nodes : List Node} {i : Nat} {e : Element} :
      nodes[i]?.bind element? = some e → At nodes [i] e
  | inside {nodes : List Node} {i : Nat} {place : List Nat} {e e' : Element} :
      nodes[i]?.bind element? = some e → At e.children place e' → At nodes (i :: place) e'

mutual

/-- The elements of a node with their places, the node being the one with number `i`. -/
def placed (i : Nat) : Node → List (List Nat × Element)
  | element uri name attributes children =>
    ([i], ⟨uri, name, attributes, children⟩) ::
      (placedOf 0 children).map fun p => (i :: p.1, p.2)
  | _ => []

/-- The elements of the nodes with their places, the first node having number `i`. -/
def placedOf (i : Nat) : List Node → List (List Nat × Element)
  | [] => []
  | node :: nodes => node.placed i ++ placedOf (i + 1) nodes

end

/-! ### Elements -/

mutual

theorem map_snd_placed (i : Nat) : (node : Node) → (node.placed i).map Prod.snd = node.elements
  | element uri name attributes children => by
    rw [placed, elements, List.map_cons, List.map_map]
    exact congrArg _ (map_snd_placedOf 0 children)
  | text _ => rfl
  | comment _ => rfl
  | instruction _ _ => rfl

theorem map_snd_placedOf (i : Nat) :
    (nodes : List Node) → (placedOf i nodes).map Prod.snd = elementsOf nodes
  | [] => rfl
  | node :: nodes => by
    rw [placedOf, elementsOf, List.map_append, map_snd_placed i node, map_snd_placedOf (i + 1) nodes]

end

/-! ### Places -/

theorem at_cons_iff {nodes : List Node} {i : Nat} {place : List Nat} {e : Element} :
    At nodes (i :: place) e ↔
      ∃ e', nodes[i]?.bind element? = some e' ∧ (place = [] ∧ e = e' ∨ At e'.children place e) := by
  constructor
  · intro h
    cases h with
    | top h => exact ⟨e, h, .inl ⟨rfl, rfl⟩⟩
    | inside h hinside => exact ⟨_, h, .inr hinside⟩
  · rintro ⟨e', h, ⟨rfl, rfl⟩ | hinside⟩
    · exact .top h
    · exact .inside h hinside

/-- A place begins with the number of a node. -/
theorem at_iff_exists_cons {nodes : List Node} {place : List Nat} {e : Element} :
    At nodes place e ↔ ∃ i rest, place = i :: rest ∧ At nodes (i :: rest) e := by
  constructor
  · intro h
    cases place with
    | nil => cases h
    | cons i rest => exact ⟨i, rest, rfl, h⟩
  · rintro ⟨i, rest, rfl, h⟩
    exact h

mutual

theorem mem_placed_iff (i : Nat) (place : List Nat) (e : Element) : (node : Node) →
    ((place, e) ∈ node.placed i ↔
      ∃ rest, place = i :: rest ∧ At [node] (0 :: rest) e)
  | element uri name attributes children => by
    have hchildren : ∀ rest, (rest, e) ∈ placedOf 0 children ↔ At children rest e := by
      intro rest
      rw [mem_placedOf_iff 0 rest e children, at_iff_exists_cons]
      simp only [Nat.zero_add]
    simp only [placed, List.mem_cons, List.mem_map, Prod.mk.injEq, Prod.exists, at_cons_iff]
    constructor
    · rintro (⟨rfl, rfl⟩ | ⟨rest, e', hmem, rfl, rfl⟩)
      · exact ⟨[], rfl, _, rfl, .inl ⟨rfl, rfl⟩⟩
      · exact ⟨rest, rfl, _, rfl, .inr ((hchildren rest).mp hmem)⟩
    · rintro ⟨rest, rfl, e', he', hrest⟩
      obtain rfl := Option.some.inj he'
      rcases hrest with ⟨rfl, rfl⟩ | hinside
      · exact .inl ⟨rfl, rfl⟩
      · exact .inr ⟨rest, e, (hchildren rest).mpr hinside, rfl, rfl⟩
  | text _ => by simp [placed, element?, at_cons_iff]
  | comment _ => by simp [placed, element?, at_cons_iff]
  | instruction _ _ => by simp [placed, element?, at_cons_iff]

theorem mem_placedOf_iff (i : Nat) (place : List Nat) (e : Element) : (nodes : List Node) →
    ((place, e) ∈ placedOf i nodes ↔ ∃ j rest, place = (i + j) :: rest ∧ At nodes (j :: rest) e)
  | [] => by simp [placedOf, at_cons_iff]
  | node :: nodes => by
    have hfirst : ∀ rest, At (node :: nodes) (0 :: rest) e ↔ At [node] (0 :: rest) e := by
      intro rest
      simp only [at_cons_iff, List.getElem?_cons_zero]
    have hlater : ∀ j rest, At (node :: nodes) ((j + 1) :: rest) e ↔ At nodes (j :: rest) e := by
      intro j rest
      simp only [at_cons_iff, List.getElem?_cons_succ]
    rw [placedOf, List.mem_append, mem_placed_iff i place e node,
      mem_placedOf_iff (i + 1) place e nodes]
    constructor
    · rintro (⟨rest, rfl, h⟩ | ⟨j, rest, rfl, h⟩)
      · exact ⟨0, rest, rfl, (hfirst rest).mpr h⟩
      · exact ⟨j + 1, rest, by rw [Nat.add_right_comm, Nat.add_assoc], (hlater j rest).mpr h⟩
    · rintro ⟨j, rest, rfl, h⟩
      cases j with
      | zero => exact .inl ⟨rest, rfl, (hfirst rest).mp h⟩
      | succ j =>
        exact .inr ⟨j, rest, by rw [Nat.add_right_comm, Nat.add_assoc], (hlater j rest).mp h⟩

end

theorem mem_placedOf_zero_iff {nodes : List Node} {place : List Nat} {e : Element} :
    (place, e) ∈ placedOf 0 nodes ↔ At nodes place e := by
  rw [mem_placedOf_iff, at_iff_exists_cons]
  simp only [Nat.zero_add]

/-! ### Order -/

mutual

theorem pairwise_placed (i : Nat) :
    (node : Node) → (node.placed i).Pairwise fun p q => p.1 < q.1
  | element uri name attributes children => by
    rw [placed, List.pairwise_cons, List.pairwise_map]
    refine ⟨?_, ?_⟩
    · intro p hp
      obtain ⟨q, hq, rfl⟩ := List.mem_map.mp hp
      obtain ⟨j, rest, hplace, -⟩ := (mem_placedOf_iff 0 q.1 q.2 children).mp hq
      rw [hplace]
      exact List.cons_lt_cons_iff.mpr (.inr ⟨rfl, List.nil_lt_cons _ _⟩)
    · apply (pairwise_placedOf 0 children).imp
      intro p q hlt
      exact List.cons_lt_cons_iff.mpr (.inr ⟨rfl, hlt⟩)
  | text _ => .nil
  | comment _ => .nil
  | instruction _ _ => .nil

theorem pairwise_placedOf (i : Nat) :
    (nodes : List Node) → (placedOf i nodes).Pairwise fun p q => p.1 < q.1
  | [] => .nil
  | node :: nodes => by
    rw [placedOf, List.pairwise_append]
    refine ⟨pairwise_placed i node, pairwise_placedOf (i + 1) nodes, ?_⟩
    intro p hp q hq
    obtain ⟨rest, hfirst, -⟩ := (mem_placed_iff i p.1 p.2 node).mp hp
    obtain ⟨j, rest', hlater, -⟩ := (mem_placedOf_iff (i + 1) q.1 q.2 nodes).mp hq
    rw [hfirst, hlater]
    exact List.cons_lt_cons_iff.mpr (.inl (by omega))

end

/-! ### Inner elements and last elements -/

theorem mem_elementsOf_iff {nodes : List Node} {e : Element} :
    e ∈ elementsOf nodes ↔ ∃ place, At nodes place e := by
  rw [← map_snd_placedOf 0 nodes, List.mem_map]
  constructor
  · rintro ⟨p, hp, rfl⟩
    exact ⟨p.1, mem_placedOf_zero_iff.mp hp⟩
  · rintro ⟨place, h⟩
    exact ⟨(place, e), mem_placedOf_zero_iff.mpr h, rfl⟩

/-- An element inside of an element of some nodes stands among the nodes as well. -/
theorem At.append {nodes : List Node} {place place' : List Nat} {e e' : Element}
    (h : At nodes place e) (h' : At e.children place' e') : At nodes (place ++ place') e' := by
  induction h with
  | top hnode => exact .inside hnode h'
  | inside hnode _ ih => exact .inside hnode (ih h')

theorem mem_elementsOf_of_mem_childrenNamed {nodes : List Node} {e e' : Element} {name : String}
    (he : e ∈ elementsOf nodes) (h : e' ∈ e.childrenNamed name) : e' ∈ elementsOf nodes := by
  obtain ⟨place, hplace⟩ := mem_elementsOf_iff.mp he
  obtain ⟨node, hnode, hchild⟩ := List.mem_filterMap.mp (List.mem_filter.mp h).1
  obtain ⟨i, hi, rfl⟩ := List.mem_iff_getElem.mp hnode
  have hget : e.children[i]?.bind element? = some e' := by
    rw [List.getElem?_eq_getElem hi]
    exact hchild
  exact mem_elementsOf_iff.mpr ⟨_, hplace.append (.top hget)⟩

/-- In a list with ascending places, the last element with a property has a place behind which there
is no other. -/
theorem exists_split_iff {listed : List (List Nat × Element)}
    (hlisted : listed.Pairwise fun p q => p.1 < q.1) {P : Element → Prop} {e : Element} :
    (∃ before after, listed.map Prod.snd = before ++ e :: after ∧ P e ∧ ∀ x ∈ after, ¬ P x) ↔
      ∃ place, (place, e) ∈ listed ∧ P e ∧
        ∀ place' x, (place', x) ∈ listed → place < place' → ¬ P x := by
  constructor
  · rintro ⟨before, after, hsplit, he, hafter⟩
    obtain ⟨front, back, rfl, rfl, hback⟩ := List.map_eq_append_iff.mp hsplit
    obtain ⟨⟨place, e'⟩, back, rfl, rfl, rfl⟩ := List.map_eq_cons_iff.mp hback
    rw [List.pairwise_append, List.pairwise_cons] at hlisted
    refine ⟨place, by simp, he, ?_⟩
    intro place' x hx hlt
    -- Neither the elements in front nor the one at the place stand behind the place.
    rcases List.mem_append.mp hx with hx | hx
    · have hgt := hlisted.2.2 _ hx _ List.mem_cons_self
      exact absurd hlt (List.lt_asymm hgt)
    · rcases List.mem_cons.mp hx with hx | hx
      · obtain ⟨rfl, rfl⟩ := Prod.mk.inj hx
        exact absurd hlt (List.lt_irrefl _)
      · exact hafter x (List.mem_map_of_mem hx)
  · rintro ⟨place, hmem, he, hlast⟩
    obtain ⟨front, back, rfl⟩ := List.append_of_mem hmem
    rw [List.pairwise_append, List.pairwise_cons] at hlisted
    refine ⟨front.map Prod.snd, back.map Prod.snd, by simp, he, ?_⟩
    intro x hx
    obtain ⟨⟨place', x⟩, hp, rfl⟩ := List.mem_map.mp hx
    exact hlast place' x (by simp [hp]) (hlisted.2.1.1 _ hp)

/-- Of the elements that a test selects, the last one with a property. -/
theorem exists_last_iff {nodes : List Node} {selected : Element → Bool} {P : Element → Prop}
    {e : Element} :
    (∃ before after, (elementsOf nodes).filter selected = before ++ e :: after ∧ P e ∧
      ∀ x ∈ after, ¬ P x) ↔
    ∃ place, At nodes place e ∧ selected e = true ∧ P e ∧
      ∀ place' x, At nodes place' x → selected x = true → place < place' → ¬ P x := by
  have hmap : ((placedOf 0 nodes).filter (selected ·.2)).map Prod.snd =
      (elementsOf nodes).filter selected := by
    rw [← map_snd_placedOf 0 nodes, List.filter_map]
    rfl
  rw [← hmap, exists_split_iff ((pairwise_placedOf 0 nodes).filter _)]
  simp only [List.mem_filter, mem_placedOf_zero_iff, and_assoc, and_imp]

end PolicyAudit.Xml.Node
