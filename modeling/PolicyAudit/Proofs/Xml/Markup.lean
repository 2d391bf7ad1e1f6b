import Mathlib.Logic.Relation
import PolicyAudit.Xml.Node

/-! # Markup without data

Comments, processing instructions, the places where a text is cut into several nodes, and the
namespaces of elements are markup that no query of a document looks at.  A `MarkupEdit` changes one
of these at any depth, and nodes have the `SameData` if edits lead from the ones to the others, in
whatever direction.

Nodes with the same data have the same text (`SameData.textOf_eq`), and what is read off their
elements is the same if it depends on the name, the attributes without a namespace and the data of
an element alone (`SameData.map_elementsOf`, `SameData.map_filterMap_element?`). -/

namespace PolicyAudit.Xml

open Node (textOf elementsOf element?)

/-- The attributes without a namespace. -/
def plainAttributes (attributes : List Attribute) : List Attribute :=
  attributes.filter (·.namespaceUri = none)

/-- One edit of markup. -/
inductive MarkupEdit : List Node → List Node → Prop
  | comment (before after : List Node) (value : String) :
      MarkupEdit (before ++ after) (before ++ .comment value :: after)
  | instruction (before after : List Node) (target value : String) :
      MarkupEdit (before ++ after) (before ++ .instruction target value :: after)
  | cut (before after : List Node) (s t : String) :
      MarkupEdit (before ++ .text (s ++ t) :: after) (before ++ .text s :: .text t :: after)
  | namespaces (before after : List Node) {uri uri' : Option String} {name : String}
      {attributes attributes' : List Attribute} {children : List Node} :
      plainAttributes attributes = plainAttributes attributes' →
      MarkupEdit (before ++ .element uri name attributes children :: after)
        (before ++ .element uri' name attributes' children :: after)
  | inside (before after : List Node) {uri : Option String} {name : String}
      {attributes : List Attribute} {children children' : List Node} :
      MarkupEdit children children' →
      MarkupEdit (before ++ .element uri name attributes children :: after)
        (before ++ .element uri name attributes children' :: after)

/-- The nodes differ in markup only. -/
def SameData : List Node → List Node → Prop := Relation.EqvGen MarkupEdit

/-- The elements differ in namespaces and in markup only. -/
structure Element.SameData (e e' : Element) : Prop where
  name : e.name = e'.name
  attributes : plainAttributes e.attributes = plainAttributes e'.attributes
  children : Xml.SameData e.children e'.children

theorem Element.sameData_of_attributes {uri uri' : Option String} {name : String}
    {attributes attributes' : List Attribute} {children : List Node}
    (h : plainAttributes attributes = plainAttributes attributes') :
    Element.SameData ⟨uri, name, attributes, children⟩ ⟨uri', name, attributes', children⟩ :=
  ⟨rfl, h, .refl _⟩

theorem Element.sameData_of_edit {uri : Option String} {name : String}
    {attributes : List Attribute} {children children' : List Node}
    (h : MarkupEdit children children') :
    Element.SameData ⟨uri, name, attributes, children⟩ ⟨uri, name, attributes, children'⟩ :=
  ⟨rfl, rfl, .rel _ _ h⟩

/-- The function takes elements with the same data to one value. -/
def ReadsData {α : Type} (f : Element → α) : Prop := ∀ e e', e.SameData e' → f e = f e'

/-! ### Edits -/

section

variable {ns ms : List Node} {α : Type} {f : Element → α}

theorem MarkupEdit.textOf_eq (h : MarkupEdit ns ms) : textOf ns = textOf ms := by
  induction h with
  | comment before after value => simp [Node.textOf_append, Node.textOf, Node.textContent]
  | instruction before after target value =>
    simp [Node.textOf_append, Node.textOf, Node.textContent]
  | cut before after s t =>
    simp [Node.textOf_append, Node.textOf, Node.textContent, String.append_assoc]
  | namespaces before after _ => simp [Node.textOf_append, Node.textOf, Node.textContent]
  | inside before after _ ih => simp [Node.textOf_append, Node.textOf, Node.textContent, ih]

theorem MarkupEdit.map_elementsOf (hf : ReadsData f) (h : MarkupEdit ns ms) :
    (elementsOf ns).map f = (elementsOf ms).map f := by
  induction h with
  | comment before after value => simp [Node.elementsOf_append, Node.elementsOf, Node.elements]
  | instruction before after target value =>
    simp [Node.elementsOf_append, Node.elementsOf, Node.elements]
  | cut before after s t => simp [Node.elementsOf_append, Node.elementsOf, Node.elements]
  | namespaces before after hattributes =>
    simp only [Node.elementsOf_append, Node.elementsOf, Node.elements, List.map_append,
      List.map_cons, List.cons_append]
    rw [hf _ _ (Element.sameData_of_attributes hattributes)]
  | inside before after hedit ih =>
    simp [Node.elementsOf_append, Node.elementsOf, Node.elements,
      hf _ _ (Element.sameData_of_edit hedit), ih]

theorem MarkupEdit.map_filterMap_element? (hf : ReadsData f) (h : MarkupEdit ns ms) :
    (ns.filterMap element?).map f = (ms.filterMap element?).map f := by
  cases h with
  | comment before after value => simp [List.filterMap_cons, Node.element?]
  | instruction before after target value => simp [List.filterMap_cons, Node.element?]
  | cut before after s t => simp [List.filterMap_cons, Node.element?]
  | namespaces before after hattributes =>
    simp only [List.filterMap_append, List.filterMap_cons, Node.element?, List.map_append,
      List.map_cons]
    rw [hf _ _ (Element.sameData_of_attributes hattributes)]
  | inside before after hedit =>
    simp [Node.element?, hf _ _ (Element.sameData_of_edit hedit)]

/-! ### Nodes with the same data -/

/-- What no edit changes is the same for nodes with the same data. -/
theorem SameData.eq_of_edit {β : Type} {g : List Node → β}
    (hg : ∀ ns ms, MarkupEdit ns ms → g ns = g ms) (h : SameData ns ms) : g ns = g ms := by
  induction h with
  | rel ns ms hedit => exact hg ns ms hedit
  | refl ns => rfl
  | symm ns ms _ ih => exact ih.symm
  | trans ns ms ks _ _ ih ih' => exact ih.trans ih'

theorem SameData.textOf_eq (h : SameData ns ms) : textOf ns = textOf ms :=
  h.eq_of_edit fun _ _ hedit => hedit.textOf_eq

theorem SameData.map_elementsOf (hf : ReadsData f) (h : SameData ns ms) :
    (elementsOf ns).map f = (elementsOf ms).map f :=
  h.eq_of_edit (g := fun ns => (elementsOf ns).map f) fun _ _ hedit => hedit.map_elementsOf hf

theorem SameData.map_filterMap_element? (hf : ReadsData f) (h : SameData ns ms) :
    (ns.filterMap element?).map f = (ms.filterMap element?).map f :=
  h.eq_of_edit (g := fun ns => (ns.filterMap element?).map f)
    fun _ _ hedit => hedit.map_filterMap_element? hf

end

/-! ### Queries of elements -/

/-- Reading the elements of a name off a list is reading each element or passing it over. -/
theorem map_filter_name {α : Type} (f : Element → α) (name : String) (es : List Element) :
    (es.filter (·.name = name)).map f =
      (es.map fun e => if e.name = name then some (f e) else none).filterMap id := by
  induction es with
  | nil => rfl
  | cons e es ih => by_cases h : e.name = name <;> simp [h, ih]

/-- What is read off the elements of a name does not depend on markup. -/
theorem ReadsData.ofName {α : Type} {f : Element → α} (hf : ReadsData f) (name : String) :
    ReadsData fun e => if e.name = name then some (f e) else none := by
  intro e e' h
  simp only [h.name, hf e e' h]

namespace Element.SameData

variable {e e' : Element}

theorem attribute?_eq (h : e.SameData e') (key : String) : e.attribute? key = e'.attribute? key := by
  have hplain : ∀ attributes : List Attribute,
      (attributes.find? fun a => a.namespaceUri = none ∧ a.name = key) =
        (plainAttributes attributes).find? (·.name = key) := by
    intro attributes
    simp [plainAttributes, List.find?_filter]
  rw [attribute?, attribute?, hplain, hplain, h.attributes]

theorem map_childrenNamed {α : Type} {f : Element → α} (hf : ReadsData f) (h : e.SameData e')
    (name : String) : (e.childrenNamed name).map f = (e'.childrenNamed name).map f := by
  rw [childrenNamed, childrenNamed, map_filter_name, map_filter_name,
    h.children.map_filterMap_element? (hf.ofName name)]

theorem map_child? {α : Type} {f : Element → α} (hf : ReadsData f) (h : e.SameData e')
    (name : String) : (e.child? name).map f = (e'.child? name).map f := by
  rw [child?, child?, ← List.head?_map, ← List.head?_map, h.map_childrenNamed hf]

end Element.SameData

end PolicyAudit.Xml
