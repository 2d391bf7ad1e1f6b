/-! # XML trees

A `Node` is an element, a run of text, a comment or a processing instruction; a document is the list
of nodes at its top.  `Node.elementsOf` lists the elements of some nodes in document order, at any
depth, an element before those inside it.  `Node.textOf` joins the text at any depth; comments and
processing instructions have none. -/

namespace PolicyAudit.Xml

/-- An attribute by its expanded name. -/
structure Attribute where
  namespaceUri : Option String
  name : String
  value : String
deriving DecidableEq, Repr

inductive Node where
  | element (namespaceUri : Option String) (name : String) (attributes : List Attribute)
      (children : List Node)
  | text (value : String)
  | comment (value : String)
  | instruction (target value : String)

instance : Inhabited Node := ⟨.text ""⟩

/-- The parts of an element. -/
structure Element where
  namespaceUri : Option String
  name : String
  attributes : List Attribute
  children : List Node

namespace Node

mutual

/-- The element itself, if it is one, and the elements inside it. -/
def elements : Node → List Element
  | element uri name attributes children =>
    ⟨uri, name, attributes, children⟩ :: elementsOf children
  | _ => []

/-- The elements of the nodes, at any depth and in document order. -/
def elementsOf : List Node → List Element
  | [] => []
  | node :: nodes => node.elements ++ elementsOf nodes

end

mutual

/-- The text of a node. -/
def textContent : Node → String
  | element _ _ _ children => textOf children
  | text value => value
  | comment _ => ""
  | instruction _ _ => ""

/-- The joined text of the nodes. -/
def textOf : List Node → String
  | [] => ""
  | node :: nodes => node.textContent ++ textOf nodes

end

/-- The element that a node is. -/
def element? : Node → Option Element
  | element uri name attributes children => some ⟨uri, name, attributes, children⟩
  | _ => none

theorem elementsOf_append (ns ms : List Node) :
    elementsOf (ns ++ ms) = elementsOf ns ++ elementsOf ms := by
  induction ns with
  | nil => simp [elementsOf]
  | cons n ns ih => simp [elementsOf, ih]

theorem textOf_append (ns ms : List Node) : textOf (ns ++ ms) = textOf ns ++ textOf ms := by
  induction ns with
  | nil => simp [textOf]
  | cons n ns ih => simp [textOf, ih, String.append_assoc]

end Node

namespace Element

/-- The value of the attribute with the given name and no namespace. -/
def attribute? (e : Element) (name : String) : Option String :=
  (e.attributes.find? fun a => a.namespaceUri = none ∧ a.name = name).map (·.value)

/-- The elements directly inside that have the given local name. -/
def childrenNamed (e : Element) (name : String) : List Element :=
  (e.children.filterMap Node.element?).filter (·.name = name)

/-- The first of them. -/
def child? (e : Element) (name : String) : Option Element := (e.childrenNamed name).head?

end Element
end PolicyAudit.Xml
