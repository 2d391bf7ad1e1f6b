import PolicyAudit.Xml.Node
import PolicyAudit.Xml.Cursor

/-! # Namespaces

A start tag may bind qualifiers to namespaces, for its own name and attributes and for everything
inside.  The empty qualifier stands for names without a colon, of elements only: an attribute
without a qualifier has no namespace.

Two namespaces are fixed.  The qualifier `xml` always has its own on attributes and may be bound to
nothing else; such a binding changes nothing, and the qualifier stays unknown on elements.  The
namespace of `xmlns` may not be bound at all.

A document numbers its bindings by 16-bit words, those that are the same only once, and so has room
for `maxBindings` different ones. -/

namespace PolicyAudit.Xml

/-- The namespace of the qualifier `xml`. -/
def xmlUri : String := "http://www.w3.org/XML/1998/namespace"

/-- The namespace of the qualifier `xmlns`. -/
def xmlnsUri : String := "http://www.w3.org/2000/xmlns/"

/-- Qualifiers with the namespaces they are bound to; the first binding of a qualifier counts. -/
abbrev Scope := List (String × String)

/-- The greatest number of different bindings in a document.  That of `xml` counts in each. -/
def maxBindings : Nat := 65536

namespace Scope

/-- The bindings of a document in which none has been read. -/
def initial : Scope := [("xml", xmlUri)]

def lookup? (s : Scope) (qualifier : String) : Option String :=
  (s.find? (·.1 = qualifier)).map (·.2)

/-- The namespace of a qualified name, which is absent for an unbound empty qualifier. -/
def resolve (s : Scope) (qualifier : String) (position : Position) :
    Except Error (Option String) :=
  match s.lookup? qualifier with
  | some uri => .ok (some uri)
  | none =>
    if qualifier.isEmpty then .ok none else .error (.unknownNamespace qualifier position)

end Scope

/-- An attribute as a start tag has it. -/
structure RawAttribute where
  name : QName
  value : String
  position : Position
deriving DecidableEq, Repr

/-- The attributes read so far, and the bindings among them apart, both last one first. -/
structure TagContent where
  bindings : Scope
  attributes : List RawAttribute
  /-- The different bindings of the document so far. -/
  known : Scope
deriving DecidableEq, Repr

namespace TagContent

/-- The content of a tag that begins in a document with these bindings. -/
def empty (known : Scope) : TagContent := ⟨[], [], known⟩

/-- Adds a binding, if the document has it already or has room for it. -/
def insert (t : TagContent) (qualifier uri : String) : Except Error TagContent :=
  if (qualifier, uri) ∈ t.known then .ok ⟨(qualifier, uri) :: t.bindings, t.attributes, t.known⟩
  else if t.known.length < maxBindings then
    .ok ⟨(qualifier, uri) :: t.bindings, t.attributes, (qualifier, uri) :: t.known⟩
  else .error .tooManyNamespaces

/-- Binds a qualifier that is not empty. -/
def bind (t : TagContent) (qualifier uri : String) (position : Position) :
    Except Error TagContent :=
  if uri = xmlnsUri then .error (.xmlnsUriDeclared position)
  else if qualifier = "xml" ∧ uri ≠ xmlUri then .error (.xmlMappedToWrongUri position)
  else if qualifier ≠ "xml" ∧ uri = xmlUri then .error (.xmlUriForOtherName position)
  else if (Scope.lookup? t.bindings qualifier).isSome then
    .error (.repeatedNamespace qualifier position)
  else if qualifier = "xml" then .ok t
  else t.insert qualifier uri

/-- Binds the empty qualifier. -/
def bindDefault (t : TagContent) (uri : String) (position : Position) :
    Except Error TagContent :=
  if uri = xmlUri then .error (.xmlUriForOtherName position)
  else if uri = xmlnsUri then .error (.xmlnsUriDeclared position)
  else t.insert "" uri

/-- Takes in one more attribute, which may be a binding. -/
def add (t : TagContent) (a : RawAttribute) : Except Error TagContent :=
  if a.name.qualifier = "xmlns" then t.bind a.name.localName a.value a.position
  else if a.name.localName = "xmlns" then t.bindDefault a.value a.position
  else .ok ⟨t.bindings, a :: t.attributes, t.known⟩

/-- The scope inside the tag. -/
def scope (t : TagContent) (outer : Scope) : Scope := t.bindings.reverse ++ outer

/-- The namespace of an attribute. -/
def attributeUri (scope : Scope) (a : RawAttribute) : Except Error (Option String) :=
  if a.name.qualifier = "xml" then .ok (some xmlUri)
  else if a.name.qualifier.isEmpty then .ok none
  else scope.resolve a.name.qualifier a.position

/-- The attributes by their expanded names, which must differ from each other. -/
def resolveLoop (scope : Scope) (done : List Attribute) :
    List RawAttribute → Except Error (List Attribute)
  | [] => .ok done.reverse
  | a :: rest =>
    match attributeUri scope a with
    | .error e => .error e
    | .ok uri =>
      if done.any fun d => d.namespaceUri = uri ∧ d.name = a.name.localName then
        .error (.repeatedAttribute a.name.localName a.position)
      else resolveLoop scope (⟨uri, a.name.localName, a.value⟩ :: done) rest

/-- The attributes that are no bindings, in their order. -/
def resolve (t : TagContent) (outer : Scope) : Except Error (List Attribute) :=
  resolveLoop (t.scope outer) [] t.attributes.reverse

end TagContent
end PolicyAudit.Xml
