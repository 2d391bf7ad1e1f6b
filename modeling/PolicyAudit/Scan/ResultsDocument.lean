import PolicyAudit.Text.Blank
import PolicyAudit.Xml.Document

/-! # Results documents

A results document reports how the rules of a benchmark fared on one host, the target.  Elements are
known by their local names, in any namespace and at any depth: the first `target` names the host,
each `rule-result` is a result, and each `Rule` defines a rule. -/

namespace PolicyAudit.Scan

open Xml (Element Node)

/-- The text inside an element, at any depth, without the blanks at its ends. -/
def innerText (e : Element) : String := Text.trim (Node.textOf e.children)

/-- A result of a rule. -/
structure RuleResult where
  /-- The id of the rule, empty if the result names none. -/
  idref : String
  /-- The text of the first `result` directly inside. -/
  outcome : Option String
deriving DecidableEq, Repr

def RuleResult.ofElement (e : Element) : RuleResult where
  idref := (e.attribute? "idref").getD ""
  outcome := (e.child? "result").map innerText

/-- A parsed document and the place that it was read from. -/
structure ResultsDocument where
  location : String
  nodes : List Node

namespace ResultsDocument

/-- The document that a text holds. -/
def ofText (text location : String) : Except Xml.Error ResultsDocument :=
  (Xml.read text).map (⟨location, ·⟩)

/-- The elements with a local name, in document order. -/
def elementsNamed (d : ResultsDocument) (name : String) : List Element :=
  (Node.elementsOf d.nodes).filter (·.name = name)

/-- The name of the host; a first `target` with blank text names none. -/
def target? (d : ResultsDocument) : Option String :=
  match (d.elementsNamed "target").head? with
  | none => none
  | some e => if innerText e = "" then none else some (innerText e)

def ruleResults (d : ResultsDocument) : List RuleResult :=
  (d.elementsNamed "rule-result").map RuleResult.ofElement

/-- The elements that define rules. -/
def ruleElements (d : ResultsDocument) : List Element := d.elementsNamed "Rule"

/-- The link to the document as evidence. -/
def evidenceHref (d : ResultsDocument) : String := "file://" ++ d.location

end ResultsDocument
end PolicyAudit.Scan
