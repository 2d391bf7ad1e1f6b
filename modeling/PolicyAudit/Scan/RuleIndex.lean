import PolicyAudit.Scan.ResultsDocument

/-! # Rules by their ids

A `RuleIndex` finds the definition of a rule by its id.  Of several definitions with one id the
last one in document order counts.  A rule without an id is not in the index. -/

namespace PolicyAudit.Scan

open Xml (Element)

/-- The check system of OVAL definitions, the only one that is correlated. -/
def ovalSystem : String := "http://oval.mitre.org/XMLSchema/oval-definitions-5"

/-- A check that a rule declares. -/
structure CheckReference where
  /-- The check system, empty if the check names none. -/
  system : String
  /-- The identifier in the first content reference: absent without a reference, and empty if the
  reference has no name. -/
  name : Option String
deriving DecidableEq, Repr

namespace CheckReference

def isOval (c : CheckReference) : Bool := c.system = ovalSystem

def ofElement (e : Element) : CheckReference where
  system := (e.attribute? "system").getD ""
  name := (e.child? "check-content-ref").map fun r => (r.attribute? "name").getD ""

end CheckReference

/-- A rule with its checks, in document order. -/
structure RuleDefinition where
  id : String
  checks : List CheckReference
deriving DecidableEq, Repr

namespace RuleDefinition

/-- The check that decides on the rule: the first OVAL check, the others being ignored. -/
def relevantCheck? (r : RuleDefinition) : Option CheckReference := r.checks.find? (·.isOval)

/-- The identifier of the relevant check, if that check has a content reference. -/
def relevantName? (r : RuleDefinition) : Option String := r.relevantCheck?.bind (·.name)

/-- The definition in an element, if the element has an id. -/
def ofElement? (e : Element) : Option RuleDefinition :=
  (e.attribute? "id").map fun id => ⟨id, (e.childrenNamed "check").map CheckReference.ofElement⟩

end RuleDefinition

/-- Definitions with ids that differ from each other. -/
structure RuleIndex where
  rules : List RuleDefinition
  distinct : rules.Pairwise fun r r' => r.id ≠ r'.id

namespace RuleIndex

def empty : RuleIndex := ⟨[], .nil⟩

/-- Adds a definition in place of one with the same id. -/
def insert (index : RuleIndex) (r : RuleDefinition) : RuleIndex where
  rules := r :: index.rules.filter (·.id ≠ r.id)
  distinct := by
    rw [List.pairwise_cons]
    refine ⟨fun r' h => ?_, index.distinct.filter _⟩
    have := (List.mem_filter.mp h).2
    exact fun e => absurd e.symm (by simpa using this)

def ofRules (rules : List RuleDefinition) : RuleIndex := rules.foldl insert empty

def get? (index : RuleIndex) (id : String) : Option RuleDefinition :=
  index.rules.find? (·.id = id)

/-- The number of ids. -/
def size (index : RuleIndex) : Nat := index.rules.length

def isEmpty (index : RuleIndex) : Bool := index.rules.isEmpty

/-- The index of the rules that a document defines. -/
def ofDocument (d : ResultsDocument) : RuleIndex :=
  ofRules (d.ruleElements.filterMap RuleDefinition.ofElement?)

/-! ### Look-ups -/

theorem get?_empty (id : String) : empty.get? id = none := rfl

/-- The definition added last is the one that is found. -/
theorem get?_insert (index : RuleIndex) (r : RuleDefinition) (id : String) :
    (index.insert r).get? id = if r.id = id then some r else index.get? id := by
  rw [get?, insert, List.find?_cons]
  by_cases h : r.id = id
  · simp [h]
  · simp only [h, decide_false, if_false, get?, List.find?_filter]
    congr
    funext r'
    by_cases h' : r'.id = id
    · simp [h', Ne.symm h]
    · simp [h']

end RuleIndex
end PolicyAudit.Scan
