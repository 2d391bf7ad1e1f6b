import Mathlib.Data.Set.Card
import PolicyAudit.Proofs.Scan.Index
import PolicyAudit.Proofs.Xml.Place

/-! # The rules that an index holds

A document may define a rule at any depth, inside another rule too, and it may define one id several
times.  An index holds for each id the definition that comes last in document order
(`isRuleOf_iff`), with one entry for each check directly inside (`forall₂_describes`), and nothing
else: it has as many entries as there are ids (`size_eq_ncard`). -/

namespace PolicyAudit.Scan

open Xml (Element Node)

/-- The element at the place is a rule with the id. -/
structure DefinesRule (d : ResultsDocument) (id : String) (place : List Nat) (rule : Element) :
    Prop where
  located : Node.At d.nodes place rule
  name : rule.name = "Rule"
  idIs : rule.attribute? "id" = some id

/-- The rule defines the id, and no rule behind it does. -/
def IsLastRule (d : ResultsDocument) (id : String) (rule : Element) : Prop :=
  ∃ place, DefinesRule d id place rule ∧
    ∀ place' later, place < place' → ¬ DefinesRule d id place' later

/-- The entry has the system of the check, empty if it names none, and the name in its first content
reference: absent without a reference, and empty if the reference has no name. -/
structure Describes (check : Element) (entry : CheckReference) : Prop where
  system : entry.system = (check.attribute? "system").getD ""
  unreferenced : entry.name = none ↔ check.childrenNamed "check-content-ref" = []
  referenced : ∀ reference rest, check.childrenNamed "check-content-ref" = reference :: rest →
    entry.name = some ((reference.attribute? "name").getD "")

/-! ### Definitions -/

theorem isRuleOf_iff {d : ResultsDocument} {id : String} {rule : Element} :
    IsRuleOf d id rule ↔ IsLastRule d id rule := by
  unfold IsRuleOf IsLastRule ResultsDocument.elementsNamed
  rw [Node.exists_last_iff (P := fun e => e.attribute? "id" = some id)]
  constructor
  · rintro ⟨place, hat, hname, hid, hlast⟩
    refine ⟨place, ⟨hat, by simpa using hname, hid⟩, ?_⟩
    rintro place' later hlt ⟨hat', hname', hid'⟩
    exact hlast place' later hat' (by simpa using hname') hlt hid'
  · rintro ⟨place, ⟨hat, hname, hid⟩, hlast⟩
    refine ⟨place, hat, by simpa using hname, hid, ?_⟩
    intro place' later hat' hname' hlt hid'
    exact hlast place' later hlt ⟨hat', by simpa using hname', hid'⟩

theorem exists_mem_ruleDefinitions_iff {d : ResultsDocument} {id : String} :
    (∃ r ∈ d.ruleDefinitions, r.id = id) ↔ ∃ place rule, DefinesRule d id place rule := by
  unfold ResultsDocument.ruleDefinitions ResultsDocument.ruleElements ResultsDocument.elementsNamed
  constructor
  · rintro ⟨r, hr, rfl⟩
    obtain ⟨rule, hrule, hdefinition⟩ := List.mem_filterMap.mp hr
    obtain ⟨hmem, hname⟩ := List.mem_filter.mp hrule
    obtain ⟨id, hid, rfl⟩ := Option.map_eq_some_iff.mp hdefinition
    obtain ⟨place, hat⟩ := Node.mem_elementsOf_iff.mp hmem
    exact ⟨place, rule, hat, by simpa using hname, hid⟩
  · rintro ⟨place, rule, hat, hname, hid⟩
    have hmem : rule ∈ Node.elementsOf d.nodes := Node.mem_elementsOf_iff.mpr ⟨place, hat⟩
    refine ⟨RuleIndex.definitionOf id rule, List.mem_filterMap.mpr ⟨rule, ?_, ?_⟩, rfl⟩
    · exact List.mem_filter.mpr ⟨hmem, by simpa using hname⟩
    · rw [RuleDefinition.ofElement?, hid, Option.map_some, RuleIndex.definitionOf]

theorem describes_ofElement (check : Element) : Describes check (.ofElement check) := by
  refine ⟨rfl, ?_, ?_⟩
  · simp [CheckReference.ofElement, Element.child?]
  · intro reference rest h
    simp [CheckReference.ofElement, Element.child?, h]

theorem forall₂_describes (id : String) (rule : Element) :
    List.Forall₂ Describes (rule.childrenNamed "check") (RuleIndex.definitionOf id rule).checks := by
  rw [RuleIndex.definitionOf, List.forall₂_map_right_iff, List.forall₂_same]
  intro check _
  exact describes_ofElement check

/-! ### The index -/

namespace RuleIndex

theorem get?_isSome_iff {d : ResultsDocument} {id : String} :
    ((ofDocument d).get? id).isSome = true ↔ ∃ place rule, DefinesRule d id place rule := by
  rw [← exists_mem_ruleDefinitions_iff, Option.isSome_iff_ne_none, ofDocument_eq_ofRules, ne_eq,
    get?_ofRules_eq_none_iff]
  simp

theorem mem_ids_iff {index : RuleIndex} {id : String} :
    id ∈ index.rules.map (·.id) ↔ (index.get? id).isSome = true := by
  simp [get?]

/-- The rules of an index are as many as the ids that are found. -/
theorem size_eq_ncard (index : RuleIndex) :
    index.size = {id | (index.get? id).isSome = true}.ncard := by
  have hnodup : (index.rules.map (·.id)).Nodup := List.pairwise_map.mpr index.distinct
  have hset : {id | (index.get? id).isSome = true} = ((index.rules.map (·.id)).toFinset : Set _) := by
    ext id
    rw [List.coe_toFinset]
    exact mem_ids_iff.symm
  rw [hset, Set.ncard_coe_finset, List.toFinset_card_of_nodup hnodup, List.length_map, size]

theorem isEmpty_iff {index : RuleIndex} :
    index.isEmpty = true ↔ ∀ id, index.get? id = none := by
  rw [isEmpty, List.isEmpty_iff]
  constructor
  · intro h id
    rw [get?, h, List.find?_nil]
  · intro h
    rw [List.eq_nil_iff_forall_not_mem]
    intro r hr
    simpa using List.find?_eq_none.mp (h r.id) r hr

end RuleIndex

/-- An index finds an id exactly if some rule of the document has it, at whatever depth.  What it
finds has the id and, for each check directly inside the last rule with the id, an entry in document
order.  It has as many entries as there are ids, and is empty if no rule has an id. -/
theorem index_holds_last_rules (d : ResultsDocument) :
    let index := RuleIndex.ofDocument d
    (∀ id, (index.get? id).isSome = true ↔ ∃ place rule, DefinesRule d id place rule) ∧
    (∀ id r, index.get? id = some r →
      r.id = id ∧ ∃ rule, IsLastRule d id rule ∧
        List.Forall₂ Describes (rule.childrenNamed "check") r.checks) ∧
    index.size = {id | ∃ place rule, DefinesRule d id place rule}.ncard ∧
    (index.isEmpty = true ↔ ∀ id place rule, ¬ DefinesRule d id place rule) := by
  intro index
  refine ⟨fun id => RuleIndex.get?_isSome_iff, ?_, ?_, ?_⟩
  · intro id r hget
    obtain ⟨rule, hrule, rfl⟩ := RuleIndex.get?_ofDocument_eq_some_iff.mp hget
    exact ⟨rfl, rule, isRuleOf_iff.mp hrule, forall₂_describes id rule⟩
  · rw [RuleIndex.size_eq_ncard]
    simp only [index, RuleIndex.get?_isSome_iff]
  · rw [RuleIndex.isEmpty_iff]
    have hnone : ∀ id, index.get? id = none ↔ ∀ place rule, ¬ DefinesRule d id place rule := by
      intro id
      rw [← Option.not_isSome_iff_eq_none, RuleIndex.get?_isSome_iff]
      simp only [not_exists]
    simp only [hnone]

/-- A rule inside another one comes behind it. -/
example :
    let inner : Node := .element none "Rule" [⟨none, "id", "sshd"⟩] []
    let outer : Node :=
      .element none "Rule" [⟨none, "id", "sshd"⟩] [.element none "check" [] [], inner]
    (RuleIndex.ofDocument ⟨"arf.xml", [outer]⟩).get? "sshd" = some ⟨"sshd", []⟩ := by rfl

end PolicyAudit.Scan
