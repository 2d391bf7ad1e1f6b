import Mathlib.Data.List.Pairwise
import PolicyAudit.Proofs.Scan.Join

/-! # What an index finds

An index finds by an id the last of its rules that has the id (`get?_ofRules`).  Of two lists of
rules the second one thus goes first (`get?_ofRules_append`), and the order of rules whose ids
differ does not matter (`get?_ofRules_of_perm`).

All that a run takes from a rule is the identifier in its first OVAL check.  `RuleEdit` lists the
edits of rules that no look-up of an identifier shows: of rules that are not looked up or are
overridden, and of checks that are not OVAL checks or stand behind the first one
(`identifier?_of_ruleEdit`). -/

namespace PolicyAudit.Scan

/-- The definitions of rules in a document, in document order. -/
def ResultsDocument.ruleDefinitions (d : ResultsDocument) : List RuleDefinition :=
  d.ruleElements.filterMap RuleDefinition.ofElement?

/-! ### Relevant checks -/

namespace RuleDefinition

theorem relevantName?_of_otherSystem (id : String) {front middle middle' back : List CheckReference}
    (h : ∀ c ∈ middle ++ middle', c.system ≠ ovalSystem) :
    relevantName? ⟨id, front ++ middle ++ back⟩ =
      relevantName? ⟨id, front ++ middle' ++ back⟩ := by
  have hskip : ∀ cs : List CheckReference, (∀ c ∈ cs, c.system ≠ ovalSystem) →
      cs.find? (·.isOval) = none := by
    intro cs hcs
    simpa [CheckReference.isOval] using hcs
  simp only [relevantName?, relevantCheck?, List.find?_append,
    hskip middle fun c hc => h c (List.mem_append_left _ hc),
    hskip middle' fun c hc => h c (List.mem_append_right _ hc)]

theorem relevantName?_of_laterCheck (id : String) (front back back' : List CheckReference)
    {c : CheckReference} (h : c.system = ovalSystem) :
    relevantName? ⟨id, front ++ c :: back⟩ =
      relevantName? ⟨id, front ++ c :: back'⟩ := by
  have hoval : c.isOval = true := decide_eq_true h
  simp only [relevantName?, relevantCheck?, List.find?_append,
    List.find?_cons, hoval]

end RuleDefinition

namespace RuleIndex

/-- The identifier of the rule with an id, if the index has the rule and the rule an identifier. -/
def identifier? (index : RuleIndex) (id : String) : Option String :=
  (index.get? id).bind (·.relevantName?)

theorem ofDocument_eq_ofRules (d : ResultsDocument) : ofDocument d = ofRules d.ruleDefinitions :=
  rfl

/-! ### Look-ups -/

/-- What is found by an id has the id. -/
theorem id_of_get? {index : RuleIndex} {id : String} {r : RuleDefinition}
    (h : index.get? id = some r) : r.id = id := by
  simpa using List.find?_some h

theorem get?_ofRules (rules : List RuleDefinition) (id : String) :
    (ofRules rules).get? id = rules.reverse.find? (·.id = id) := by
  rw [ofRules, get?_foldl_insert, get?_empty, Option.or_none]

theorem get?_ofRules_append (before after : List RuleDefinition) (id : String) :
    (ofRules (before ++ after)).get? id =
      ((ofRules after).get? id).or ((ofRules before).get? id) := by
  simp only [get?_ofRules, List.reverse_append, List.find?_append]

theorem get?_ofRules_singleton (r : RuleDefinition) (id : String) :
    (ofRules [r]).get? id = if r.id = id then some r else none := by
  rw [ofRules, List.foldl_cons, List.foldl_nil, get?_insert, get?_empty]

theorem get?_ofRules_eq_none_iff {rules : List RuleDefinition} {id : String} :
    (ofRules rules).get? id = none ↔ ∀ r ∈ rules, r.id ≠ id := by
  simp [get?_ofRules]

theorem mem_of_get?_ofRules {rules : List RuleDefinition} {id : String} {r : RuleDefinition}
    (h : (ofRules rules).get? id = some r) : r ∈ rules := by
  rw [get?_ofRules] at h
  exact List.mem_reverse.mp (List.mem_of_find?_eq_some h)

/-- Rules with ids of their own are all found. -/
theorem get?_ofRules_eq_some_iff {rules : List RuleDefinition}
    (hdistinct : rules.Pairwise fun r r' => r.id ≠ r'.id) {id : String} {r : RuleDefinition} :
    (ofRules rules).get? id = some r ↔ r ∈ rules ∧ r.id = id := by
  constructor
  · intro hget
    exact ⟨mem_of_get?_ofRules hget, id_of_get? hget⟩
  · rintro ⟨hmem, rfl⟩
    cases hget : (ofRules rules).get? r.id with
    | none => exact absurd rfl (get?_ofRules_eq_none_iff.mp hget r hmem)
    | some r' =>
      have hsymm : Std.Symm fun r r' : RuleDefinition => r.id ≠ r'.id := ⟨fun _ _ hne => hne.symm⟩
      by_contra hne
      exact hdistinct.forall (mem_of_get?_ofRules hget) hmem (fun heq => hne (heq ▸ rfl))
        (id_of_get? hget)

/-- The order of rules with ids of their own does not matter. -/
theorem get?_ofRules_of_perm {rules rules' : List RuleDefinition} (h : rules.Perm rules')
    (hdistinct : rules.Pairwise fun r r' => r.id ≠ r'.id) (id : String) :
    (ofRules rules).get? id = (ofRules rules').get? id := by
  have hdistinct' : rules'.Pairwise fun r r' => r.id ≠ r'.id :=
    (h.pairwise_iff fun hne => hne.symm).mp hdistinct
  refine Option.ext fun r => ?_
  rw [get?_ofRules_eq_some_iff hdistinct, get?_ofRules_eq_some_iff hdistinct', h.mem_iff]

/-! ### Edits -/

/-- An edit of rules that does not show when the ids are looked up. -/
inductive RuleEdit (ids : List String) : List RuleDefinition → List RuleDefinition → Prop
  /-- Rules that are not looked up. -/
  | unreferenced {before middle middle' after : List RuleDefinition} :
      (∀ r ∈ middle ++ middle', r.id ∉ ids) →
      RuleEdit ids (before ++ middle ++ after) (before ++ middle' ++ after)
  /-- Rules with the id of a later one. -/
  | overridden {before middle middle' after : List RuleDefinition} :
      (∀ r ∈ middle ++ middle', ∃ later ∈ after, later.id = r.id) →
      RuleEdit ids (before ++ middle ++ after) (before ++ middle' ++ after)
  /-- Checks of other systems. -/
  | otherSystem {before after : List RuleDefinition} {id : String}
      {front middle middle' back : List CheckReference} :
      (∀ c ∈ middle ++ middle', c.system ≠ ovalSystem) →
      RuleEdit ids (before ++ [⟨id, front ++ middle ++ back⟩] ++ after)
        (before ++ [⟨id, front ++ middle' ++ back⟩] ++ after)
  /-- Checks behind an OVAL check. -/
  | laterCheck {before after : List RuleDefinition} {id : String}
      {front back back' : List CheckReference} {c : CheckReference} :
      c.system = ovalSystem →
      RuleEdit ids (before ++ [⟨id, front ++ c :: back⟩] ++ after)
        (before ++ [⟨id, front ++ c :: back'⟩] ++ after)

/-- A rule may be put in place of another one with its id and its identifier. -/
theorem identifier?_of_relevantName? {before after : List RuleDefinition} {r r' : RuleDefinition}
    (hid : r.id = r'.id) (hname : r.relevantName? = r'.relevantName?) (id : String) :
    (ofRules (before ++ [r] ++ after)).identifier? id =
      (ofRules (before ++ [r'] ++ after)).identifier? id := by
  simp only [identifier?, get?_ofRules_append, get?_ofRules_singleton, hid]
  cases (ofRules after).get? id with
  | some later => rfl
  | none =>
    by_cases h : r'.id = id
    · simp only [h, if_true, Option.none_or, Option.some_or, Option.bind_some, hname]
    · simp only [h, if_false]

/-- Rules in the middle may be replaced that have other ids or do not come last with theirs. -/
theorem get?_of_middle {before middle middle' after : List RuleDefinition} {id : String}
    (h : (ofRules after).get? id = none → ∀ r ∈ middle ++ middle', r.id ≠ id) :
    (ofRules (before ++ middle ++ after)).get? id =
      (ofRules (before ++ middle' ++ after)).get? id := by
  simp only [get?_ofRules_append]
  cases hafter : (ofRules after).get? id with
  | some later => rfl
  | none =>
    have hother := h hafter
    rw [get?_ofRules_eq_none_iff.mpr fun r hr => hother r (List.mem_append_left _ hr),
      get?_ofRules_eq_none_iff.mpr fun r hr => hother r (List.mem_append_right _ hr)]

theorem identifier?_of_ruleEdit {ids : List String} {rules rules' : List RuleDefinition}
    (h : RuleEdit ids rules rules') {id : String} (hid : id ∈ ids) :
    (ofRules rules).identifier? id = (ofRules rules').identifier? id := by
  cases h with
  | unreferenced hother =>
    rw [identifier?, identifier?, get?_of_middle]
    rintro - r hr rfl
    exact hother r hr hid
  | overridden hlater =>
    rw [identifier?, identifier?, get?_of_middle]
    rintro hnone r hr rfl
    obtain ⟨later, hmem, heq⟩ := hlater r hr
    exact get?_ofRules_eq_none_iff.mp hnone later hmem heq
  | otherSystem hother =>
    apply identifier?_of_relevantName?
    · rfl
    · exact RuleDefinition.relevantName?_of_otherSystem _ hother
  | laterCheck hoval =>
    apply identifier?_of_relevantName?
    · rfl
    · exact RuleDefinition.relevantName?_of_laterCheck _ _ _ _ hoval

end RuleIndex
end PolicyAudit.Scan
