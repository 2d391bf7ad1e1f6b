import PolicyAudit.Scan.Correlation

/-! # The join of results and checks

What a result has to do with a set of checks, said on the elements of the document alone.
`IsRuleOf` is the last definition of a rule id, `IsOvalCheckOf` the first OVAL check of a rule, and
`RefersTo` the way from a result over both to the identifier of a check.  `JoinsTo` adds that the
identifier has a short name and that the set has a check of that name.

`judge_eq_ok_some_iff` and `judge_eq_error_iff` say when the judgement of a result is a finding and
when it is an error: a finding exactly for a joined result with a known outcome (`JoinsTo`), an
error exactly for a fatal one (`Fatal`).  Each result joins to one check at most and is fatal with
one error at most (`JoinsTo.unique`, `Fatal.unique`). -/

namespace PolicyAudit.Scan

open Xml (Element Node)

/-! ### Results -/

/-- The id of the rule that a result is about, empty if the result names none. -/
def idrefOf (result : Element) : String := (result.attribute? "idref").getD ""

/-- The trimmed text of the first `result` directly inside, if there is one. -/
def outcomeOf (result : Element) : Option String := (result.child? "result").map innerText

theorem ofElement_idref (e : Element) : (RuleResult.ofElement e).idref = idrefOf e := rfl

theorem ofElement_outcome (e : Element) : (RuleResult.ofElement e).outcome = outcomeOf e := rfl

/-! ### Rules -/

/-- The last rule of the document that has the id. -/
def IsRuleOf (d : ResultsDocument) (id : String) (rule : Element) : Prop :=
  ∃ before after, d.elementsNamed "Rule" = before ++ rule :: after ∧
    rule.attribute? "id" = some id ∧ ∀ r ∈ after, r.attribute? "id" ≠ some id

/-- The first check directly inside a rule whose system is that of OVAL. -/
def IsOvalCheckOf (rule check : Element) : Prop :=
  ∃ before after, rule.childrenNamed "check" = before ++ check :: after ∧
    check.attribute? "system" = some ovalSystem ∧
    ∀ c ∈ before, c.attribute? "system" ≠ some ovalSystem

/-- The rule of a result is defined, and its first OVAL check has a content reference, of which the
first carries the identifier; a reference without a name carries the empty one. -/
def RefersTo (d : ResultsDocument) (result : Element) (identifier : String) : Prop :=
  ∃ rule check reference, IsRuleOf d (idrefOf result) rule ∧ IsOvalCheckOf rule check ∧
    check.child? "check-content-ref" = some reference ∧
    identifier = (reference.attribute? "name").getD ""

/-- The result leads to a check of the set. -/
def JoinsTo (normalize : CheckName.Normalizer) (d : ResultsDocument) (checks : CheckSet)
    (result : Element) (checkId : String) : Prop :=
  ∃ identifier, RefersTo d result identifier ∧ normalize identifier = .ok checkId ∧
    checkId ∈ checks

/-- The result ends a run with the error: its check has no short name, whatever the set, or its
check is in the set and its outcome is no verdict. -/
inductive Fatal (normalize : CheckName.Normalizer) (d : ResultsDocument) (checks : CheckSet)
    (result : Element) : CorrelationError → Prop
  | name {identifier : String} {cause : CheckName.NameError} :
      RefersTo d result identifier → normalize identifier = .error cause →
      Fatal normalize d checks result (.malformedCheck (idrefOf result) cause)
  | outcome {checkId : String} {cause : Status.OutcomeError} :
      JoinsTo normalize d checks result checkId →
      Status.ofOutcome (outcomeOf result) = .error cause →
      Fatal normalize d checks result (.unrecognizedStatus (idrefOf result) cause)

/-! ### Look-ups in the index -/

namespace RuleIndex

/-- The definition in an element with an id. -/
def definitionOf (id : String) (rule : Element) : RuleDefinition :=
  ⟨id, (rule.childrenNamed "check").map CheckReference.ofElement⟩

/-- Adding rules one by one, the last one with an id is found, or else what was there before. -/
theorem get?_foldl_insert (rules : List RuleDefinition) (index : RuleIndex) (id : String) :
    (rules.foldl insert index).get? id =
      (rules.reverse.find? (·.id = id)).or (index.get? id) := by
  induction rules generalizing index with
  | nil => rfl
  | cons r rules ih =>
    rw [List.foldl_cons, ih, get?_insert, List.reverse_cons, List.find?_append, Option.or_assoc]
    by_cases h : r.id = id <;> simp [h]

/-- An id leads to the last rule of the document that has it. -/
theorem get?_ofDocument_eq_some_iff {d : ResultsDocument} {id : String} {r : RuleDefinition} :
    (ofDocument d).get? id = some r ↔ ∃ rule, IsRuleOf d id rule ∧ r = definitionOf id rule := by
  have hid (e : Element) : (RuleDefinition.ofElement? e).any (·.id = id) =
      decide (e.attribute? "id" = some id) := by
    cases h : e.attribute? "id" <;> simp [RuleDefinition.ofElement?, h]
  have hdef {e : Element} (h : e.attribute? "id" = some id) :
      RuleDefinition.ofElement? e = some (definitionOf id e) := by
    simp [RuleDefinition.ofElement?, h, definitionOf]
  rw [ofDocument, ofRules, get?_foldl_insert, get?_empty, Option.or_none, ← List.filterMap_reverse,
    List.find?_filterMap]
  simp only [hid, ResultsDocument.ruleElements, IsRuleOf]
  constructor
  · intro h
    obtain ⟨e, he, hr⟩ := Option.bind_eq_some_iff.mp h
    obtain ⟨hp, after, before, hsplit, hafter⟩ := List.find?_eq_some_iff_append.mp he
    have hattr : e.attribute? "id" = some id := by simpa using hp
    refine ⟨e, ⟨before.reverse, after.reverse, ?_, hattr, ?_⟩, ?_⟩
    · simpa using congrArg List.reverse hsplit
    · intro r' hr'
      simpa using hafter r' (List.mem_reverse.mp hr')
    · rw [hdef hattr] at hr
      exact (Option.some.inj hr).symm
  · rintro ⟨e, ⟨before, after, hsplit, hattr, hafter⟩, rfl⟩
    refine Option.bind_eq_some_iff.mpr ⟨e, ?_, hdef hattr⟩
    refine List.find?_eq_some_iff_append.mpr
      ⟨by simpa using hattr, after.reverse, before.reverse, by simp [hsplit], ?_⟩
    intro r' hr'
    simpa using hafter r' (List.mem_reverse.mp hr')

end RuleIndex

/-- The relevant check of a rule is its first OVAL check, and its name is in the first reference. -/
theorem relevantName?_definitionOf_eq_some_iff {id identifier : String} {rule : Element} :
    (RuleIndex.definitionOf id rule).relevantName? = some identifier ↔
      ∃ check reference, IsOvalCheckOf rule check ∧
        check.child? "check-content-ref" = some reference ∧
        identifier = (reference.attribute? "name").getD "" := by
  have hoval (c : Element) : (CheckReference.ofElement c).isOval =
      decide (c.attribute? "system" = some ovalSystem) := by
    cases h : c.attribute? "system" <;>
      simp [CheckReference.ofElement, CheckReference.isOval, h, ovalSystem]
  have hcheck (check : Element) :
      (rule.childrenNamed "check").find? (fun c => c.attribute? "system" = some ovalSystem) =
        some check ↔ IsOvalCheckOf rule check := by
    rw [List.find?_eq_some_iff_append]
    simp only [IsOvalCheckOf, decide_eq_true_eq, Bool.not_eq_true', decide_eq_false_iff_not]
    constructor
    · rintro ⟨hattr, before, after, hsplit, hbefore⟩
      exact ⟨before, after, hsplit, hattr, hbefore⟩
    · rintro ⟨before, after, hsplit, hattr, hbefore⟩
      exact ⟨hattr, before, after, hsplit, hbefore⟩
  have hname (check : Element) : (CheckReference.ofElement check).name = some identifier ↔
      ∃ reference, check.child? "check-content-ref" = some reference ∧
        identifier = (reference.attribute? "name").getD "" := by
    simp only [CheckReference.ofElement, Option.map_eq_some_iff]
    constructor
    · rintro ⟨reference, href, rfl⟩
      exact ⟨reference, href, rfl⟩
    · rintro ⟨reference, href, rfl⟩
      exact ⟨reference, href, rfl⟩
  rw [RuleDefinition.relevantName?, RuleDefinition.relevantCheck?, RuleIndex.definitionOf,
    List.find?_map]
  simp only [Function.comp_def, hoval, Option.bind_map, Option.bind_eq_some_iff, hcheck, hname]
  constructor
  · rintro ⟨check, hfirst, reference, href, hid⟩
    exact ⟨check, reference, hfirst, href, hid⟩
  · rintro ⟨check, reference, hfirst, href, hid⟩
    exact ⟨check, hfirst, reference, href, hid⟩

/-- A result refers to the identifier that the index finds for it. -/
theorem refersTo_iff {d : ResultsDocument} {result : Element} {identifier : String} :
    RefersTo d result identifier ↔
      ((RuleIndex.ofDocument d).get? (idrefOf result)).bind (·.relevantName?) =
        some identifier := by
  rw [Option.bind_eq_some_iff]
  constructor
  · rintro ⟨rule, check, reference, hrule, hcheck, href, hid⟩
    exact ⟨_, RuleIndex.get?_ofDocument_eq_some_iff.mpr ⟨rule, hrule, rfl⟩,
      relevantName?_definitionOf_eq_some_iff.mpr ⟨check, reference, hcheck, href, hid⟩⟩
  · rintro ⟨r, hget, hname⟩
    obtain ⟨rule, hrule, rfl⟩ := RuleIndex.get?_ofDocument_eq_some_iff.mp hget
    obtain ⟨check, reference, hcheck, href, hid⟩ :=
      relevantName?_definitionOf_eq_some_iff.mp hname
    exact ⟨rule, check, reference, hrule, hcheck, href, hid⟩

/-- A result refers to one identifier at most. -/
theorem RefersTo.unique {d : ResultsDocument} {result : Element} {i j : String}
    (hi : RefersTo d result i) (hj : RefersTo d result j) : i = j := by
  rw [refersTo_iff] at hi hj
  exact Option.some.inj (hi.symm.trans hj)

/-! ### Judgements -/

section

variable {normalize : CheckName.Normalizer} {d : ResultsDocument} {checks : CheckSet}
  {result : Element}

theorem joinsTo_iff_of_refersTo {identifier checkId : String} (h : RefersTo d result identifier) :
    JoinsTo normalize d checks result checkId ↔
      normalize identifier = .ok checkId ∧ checkId ∈ checks := by
  constructor
  · rintro ⟨i, hi, hname, hmem⟩
    rw [← h.unique hi] at hname
    exact ⟨hname, hmem⟩
  · rintro ⟨hname, hmem⟩
    exact ⟨identifier, h, hname, hmem⟩

/-- A result joins to one check at most. -/
theorem JoinsTo.unique {c c' : String} (h : JoinsTo normalize d checks result c)
    (h' : JoinsTo normalize d checks result c') : c = c' := by
  obtain ⟨i, hi, hname, -⟩ := h
  obtain ⟨j, hj, hname', -⟩ := h'
  rw [hi.unique hj, hname'] at hname
  exact (Except.ok.inj hname).symm

/-- A result that refers to nothing is left out. -/
theorem judge_of_not_refersTo (h : ∀ identifier, ¬ RefersTo d result identifier) :
    judge normalize (RuleIndex.ofDocument d) checks (RuleResult.ofElement result) = .ok none := by
  rw [judge, ofElement_idref]
  cases hget : (RuleIndex.ofDocument d).get? (idrefOf result) with
  | none => rfl
  | some rule =>
    cases hname : rule.relevantName? with
    | none => simp only [hname]
    | some identifier => exact absurd (refersTo_iff.mpr (by rw [hget]; exact hname)) (h identifier)

/-- The judgement of a result that refers to an identifier; an error names the rule as the result
does. -/
theorem judge_of_refersTo {identifier : String} (h : RefersTo d result identifier) :
    judge normalize (RuleIndex.ofDocument d) checks (RuleResult.ofElement result) =
      match normalize identifier with
      | .error cause => .error (.malformedCheck (idrefOf result) cause)
      | .ok checkId =>
        if checkId ∈ checks then
          match Status.ofOutcome (outcomeOf result) with
          | .error cause => .error (.unrecognizedStatus (idrefOf result) cause)
          | .ok status => .ok (some ⟨idrefOf result, checkId, status, (outcomeOf result).getD ""⟩)
        else .ok none := by
  obtain ⟨r, hget, hname⟩ := Option.bind_eq_some_iff.mp (refersTo_iff.mp h)
  obtain ⟨rule, -, rfl⟩ := RuleIndex.get?_ofDocument_eq_some_iff.mp hget
  rw [judge, ofElement_idref, ofElement_outcome, hget]
  simp only [hname]
  rfl

/-- A finding is made exactly of a joined result with a known outcome. -/
theorem judge_eq_ok_some_iff {f : Finding} :
    judge normalize (RuleIndex.ofDocument d) checks (RuleResult.ofElement result) =
        .ok (some f) ↔
      ∃ checkId status, JoinsTo normalize d checks result checkId ∧
        Status.ofOutcome (outcomeOf result) = .ok status ∧
        f = ⟨idrefOf result, checkId, status, (outcomeOf result).getD ""⟩ := by
  by_cases h : ∃ identifier, RefersTo d result identifier
  · obtain ⟨identifier, h⟩ := h
    simp only [judge_of_refersTo h, joinsTo_iff_of_refersTo h]
    cases normalize identifier with
    | error cause => simp
    | ok checkId =>
      by_cases hmem : checkId ∈ checks
      · cases Status.ofOutcome (outcomeOf result) with
        | error cause => simp [hmem]
        | ok status =>
          simp only [if_pos hmem, Except.ok.injEq, Option.some.injEq]
          constructor
          · rintro rfl
            exact ⟨checkId, status, ⟨rfl, hmem⟩, rfl, rfl⟩
          · rintro ⟨c, s, ⟨rfl, -⟩, rfl, rfl⟩
            rfl
      · simp only [if_neg hmem]
        constructor
        · intro e
          cases e
        · rintro ⟨c, s, ⟨hc, hin⟩, -⟩
          cases hc
          exact absurd hin hmem
  · rw [judge_of_not_refersTo (not_exists.mp h)]
    constructor
    · intro e
      cases e
    · rintro ⟨c, s, ⟨identifier, hrefers, -⟩, -⟩
      exact absurd ⟨identifier, hrefers⟩ h

/-- A run ends with an error exactly at a fatal result. -/
theorem judge_eq_error_iff {e : CorrelationError} :
    judge normalize (RuleIndex.ofDocument d) checks (RuleResult.ofElement result) = .error e ↔
      Fatal normalize d checks result e := by
  by_cases h : ∃ identifier, RefersTo d result identifier
  · obtain ⟨identifier, h⟩ := h
    constructor
    · rw [judge_of_refersTo h]
      intro he
      split at he
      · next hname =>
        cases he
        exact .name h hname
      · next hname =>
        split at he
        · next hmem =>
          split at he
          · next hout =>
            cases he
            exact .outcome ⟨identifier, h, hname, hmem⟩ hout
          · cases he
        · cases he
    · intro he
      cases he with
      | name hrefers hname =>
        rw [judge_of_refersTo hrefers, hname]
      | outcome hjoin hout =>
        obtain ⟨hname, hmem⟩ := (joinsTo_iff_of_refersTo h).mp hjoin
        rw [judge_of_refersTo h, hname, hout]
        simp [hmem]
  · rw [judge_of_not_refersTo (not_exists.mp h)]
    constructor
    · intro he
      cases he
    · intro he
      cases he with
      | name hrefers => exact absurd ⟨_, hrefers⟩ h
      | outcome hjoin =>
        obtain ⟨identifier, hrefers, -⟩ := hjoin
        exact absurd ⟨identifier, hrefers⟩ h

/-- A result is fatal with one error at most. -/
theorem Fatal.unique {e e' : CorrelationError} (h : Fatal normalize d checks result e)
    (h' : Fatal normalize d checks result e') : e = e' :=
  Except.error.inj ((judge_eq_error_iff.mpr h).symm.trans (judge_eq_error_iff.mpr h'))

end

end PolicyAudit.Scan
