import PolicyAudit.Proofs.Scan.Join

/-! # How a run ends

A run looks at the target first and then at the results in document order.  It fails exactly when
the document names no host (`LacksTarget`) or one of its results is fatal, and of several fatal
results the first one decides (`FirstFatal`, `correlate_eq_error_iff`).  What a document says beyond
that ends no run: a result whose check cannot be found is never fatal, and one whose check has a
short name outside the set is not fatal either, whatever its outcome.

`correlate_eq_ok_iff` describes the other runs: the report holds the findings of the results, one
after the other. -/

namespace PolicyAudit.Scan

open Xml (Element Node)

/-! ### The target -/

/-- The document names a host: the text of its first target without the blanks at its ends, which
is not empty. -/
def HasTarget (d : ResultsDocument) (target : String) : Prop :=
  ∃ host, (d.elementsNamed "target").head? = some host ∧
    target = Text.trim (Node.textOf host.children) ∧ target ≠ ""

/-- The document has no target, or the text of the first one is blank. -/
def LacksTarget (d : ResultsDocument) : Prop :=
  ∀ host, (d.elementsNamed "target").head? = some host →
    Text.isBlankText (Node.textOf host.children) = true

theorem target?_eq_some_iff {d : ResultsDocument} {target : String} :
    d.target? = some target ↔ HasTarget d target := by
  rw [ResultsDocument.target?, HasTarget]
  cases (d.elementsNamed "target").head? with
  | none => simp
  | some host =>
    by_cases h : innerText host = ""
    · rw [innerText] at h
      simp [innerText, h]
    · simp only [h, if_false, Option.some.injEq, exists_eq_left']
      constructor
      · rintro rfl
        exact ⟨rfl, h⟩
      · rintro ⟨rfl, -⟩
        rfl

theorem target?_eq_none_iff {d : ResultsDocument} : d.target? = none ↔ LacksTarget d := by
  rw [ResultsDocument.target?, LacksTarget]
  cases (d.elementsNamed "target").head? with
  | none => simp
  | some host =>
    simp only [Option.some.injEq, forall_eq', ← Text.trim_eq_empty_iff]
    by_cases h : innerText host = ""
    · rw [innerText] at h
      simp [innerText, h]
    · rw [innerText] at h
      simp [innerText, h]

/-- A document either names a host or lacks a target. -/
theorem not_lacksTarget_iff {d : ResultsDocument} :
    ¬ LacksTarget d ↔ ∃ target, HasTarget d target := by
  rw [← target?_eq_none_iff, ← ne_eq, Option.ne_none_iff_exists']
  simp only [target?_eq_some_iff]

/-! ### Findings -/

section

variable {normalize : CheckName.Normalizer} {d : ResultsDocument} {checks : CheckSet}

/-- The finding of a result, if it joins to a check and its outcome is known. -/
def findingOf? (normalize : CheckName.Normalizer) (d : ResultsDocument) (checks : CheckSet)
    (result : Element) : Option Finding :=
  match judge normalize (RuleIndex.ofDocument d) checks (RuleResult.ofElement result) with
  | .ok o => o
  | .error _ => none

theorem findingOf?_eq_some_iff {result : Element} {f : Finding} :
    findingOf? normalize d checks result = some f ↔
      ∃ checkId status, JoinsTo normalize d checks result checkId ∧
        Status.ofOutcome (outcomeOf result) = .ok status ∧
        f = ⟨idrefOf result, checkId, status, (outcomeOf result).getD ""⟩ := by
  rw [← judge_eq_ok_some_iff, findingOf?]
  cases judge normalize (RuleIndex.ofDocument d) checks (RuleResult.ofElement result) <;> simp

/-- Judging the items of a list is judging what they stand for. -/
theorem gather_map {α β γ ε : Type} (f : β → Except ε (Option γ)) (g : α → β) (as : List α) :
    gather f (as.map g) = gather (fun a => f (g a)) as := by
  induction as with
  | nil => rfl
  | cons a as ih => simp only [List.map_cons, gather, ih]

/-- The first fatal result of a document, and its error. -/
def FirstFatal (normalize : CheckName.Normalizer) (d : ResultsDocument) (checks : CheckSet)
    (e : CorrelationError) : Prop :=
  ∃ before result after, d.elementsNamed "rule-result" = before ++ result :: after ∧
    (∀ r ∈ before, ∀ e', ¬ Fatal normalize d checks r e') ∧ Fatal normalize d checks result e

/-- A judgement is no error exactly for a result that is not fatal. -/
theorem judge_ok_iff {result : Element} :
    (∃ o, judge normalize (RuleIndex.ofDocument d) checks (RuleResult.ofElement result) = .ok o) ↔
      ∀ e, ¬ Fatal normalize d checks result e := by
  simp only [← judge_eq_error_iff]
  cases judge normalize (RuleIndex.ofDocument d) checks (RuleResult.ofElement result) <;> simp

theorem findings_eq_error_iff {e : CorrelationError} :
    findings normalize d checks = .error e ↔
      (LacksTarget d ∧ e = .missingTarget) ∨
        (¬ LacksTarget d ∧ FirstFatal normalize d checks e) := by
  rw [← target?_eq_none_iff, findings]
  cases d.target? with
  | none => simp [eq_comm]
  | some target =>
    rw [ResultsDocument.ruleResults, gather_map, gather_eq_error_iff]
    simp only [judge_ok_iff, judge_eq_error_iff, reduceCtorEq, false_and, false_or,
      not_false_eq_true, true_and, FirstFatal]

theorem findings_eq_ok_iff {fs : List Finding} :
    findings normalize d checks = .ok fs ↔
      ¬ LacksTarget d ∧
        (∀ result ∈ d.elementsNamed "rule-result", ∀ e, ¬ Fatal normalize d checks result e) ∧
        fs = (d.elementsNamed "rule-result").filterMap (findingOf? normalize d checks) := by
  rw [← target?_eq_none_iff, findings]
  cases d.target? with
  | none => simp
  | some target =>
    rw [ResultsDocument.ruleResults, gather_map, gather_eq_ok_iff]
    simp only [judge_ok_iff, reduceCtorEq, not_false_eq_true, true_and]
    refine and_congr_right fun _ =>
      iff_of_eq (congrArg (fs = List.filterMap · _) (funext fun result => ?_))
    rw [findingOf?]
    cases judge normalize (RuleIndex.ofDocument d) checks (RuleResult.ofElement result) <;> rfl

/-- A report holds the findings of the results in document order, each observed on the target. -/
theorem correlate_eq_ok_iff {clock : Nat → Instant} {report : Report} :
    correlate normalize clock d checks = .ok report ↔
      ∃ target, HasTarget d target ∧
        (∀ result ∈ d.elementsNamed "rule-result", ∀ e, ¬ Fatal normalize d checks result e) ∧
        report.observations =
          ((d.elementsNamed "rule-result").filterMap (findingOf? normalize d checks)).mapIdx
            fun i f => f.observe target d.evidenceHref (clock i) := by
  rw [correlate]
  constructor
  · intro h
    split at h
    · cases h
    · next fs hfs =>
      obtain rfl := Except.ok.inj h
      obtain ⟨hhas, hfatal, rfl⟩ := findings_eq_ok_iff.mp hfs
      obtain ⟨target, htarget⟩ := not_lacksTarget_iff.mp hhas
      refine ⟨target, htarget, hfatal, ?_⟩
      rw [target?_eq_some_iff.mpr htarget, Option.getD_some]
  · rintro ⟨target, htarget, hfatal, hobs⟩
    rw [findings_eq_ok_iff.mpr ⟨not_lacksTarget_iff.mpr ⟨target, htarget⟩, hfatal, rfl⟩,
      target?_eq_some_iff.mpr htarget]
    simp only [Option.getD_some, ← hobs]

/-- An observation is made of a result that joins to its check. -/
theorem exists_joinsTo_of_mem {clock : Nat → Instant} {report : Report}
    (h : correlate normalize clock d checks = .ok report) {o : Observation}
    (ho : o ∈ report.observations) : ∃ result, JoinsTo normalize d checks result o.checkId := by
  obtain ⟨target, -, -, hobs⟩ := correlate_eq_ok_iff.mp h
  rw [hobs, List.mem_mapIdx] at ho
  obtain ⟨i, hi, rfl⟩ := ho
  obtain ⟨result, -, hfinding⟩ := List.mem_filterMap.mp (List.getElem_mem hi)
  obtain ⟨checkId, status, hjoins, -, hf⟩ := findingOf?_eq_some_iff.mp hfinding
  refine ⟨result, ?_⟩
  rw [hf]
  exact hjoins

/-- A run observes checks of its set alone. -/
theorem checkId_mem_of_mem {clock : Nat → Instant} {report : Report}
    (h : correlate normalize clock d checks = .ok report) {o : Observation}
    (ho : o ∈ report.observations) : o.checkId ∈ checks := by
  obtain ⟨result, identifier, -, -, hmem⟩ := exists_joinsTo_of_mem h ho
  exact hmem

/-- A run fails exactly as its findings do. -/
theorem correlate_eq_error_iff_findings {clock : Nat → Instant} {e : CorrelationError} :
    correlate normalize clock d checks = .error e ↔ findings normalize d checks = .error e := by
  rw [correlate]
  cases findings normalize d checks <;> simp

/-- A run fails exactly where there is no target or some result is fatal. -/
theorem exists_correlate_eq_error_iff {clock : Nat → Instant} :
    (∃ e, correlate normalize clock d checks = .error e) ↔
      LacksTarget d ∨ ∃ result ∈ d.elementsNamed "rule-result", ∃ e,
        Fatal normalize d checks result e := by
  constructor
  · rintro ⟨e, he⟩
    rcases findings_eq_error_iff.mp (correlate_eq_error_iff_findings.mp he) with h | h
    · exact .inl h.1
    · obtain ⟨-, before, result, after, hsplit, -, hfatal⟩ := h
      exact .inr ⟨result, by simp [hsplit], e, hfatal⟩
  · intro h
    cases hrun : correlate normalize clock d checks with
    | error e => exact ⟨e, rfl⟩
    | ok report =>
      obtain ⟨target, htarget, hfatal, -⟩ := correlate_eq_ok_iff.mp hrun
      rcases h with hlacks | ⟨result, hmem, e, he⟩
      · exact absurd hlacks (not_lacksTarget_iff.mpr ⟨target, htarget⟩)
      · exact absurd he (hfatal result hmem e)

/-- An outcome is missing exactly where the result has no `result` directly inside. -/
theorem outcome_missing_iff {result : Element} {cause : Status.OutcomeError}
    (h : Status.ofOutcome (outcomeOf result) = .error cause) :
    cause = .missing ↔ result.child? "result" = none := by
  rw [outcomeOf] at h
  cases hchild : result.child? "result" with
  | none =>
    rw [hchild] at h
    cases h
    simp
  | some child =>
    rw [hchild, Option.map_some, Status.ofOutcome] at h
    split at h
    · cases h
    · cases h
      simp

end

/-- The first fatal condition ends a run: a document without a host whatever its results are, and
otherwise the first fatal result.  The error names the rule as the result does, and an outcome is
missing only where the result has none.  A result that leads to no identifier, or whose check has a
short name outside the set, is never fatal. -/
theorem correlate_eq_error_iff (normalize : CheckName.Normalizer) (clock : Nat → Instant)
    (d : ResultsDocument) (checks : CheckSet) :
    (∀ e, correlate normalize clock d checks = .error e ↔
      (LacksTarget d ∧ e = .missingTarget) ∨
        (¬ LacksTarget d ∧ FirstFatal normalize d checks e)) ∧
    ((∃ e, correlate normalize clock d checks = .error e) ↔
      LacksTarget d ∨ ∃ result ∈ d.elementsNamed "rule-result", ∃ e,
        Fatal normalize d checks result e) ∧
    (∀ result e, Fatal normalize d checks result e → e.ruleId? = some (idrefOf result)) ∧
    (∀ result ruleId cause,
      Fatal normalize d checks result (.unrecognizedStatus ruleId cause) →
        (cause = .missing ↔ result.child? "result" = none)) ∧
    ∀ result, (∀ identifier, RefersTo d result identifier →
      ∃ checkId, normalize identifier = .ok checkId ∧ checkId ∉ checks) →
        ∀ e, ¬ Fatal normalize d checks result e := by
  refine ⟨fun e => ?_, exists_correlate_eq_error_iff, ?_, ?_, ?_⟩
  · rw [correlate_eq_error_iff_findings, findings_eq_error_iff]
  · intro result e h
    cases h with
    | name => rfl
    | outcome => rfl
  · intro result ruleId cause h
    cases h with
    | outcome _ hout => exact outcome_missing_iff hout
  · intro result hout e h
    cases h with
    | name hrefers hname =>
      obtain ⟨checkId, hok, -⟩ := hout _ hrefers
      rw [hok] at hname
      cases hname
    | outcome hjoin =>
      obtain ⟨identifier, hrefers, hname, hmem⟩ := hjoin
      obtain ⟨checkId, hok, hnot⟩ := hout identifier hrefers
      rw [hok] at hname
      exact hnot (Except.ok.inj hname ▸ hmem)

end PolicyAudit.Scan
