import PolicyAudit.Proofs.Scan.Report
import PolicyAudit.Proofs.Scan.Timestamps

/-! # Runs under several sets of checks

A set of checks decides on a result alone, whatever else is in the document: a check of a larger set
that a smaller one lacks only adds observations and ways to fail.  A result joins to a check of the
smaller set exactly if it joins to it in the larger one (`joinsTo_iff_of_subset`), so that the
findings of the smaller set are found among those of the larger one (`findingOf?_of_subset`), and a
result that is fatal under a set is fatal under every larger one (`Fatal.mono`).

A union of two sets thus brings nothing of its own: a result is fatal under it exactly if it is
fatal under one of the two (`fatal_union_iff`), and `correlate_union` compares the three runs. -/

namespace PolicyAudit.Scan

open Xml (Element)

variable {normalize : CheckName.Normalizer} {d : ResultsDocument} {s t : CheckSet}
  {result : Element}

/-! ### Smaller and larger sets -/

theorem joinsTo_iff_of_subset (h : ∀ c ∈ s, c ∈ t) {checkId : String} :
    JoinsTo normalize d s result checkId ↔
      JoinsTo normalize d t result checkId ∧ checkId ∈ s := by
  constructor
  · rintro ⟨identifier, hrefers, hname, hmem⟩
    exact ⟨⟨identifier, hrefers, hname, h checkId hmem⟩, hmem⟩
  · rintro ⟨⟨identifier, hrefers, hname, -⟩, hmem⟩
    exact ⟨identifier, hrefers, hname, hmem⟩

theorem Fatal.mono (h : ∀ c ∈ s, c ∈ t) {e : CorrelationError}
    (hfatal : Fatal normalize d s result e) : Fatal normalize d t result e := by
  cases hfatal with
  | name hrefers hname => exact .name hrefers hname
  | outcome hjoin hout => exact .outcome ((joinsTo_iff_of_subset h).mp hjoin).1 hout

/-- A result has the finding of the larger set, unless that is about a check of the rest. -/
theorem findingOf?_of_subset (h : ∀ c ∈ s, c ∈ t) (result : Element) :
    findingOf? normalize d s result =
      (findingOf? normalize d t result).filter fun f => f.checkId ∈ s := by
  refine Option.ext fun f => ?_
  rw [Option.filter_eq_some_iff, findingOf?_eq_some_iff, findingOf?_eq_some_iff,
    decide_eq_true_eq]
  simp only [joinsTo_iff_of_subset h]
  constructor
  · rintro ⟨checkId, status, ⟨hjoin, hmem⟩, hout, rfl⟩
    exact ⟨⟨checkId, status, hjoin, hout, rfl⟩, hmem⟩
  · rintro ⟨⟨checkId, status, hjoin, hout, rfl⟩, hmem⟩
    exact ⟨checkId, status, ⟨hjoin, hmem⟩, hout, rfl⟩

/-- The observations of the smaller set are those of the larger one that are about its checks. -/
theorem observations_of_subset (h : ∀ c ∈ s, c ∈ t) {clock clock' : Nat → Instant}
    {report report' : Report} (hs : correlate normalize clock d s = .ok report)
    (ht : correlate normalize clock' d t = .ok report') :
    SameButTimes report.observations
      (report'.observations.filter fun o => o.checkId ∈ s) := by
  intro time
  obtain ⟨target, htarget, -, -⟩ := correlate_eq_ok_iff.mp hs
  have hfilter : (report'.observations.filter fun o => o.checkId ∈ s).map (·.restamp time) =
      (report'.observations.map (·.restamp time)).filter fun o => o.checkId ∈ s := by
    rw [List.filter_map]
    rfl
  rw [hfilter, map_restamp_observations htarget hs, map_restamp_observations htarget ht,
    List.filter_map, funext (findingOf?_of_subset h), ← List.filter_filterMap]
  rfl

/-- The first fatal result under a set is the first one under every smaller set that it is fatal
under: no result before it is. -/
theorem FirstFatal.exists_of_subset {e : CorrelationError} (hfirst : FirstFatal normalize d t e) :
    ∃ result, Fatal normalize d t result e ∧
      ∀ s : CheckSet, (∀ c ∈ s, c ∈ t) → Fatal normalize d s result e →
        FirstFatal normalize d s e := by
  obtain ⟨before, result, after, hsplit, hbefore, hresult⟩ := hfirst
  refine ⟨result, hresult, fun s h hs => ⟨before, result, after, hsplit, ?_, hs⟩⟩
  intro r hr e' he'
  exact hbefore r hr e' (he'.mono h)

/-! ### Unions -/

theorem subset_union_left : ∀ c ∈ s, c ∈ s ∪ t := fun _ h => CheckSet.mem_union.mpr (.inl h)

theorem subset_union_right : ∀ c ∈ t, c ∈ s ∪ t := fun _ h => CheckSet.mem_union.mpr (.inr h)

theorem fatal_union_iff {e : CorrelationError} :
    Fatal normalize d (s ∪ t) result e ↔
      Fatal normalize d s result e ∨ Fatal normalize d t result e := by
  constructor
  · intro h
    cases h with
    | name hrefers hname => exact .inl (.name hrefers hname)
    | outcome hjoin hout =>
      obtain ⟨identifier, hrefers, hname, hmem⟩ := hjoin
      rcases CheckSet.mem_union.mp hmem with hmem | hmem
      · exact .inl (.outcome ⟨identifier, hrefers, hname, hmem⟩ hout)
      · exact .inr (.outcome ⟨identifier, hrefers, hname, hmem⟩ hout)
  · rintro (h | h)
    · exact h.mono subset_union_left
    · exact h.mono subset_union_right

section

variable {clock clockS clockT : Nat → Instant}

theorem correlate_eq_error_iff_firstFatal {e : CorrelationError} :
    correlate normalize clock d s = .error e ↔
      (LacksTarget d ∧ e = .missingTarget) ∨
        (¬ LacksTarget d ∧ FirstFatal normalize d s e) := by
  rw [correlate_eq_error_iff_findings, findings_eq_error_iff]

theorem exists_correlate_union_iff :
    (∃ report, correlate normalize clock d (s ∪ t) = .ok report) ↔
      (∃ report, correlate normalize clockS d s = .ok report) ∧
        ∃ report, correlate normalize clockT d t = .ok report := by
  simp only [exists_correlate_eq_ok_iff, fatal_union_iff, not_or]
  constructor
  · rintro ⟨htarget, hfatal⟩
    exact ⟨⟨htarget, fun r hr e => (hfatal r hr e).1⟩, htarget, fun r hr e => (hfatal r hr e).2⟩
  · rintro ⟨⟨htarget, hs⟩, -, ht⟩
    exact ⟨htarget, fun r hr e => ⟨hs r hr e, ht r hr e⟩⟩

/-- An error that no set of checks decides on ends the run under every smaller set. -/
theorem correlate_integrity_error_of_subset (h : ∀ c ∈ s, c ∈ t) {e : CorrelationError}
    (he : e = .missingTarget ∨ ∃ ruleId cause, e = .malformedCheck ruleId cause)
    (ht : correlate normalize clockT d t = .error e) :
    correlate normalize clockS d s = .error e := by
  rw [correlate_eq_error_iff_firstFatal] at ht ⊢
  refine ht.imp_right fun ⟨htarget, hfirst⟩ => ⟨htarget, ?_⟩
  obtain ⟨result, hfatal, hback⟩ := hfirst.exists_of_subset
  apply hback s h
  cases hfatal with
  | name hrefers hname => exact .name hrefers hname
  | outcome => rcases he with he | ⟨_, _, he⟩ <;> cases he

/-- An outcome that is no verdict ends the run of one of the two sets. -/
theorem correlate_status_error_of_union {ruleId : String} {cause : Status.OutcomeError}
    (h : correlate normalize clock d (s ∪ t) = .error (.unrecognizedStatus ruleId cause)) :
    correlate normalize clockS d s = .error (.unrecognizedStatus ruleId cause) ∨
      correlate normalize clockT d t = .error (.unrecognizedStatus ruleId cause) := by
  simp only [correlate_eq_error_iff_firstFatal, reduceCtorEq, and_false, false_or] at h ⊢
  obtain ⟨htarget, hfirst⟩ := h
  obtain ⟨result, hfatal, hback⟩ := hfirst.exists_of_subset
  rcases fatal_union_iff.mp hfatal with hs | ht
  · exact .inl ⟨htarget, hback s subset_union_left hs⟩
  · exact .inr ⟨htarget, hback t subset_union_right ht⟩

/-- The run of a union succeeds exactly if the runs of both sets do, and the observations of either
set are then those of the union that are about its checks.  The error of a failed run of the union
is that of the runs of both sets, unless it is about an outcome; then it is that of one of them.  A
larger set thus neither removes nor changes an observation as long as its run succeeds. -/
theorem correlate_union (normalize : CheckName.Normalizer) (d : ResultsDocument) (s t : CheckSet)
    (clock clockS clockT : Nat → Instant) :
    ((∃ report, correlate normalize clock d (s ∪ t) = .ok report) ↔
      (∃ report, correlate normalize clockS d s = .ok report) ∧
        ∃ report, correlate normalize clockT d t = .ok report) ∧
    (∀ report reportS reportT, correlate normalize clock d (s ∪ t) = .ok report →
      correlate normalize clockS d s = .ok reportS →
      correlate normalize clockT d t = .ok reportT →
        SameButTimes reportS.observations
            (report.observations.filter fun o => o.checkId ∈ s) ∧
          SameButTimes reportT.observations
            (report.observations.filter fun o => o.checkId ∈ t)) ∧
    (∀ e, correlate normalize clock d (s ∪ t) = .error e →
      (e = .missingTarget ∨ ∃ ruleId cause, e = .malformedCheck ruleId cause) →
        correlate normalize clockS d s = .error e ∧ correlate normalize clockT d t = .error e) ∧
    (∀ ruleId cause,
      correlate normalize clock d (s ∪ t) = .error (.unrecognizedStatus ruleId cause) →
        correlate normalize clockS d s = .error (.unrecognizedStatus ruleId cause) ∨
          correlate normalize clockT d t = .error (.unrecognizedStatus ruleId cause)) ∧
    ((∀ c ∈ s, c ∈ t) → ∀ reportT, correlate normalize clockT d t = .ok reportT →
      ∃ reportS, correlate normalize clockS d s = .ok reportS ∧
        SameButTimes reportS.observations
          (reportT.observations.filter fun o => o.checkId ∈ s)) := by
  refine ⟨exists_correlate_union_iff, ?_, ?_, ?_, ?_⟩
  · intro report reportS reportT h hs ht
    exact ⟨observations_of_subset subset_union_left hs h,
      observations_of_subset subset_union_right ht h⟩
  · intro e h he
    exact ⟨correlate_integrity_error_of_subset subset_union_left he h,
      correlate_integrity_error_of_subset subset_union_right he h⟩
  · intro ruleId cause h
    exact correlate_status_error_of_union h
  · intro hsub reportT ht
    have hok : ∃ report, correlate normalize clockS d s = .ok report := by
      obtain ⟨htarget, hfatal⟩ := exists_correlate_eq_ok_iff.mp ⟨reportT, ht⟩
      exact exists_correlate_eq_ok_iff.mpr
        ⟨htarget, fun r hr e he => hfatal r hr e (he.mono hsub)⟩
    obtain ⟨reportS, hs⟩ := hok
    exact ⟨reportS, hs, observations_of_subset hsub hs ht⟩

end

/-- The second set has a check that the document does not report on. -/
theorem correlate_union_sample :
    correlate CheckName.ofIdentifier (fun _ => sampleTime) sampleDocument
      (CheckSet.ofList ["sshd_enabled"] ∪ CheckSet.ofList ["aide_installed"]) = .ok sampleReport ∧
    ∃ report, correlate CheckName.ofIdentifier (fun _ => sampleTime) sampleDocument
        (CheckSet.ofList ["aide_installed"]) = .ok report ∧
      SameButTimes report.observations
        (sampleReport.observations.filter fun o =>
          o.checkId ∈ CheckSet.ofList ["aide_installed"]) := by
  have hrun : correlate CheckName.ofIdentifier (fun _ => sampleTime) sampleDocument
      (CheckSet.ofList ["sshd_enabled"] ∪ CheckSet.ofList ["aide_installed"]) =
        .ok sampleReport := by rfl
  obtain ⟨hboth, hobs, -⟩ := correlate_union CheckName.ofIdentifier sampleDocument
    (CheckSet.ofList ["sshd_enabled"]) (CheckSet.ofList ["aide_installed"])
    (fun _ => sampleTime) (fun _ => sampleTime) (fun _ => sampleTime)
  obtain ⟨⟨reportS, hs⟩, reportT, ht⟩ := hboth.mp ⟨sampleReport, hrun⟩
  exact ⟨hrun, reportT, ht, (hobs sampleReport reportS reportT hrun hs ht).2⟩

end PolicyAudit.Scan
