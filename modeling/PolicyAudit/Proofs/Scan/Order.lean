import PolicyAudit.Proofs.Scan.Influence

/-! # The order of a document

A run stops at the first fatal result, and an index keeps the last of several rules with one id, so
both orders in a document can matter.  They do not where the rules have ids of their own and the run
succeeds.

A document is `Rearranged` if the same rules and results stand in another order.  Its rules then
have the same identifiers (`Rearranged.identifier?_eq`), its results are judged alike
(`Rearranged.judge_eq`), and a run on it succeeds like one on the first document, with the
observations of the results in their new places.  If the results keep their order, even the error is
the same: `correlate_of_rearranged`. -/

namespace PolicyAudit.Scan

open Xml (Node)

variable {normalize : CheckName.Normalizer} {checks : CheckSet} {clock clock' : Nat → Instant}
  {d d' : ResultsDocument}

/-! ### Runs by their results -/

/-- The finding of a result, if its judgement is one. -/
def findingFor? (normalize : CheckName.Normalizer) (index : RuleIndex) (checks : CheckSet)
    (r : RuleResult) : Option Finding :=
  match judge normalize index checks r with
  | .ok o => o
  | .error _ => none

theorem exists_correlate_eq_ok_iff_judge :
    (∃ report, correlate normalize clock d checks = .ok report) ↔
      d.target? ≠ none ∧
        ∀ r ∈ d.ruleResults, ∃ o, judge normalize (.ofDocument d) checks r = .ok o := by
  rw [exists_correlate_eq_ok_iff, ← target?_eq_none_iff]
  simp only [← judge_ok_iff, ResultsDocument.ruleResults, List.forall_mem_map, ne_eq]

/-- Restamped, the observations of a report are those of its results. -/
theorem map_restamp_observations_eq {target : String} {report : Report}
    (htarget : d.target? = some target) (h : correlate normalize clock d checks = .ok report)
    (time : Instant) :
    report.observations.map (·.restamp time) = d.ruleResults.filterMap fun r =>
      (findingFor? normalize (.ofDocument d) checks r).map fun f =>
        f.observe target d.evidenceHref time := by
  rw [map_restamp_observations (target?_eq_some_iff.mp htarget) h, List.map_filterMap,
    ResultsDocument.ruleResults, List.filterMap_map]
  rfl

/-- Apart from times, the observations are what the results contribute, in the order of the
results. -/
def MadeOf (contribution : RuleResult → Option (Instant → Observation))
    (results : List RuleResult) (observations : List Observation) : Prop :=
  ∀ time, observations.map (·.restamp time) =
    results.filterMap fun r => (contribution r).map (· time)

/-! ### Rearranged documents -/

/-- The documents hold the same rules and results in some order, and the rules have ids of their
own. -/
structure Rearranged (d d' : ResultsDocument) : Prop where
  target : d.target? = d'.target?
  location : d.location = d'.location
  rules : d.ruleDefinitions.Perm d'.ruleDefinitions
  results : d.ruleResults.Perm d'.ruleResults
  distinct : d.ruleDefinitions.Pairwise fun r r' => r.id ≠ r'.id

namespace Rearranged

theorem identifier?_eq (h : Rearranged d d') (id : String) :
    (RuleIndex.ofDocument d).identifier? id = (RuleIndex.ofDocument d').identifier? id := by
  rw [RuleIndex.identifier?, RuleIndex.identifier?, RuleIndex.ofDocument_eq_ofRules,
    RuleIndex.ofDocument_eq_ofRules, RuleIndex.get?_ofRules_of_perm h.rules h.distinct]

theorem judge_eq (h : Rearranged d d') (r : RuleResult) :
    judge normalize (.ofDocument d) checks r = judge normalize (.ofDocument d') checks r :=
  judge_congr rfl (h.identifier?_eq r.idref) fun _ => rfl

theorem exists_correlate_eq_ok_iff (h : Rearranged d d') :
    (∃ report, correlate normalize clock d checks = .ok report) ↔
      ∃ report, correlate normalize clock' d' checks = .ok report := by
  rw [exists_correlate_eq_ok_iff_judge, exists_correlate_eq_ok_iff_judge, h.target]
  simp only [h.judge_eq, h.results.mem_iff]

/-- Each result contributes to the one report what it contributes to the other one. -/
theorem exists_contribution (h : Rearranged d d') {report report' : Report}
    (hd : correlate normalize clock d checks = .ok report)
    (hd' : correlate normalize clock' d' checks = .ok report') :
    ∃ contribution, MadeOf contribution d.ruleResults report.observations ∧
      MadeOf contribution d'.ruleResults report'.observations := by
  obtain ⟨target, htarget⟩ : ∃ target, d.target? = some target :=
    Option.ne_none_iff_exists'.mp (exists_correlate_eq_ok_iff_judge.mp ⟨report, hd⟩).1
  refine ⟨fun r => (findingFor? normalize (.ofDocument d) checks r).map fun f =>
    f.observe target d.evidenceHref, ?_, ?_⟩
  · intro time
    simp only [map_restamp_observations_eq htarget hd, Option.map_map, Function.comp_def]
  · intro time
    have hfinding : findingFor? normalize (.ofDocument d') checks =
        findingFor? normalize (.ofDocument d) checks := by
      funext r
      rw [findingFor?, findingFor?, h.judge_eq]
    have hevidence : d'.evidenceHref = d.evidenceHref := by
      rw [ResultsDocument.evidenceHref, ResultsDocument.evidenceHref, h.location]
    simp only [map_restamp_observations_eq (h.target.symm.trans htarget) hd', hfinding, hevidence,
      Option.map_map, Function.comp_def]

end Rearranged

/-- Runs on documents with the same rules and results in some order succeed both or fail both.  If
they succeed, the observations of one are those of the other, in the order of the results; if the
results have one order in both documents, the runs end with the same report or the same error. -/
theorem correlate_of_rearranged (normalize : CheckName.Normalizer) (checks : CheckSet)
    (clock clock' : Nat → Instant) {d d' : ResultsDocument} (h : Rearranged d d') :
    ((∃ report, correlate normalize clock d checks = .ok report) ↔
      ∃ report, correlate normalize clock' d' checks = .ok report) ∧
    (∀ report report', correlate normalize clock d checks = .ok report →
      correlate normalize clock' d' checks = .ok report' →
        (∃ contribution, MadeOf contribution d.ruleResults report.observations ∧
          MadeOf contribution d'.ruleResults report'.observations) ∧
        ∀ time, (report.observations.map (·.restamp time)).Perm
          (report'.observations.map (·.restamp time))) ∧
    (d.ruleResults = d'.ruleResults →
      correlate normalize clock d checks = correlate normalize clock d' checks ∧
        SameEnd (correlate normalize clock d checks) (correlate normalize clock' d' checks)) := by
  refine ⟨h.exists_correlate_eq_ok_iff, ?_, ?_⟩
  · intro report report' hd hd'
    obtain ⟨contribution, hobs, hobs'⟩ := h.exists_contribution hd hd'
    refine ⟨⟨contribution, hobs, hobs'⟩, fun time => ?_⟩
    rw [hobs time, hobs' time]
    exact h.results.filterMap _
  · intro hresults
    have heq : correlate normalize clock d checks = correlate normalize clock d' checks := by
      apply correlate_congr h.target h.location
      rw [← hresults]
      exact gather_congr (List.forall₂_same.mpr fun r _ => h.judge_eq r)
    refine ⟨heq, ?_⟩
    rw [heq]
    exact sameEnd_of_clock normalize clock clock' d' checks

/-- Two rules with their results, and the same in the other order. -/
theorem correlate_of_rearranged_sample :
    let sshd := ruleNode "sshd" [(ovalSystem, "oval:ssg-sshd_enabled:def:1")]
    let aide := ruleNode "aide" [(ovalSystem, "oval:ssg-aide_installed:def:1")]
    let d := scanOf [sshd, aide] [resultNode "sshd" ["pass"], resultNode "aide" ["fail"]]
    let d' := scanOf [aide, sshd] [resultNode "aide" ["fail"], resultNode "sshd" ["pass"]]
    let checks := CheckSet.ofList ["sshd_enabled", "aide_installed"]
    Rearranged d d' ∧
    ∃ report report', correlate CheckName.ofIdentifier (fun _ => sampleTime) d checks = .ok report ∧
      correlate CheckName.ofIdentifier (fun _ => sampleTime) d' checks = .ok report' ∧
      report.observations.map (·.title) = ["sshd", "aide"] ∧
      report'.observations.map (·.title) = ["aide", "sshd"] ∧
      ∀ time, (report.observations.map (·.restamp time)).Perm
        (report'.observations.map (·.restamp time)) := by
  intro sshd aide d d' checks
  have h : Rearranged d d' :=
    ⟨by rfl, rfl, by decide +kernel, by decide +kernel, by decide +kernel⟩
  obtain ⟨-, hperm, -⟩ := correlate_of_rearranged CheckName.ofIdentifier checks
    (fun _ => sampleTime) (fun _ => sampleTime) h
  exact ⟨h, _, _, rfl, rfl, by rfl, by rfl, (hperm _ _ rfl rfl).2⟩

end PolicyAudit.Scan
