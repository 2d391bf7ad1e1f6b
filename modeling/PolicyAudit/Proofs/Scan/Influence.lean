import PolicyAudit.Proofs.Scan.Index
import PolicyAudit.Proofs.Scan.Report
import PolicyAudit.Proofs.Scan.Timestamps

/-! # What a run depends on

A result is judged by the identifier that the index finds for its rule, and by its outcome where the
set `Covers` the rule (`judge_eq`, `judge_congr`).  Nothing else in a document counts but the target
and the place of the document (`correlate_congr`).

Documents that `AgreeInside` a set of checks thus have one report or one error, and an `Edit` of
what the set does not cover shows in no run: `correlate_eq_of_agreeInside`. -/

namespace PolicyAudit.Scan

open Xml (Node)

variable {normalize : CheckName.Normalizer} {checks : CheckSet} {index index' : RuleIndex}
  {d d' : ResultsDocument} {clock : Nat → Instant}

/-! ### Judgements -/

/-- The identifier of a rule has the short name of a check of the set. -/
def Covers (normalize : CheckName.Normalizer) (index : RuleIndex) (checks : CheckSet)
    (ruleId : String) : Prop :=
  ∃ identifier checkId, index.identifier? ruleId = some identifier ∧
    normalize identifier = .ok checkId ∧ checkId ∈ checks

/-- The index has a say in a judgement by the identifier of the rule alone. -/
theorem judge_eq (normalize : CheckName.Normalizer) (index : RuleIndex) (checks : CheckSet)
    (r : RuleResult) :
    judge normalize index checks r =
      match index.identifier? r.idref with
      | none => .ok none
      | some identifier =>
        match normalize identifier with
        | .error cause => .error (.malformedCheck r.idref cause)
        | .ok checkId =>
          if checkId ∈ checks then
            match Status.ofOutcome r.outcome with
            | .error cause => .error (.unrecognizedStatus r.idref cause)
            | .ok status => .ok (some ⟨r.idref, checkId, status, r.outcome.getD ""⟩)
          else .ok none := by
  rw [judge, RuleIndex.identifier?]
  cases hget : index.get? r.idref with
  | none => rfl
  | some rule =>
    have hid : rule.id = r.idref := RuleIndex.id_of_get? hget
    cases hname : rule.relevantName? with
    | none => simp [hname]
    | some identifier =>
      cases hcheck : normalize identifier with
      | error cause => simp [hname, hcheck, hid]
      | ok checkId => cases Status.ofOutcome r.outcome <;> simp [hname, hcheck, hid]

/-- Results of one rule are judged alike if both indexes find one identifier for the rule, and if
their outcomes agree where the set covers the rule. -/
theorem judge_congr {r r' : RuleResult} (hidref : r.idref = r'.idref)
    (hidentifier : index.identifier? r.idref = index'.identifier? r.idref)
    (houtcome : Covers normalize index checks r.idref → r.outcome = r'.outcome) :
    judge normalize index checks r = judge normalize index' checks r' := by
  rw [judge_eq, judge_eq, ← hidref, ← hidentifier]
  cases hid : index.identifier? r.idref with
  | none => rfl
  | some identifier =>
    dsimp only
    cases hname : normalize identifier with
    | error cause => rfl
    | ok checkId =>
      by_cases hmem : checkId ∈ checks
      · rw [houtcome ⟨identifier, checkId, hid, hname, hmem⟩]
      · simp only [if_neg hmem]

/-- A result is skipped if its rule has no identifier, or one with a short name outside the set. -/
theorem judge_eq_ok_none {r : RuleResult}
    (h : ∀ identifier, index.identifier? r.idref = some identifier →
      ∃ checkId, normalize identifier = .ok checkId ∧ checkId ∉ checks) :
    judge normalize index checks r = .ok none := by
  rw [judge_eq]
  cases hid : index.identifier? r.idref with
  | none => rfl
  | some identifier =>
    obtain ⟨checkId, hname, hmem⟩ := h identifier hid
    simp only [hname, if_neg hmem]

/-! ### Runs -/

theorem gather_congr {α β γ ε : Type} {f : α → Except ε (Option γ)} {g : β → Except ε (Option γ)}
    {as : List α} {bs : List β} (h : List.Forall₂ (fun a b => f a = g b) as bs) :
    gather f as = gather g bs := by
  induction h with
  | nil => rfl
  | cons hab _ ih => rw [gather, gather, hab, ih]

/-- An item that is skipped may be left out. -/
theorem gather_append_cons_of_none {α β ε : Type} {f : α → Except ε (Option β)} {a : α}
    (h : f a = .ok none) (before after : List α) :
    gather f (before ++ a :: after) = gather f (before ++ after) := by
  induction before with
  | nil => rw [List.nil_append, gather, h, List.nil_append]
  | cons b before ih => rw [List.cons_append, List.cons_append, gather, gather, ih]

/-- A run depends on the target, the place of the document, and the judgements of the results. -/
theorem correlate_congr (htarget : d.target? = d'.target?) (hlocation : d.location = d'.location)
    (h : gather (judge normalize (.ofDocument d) checks) d.ruleResults =
      gather (judge normalize (.ofDocument d') checks) d'.ruleResults) :
    correlate normalize clock d checks = correlate normalize clock d' checks := by
  simp only [correlate, findings, ResultsDocument.evidenceHref, htarget, hlocation, h]

/-! ### Documents that agree -/

/-- The documents agree in what a set of checks covers. -/
structure AgreeInside (normalize : CheckName.Normalizer) (checks : CheckSet)
    (d d' : ResultsDocument) : Prop where
  target : d.target? = d'.target?
  location : d.location = d'.location
  idrefs : d.ruleResults.map (·.idref) = d'.ruleResults.map (·.idref)
  /-- The rules of the results have the same identifiers, or none. -/
  identifiers : ∀ r ∈ d.ruleResults, (RuleIndex.ofDocument d).identifier? r.idref =
    (RuleIndex.ofDocument d').identifier? r.idref
  /-- Results at one place have the same outcome if the set covers their rule. -/
  outcomes : ∀ p ∈ d.ruleResults.zip d'.ruleResults,
    Covers normalize (.ofDocument d) checks p.1.idref → p.1.outcome = p.2.outcome

/-- An edit of a document outside what a set of checks covers. -/
inductive Edit (normalize : CheckName.Normalizer) (checks : CheckSet) (d d' : ResultsDocument) :
    Prop
  /-- Rules that no result looks up, that are overridden, or whose first OVAL check stays. -/
  | rules : d.ruleResults = d'.ruleResults →
      RuleIndex.RuleEdit (d.ruleResults.map (·.idref)) d.ruleDefinitions d'.ruleDefinitions →
      Edit normalize checks d d'
  /-- The outcome of a result whose rule is not covered, which may also be removed. -/
  | outcome {before after : List RuleResult} {r : RuleResult} {outcome : Option String} :
      d.ruleDefinitions = d'.ruleDefinitions → d.ruleResults = before ++ r :: after →
      d'.ruleResults = before ++ { r with outcome := outcome } :: after →
      ¬ Covers normalize (.ofDocument d) checks r.idref →
      Edit normalize checks d d'
  /-- A whole result, if its rule has no identifier or one with a short name outside the set. -/
  | result {before after : List RuleResult} {r : RuleResult} :
      d.ruleDefinitions = d'.ruleDefinitions → d.ruleResults = before ++ r :: after →
      d'.ruleResults = before ++ after →
      (∀ identifier, (RuleIndex.ofDocument d).identifier? r.idref = some identifier →
        ∃ checkId, normalize identifier = .ok checkId ∧ checkId ∉ checks) →
      Edit normalize checks d d'

theorem ofDocument_congr (h : d.ruleDefinitions = d'.ruleDefinitions) :
    RuleIndex.ofDocument d = RuleIndex.ofDocument d' := by
  rw [RuleIndex.ofDocument_eq_ofRules, RuleIndex.ofDocument_eq_ofRules, h]

/-- Documents that agree inside a set have their results judged alike, one by one. -/
theorem AgreeInside.forall₂_judge (h : AgreeInside normalize checks d d') :
    List.Forall₂ (fun r r' => judge normalize (.ofDocument d) checks r =
      judge normalize (.ofDocument d') checks r') d.ruleResults d'.ruleResults := by
  have hlength : d.ruleResults.length = d'.ruleResults.length := by
    simpa using congrArg List.length h.idrefs
  refine List.forall₂_iff_get.mpr ⟨hlength, fun i hi hi' => ?_⟩
  have hidref : d.ruleResults[i].idref = d'.ruleResults[i].idref := by
    simpa [hi, hi'] using congrArg (·[i]?) h.idrefs
  have hpair : (d.ruleResults[i], d'.ruleResults[i]) ∈ d.ruleResults.zip d'.ruleResults :=
    List.mem_iff_getElem.mpr ⟨i, by simpa using Nat.lt_min.mpr ⟨hi, hi'⟩, List.getElem_zip⟩
  exact judge_congr hidref (h.identifiers _ (List.getElem_mem hi)) (h.outcomes _ hpair)

theorem Edit.gather_eq (h : Edit normalize checks d d') :
    gather (judge normalize (.ofDocument d) checks) d.ruleResults =
      gather (judge normalize (.ofDocument d') checks) d'.ruleResults := by
  cases h with
  | rules hresults hrules =>
    rw [← hresults]
    refine gather_congr (List.forall₂_same.mpr fun r hr => judge_congr rfl ?_ fun _ => rfl)
    exact RuleIndex.identifier?_of_ruleEdit hrules (List.mem_map_of_mem hr)
  | @outcome before after r outcome hrules hd hd' hout =>
    rw [ofDocument_congr hrules, hd, hd']
    rw [ofDocument_congr hrules] at hout
    have hjudge : judge normalize (.ofDocument d') checks r =
        judge normalize (.ofDocument d') checks { r with outcome := outcome } :=
      judge_congr rfl rfl fun hcovers => absurd hcovers hout
    have hsame : ∀ rs : List RuleResult, List.Forall₂ (fun r r' =>
        judge normalize (.ofDocument d') checks r = judge normalize (.ofDocument d') checks r')
        rs rs := fun rs => List.forall₂_same.mpr fun _ _ => rfl
    exact gather_congr (List.rel_append (hsame before) (.cons hjudge (hsame after)))
  | @result before after r hrules hd hd' hout =>
    rw [ofDocument_congr hrules] at hout
    rw [ofDocument_congr hrules, hd, hd', gather_append_cons_of_none (judge_eq_ok_none hout)]

/-- Documents that agree inside a set of checks have one report or one error, whatever they hold
outside of it, and an edit outside of it changes neither. -/
theorem correlate_eq_of_agreeInside (normalize : CheckName.Normalizer) (checks : CheckSet)
    (clock clock' : Nat → Instant) (d d' : ResultsDocument) :
    (AgreeInside normalize checks d d' →
      correlate normalize clock d checks = correlate normalize clock d' checks ∧
        SameEnd (correlate normalize clock d checks) (correlate normalize clock' d' checks)) ∧
    (d.target? = d'.target? → d.location = d'.location → Edit normalize checks d d' →
      correlate normalize clock d checks = correlate normalize clock d' checks ∧
        SameEnd (correlate normalize clock d checks) (correlate normalize clock' d' checks)) := by
  have hclock : correlate normalize clock d checks = correlate normalize clock d' checks →
      SameEnd (correlate normalize clock d checks) (correlate normalize clock' d' checks) := by
    intro heq
    rw [heq]
    exact sameEnd_of_clock normalize clock clock' d' checks
  constructor
  · intro h
    have heq : correlate normalize clock d checks = correlate normalize clock d' checks :=
      correlate_congr h.target h.location (gather_congr h.forall₂_judge)
    exact ⟨heq, hclock heq⟩
  · intro htarget hlocation h
    have heq : correlate normalize clock d checks = correlate normalize clock d' checks :=
      correlate_congr htarget hlocation h.gather_eq
    exact ⟨heq, hclock heq⟩

/-- A scan of one host. -/
def scanOf (rules results : List Node) : ResultsDocument where
  location := "arf.xml"
  nodes := [.element none "TestResult" []
    (rules ++ .element none "target" [] [.text "host1"] :: results)]

/-- A rule with checks, each a system and an identifier. -/
def ruleNode (id : String) (checks : List (String × String)) : Node :=
  .element none "Rule" [⟨none, "id", id⟩] (checks.map fun c =>
    .element none "check" [⟨none, "system", c.1⟩] [
      .element none "check-content-ref" [⟨none, "name", c.2⟩] []])

def resultNode (idref : String) (outcome : List String) : Node :=
  .element none "rule-result" [⟨none, "idref", idref⟩]
    (outcome.map fun word => .element none "result" [] [.text word])

/-- One of the two results is about a check of the set; the rule of the other is not defined. -/
def plainScan : ResultsDocument :=
  scanOf [ruleNode "sshd" [(ovalSystem, "oval:ssg-sshd_enabled:def:1")]]
    [resultNode "aide" ["unheard of"], resultNode "sshd" ["pass"]]

/-- An overridden definition, a check of another system, an OVAL check behind the first one and a
rule that no result names are added. -/
def alteredRules : List Node :=
  [ruleNode "sshd" [(ovalSystem, "")],
    ruleNode "sshd" [("ocil", ""), (ovalSystem, "oval:ssg-sshd_enabled:def:1"), (ovalSystem, "")],
    ruleNode "spare" [(ovalSystem, "")]]

/-- With other rules, the result outside the set first loses its outcome and is then removed. -/
theorem correlate_eq_of_agreeInside_sample :
    let normalize := CheckName.ofIdentifier
    let checks := CheckSet.ofList ["sshd_enabled"]
    let altered := scanOf alteredRules [resultNode "aide" [], resultNode "sshd" ["pass"]]
    let removed := scanOf alteredRules [resultNode "sshd" ["pass"]]
    AgreeInside normalize checks plainScan altered ∧ Edit normalize checks altered removed ∧
    correlate normalize (fun _ => sampleTime) plainScan checks = .ok sampleReport ∧
    correlate normalize (fun _ => sampleTime) altered checks = .ok sampleReport ∧
    correlate normalize (fun _ => sampleTime) removed checks = .ok sampleReport := by
  intro normalize checks altered removed
  have hagree : AgreeInside normalize checks plainScan altered := by
    refine ⟨by rfl, rfl, by rfl, by decide +kernel, ?_⟩
    intro p hp hcovers
    rcases List.mem_cons.mp hp with rfl | hp
    · obtain ⟨identifier, checkId, hid, -⟩ := hcovers
      cases hid
    · obtain rfl := List.mem_singleton.mp hp
      rfl
  have hedit : Edit normalize checks altered removed := by
    have hresults : altered.ruleResults = [] ++ ⟨"aide", none⟩ :: [⟨"sshd", some "pass"⟩] := by rfl
    refine .result rfl hresults (by rfl) fun identifier hid => ?_
    cases hid
  have hrun : correlate normalize (fun _ => sampleTime) plainScan checks = .ok sampleReport := by
    rfl
  have haltered := ((correlate_eq_of_agreeInside normalize checks (fun _ => sampleTime)
    (fun _ => sampleTime) plainScan altered).1 hagree).1
  have hremoved := ((correlate_eq_of_agreeInside normalize checks (fun _ => sampleTime)
    (fun _ => sampleTime) altered removed).2 (by rfl) rfl hedit).1
  exact ⟨hagree, hedit, hrun, haltered ▸ hrun, hremoved ▸ haltered ▸ hrun⟩

end PolicyAudit.Scan
