import PolicyAudit.CheckName
import PolicyAudit.Observation
import PolicyAudit.Scan.RuleIndex

/-! # Correlation

`correlate` joins the results of a document to the checks of a policy: a result leads to the rule
that it names, the rule to its relevant check, and the check's identifier to a short name.  If the
policy has a check of that name, the outcome of the result becomes a `Finding`.  A result that does
not lead to such a check is left out.

Three things make a document unusable as a whole, and the first of them ends the run without a
report: no target, an identifier without a short name, and an outcome that is no verdict on a check
of the policy.  The second counts also where the policy has no such check, the third does not. -/

namespace PolicyAudit.Scan

/-! ### Errors -/

inductive CorrelationError where
  | unreadable (cause : Xml.Error)
  | missingTarget
  | malformedCheck (ruleId : String) (cause : CheckName.NameError)
  | unrecognizedStatus (ruleId : String) (cause : Status.OutcomeError)
deriving DecidableEq, Repr

namespace CorrelationError

def message : CorrelationError → String
  | unreadable cause => "failed to parse results document: " ++ cause.message
  | missingTarget => "result has no 'target' element"
  | malformedCheck ruleId cause => "rule " ++ ruleId ++ ": " ++ cause.message
  | unrecognizedStatus ruleId cause => "rule " ++ ruleId ++ ": " ++ cause.message

/-- The document breaks an assumption about its form. -/
def isDocumentIntegrity : CorrelationError → Bool
  | unrecognizedStatus _ _ => false
  | _ => true

/-- The rule that the error is about. -/
def ruleId? : CorrelationError → Option String
  | malformedCheck ruleId _ => some ruleId
  | unrecognizedStatus ruleId _ => some ruleId
  | _ => none

end CorrelationError

/-! ### Findings -/

/-- The verdict of one result on one check of a policy. -/
structure Finding where
  ruleId : String
  checkId : String
  status : Status
  /-- The trimmed outcome that the verdict was taken from. -/
  outcome : String
deriving DecidableEq, Repr

/-- The observation of a finding on the target at some time. -/
def Finding.observe (f : Finding) (target evidenceHref : String) (time : Instant) :
    Observation where
  title := f.ruleId
  methods := ["AUTOMATED"]
  collected := time
  checkId := f.checkId
  subjects := [{
    title := "Host " ++ target
    type := "inventory-item"
    resourceId := target
    evaluatedOn := time
    result := f.status
    reason := "openscap rule-result is " ++ f.outcome
    props := [⟨"hostname", target⟩] }]
  relevantEvidences := [⟨evidenceHref, "ARF_FILE"⟩]

/-- What a result contributes: a finding, nothing, or the end of the run. -/
def judge (normalize : CheckName.Normalizer) (index : RuleIndex) (checks : CheckSet)
    (r : RuleResult) : Except CorrelationError (Option Finding) :=
  match index.get? r.idref with
  | none => .ok none
  | some rule =>
    match rule.relevantName? with
    | none => .ok none
    | some identifier =>
      match normalize identifier with
      | .error cause => .error (.malformedCheck rule.id cause)
      | .ok checkId =>
        if checkId ∈ checks then
          match Status.ofOutcome r.outcome with
          | .error cause => .error (.unrecognizedStatus rule.id cause)
          | .ok status => .ok (some ⟨r.idref, checkId, status, r.outcome.getD ""⟩)
        else .ok none

/-- The contributions of the items in their order, up to the first error. -/
def gather (f : α → Except ε (Option β)) : List α → Except ε (List β)
  | [] => .ok []
  | a :: as =>
    match f a with
    | .error e => .error e
    | .ok none => gather f as
    | .ok (some b) =>
      match gather f as with
      | .error e => .error e
      | .ok bs => .ok (b :: bs)

/-- The findings of a document, in document order. -/
def findings (normalize : CheckName.Normalizer) (d : ResultsDocument) (checks : CheckSet) :
    Except CorrelationError (List Finding) :=
  match d.target? with
  | none => .error .missingTarget
  | some _ => gather (judge normalize (RuleIndex.ofDocument d) checks) d.ruleResults

/-- The report on a document.  The clock is read once for each observation. -/
def correlate (normalize : CheckName.Normalizer) (clock : Nat → Instant) (d : ResultsDocument)
    (checks : CheckSet) : Except CorrelationError Report :=
  match findings normalize d checks with
  | .error e => .error e
  | .ok fs =>
    .ok ⟨fs.mapIdx fun i f => f.observe (d.target?.getD "") d.evidenceHref (clock i)⟩

/-! ### Laws of gathering -/

/-- Gathering succeeds exactly when every item does, and then gives the contributions in order. -/
theorem gather_eq_ok_iff {f : α → Except ε (Option β)} {as : List α} {bs : List β} :
    gather f as = .ok bs ↔
      (∀ a ∈ as, ∃ o, f a = .ok o) ∧
        bs = as.filterMap fun a => match f a with | .ok o => o | .error _ => none := by
  induction as generalizing bs with
  | nil => simp [gather, eq_comm]
  | cons a as ih =>
    cases hf : f a with
    | error e =>
      simp only [gather, hf, reduceCtorEq, false_iff, not_and]
      intro h
      obtain ⟨o, ho⟩ := h a List.mem_cons_self
      rw [hf] at ho
      cases ho
    | ok o =>
      cases o with
      | none => simp [gather, hf, ih]
      | some b =>
        cases hg : gather f as with
        | error e =>
          simp only [gather, hf, hg, reduceCtorEq, false_iff, not_and]
          intro h
          have back : ∀ cs, gather f as = .ok cs ↔ _ := fun cs => ih
          rw [hg] at back
          exact absurd ((back _).mpr ⟨fun a' h' => h a' (List.mem_cons_of_mem _ h'), rfl⟩) (by simp)
        | ok cs =>
          have := ih.mp hg
          simp only [gather, hf, hg, Except.ok.injEq, List.mem_cons, forall_eq_or_imp,
            List.filterMap_cons]
          exact ⟨fun e => ⟨⟨⟨_, rfl⟩, this.1⟩, by rw [← e, ← this.2]⟩, fun e => by
            rw [e.2, ← this.2]⟩

/-- Gathering fails exactly with the error of the first item that fails. -/
theorem gather_eq_error_iff {f : α → Except ε (Option β)} {as : List α} {e : ε} :
    gather f as = .error e ↔
      ∃ front a back, as = front ++ a :: back ∧ (∀ b ∈ front, ∃ o, f b = .ok o) ∧
        f a = .error e := by
  induction as with
  | nil => simp [gather]
  | cons a as ih =>
    cases hf : f a with
    | error e' =>
      simp only [gather, hf, Except.error.injEq]
      constructor
      · rintro rfl
        exact ⟨[], a, as, rfl, by simp, hf⟩
      · rintro ⟨front, b, back, h, hfront, hb⟩
        cases front with
        | nil =>
          obtain ⟨rfl, -⟩ := List.cons.inj h
          rw [hf] at hb
          exact Except.error.inj hb
        | cons c front =>
          obtain ⟨rfl, -⟩ := List.cons.inj h
          obtain ⟨o, ho⟩ := hfront _ List.mem_cons_self
          rw [hf] at ho
          cases ho
    | ok o =>
      have step : gather f (a :: as) = .error e ↔ gather f as = .error e := by
        cases o with
        | none => simp [gather, hf]
        | some b => cases hg : gather f as <;> simp [gather, hf, hg]
      rw [step, ih]
      constructor
      · rintro ⟨front, b, back, rfl, hfront, hb⟩
        refine ⟨a :: front, b, back, rfl, ?_, hb⟩
        intro c hc
        rcases List.mem_cons.mp hc with rfl | hc
        · exact ⟨o, hf⟩
        · exact hfront c hc
      · rintro ⟨front, b, back, h, hfront, hb⟩
        cases front with
        | nil =>
          obtain ⟨rfl, -⟩ := List.cons.inj h
          rw [hf] at hb
          cases hb
        | cons c front =>
          obtain ⟨rfl, rfl⟩ := List.cons.inj h
          exact ⟨front, b, back, rfl, fun d hd => hfront d (List.mem_cons_of_mem _ hd), hb⟩

end PolicyAudit.Scan
