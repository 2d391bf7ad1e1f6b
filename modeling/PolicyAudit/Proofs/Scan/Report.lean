import Mathlib.Data.List.Forall2
import PolicyAudit.Proofs.Scan.Run

/-! # What a report holds

A report is read off the results of its document, in document order.  A result that joins to a
check of the set contributes one observation, any other result none (`Contribution`,
`observations_eq_filterMap`).

The verdict of an observation is that of a word in the document: of the text below the first
`result` directly inside the result that the observation stems from.  The reason quotes that word
(`IsVerdictOf`), and a word that stands for no verdict ends the run
(`observations_quote_outcomes`). -/

namespace PolicyAudit.Scan

open Xml (Element Node)

variable {normalize : CheckName.Normalizer} {clock : Nat → Instant} {d : ResultsDocument}
  {checks : CheckSet} {report : Report}

/-! ### Contributions -/

/-- What a result contributes to a report on a host: nothing unless it joins to a check, and then
one observation, of which only the time is open. -/
inductive Contribution (normalize : CheckName.Normalizer) (d : ResultsDocument) (checks : CheckSet)
    (target : String) (result : Element) : Option (Instant → Observation) → Prop
  | skipped : (∀ checkId, ¬ JoinsTo normalize d checks result checkId) →
      Contribution normalize d checks target result none
  | observed {checkId : String} {status : Status} :
      JoinsTo normalize d checks result checkId →
      Status.ofOutcome (outcomeOf result) = .ok status →
      Contribution normalize d checks target result (some fun time =>
        { title := idrefOf result
          methods := ["AUTOMATED"]
          collected := time
          checkId := checkId
          subjects := [
            { title := "Host " ++ target
              type := "inventory-item"
              resourceId := target
              evaluatedOn := time
              result := status
              reason := "openscap rule-result is " ++ (outcomeOf result).getD ""
              props := [⟨"hostname", target⟩] }]
          relevantEvidences := [⟨"file://" ++ d.location, "ARF_FILE"⟩] })

/-- A result that is not fatal contributes the observation of its finding, if it has one. -/
theorem contribution_findingOf? {target : String} {result : Element}
    (h : ∀ e, ¬ Fatal normalize d checks result e) :
    Contribution normalize d checks target result
      ((findingOf? normalize d checks result).map fun f => f.observe target d.evidenceHref) := by
  cases hf : findingOf? normalize d checks result with
  | none =>
    refine .skipped fun checkId hjoin => ?_
    cases hout : Status.ofOutcome (outcomeOf result) with
    | error cause => exact h _ (.outcome hjoin hout)
    | ok status =>
      rw [findingOf?_eq_some_iff.mpr ⟨checkId, status, hjoin, hout, rfl⟩] at hf
      cases hf
  | some f =>
    obtain ⟨checkId, status, hjoin, hout, rfl⟩ := findingOf?_eq_some_iff.mp hf
    exact .observed hjoin hout

theorem mapIdx_map {α β γ : Type} (f : Nat → β → γ) (g : α → β) (as : List α) :
    (as.map g).mapIdx f = as.mapIdx fun i a => f i (g a) := by
  refine List.ext_getElem? fun i => ?_
  simp only [List.getElem?_mapIdx, List.getElem?_map, Option.map_map]
  rfl

/-- The observations of a report are the contributions of the results, in document order, and each
is made at its own time. -/
theorem observations_eq_filterMap (h : correlate normalize clock d checks = .ok report) :
    ∃ (target : String) (contribution : Element → Option (Instant → Observation)),
      HasTarget d target ∧
      (∀ result ∈ d.elementsNamed "rule-result",
        Contribution normalize d checks target result (contribution result)) ∧
      report.observations = ((d.elementsNamed "rule-result").filterMap contribution).mapIdx
        fun i observation => observation (clock i) := by
  obtain ⟨target, htarget, hfatal, hobs⟩ := correlate_eq_ok_iff.mp h
  refine ⟨target, fun result => (findingOf? normalize d checks result).map fun f =>
    f.observe target d.evidenceHref, htarget, ?_, ?_⟩
  · intro result hmem
    exact contribution_findingOf? (hfatal result hmem)
  · rw [hobs, ← List.map_filterMap, mapIdx_map]

/-- A scan of one host.  The first of its results joins to the second check of its rule and reports
a word that a comment cuts; the rule of the other result is not defined. -/
def sampleDocument : ResultsDocument where
  location := "arf.xml"
  nodes := [.element none "TestResult" [] [
    .element none "Rule" [⟨none, "id", "sshd"⟩] [
      .element none "check" [⟨none, "system", "ocil"⟩] [],
      .element none "check" [⟨none, "system", ovalSystem⟩] [
        .element none "check-content-ref" [⟨none, "name", "oval:ssg-sshd_enabled:def:1"⟩] []]],
    .element none "target" [] [.text " host1 "],
    .element none "rule-result" [⟨none, "idref", "sshd"⟩] [
      .element none "result" [] [.text "pa", .comment "cut", .text "ss "]],
    .element none "rule-result" [⟨none, "idref", "aide"⟩] [
      .element none "result" [] [.text "unheard of"]]]]

def sampleTime : Instant := ⟨⟨2024, 1, 1, by decide⟩, ⟨0, 0, by decide⟩⟩

def sampleReport : Report :=
  ⟨[Finding.observe ⟨"sshd", "sshd_enabled", .pass, "pass"⟩ "host1" "file://arf.xml" sampleTime]⟩

theorem observations_eq_filterMap_sample :
    correlate CheckName.ofIdentifier (fun _ => sampleTime) sampleDocument
      (CheckSet.ofList ["sshd_enabled"]) = .ok sampleReport ∧
    ∃ (target : String) (contribution : Element → Option (Instant → Observation)),
      HasTarget sampleDocument target ∧
      (∀ result ∈ sampleDocument.elementsNamed "rule-result",
        Contribution CheckName.ofIdentifier sampleDocument (CheckSet.ofList ["sshd_enabled"]) target
          result (contribution result)) ∧
      sampleReport.observations =
        ((sampleDocument.elementsNamed "rule-result").filterMap contribution).mapIdx
          fun _ observation => observation sampleTime :=
  ⟨by rfl, observations_eq_filterMap (by rfl)⟩

/-! ### Verdicts -/

/-- The word that a result reports: the text at any depth below its first `result` directly inside,
without the blanks at its ends. -/
def HasWord (result : Element) (word : String) : Prop :=
  ∃ child, result.child? "result" = some child ∧ word = Text.trim (Node.textOf child.children)

/-- The subject has the verdict of the word, and its reason quotes the word. -/
structure IsVerdictOf (word : String) (subject : Subject) : Prop where
  pass_iff : subject.result = .pass ↔ word = "pass" ∨ word = "fixed"
  fail_iff : subject.result = .fail ↔ word = "fail"
  error_iff : subject.result = .error ↔
    word = "notselected" ∨ word = "notapplicable" ∨ word = "error" ∨ word = "unknown"
  not_invalid : subject.result ≠ .invalid
  reason_eq : subject.reason = "openscap rule-result is " ++ word

/-- The observation is about the rule and the check of the result, and has the verdict of the word
that the result reports. -/
def StemsFrom (normalize : CheckName.Normalizer) (d : ResultsDocument) (checks : CheckSet)
    (result : Element) (o : Observation) : Prop :=
  ∃ word subject, HasWord result word ∧ IsVerdictOf word subject ∧ o.subjects = [subject] ∧
    o.title = idrefOf result ∧ JoinsTo normalize d checks result o.checkId

/-- A known outcome is a word with a status, and nothing is left to trim of it. -/
theorem ofOutcome_outcomeOf_eq_ok {result : Element} {status : Status}
    (h : Status.ofOutcome (outcomeOf result) = .ok status) :
    HasWord result ((outcomeOf result).getD "") ∧
      Status.ofWord? ((outcomeOf result).getD "") = some status := by
  rw [outcomeOf] at h ⊢
  cases hchild : result.child? "result" with
  | none =>
    rw [hchild] at h
    cases h
  | some child =>
    rw [hchild, Option.map_some, Status.ofOutcome, innerText, Text.trim_trim] at h
    refine ⟨⟨child, hchild, rfl⟩, ?_⟩
    rw [Option.map_some, Option.getD_some, innerText]
    split at h
    · next s hs => rw [hs, Except.ok.inj h]
    · cases h

/-- Seven words have a status, and each has the one that a report gives it. -/
theorem ofWord?_eq_some_iff {word : String} {status : Status} :
    Status.ofWord? word = some status ↔
      (status = .pass ∧ (word = "pass" ∨ word = "fixed")) ∨ (status = .fail ∧ word = "fail") ∨
        (status = .error ∧ (word = "notselected" ∨ word = "notapplicable" ∨ word = "error" ∨
          word = "unknown")) := by
  constructor
  · intro h
    rw [Status.ofWord?] at h
    split at h
    · next hword => exact .inl ⟨(Option.some.inj h).symm, hword⟩
    · split at h
      · next hword => exact .inr (.inl ⟨(Option.some.inj h).symm, hword⟩)
      · split at h
        · next hword => exact .inr (.inr ⟨(Option.some.inj h).symm, hword⟩)
        · cases h
  · rintro (⟨rfl, rfl | rfl⟩ | ⟨rfl, rfl⟩ | ⟨rfl, rfl | rfl | rfl | rfl⟩) <;> rfl

theorem isVerdictOf_of_ofWord? {word : String} {subject : Subject}
    (h : Status.ofWord? word = some subject.result)
    (hreason : subject.reason = "openscap rule-result is " ++ word) :
    IsVerdictOf word subject := by
  rcases ofWord?_eq_some_iff.mp h with
    ⟨hres, rfl | rfl⟩ | ⟨hres, rfl⟩ | ⟨hres, rfl | rfl | rfl | rfl⟩
  all_goals
    exact ⟨by simp [hres], by simp [hres], by simp [hres], by simp [hres], hreason⟩

theorem mem_words_of_ofWord? {word : String} {status : Status}
    (h : Status.ofWord? word = some status) :
    word ∈ ["pass", "fixed", "fail", "notselected", "notapplicable", "error", "unknown"] := by
  rcases ofWord?_eq_some_iff.mp h with
    ⟨-, rfl | rfl⟩ | ⟨-, rfl⟩ | ⟨-, rfl | rfl | rfl | rfl⟩
  all_goals simp

/-! ### Observations and their results -/

theorem forall₂_filterMap {α β : Type} {R : α → β → Prop} {f : α → Option β} {as : List α}
    (h : ∀ a ∈ as, ∀ b, f a = some b → R a b) :
    List.Forall₂ R (as.filter fun a => (f a).isSome) (as.filterMap f) := by
  induction as with
  | nil => exact .nil
  | cons a as ih =>
    have ih := ih fun a' ha' => h a' (List.mem_cons_of_mem _ ha')
    cases hf : f a with
    | none => simpa [hf] using ih
    | some b => simpa [hf] using ⟨h a List.mem_cons_self b hf, ih⟩

theorem forall₂_mapIdx {α β γ : Type} {R : α → β → Prop} {S : α → γ → Prop} {as : List α}
    {bs : List β} (h : List.Forall₂ R as bs) (g : Nat → β → γ)
    (hg : ∀ i a b, R a b → S a (g i b)) : List.Forall₂ S as (bs.mapIdx g) := by
  induction h generalizing g with
  | nil => exact .nil
  | cons hab _ ih =>
    rw [List.mapIdx_cons]
    exact .cons (hg 0 _ _ hab) (ih _ fun i => hg (i + 1))

/-- The observations of a report stem, one by one and in document order, from results that join to
a check, and each has the verdict of the word that its result reports.  A result that joins to a
check and reports no known word ends the run. -/
theorem observations_quote_outcomes (normalize : CheckName.Normalizer) (clock : Nat → Instant)
    (d : ResultsDocument) (checks : CheckSet) :
    (∀ report, correlate normalize clock d checks = .ok report →
      ∃ sources, sources.Sublist (d.elementsNamed "rule-result") ∧
        List.Forall₂ (StemsFrom normalize d checks) sources report.observations) ∧
    ∀ result ∈ d.elementsNamed "rule-result", ∀ checkId,
      JoinsTo normalize d checks result checkId →
      (∀ word, HasWord result word →
        word ∉ ["pass", "fixed", "fail", "notselected", "notapplicable", "error", "unknown"]) →
      ∃ e, correlate normalize clock d checks = .error e := by
  constructor
  · intro report h
    obtain ⟨target, -, -, hobs⟩ := correlate_eq_ok_iff.mp h
    rw [hobs]
    refine ⟨_, List.filter_sublist, forall₂_mapIdx (forall₂_filterMap fun result _ f hf => hf) _ ?_⟩
    intro i result f hf
    obtain ⟨checkId, status, hjoin, hout, rfl⟩ := findingOf?_eq_some_iff.mp hf
    obtain ⟨hword, hstatus⟩ := ofOutcome_outcomeOf_eq_ok hout
    exact ⟨_, _, hword, isVerdictOf_of_ofWord? hstatus rfl, rfl, rfl, hjoin⟩
  · intro result hmem checkId hjoin hwords
    refine exists_correlate_eq_error_iff.mpr (.inr ⟨result, hmem, ?_⟩)
    cases hout : Status.ofOutcome (outcomeOf result) with
    | error cause => exact ⟨_, .outcome hjoin hout⟩
    | ok status =>
      obtain ⟨hword, hstatus⟩ := ofOutcome_outcomeOf_eq_ok hout
      exact absurd (mem_words_of_ofWord? hstatus) (hwords _ hword)

theorem observations_quote_outcomes_sample :
    ∃ sources, sources.Sublist (sampleDocument.elementsNamed "rule-result") ∧
      List.Forall₂ (StemsFrom CheckName.ofIdentifier sampleDocument
        (CheckSet.ofList ["sshd_enabled"])) sources sampleReport.observations :=
  (observations_quote_outcomes CheckName.ofIdentifier (fun _ => sampleTime) sampleDocument
    (CheckSet.ofList ["sshd_enabled"])).1 sampleReport (by rfl)

end PolicyAudit.Scan
