import PolicyAudit.Policy.Request
import PolicyAudit.Proofs.CheckName.Image
import PolicyAudit.Proofs.Scan.Influence
import PolicyAudit.Proofs.Xml.Place
import PolicyAudit.Proofs.Xml.Writing

/-! # Checks that can be observed

A check of a set is observed if some document leads to it.  The identifier that a document gives
for a check is the value of an attribute, and the short name is a part of the identifier.  So a name
that is observed is the name of an identifier, and all of its characters are characters of XML.  For
every such name a document can be written in which it is observed (`observed_iff`).

A request for a policy is accepted with other names as well: no document leads to a check whose name
has a colon, such as a whole identifier, or a line feed (`accepted_check_observed_iff`). -/

namespace PolicyAudit.Scan

open CheckName (ofIdentifier identifierOf)
open Xml (Element Node AreXml Writable areXml_of_all isName_of_all writableAttributes_nil
  writable_keyed writable_labelled)

/-- In some document at the location, a run with the set observes the check. -/
def Observed (location : String) (clock : Nat → Instant) (checks : CheckSet) (checkId : String) :
    Prop :=
  ∃ text document report, ResultsDocument.ofText text location = .ok document ∧
    correlate ofIdentifier clock document checks = .ok report ∧
    ∃ o ∈ report.observations, o.checkId = checkId

/-! ### Identifiers in a document -/

theorem ofText_eq_ok_iff {text location : String} {d : ResultsDocument} :
    ResultsDocument.ofText text location = .ok d ↔
      ∃ nodes, Xml.read text = .ok nodes ∧ d = ⟨location, nodes⟩ := by
  rw [ResultsDocument.ofText]
  cases Xml.read text with
  | error e => simp [Except.map]
  | ok nodes => simp [Except.map, eq_comm]

section

variable {text location : String} {d : ResultsDocument} {clock : Nat → Instant}
  {checks : CheckSet} {checkId : String}

/-- The identifier that a result refers to has characters of XML alone. -/
theorem areXml_of_refersTo (hd : ResultsDocument.ofText text location = .ok d) {result : Element}
    {identifier : String} (h : RefersTo d result identifier) : AreXml identifier.toList := by
  obtain ⟨nodes, hread, rfl⟩ := ofText_eq_ok_iff.mp hd
  obtain ⟨rule, check, reference, hrule, hcheck, hreference, rfl⟩ := h
  have hmemrule : rule ∈ Node.elementsOf nodes := by
    obtain ⟨before, after, hsplit, -⟩ := hrule
    have hnamed : rule ∈ (⟨location, nodes⟩ : ResultsDocument).elementsNamed "Rule" := by
      rw [hsplit]
      exact List.mem_append_right _ List.mem_cons_self
    exact (List.mem_filter.mp hnamed).1
  have hmemcheck : check ∈ Node.elementsOf nodes := by
    obtain ⟨before, after, hsplit, -⟩ := hcheck
    have hnamed : check ∈ rule.childrenNamed "check" := by
      rw [hsplit]
      exact List.mem_append_right _ List.mem_cons_self
    exact Node.mem_elementsOf_of_mem_childrenNamed hmemrule hnamed
  have hmemreference : reference ∈ Node.elementsOf nodes :=
    Node.mem_elementsOf_of_mem_childrenNamed hmemcheck (List.mem_of_head? hreference)
  cases hname : reference.attribute? "name" with
  | none => exact fun c hc => absurd hc List.not_mem_nil
  | some value =>
    obtain ⟨a, hfind, rfl⟩ := Option.map_eq_some_iff.mp hname
    exact Xml.areXml_of_read hread hmemreference (List.mem_of_find?_eq_some hfind)

theorem Observed.exists_identifier (h : Observed location clock checks checkId) :
    ∃ identifier, ofIdentifier identifier = .ok checkId ∧ AreXml identifier.toList := by
  obtain ⟨text, d, report, htext, hrun, o, ho, rfl⟩ := h
  obtain ⟨result, identifier, hrefers, hname, -⟩ := exists_joinsTo_of_mem hrun ho
  exact ⟨identifier, hname, areXml_of_refersTo htext hrefers⟩

/-! ### Documents for a check -/

/-- A scan in which the check of one rule has passed. -/
def scanOfCheck (location identifier : String) : ResultsDocument where
  location := location
  nodes := (scanOf [ruleNode "rule" [(ovalSystem, identifier)]] [resultNode "rule" ["pass"]]).nodes

theorem correlate_scanOfCheck {normalize : CheckName.Normalizer} {identifier : String}
    (hname : normalize identifier = .ok checkId) (hmem : checkId ∈ checks) :
    ∃ report, correlate normalize clock (scanOfCheck location identifier) checks = .ok report ∧
      ∃ o ∈ report.observations, o.checkId = checkId := by
  have htarget : (scanOfCheck location identifier).target? = some "host1" := by rfl
  have hresults : (scanOfCheck location identifier).ruleResults = [⟨"rule", some "pass"⟩] := by rfl
  have hidentifier : (RuleIndex.ofDocument (scanOfCheck location identifier)).identifier? "rule" =
      some identifier := by rfl
  have hpass : Status.ofOutcome (some "pass") = .ok .pass := by rfl
  have hjudge : judge normalize (.ofDocument (scanOfCheck location identifier)) checks
      ⟨"rule", some "pass"⟩ = .ok (some ⟨"rule", checkId, .pass, "pass"⟩) := by
    rw [judge_eq]
    simp [hidentifier, hname, hmem, hpass]
  have hfindings : findings normalize (scanOfCheck location identifier) checks =
      .ok [⟨"rule", checkId, .pass, "pass"⟩] := by
    rw [findings, htarget, hresults]
    simp [gather, hjudge]
  rw [correlate, hfindings]
  exact ⟨_, rfl, _, List.mem_singleton.mpr rfl, rfl⟩

theorem writable_ruleNode {id system identifier : String} {nodes : List Node}
    (hid : AreXml id.toList) (hsystem : AreXml system.toList)
    (hidentifier : AreXml identifier.toList) (hnodes : Writable nodes) :
    Writable (ruleNode id [(system, identifier)] :: nodes) := by
  have hreference : Writable [.element none "check-content-ref" [⟨none, "name", identifier⟩] []] :=
    writable_keyed (isName_of_all (by decide)) (isName_of_all (by decide)) (by decide) hidentifier
      .nil .nil
  have hcheck : Writable [.element none "check" [⟨none, "system", system⟩]
      [.element none "check-content-ref" [⟨none, "name", identifier⟩] []]] :=
    writable_keyed (isName_of_all (by decide)) (isName_of_all (by decide)) (by decide) hsystem
      hreference .nil
  exact writable_keyed (isName_of_all (by decide)) (isName_of_all (by decide)) (by decide) hid
    hcheck hnodes

theorem writable_resultNode {idref word : String} {nodes : List Node} (hidref : AreXml idref.toList)
    (hne : word ≠ "") (hword : AreXml word.toList) (hnodes : Writable nodes) :
    Writable (resultNode idref [word] :: nodes) :=
  writable_keyed (isName_of_all (by decide)) (isName_of_all (by decide)) (by decide) hidref
    (writable_labelled (isName_of_all (by decide)) hne hword .nil) hnodes

/-- The scan can be written if its identifier has characters of XML alone. -/
theorem exists_ofText_scanOfCheck (location : String) {identifier : String}
    (h : AreXml identifier.toList) :
    ∃ text, ResultsDocument.ofText text location = .ok (scanOfCheck location identifier) := by
  have hrule : AreXml "rule".toList := areXml_of_all (by decide)
  have hresult : Writable [resultNode "rule" ["pass"]] :=
    writable_resultNode hrule (by decide) (areXml_of_all (by decide)) .nil
  have htarget : Writable [.element none "target" [] [.text "host1"], resultNode "rule" ["pass"]] :=
    writable_labelled (isName_of_all (by decide)) (by decide) (areXml_of_all (by decide)) hresult
  have hchildren : Writable [ruleNode "rule" [(ovalSystem, identifier)],
      .element none "target" [] [.text "host1"], resultNode "rule" ["pass"]] :=
    writable_ruleNode hrule (areXml_of_all (by decide)) h htarget
  exact ⟨_, ofText_eq_ok_iff.mpr ⟨_,
    Xml.read_write (isName_of_all (by decide)) writableAttributes_nil hchildren, rfl⟩⟩

theorem areXml_identifierOf {name : String} (h : AreXml name.toList) :
    AreXml (identifierOf name).toList := by
  intro c hc
  rw [CheckName.toList_identifierOf, List.mem_append, List.mem_append] at hc
  rcases hc with (hc | hc) | hc
  · exact areXml_of_all (by decide) c hc
  · exact h c hc
  · exact areXml_of_all (by decide) c hc

/-- A check of a set can be observed exactly if it has the short name of some identifier and all of
its characters are characters of XML. -/
theorem observed_iff (hmem : checkId ∈ checks) :
    Observed location clock checks checkId ↔
      (∃ raw, ofIdentifier raw = .ok checkId) ∧ AreXml checkId.toList := by
  constructor
  · intro h
    obtain ⟨identifier, hname, hxml⟩ := h.exists_identifier
    exact ⟨⟨identifier, hname⟩, fun c hc => hxml c (CheckName.mem_of_ofIdentifier_eq_ok hname hc)⟩
  · rintro ⟨hname, hxml⟩
    obtain ⟨hne, hcolon, hline⟩ := CheckName.exists_ofIdentifier_eq_ok_iff.mp hname
    obtain ⟨text, htext⟩ := exists_ofText_scanOfCheck location (areXml_identifierOf hxml)
    obtain ⟨report, hrun, hobserved⟩ :=
      correlate_scanOfCheck (CheckName.ofIdentifier_identifierOf hne hcolon hline) hmem
    exact ⟨text, _, report, htext, hrun, hobserved⟩

end

/-! ### Accepted requests -/

/-- Which checks of an accepted request can be observed.  The name of a check is the short name of
some identifier exactly if it has neither a colon nor a line feed.  If moreover all of its
characters are characters of XML, then some document leads to an observation of the check with the
policy of the request; otherwise no document does. -/
theorem accepted_check_observed_iff {request : CreateRequest} {rule : PolicyRule}
    {check : PolicyCheck} (haccepted : request.fault? = none) (hrule : rule ∈ request.rules)
    (hcheck : check ∈ rule.checks) :
    ((∃ raw, ofIdentifier raw = .ok check.id) ↔
      ':' ∉ check.id.toList ∧ '\n' ∉ check.id.toList) ∧
    ∀ id createdAt location clock,
      Observed location clock (.ofPolicy (request.toPolicy id createdAt)) check.id ↔
        ':' ∉ check.id.toList ∧ '\n' ∉ check.id.toList ∧
          ∀ c ∈ check.id.toList, Xml.isXmlChar c = true := by
  have hne : check.id ≠ "" := by
    intro hempty
    have hblank := (CreateRequest.fault?_eq_none_iff.mp haccepted).2 rule hrule check hcheck
    rw [hempty] at hblank
    exact hblank rfl
  have hname : (∃ raw, ofIdentifier raw = .ok check.id) ↔
      ':' ∉ check.id.toList ∧ '\n' ∉ check.id.toList := by
    rw [CheckName.exists_ofIdentifier_eq_ok_iff]
    exact and_iff_right hne
  refine ⟨hname, fun id createdAt location clock => ?_⟩
  have hmem : check.id ∈ CheckSet.ofPolicy (request.toPolicy id createdAt) :=
    CheckSet.mem_ofRules.mpr ⟨rule, hrule, check, hcheck, rfl⟩
  rw [observed_iff hmem, hname, and_assoc]
  rfl

/-- A check named by a whole identifier, beside one with blanks and a number at its end. -/
def sampleChecks : List PolicyCheck := [⟨"oval:ssg-sshd_enabled:def:1", none⟩, ⟨" sshd-7 ", none⟩]

def sampleIdentifierRequest : CreateRequest := ⟨"ssh", none, [⟨"rule1", none, sampleChecks⟩]⟩

theorem accepted_check_observed_iff_sample :
    sampleIdentifierRequest.fault? = none ∧
    (∀ id createdAt location clock, ¬ Observed location clock
      (.ofPolicy (sampleIdentifierRequest.toPolicy id createdAt)) "oval:ssg-sshd_enabled:def:1") ∧
    ∀ id createdAt location clock, Observed location clock
      (.ofPolicy (sampleIdentifierRequest.toPolicy id createdAt)) " sshd-7 " := by
  have haccepted : sampleIdentifierRequest.fault? = none := by decide
  have hfirst := accepted_check_observed_iff haccepted List.mem_cons_self
    (show ⟨"oval:ssg-sshd_enabled:def:1", none⟩ ∈ sampleChecks by decide)
  have hsecond := accepted_check_observed_iff haccepted List.mem_cons_self
    (show ⟨" sshd-7 ", none⟩ ∈ sampleChecks by decide)
  refine ⟨haccepted, fun id createdAt location clock h => ?_, fun id createdAt location clock => ?_⟩
  · exact absurd ((hfirst.2 id createdAt location clock).mp h).1 (by decide)
  · exact (hsecond.2 id createdAt location clock).mpr
      ⟨by decide, by decide, areXml_of_all (by decide)⟩

/-- A request is accepted although one of its checks has a name that no identifier has. -/
theorem accepted_check_without_identifier :
    ¬ ∀ request : CreateRequest, request.fault? = none → ∀ rule ∈ request.rules,
      ∀ check ∈ rule.checks, ∃ raw, ofIdentifier raw = .ok check.id := by
  intro h
  have hname := h sampleIdentifierRequest (by decide) _ List.mem_cons_self
    ⟨"oval:ssg-sshd_enabled:def:1", none⟩ (by decide)
  exact absurd (CheckName.exists_ofIdentifier_eq_ok_iff.mp hname).2.1 (by decide)

end PolicyAudit.Scan
