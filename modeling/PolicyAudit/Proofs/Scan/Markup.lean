import PolicyAudit.Proofs.Scan.Influence
import PolicyAudit.Proofs.Xml.Markup

/-! # Markup in results documents

A run looks at the names of elements, at attributes without a namespace and at joined text.  All
that it reads off an element is thus the same for elements with the same data
(`readsData_ofElement` and its like), and documents with the same data have one target, the same
results and the same rules.  Their runs end alike: `correlate_eq_of_sameData`. -/

namespace PolicyAudit.Scan

open Xml (Element Node SameData MarkupEdit ReadsData)

/-! ### Elements -/

theorem readsData_innerText : ReadsData innerText := by
  intro e e' h
  rw [innerText, innerText, h.children.textOf_eq]

theorem RuleResult.readsData_ofElement : ReadsData RuleResult.ofElement := by
  intro e e' h
  rw [RuleResult.ofElement, RuleResult.ofElement, h.attribute?_eq,
    h.map_child? readsData_innerText]

theorem CheckReference.readsData_ofElement : ReadsData CheckReference.ofElement := by
  have hname : ReadsData fun r => (r.attribute? "name").getD "" := by
    intro e e' h
    simp only [h.attribute?_eq]
  intro e e' h
  rw [CheckReference.ofElement, CheckReference.ofElement, h.attribute?_eq, h.map_child? hname]

theorem RuleDefinition.readsData_ofElement? : ReadsData RuleDefinition.ofElement? := by
  intro e e' h
  rw [RuleDefinition.ofElement?, RuleDefinition.ofElement?, h.attribute?_eq,
    h.map_childrenNamed CheckReference.readsData_ofElement]

/-! ### Documents -/

section

variable {d d' : ResultsDocument}

theorem map_elementsNamed {α : Type} {f : Element → α} (hf : ReadsData f)
    (h : SameData d.nodes d'.nodes) (name : String) :
    (d.elementsNamed name).map f = (d'.elementsNamed name).map f := by
  rw [ResultsDocument.elementsNamed, ResultsDocument.elementsNamed, Xml.map_filter_name,
    Xml.map_filter_name, h.map_elementsOf (hf.ofName name)]

theorem target?_eq_of_sameData (h : SameData d.nodes d'.nodes) : d.target? = d'.target? := by
  have htarget : ∀ d : ResultsDocument, d.target? =
      ((d.elementsNamed "target").map innerText).head?.bind
        fun t => if t = "" then none else some t := by
    intro d
    rw [ResultsDocument.target?, List.head?_map]
    cases (d.elementsNamed "target").head? <;> rfl
  rw [htarget, htarget, map_elementsNamed readsData_innerText h]

theorem ruleResults_eq_of_sameData (h : SameData d.nodes d'.nodes) :
    d.ruleResults = d'.ruleResults :=
  map_elementsNamed RuleResult.readsData_ofElement h "rule-result"

theorem ruleDefinitions_eq_of_sameData (h : SameData d.nodes d'.nodes) :
    d.ruleDefinitions = d'.ruleDefinitions := by
  have hmap : ∀ es : List Element, es.filterMap RuleDefinition.ofElement? =
      (es.map RuleDefinition.ofElement?).filterMap id := by
    intro es
    rw [List.filterMap_map]
    rfl
  unfold ResultsDocument.ruleDefinitions ResultsDocument.ruleElements
  rw [hmap, hmap, map_elementsNamed RuleDefinition.readsData_ofElement? h]

end

/-- Markup does not show: documents with the same data have the same target, the same results in
the same order and the same rules, and for every set of checks their runs end with one report or one
error. -/
theorem correlate_eq_of_sameData (location : String) {nodes nodes' : List Node}
    (h : SameData nodes nodes') :
    let d : ResultsDocument := ⟨location, nodes⟩
    let d' : ResultsDocument := ⟨location, nodes'⟩
    d.target? = d'.target? ∧
    d.ruleResults = d'.ruleResults ∧
    (∀ id, (RuleIndex.ofDocument d).get? id = (RuleIndex.ofDocument d').get? id) ∧
    (RuleIndex.ofDocument d).size = (RuleIndex.ofDocument d').size ∧
    ∀ (normalize : CheckName.Normalizer) (checks : CheckSet) (clock clock' : Nat → Instant),
      correlate normalize clock d checks = correlate normalize clock d' checks ∧
        SameEnd (correlate normalize clock d checks) (correlate normalize clock' d' checks) := by
  intro d d'
  have htarget : d.target? = d'.target? := target?_eq_of_sameData h
  have hresults : d.ruleResults = d'.ruleResults := ruleResults_eq_of_sameData h
  have hindex : RuleIndex.ofDocument d = RuleIndex.ofDocument d' :=
    ofDocument_congr (ruleDefinitions_eq_of_sameData h)
  refine ⟨htarget, hresults, fun id => by rw [hindex], by rw [hindex], ?_⟩
  intro normalize checks clock clock'
  have heq : correlate normalize clock d checks = correlate normalize clock d' checks := by
    apply correlate_congr htarget rfl
    rw [hresults, hindex]
  refine ⟨heq, ?_⟩
  rw [heq]
  exact sameEnd_of_clock normalize clock clock' d' checks

/-- A scan with one rule and its result, on the target that some nodes name. -/
def scanWith (uri : Option String) (attributes : List Xml.Attribute) (target : List Node) : Node :=
  .element uri "TestResult" attributes [
    ruleNode "sshd" [(ovalSystem, "oval:ssg-sshd_enabled:def:1")],
    .element none "target" [] target,
    resultNode "sshd" ["fail"]]

def styleInstruction : Node := .instruction "xml-stylesheet" "href=\"arf.xsl\""

/-- An instruction is put in front of the scan, the scan into a namespace, and a comment into its
target. -/
theorem correlate_eq_of_sameData_sample :
    let uri := some "http://checklists.nist.gov/xccdf/1.2"
    let language : Xml.Attribute := ⟨some "http://www.w3.org/XML/1998/namespace", "lang", "en"⟩
    let plain := [scanWith none [] [.text "web01.example.com"]]
    let annotated := [styleInstruction, scanWith uri [language]
      [.text "web", .comment " inventory name ", .text "01.example.com"]]
    let d : ResultsDocument := ⟨"arf.xml", annotated⟩
    SameData plain annotated ∧ d.target? = some "web01.example.com" ∧
    ∃ report, correlate CheckName.ofIdentifier (fun _ => sampleTime) d
        (CheckSet.ofList ["sshd_enabled"]) = .ok report ∧
      report.observations.map (·.title) = ["sshd"] := by
  intro uri language plain annotated d
  have hinstruction : MarkupEdit plain (styleInstruction :: plain) := .instruction [] plain _ _
  have hnamespace : MarkupEdit (styleInstruction :: plain)
      [styleInstruction, scanWith uri [language] [.text "web01.example.com"]] :=
    .namespaces [styleInstruction] [] (by rfl)
  have htarget : ∀ target target', MarkupEdit target target' →
      MarkupEdit [styleInstruction, scanWith uri [language] target]
        [styleInstruction, scanWith uri [language] target'] :=
    fun _ _ hedit => .inside [styleInstruction] [] (.inside [_] [_] hedit)
  have hcut : MarkupEdit [.text "web01.example.com"] [.text "web", .text "01.example.com"] :=
    .cut [] [] "web" "01.example.com"
  have hcomment : MarkupEdit [.text "web", .text "01.example.com"]
      [.text "web", .comment " inventory name ", .text "01.example.com"] :=
    .comment [.text "web"] [.text "01.example.com"] _
  have hsame : SameData plain annotated := by
    refine .trans _ _ _ (.rel _ _ hinstruction) (.trans _ _ _ (.rel _ _ hnamespace) ?_)
    exact .trans _ _ _ (.rel _ _ (htarget _ _ hcut)) (.rel _ _ (htarget _ _ hcomment))
  obtain ⟨hhost, -, -, -, hrun⟩ := correlate_eq_of_sameData "arf.xml" hsame
  have heq := (hrun CheckName.ofIdentifier (CheckSet.ofList ["sshd_enabled"])
    (fun _ => sampleTime) fun _ => sampleTime).1
  exact ⟨hsame, hhost.symm.trans (by rfl), _, heq.symm.trans (by rfl), by rfl⟩

end PolicyAudit.Scan
