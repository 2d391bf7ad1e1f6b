import PolicyAudit.Proofs.Scan.Timestamps
import PolicyAudit.Proofs.Service.Live

/-! # Answers to requests for results

The service answers a request for results like a run of the correlation on its own, on the document
at the path of the request and with the rules that its policy was created with.  `ResultsAnswer`
lists the ways that this can end, each with its whole response; of several faults the policy's comes
before that of its path, that before the file's, and that before the document's.

The rules are those of a live policy, which the history of the service tells, and the run may have a
clock of its own: `results_agree_with_correlate`. -/

namespace PolicyAudit.Service

/-- An answer that names the kind of a fault and explains it. -/
def refusal (status : Nat) (code message : String) : Response :=
  .json status (.object [("error", .string code), ("message", .string message)])

/-- The request is about a live policy with these rules and an allowed path. -/
structure Selects (config : Config) (h : List Exchange) (request : ResultsRequest)
    (rules : List PolicyRule) (p : Path) : Prop where
  live : LiveWith h request.policyId rules
  allowed : config.resolve? request.resultsPath = some p

/-- The file at the path that a request selects holds a document. -/
structure Opens (setting : Setting) (h : List Exchange) (request : ResultsRequest)
    (rules : List PolicyRule) (p : Path) (document : Scan.ResultsDocument) : Prop where
  selects : Selects setting.config h request rules p
  parsed : ∃ text, setting.files p = .ok text ∧
    Scan.ResultsDocument.ofText text p.text = .ok document

/-- The answer to a request for results, next to a run of the correlation with some clock. -/
inductive ResultsAnswer (setting : Setting) (h : List Exchange) (request : ResultsRequest)
    (clock : Nat → Instant) : Response → Prop
  | notLive :
      (∀ rules, ¬ LiveWith h request.policyId rules) →
      ResultsAnswer setting h request clock
        (refusal 404 "not_found"
          ("Not found: " ++ ("Policy " ++ request.policyId.text ++ " not found")))
  | notAllowed {rules : List PolicyRule} :
      LiveWith h request.policyId rules → setting.config.resolve? request.resultsPath = none →
      ResultsAnswer setting h request clock
        (refusal 400 "bad_request" ("Bad request: " ++
          ("results path must be inside the workspace " ++ setting.config.workspace.text)))
  | notFound {rules : List PolicyRule} {p : Path} :
      Selects setting.config h request rules p → setting.files p = .error .notFound →
      ResultsAnswer setting h request clock
        (refusal 404 "not_found" ("Not found: " ++ ("Results document " ++ p.text ++ " not found")))
  | notRead {rules : List PolicyRule} {p : Path} {reason : String} :
      Selects setting.config h request rules p → setting.files p = .error (.other reason) →
      ResultsAnswer setting h request clock
        (refusal 500 "internal_error" ("Internal error: " ++
          ("Failed to read results document " ++ p.text ++ ": " ++ reason)))
  | notParsed {rules : List PolicyRule} {p : Path} {text : String} {cause : Xml.Error} :
      Selects setting.config h request rules p → setting.files p = .ok text →
      Scan.ResultsDocument.ofText text p.text = .error cause →
      ResultsAnswer setting h request clock
        (refusal 422 "document_integrity_error" ("Document integrity error: " ++
          ("failed to parse results document: " ++ cause.message)))
  | noTarget {rules : List PolicyRule} {p : Path} {document : Scan.ResultsDocument} :
      Opens setting h request rules p document →
      Scan.correlate CheckName.ofIdentifier clock document (.ofRules rules) =
        .error .missingTarget →
      ResultsAnswer setting h request clock
        (refusal 422 "document_integrity_error" ("Document integrity error: " ++
          "result has no 'target' element"))
  | malformedCheck {rules : List PolicyRule} {p : Path} {document : Scan.ResultsDocument}
      {ruleId : String} {cause : CheckName.NameError} :
      Opens setting h request rules p document →
      Scan.correlate CheckName.ofIdentifier clock document (.ofRules rules) =
        .error (.malformedCheck ruleId cause) →
      ResultsAnswer setting h request clock
        (refusal 422 "document_integrity_error" ("Document integrity error: " ++
          ("rule " ++ ruleId ++ ": " ++ cause.message)))
  | unrecognizedStatus {rules : List PolicyRule} {p : Path} {document : Scan.ResultsDocument}
      {ruleId : String} {cause : Status.OutcomeError} :
      Opens setting h request rules p document →
      Scan.correlate CheckName.ofIdentifier clock document (.ofRules rules) =
        .error (.unrecognizedStatus ruleId cause) →
      ResultsAnswer setting h request clock
        (refusal 422 "unrecognized_status_error" ("Unrecognized status: " ++
          ("rule " ++ ruleId ++ ": " ++ cause.message)))
  | reported {rules : List PolicyRule} {p : Path} {document : Scan.ResultsDocument}
      {report direct : Report} :
      Opens setting h request rules p document →
      Scan.correlate CheckName.ofIdentifier clock document (.ofRules rules) = .ok direct →
      SameButTimes report.observations direct.observations →
      (∀ o ∈ report.observations, o.relevantEvidences = [⟨"file://" ++ p.text, "ARF_FILE"⟩]) →
      ResultsAnswer setting h request clock (.json 200 report.toJson)

/-! ### The direct run -/

/-- The answer to a report or to the fault in its place. -/
def Response.ofReport : Except Fault Report → Response
  | .error fault => .ofFault fault
  | .ok report => .json 200 report.toJson

/-- Every observation points to the place of the document. -/
theorem relevantEvidences_of_mem {normalize : CheckName.Normalizer} {clock : Nat → Instant}
    {d : Scan.ResultsDocument} {checks : CheckSet} {report : Report}
    (h : Scan.correlate normalize clock d checks = .ok report) {o : Observation}
    (ho : o ∈ report.observations) :
    o.relevantEvidences = [⟨"file://" ++ d.location, "ARF_FILE"⟩] := by
  obtain ⟨target, -, -, hobs⟩ := Scan.correlate_eq_ok_iff.mp h
  rw [hobs, List.mem_mapIdx] at ho
  obtain ⟨i, hi, rfl⟩ := ho
  rfl

/-- A document keeps the place that it was read from. -/
theorem location_of_ofText {text location : String} {d : Scan.ResultsDocument}
    (h : Scan.ResultsDocument.ofText text location = .ok d) : d.location = location := by
  rw [Scan.ResultsDocument.ofText] at h
  cases hread : Xml.read text with
  | error e =>
    rw [hread] at h
    cases h
  | ok nodes =>
    rw [hread] at h
    obtain rfl := Except.ok.inj h
    rfl

/-- A run on a document that was read does not fail to read it. -/
theorem correlate_ne_unreadable {normalize : CheckName.Normalizer} {clock : Nat → Instant}
    {d : Scan.ResultsDocument} {checks : CheckSet} {cause : Xml.Error} :
    Scan.correlate normalize clock d checks ≠ .error (.unreadable cause) := by
  intro h
  rcases Scan.findings_eq_error_iff.mp (Scan.correlate_eq_error_iff_findings.mp h) with
    ⟨-, he⟩ | ⟨-, _, _, _, -, -, hfatal⟩
  · cases he
  · cases hfatal

section

variable {setting : Setting} {h : List Exchange} {request : ResultsRequest}
  {clock clock' : Nat → Instant} {rules : List PolicyRule} {p : Path}

/-- A document is answered by what a run on it gives, whatever the clock of the run. -/
theorem ResultsAnswer.of_opens {document : Scan.ResultsDocument}
    (hopens : Opens setting h request rules p document) :
    ResultsAnswer setting h request clock
      (.ofReport ((Scan.correlate CheckName.ofIdentifier clock' document
        (.ofRules rules)).mapError Fault.ofCorrelation)) := by
  cases hrun : Scan.correlate CheckName.ofIdentifier clock' document (.ofRules rules) with
  | error e =>
    have hdirect : Scan.correlate CheckName.ofIdentifier clock document (.ofRules rules) =
        .error e := Scan.correlate_error_of_clock hrun
    cases e with
    | unreadable cause => exact absurd hrun correlate_ne_unreadable
    | missingTarget => exact .noTarget hopens hdirect
    | malformedCheck ruleId cause => exact .malformedCheck hopens hdirect
    | unrecognizedStatus ruleId cause => exact .unrecognizedStatus hopens hdirect
  | ok report =>
    obtain ⟨direct, hdirect, hsame⟩ :
        ∃ direct, Scan.correlate CheckName.ofIdentifier clock document (.ofRules rules) =
          .ok direct ∧ SameButTimes report.observations direct.observations :=
      Scan.correlate_ok_of_clock hrun
    obtain ⟨text, -, htext⟩ := hopens.parsed
    refine .reported hopens hdirect hsame fun o ho => ?_
    rw [relevantEvidences_of_mem hrun ho, location_of_ofText htext]

/-- What a request selects is answered by what its file holds. -/
theorem ResultsAnswer.of_selects {policy : Policy} (hrules : policy.rules = rules)
    (hselects : Selects setting.config h request rules p) :
    ResultsAnswer setting h request clock
      (.ofReport (reportOn setting.files clock' policy p)) := by
  subst hrules
  rw [reportOn]
  cases hfile : setting.files p with
  | error e =>
    cases e with
    | notFound => exact .notFound hselects hfile
    | other reason => exact .notRead hselects hfile
  | ok text =>
    dsimp only
    cases htext : Scan.ResultsDocument.ofText text p.text with
    | error cause => exact .notParsed hselects hfile htext
    | ok document => exact .of_opens ⟨hselects, text, hfile, htext⟩

/-- A report is made on the rules that the history tells, if these are the stored ones. -/
theorem ResultsAnswer.of_report {store : PolicyStore}
    (hstore : ∀ id rules, LiveWith h id rules ↔
      ∃ policy, store.get? id = some policy ∧ policy.rules = rules) :
    ResultsAnswer setting h request clock (.ofReport (report setting clock' store request)) := by
  rw [report]
  cases hget : store.get? request.policyId with
  | none =>
    refine .notLive fun rules hlive => ?_
    obtain ⟨policy, hpolicy, -⟩ := (hstore _ _).mp hlive
    rw [hget] at hpolicy
    cases hpolicy
  | some policy =>
    have hlive : LiveWith h request.policyId policy.rules := (hstore _ _).mpr ⟨policy, hget, rfl⟩
    dsimp only
    cases hpath : setting.config.resolve? request.resultsPath with
    | none => exact .notAllowed hlive hpath
    | some p => exact .of_selects rfl ⟨hlive, hpath⟩

end

/-- A file whose content encodes no text cannot be read as one. -/
theorem files_eq_notUtf8 {tree : FileTree} {p : Path} {bytes : List UInt8}
    (h : tree.readBytes p = .ok bytes) (hutf8 : ∀ s : String, Text.bytes s ≠ bytes) :
    tree.files p = .error FileTree.notUtf8 := by
  simp only [FileTree.files, h, Text.ofBytes?_eq_none_iff.mpr hutf8]

/-! ### Answers -/

section

variable {setting : Setting} {supply : Supply} {store : PolicyStore} {r : Request}
  {request : ResultsRequest}

theorem answer_results (hmethod : r.method = "POST") (hpath : r.path = "/api/results".toList)
    (hbody : r.decodeBody ResultsRequest.decode = .ok request) :
    answer setting supply store r =
      (.ofReport (report setting supply.clock store request), store) := by
  rw [answer_of_route (ofPath?_results hpath)]
  simp only [dispatch, hmethod, getResults, hbody]
  cases report setting supply.clock store request with
  | error fault => rfl
  | ok report => rfl

/-- A report depends on no file but the one at the resolved path of a stored policy. -/
theorem report_of_files {files : Files} {clock : Nat → Instant}
    (hfiles : ∀ policy p, store.get? request.policyId = some policy →
      setting.config.resolve? request.resultsPath = some p → files p = setting.files p) :
    report { setting with files := files } clock store request =
      report setting clock store request := by
  rw [report, report]
  cases hget : store.get? request.policyId with
  | none => rfl
  | some policy =>
    cases hpath : setting.config.resolve? request.resultsPath with
    | none => rfl
    | some p => simp only [reportOn, hfiles policy p hget hpath]

end

/-- A request for results leaves the store as it is, and its answer is decided by the policies that
are live and by a run of the correlation on its own, with whatever clock.  The rules of a live
policy are known from the history, no file matters but the one that the request selects, and there
a content that is not UTF-8 cannot be read. -/
theorem results_agree_with_correlate (past setting : Setting) (script : List (Supply × Request))
    (supply : Supply) {r : Request} {request : ResultsRequest} (hmethod : r.method = "POST")
    (hpath : r.path = "/api/results".toList)
    (hbody : r.decodeBody ResultsRequest.decode = .ok request) :
    let h := history past script
    let store := (run past .empty script).2
    (answer setting supply store r).2 = store ∧
    (∀ clock, ResultsAnswer setting h request clock (answer setting supply store r).1) ∧
    (∀ rules rules', LiveWith h request.policyId rules → LiveWith h request.policyId rules' →
      rules = rules') ∧
    (∀ files, (∀ rules p, Selects setting.config h request rules p → files p = setting.files p) →
      answer { setting with files := files } supply store r = answer setting supply store r) ∧
    ∀ (tree : FileTree) rules p bytes, setting.files = tree.files →
      Selects setting.config h request rules p → tree.readBytes p = .ok bytes →
      (∀ s : String, Text.bytes s ≠ bytes) →
      (answer setting supply store r).1 = refusal 500 "internal_error" ("Internal error: " ++
        ("Failed to read results document " ++ p.text ++ ": " ++
          "stream did not contain valid UTF-8")) := by
  intro h store
  have hlive : ∀ id rules, LiveWith h id rules ↔
      ∃ policy, store.get? id = some policy ∧ policy.rules = rules :=
    fun _ _ => liveWith_history_iff
  rw [answer_results hmethod hpath hbody]
  refine ⟨rfl, fun clock => .of_report hlive, fun _ _ => LiveWith.unique, ?_, ?_⟩
  · intro files hfiles
    rw [answer_results hmethod hpath hbody, report_of_files]
    intro policy p hget hresolve
    exact hfiles policy.rules p ⟨(hlive _ _).mpr ⟨policy, hget, rfl⟩, hresolve⟩
  · intro tree rules p bytes htree hselects hbytes hutf8
    obtain ⟨policy, hget, -⟩ := (hlive _ _).mp hselects.live
    have hfile : setting.files p = .error FileTree.notUtf8 := by
      rw [htree, files_eq_notUtf8 hbytes hutf8]
    simp only [report, hget, hselects.allowed, reportOn, hfile]
    rfl

/-- A results document with one result, which fails the check of a policy. -/
def resultsDocument : String :=
  "<r><target>web01</target><Rule id='sshd'><check system='" ++ Scan.ovalSystem ++
    "'><check-content-ref name='oval:ssg-sshd_enabled-1:def:1'/></check></Rule>" ++
    "<rule-result idref='sshd'><result>fail</result></rule-result></r>"

def resultsSetting : Setting where
  config := .new ⟨"/work"⟩ "standard"
  files := fun p => if p.text = "/work/arf.xml" then .ok resultsDocument else .error .notFound

/-- A supply with a clock that stands still. -/
def sampleSupply (id : Nat) : Supply :=
  ⟨.ofNat id, fun _ => ⟨⟨2025, 7, 1, by decide⟩, ⟨36000, 0, by decide⟩⟩, .unchanged⟩

def sampleCreation : Supply × Request :=
  (sampleSupply 10, ⟨"POST", "/api/policies", some "application/json", Text.bytes
    ("\x7b\"name\":\"base\",\"rules\":[\x7b\"rule_id\":\"sshd\",\"checks\":[" ++
      "\x7b\"id\":\"sshd_enabled\"\x7d]\x7d]\x7d")⟩)

/-- The document is asked for by its place in the workspace. -/
def sampleResultsRequest : Request :=
  ⟨"POST", "/api/results", some "application/json", Text.bytes
    ("\x7b\"policy_id\":\"0000000000000000000000000000000A\"," ++
      "\"results_path\":\"arf.xml\"\x7d")⟩

/-- The one result is reported, whatever the clock of a run beside it. -/
theorem results_agree_with_correlate_sample :
    let store := (run resultsSetting .empty [sampleCreation]).2
    let answered := (answer resultsSetting (sampleSupply 11) store sampleResultsRequest).1
    (∀ clock, ResultsAnswer resultsSetting (history resultsSetting [sampleCreation])
      ⟨.ofNat 10, some "arf.xml"⟩ clock answered) ∧
    ∃ made : Report, answered = .json 200 made.toJson ∧
      made.observations.map (·.checkId) = ["sshd_enabled"] := by
  intro store answered
  have hbody : sampleResultsRequest.decodeBody ResultsRequest.decode =
      .ok ⟨.ofNat 10, some "arf.xml"⟩ := by decide +kernel
  have hnames : (report resultsSetting (sampleSupply 11).clock store
      ⟨.ofNat 10, some "arf.xml"⟩).map (·.observations.map (·.checkId)) =
        .ok ["sshd_enabled"] := by decide +kernel
  have hanswer : answered = .ofReport (report resultsSetting (sampleSupply 11).clock store
      ⟨.ofNat 10, some "arf.xml"⟩) := congrArg Prod.fst (answer_results rfl (by decide) hbody)
  refine ⟨(results_agree_with_correlate resultsSetting resultsSetting [sampleCreation]
    (sampleSupply 11) rfl (by decide) hbody).2.1, ?_⟩
  cases hreport : report resultsSetting (sampleSupply 11).clock store
      ⟨.ofNat 10, some "arf.xml"⟩ with
  | error fault =>
    rw [hreport] at hnames
    cases hnames
  | ok made =>
    rw [hreport] at hanswer hnames
    exact ⟨made, hanswer, Except.ok.inj hnames⟩

end PolicyAudit.Service
