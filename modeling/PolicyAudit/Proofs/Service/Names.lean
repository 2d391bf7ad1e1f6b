import PolicyAudit.Proofs.Service.Results

/-! # Names in the service

A policy gets into the store only through an accepted request, so that in every `Reachable` store
the policies are `Named`: neither their own names nor those of their checks are blank
(`named_of_reachable`).  A request for results reports on checks that its policy declares, compared
character by character, and so never on a check with a blank name, whatever short names a document
leads to: `observations_name_declared_checks`. -/

namespace PolicyAudit

/-- The policy has a name, and so has each of its checks. -/
structure Policy.Named (p : Policy) : Prop where
  name : Text.trim p.name ≠ ""
  checks : ∀ rule ∈ p.rules, ∀ check ∈ rule.checks, Text.trim check.id ≠ ""

/-- A rule of the policy has a check of this name. -/
def Policy.Declares (p : Policy) (checkId : String) : Prop :=
  ∃ rule ∈ p.rules, ∃ check ∈ rule.checks, check.id = checkId

theorem CreateRequest.named_toPolicy {request : CreateRequest} (h : request.fault? = none)
    (id : Uuid) (createdAt : Instant) : (request.toPolicy id createdAt).Named :=
  ⟨(fault?_eq_none_iff.mp h).1, (fault?_eq_none_iff.mp h).2⟩

namespace Service

variable {setting : Setting} {supply : Supply} {store : PolicyStore} {r : Request}

/-! ### Reachable stores -/

/-- The stores that requests lead to, starting from the empty one.  The configuration and the files
may differ from request to request. -/
inductive Reachable : PolicyStore → Prop
  | empty : Reachable .empty
  | answer {store : PolicyStore} (setting : Setting) (supply : Supply) (r : Request) :
      Reachable store → Reachable (answer setting supply store r).2

theorem Reachable.run (h : Reachable store) (setting : Setting)
    (script : List (Supply × Request)) : Reachable (run setting store script).2 := by
  induction script generalizing store with
  | nil => exact h
  | cons a script ih =>
    obtain ⟨supply, r⟩ := a
    exact ih (.answer setting supply r h)

/-- A policy in the store behind a request was in the store before it, or the request created it. -/
theorem mem_policies_answer {p : Policy} (h : p ∈ (answer setting supply store r).2.policies) :
    p ∈ store.policies ∨ ∃ request, Asks r (.create request) ∧
      p = request.toPolicy supply.newId (supply.clock 0) := by
  have hupdate := (answer_perm_update setting supply store r).mem_iff.mp h
  rcases List.mem_append.mp hupdate with hkept | hcreated
  · exact .inl (List.mem_of_mem_filter hkept)
  · obtain ⟨request, hasks, -, hp⟩ :=
      Exchange.created?_eq_some_iff.mp (Option.mem_toList.mp hcreated)
    exact .inr ⟨request, hasks, hp⟩

/-- Requests keep the stored policies named. -/
theorem named_answer (h : ∀ p ∈ store.policies, p.Named) :
    ∀ p ∈ (answer setting supply store r).2.policies, p.Named := by
  intro p hp
  rcases mem_policies_answer hp with hp | ⟨request, hasks, rfl⟩
  · exact h p hp
  · cases hasks with
    | create _ _ _ hfault => exact request.named_toPolicy hfault _ _

theorem named_of_reachable (h : Reachable store) : ∀ p ∈ store.policies, p.Named := by
  induction h with
  | empty => exact fun p hp => absurd hp List.not_mem_nil
  | answer setting supply r _ ih => exact named_answer ih

/-! ### Reports -/

/-- A report is made on the policy that the request names, and on checks of that policy alone. -/
theorem declares_of_report {clock : Nat → Instant} {request : ResultsRequest} {made : Report}
    (h : report setting clock store request = .ok made) :
    ∃ policy, store.get? request.policyId = some policy ∧
      ∀ o ∈ made.observations, policy.Declares o.checkId := by
  rw [report] at h
  cases hget : store.get? request.policyId with
  | none =>
    rw [hget] at h
    cases h
  | some policy =>
    refine ⟨policy, rfl, fun o ho => CheckSet.mem_ofRules.mp ?_⟩
    simp only [hget] at h
    split at h
    · cases h
    · next p hpath =>
      rw [reportOn] at h
      split at h
      · cases h
      · split at h
        · cases h
        · next document hdocument =>
          cases hrun : Scan.correlate CheckName.ofIdentifier clock document (.ofPolicy policy) with
          | error e =>
            rw [hrun] at h
            cases h
          | ok direct =>
            rw [hrun] at h
            obtain rfl := Except.ok.inj h
            exact Scan.checkId_mem_of_mem hrun ho

theorem Fault.status_ne_ok (fault : Fault) : fault.status ≠ 200 := by
  cases fault <;> simp [Fault.status]

theorem BodyError.status_ne_ok (e : BodyError) : e.response.status ≠ 200 := by
  cases e <;> simp [BodyError.response, Response.text]

/-- A request for results that is answered by 200 is answered by a report. -/
theorem exists_report_of_answer (hmethod : r.method = "POST")
    (hpath : r.path = "/api/results".toList)
    (hstatus : (answer setting supply store r).1.status = 200) :
    ∃ (request : ResultsRequest) (made : Report),
      r.decodeBody ResultsRequest.decode = .ok request ∧
      report setting supply.clock store request = .ok made ∧
      (answer setting supply store r).1 = .json 200 made.toJson := by
  cases hbody : r.decodeBody ResultsRequest.decode with
  | error e =>
    rw [answer_of_route (ofPath?_results hpath)] at hstatus
    simp only [dispatch, hmethod, getResults, hbody] at hstatus
    exact absurd hstatus e.status_ne_ok
  | ok request =>
    rw [answer_results hmethod hpath hbody] at hstatus ⊢
    cases hreport : report setting supply.clock store request with
    | error fault =>
      rw [hreport] at hstatus
      exact absurd hstatus fault.status_ne_ok
    | ok made => exact ⟨request, made, rfl, hreport, rfl⟩

/-- In every store that requests lead to, the policies and their checks have names, and a request
for results that succeeds reports on named checks that its policy declares. -/
theorem observations_name_declared_checks {store : PolicyStore} (h : Reachable store) :
    (∀ p ∈ store.policies, p.Named) ∧
    ∀ (setting : Setting) (supply : Supply) (r : Request),
      r.method = "POST" → r.path = "/api/results".toList →
      (answer setting supply store r).1.status = 200 →
      ∃ (request : ResultsRequest) (policy : Policy) (made : Report),
        r.decodeBody ResultsRequest.decode = .ok request ∧
        store.get? request.policyId = some policy ∧
        (answer setting supply store r).1 = .json 200 made.toJson ∧
        ∀ o ∈ made.observations, Text.trim o.checkId ≠ "" ∧ policy.Declares o.checkId := by
  have hnamed : ∀ p ∈ store.policies, p.Named := named_of_reachable h
  refine ⟨hnamed, fun setting supply r hmethod hpath hstatus => ?_⟩
  obtain ⟨request, made, hbody, hreport, hanswer⟩ := exists_report_of_answer hmethod hpath hstatus
  obtain ⟨policy, hget, hdeclares⟩ := declares_of_report hreport
  refine ⟨request, policy, made, hbody, hget, hanswer, fun o ho => ?_⟩
  obtain ⟨rule, hrule, check, hcheck, hid⟩ := hdeclares o ho
  refine ⟨?_, rule, hrule, check, hcheck, hid⟩
  rw [← hid]
  exact (hnamed policy (PolicyStore.get?_eq_some_iff.mp hget).1).checks rule hrule check hcheck

/-- A results document with one result. -/
def namedDocument : String :=
  "<r><target>h</target><Rule id='a'><check system='" ++ Scan.ovalSystem ++
    "'><check-content-ref name=':-sshd_enabled:'/></check></Rule>" ++
    "<rule-result idref='a'><result>fail</result></rule-result></r>"

def namedSetting : Setting := ⟨.new ⟨"/work"⟩ "standard", fun _ => .ok namedDocument⟩

/-- A short name may be blank, but a policy with a check of that name is not accepted. -/
theorem observations_name_declared_checks_sample :
    CheckName.ofIdentifier ":- :" = .ok " " ∧
    Reachable (run namedSetting .empty [sampleCreation]).2 ∧
    ∃ made : Report, (answer namedSetting (sampleSupply 11)
        (run namedSetting .empty [sampleCreation]).2 sampleResultsRequest).1 =
          .json 200 made.toJson ∧
      ∀ o ∈ made.observations, Text.trim o.checkId ≠ "" := by
  have hstore : Reachable (run namedSetting .empty [sampleCreation]).2 :=
    .run .empty namedSetting [sampleCreation]
  have hstatus : (answer namedSetting (sampleSupply 11)
      (run namedSetting .empty [sampleCreation]).2 sampleResultsRequest).1.status = 200 := by
    decide +kernel
  obtain ⟨request, policy, made, -, -, hresponse, hobs⟩ :=
    (observations_name_declared_checks hstore).2 namedSetting (sampleSupply 11)
      sampleResultsRequest rfl (by decide) hstatus
  exact ⟨by rfl, hstore, made, hresponse, fun o ho => (hobs o ho).1⟩

end Service
end PolicyAudit
