import PolicyAudit.Service.Handlers

/-! # What requests ask of the policies

`Asks` says on the method, the path and the body of a request what it asks of the stored policies.
A request asks for one operation at most (`operation?_eq_some_iff`, `Asks.unique`), and one that
asks for none leaves the store as it is (`answer_of_not_asks`), like one that fails
(`answer_store_of_failure`), be it for the size of its body alone (`answer_of_large_body`). -/

namespace PolicyAudit.Service

/-- An operation on the stored policies. -/
inductive Operation where
  | create (request : CreateRequest)
  | list
  | get (id : Uuid)
  | delete (id : Uuid)
deriving DecidableEq

/-- The characters of the path that a request is for. -/
def Request.path (r : Request) : List Char := Route.pathOf r.target.toList

/-- The request asks for an operation: an acceptable policy is posted, or the policies or the one
that a segment names are read or deleted. -/
inductive Asks (r : Request) : Operation → Prop
  | create {request : CreateRequest} :
      r.method = "POST" → r.path = "/api/policies".toList →
      r.decodeBody CreateRequest.decode = .ok request → request.fault? = none →
      Asks r (.create request)
  | list : r.method = "GET" → r.path = "/api/policies".toList → Asks r .list
  | get {segment : List Char} {id : Uuid} :
      r.method = "GET" → r.path = "/api/policies/".toList ++ segment →
      segment ≠ [] → '/' ∉ segment → readSegment (String.ofList segment) = .ok id →
      Asks r (.get id)
  | delete {segment : List Char} {id : Uuid} :
      r.method = "DELETE" → r.path = "/api/policies/".toList ++ segment →
      segment ≠ [] → '/' ∉ segment → readSegment (String.ofList segment) = .ok id →
      Asks r (.delete id)

/-! ### Routes -/

theorem ofPath?_eq_policies_iff {path : List Char} :
    Route.ofPath? path = some .policies ↔ path = "/api/policies".toList := by
  constructor
  · intro h
    unfold Route.ofPath? at h
    split at h
    · cases h
    · split at h
      · next hpath => exact hpath
      · split at h
        · cases h
        · split at h
          · split at h
            · split at h <;> cases h
            · cases h
          · cases h
  · rintro rfl
    rfl

theorem ofPath?_results {path : List Char} (h : path = "/api/results".toList) :
    Route.ofPath? path = some .results := by
  rw [h]
  rfl

theorem ofPath?_segment {path segment : List Char}
    (hpath : path = "/api/policies/".toList ++ segment) (hne : segment ≠ [])
    (hslash : '/' ∉ segment) :
    Route.ofPath? path = some (.policy (String.ofList segment)) := by
  have hprefix : Route.policiesPath.isPrefixOf (Route.policiesPath ++ '/' :: segment) = true :=
    List.isPrefixOf_iff_prefix.mpr ⟨_, rfl⟩
  have hhealth : Route.policiesPath ++ '/' :: segment ≠ "/health".toList := by
    intro h
    cases congrArg (·[1]?) h
  have hpolicies : Route.policiesPath ++ '/' :: segment ≠ Route.policiesPath := by
    intro h
    cases List.append_right_eq_self.mp h
  have hresults : Route.policiesPath ++ '/' :: segment ≠ "/api/results".toList := by
    intro h
    cases congrArg (·[5]?) h
  have hsplit : path = Route.policiesPath ++ '/' :: segment := hpath
  rw [hsplit, Route.ofPath?, if_neg hhealth, if_neg hpolicies, if_neg hresults, if_pos hprefix,
    List.drop_left]
  show (if segment = [] ∨ '/' ∈ segment then none
    else some (Route.policy (String.ofList segment))) = _
  rw [if_neg (not_or.mpr ⟨hne, hslash⟩)]

theorem exists_of_ofPath?_policy {path : List Char} {segment : String}
    (h : Route.ofPath? path = some (.policy segment)) :
    ∃ cs, segment = String.ofList cs ∧ path = "/api/policies/".toList ++ cs ∧ cs ≠ [] ∧
      '/' ∉ cs := by
  unfold Route.ofPath? at h
  split at h
  · cases h
  · split at h
    · cases h
    · split at h
      · cases h
      · split at h
        · next hprefix =>
          split at h
          · next rest hrest =>
            split at h
            · cases h
            · next hseg =>
              obtain ⟨hne, hslash⟩ := not_or.mp hseg
              obtain ⟨tail, rfl⟩ := List.isPrefixOf_iff_prefix.mp hprefix
              rw [List.drop_left] at hrest
              rw [hrest]
              exact ⟨rest, (Route.policy.inj (Option.some.inj h)).symm, rfl, hne, hslash⟩
          · cases h
        · cases h

/-! ### Operations -/

/-- What a request asks for, if it asks for anything. -/
def operation? (r : Request) : Option Operation :=
  match Route.ofPath? r.path, r.method with
  | some .policies, "POST" =>
    match r.decodeBody CreateRequest.decode with
    | .ok request => if request.fault? = none then some (.create request) else none
    | .error _ => none
  | some .policies, "GET" => some .list
  | some (.policy segment), "GET" => (readSegment segment).toOption.map .get
  | some (.policy segment), "DELETE" => (readSegment segment).toOption.map .delete
  | _, _ => none

theorem exists_of_toOption_map {e : Except ε α} {f : α → β} {b : β}
    (h : e.toOption.map f = some b) : ∃ a, e = .ok a ∧ f a = b := by
  cases e with
  | error _ => cases h
  | ok a => exact ⟨a, rfl, Option.some.inj h⟩

theorem operation?_eq_some_iff {r : Request} {op : Operation} :
    operation? r = some op ↔ Asks r op := by
  constructor
  · intro h
    unfold operation? at h
    split at h
    · next hroute hmethod =>
      split at h
      · next request hbody =>
        split at h
        · next hfault =>
          obtain rfl := Option.some.inj h
          exact .create hmethod (ofPath?_eq_policies_iff.mp hroute) hbody hfault
        · cases h
      · cases h
    · next hroute hmethod =>
      obtain rfl := Option.some.inj h
      exact .list hmethod (ofPath?_eq_policies_iff.mp hroute)
    · next hroute hmethod =>
      obtain ⟨segment, rfl, hpath, hne, hslash⟩ := exists_of_ofPath?_policy hroute
      obtain ⟨id, hid, rfl⟩ := exists_of_toOption_map h
      exact .get hmethod hpath hne hslash hid
    · next hroute hmethod =>
      obtain ⟨segment, rfl, hpath, hne, hslash⟩ := exists_of_ofPath?_policy hroute
      obtain ⟨id, hid, rfl⟩ := exists_of_toOption_map h
      exact .delete hmethod hpath hne hslash hid
    · cases h
  · intro h
    cases h with
    | create hmethod hpath hbody hfault =>
      simp only [operation?, ofPath?_eq_policies_iff.mpr hpath, hmethod, hbody, hfault]
      rfl
    | list hmethod hpath =>
      simp only [operation?, ofPath?_eq_policies_iff.mpr hpath, hmethod]
    | get hmethod hpath hne hslash hid =>
      simp only [operation?, ofPath?_segment hpath hne hslash, hmethod, hid]
      rfl
    | delete hmethod hpath hne hslash hid =>
      simp only [operation?, ofPath?_segment hpath hne hslash, hmethod, hid]
      rfl

theorem operation?_eq_none_iff {r : Request} : operation? r = none ↔ ∀ op, ¬ Asks r op := by
  rw [Option.eq_none_iff_forall_ne_some]
  exact forall_congr' fun op => not_congr operation?_eq_some_iff

/-- A request asks for one operation at most. -/
theorem Asks.unique {r : Request} {a b : Operation} (ha : Asks r a) (hb : Asks r b) : a = b :=
  Option.some.inj ((operation?_eq_some_iff.mpr ha).symm.trans (operation?_eq_some_iff.mpr hb))

/-! ### Answers -/

section Answers

variable {setting : Setting} {supply : Supply} {store : PolicyStore} {r : Request} {id : Uuid}

theorem answer_of_route {route : Route} (h : Route.ofPath? r.path = some route) :
    answer setting supply store r = dispatch setting supply store r route := by
  rw [Request.path] at h
  simp only [answer, h]

theorem answer_create {request : CreateRequest} (h : Asks r (.create request)) :
    answer setting supply store r =
      match store.save (request.toPolicy supply.newId (supply.clock 0)) with
      | .error e => (.ofFault (.ofStore e), store)
      | .ok s => (.json 201 (request.toPolicy supply.newId (supply.clock 0)).toJson, s) := by
  cases h with
  | create hmethod hpath hbody hfault =>
    rw [answer_of_route (ofPath?_eq_policies_iff.mpr hpath)]
    cases hsave : store.save (request.toPolicy supply.newId (supply.clock 0)) with
    | error e => simp only [dispatch, hmethod, createPolicy, hbody, hfault, hsave]
    | ok s => simp only [dispatch, hmethod, createPolicy, hbody, hfault, hsave]

theorem answer_list (h : Asks r .list) :
    answer setting supply store r =
      (.json 200 (.array ((store.list supply.visits).map Policy.toJson)), store) := by
  cases h with
  | list hmethod hpath =>
    rw [answer_of_route (ofPath?_eq_policies_iff.mpr hpath)]
    simp only [dispatch, hmethod, listPolicies]

theorem answer_get (h : Asks r (.get id)) :
    answer setting supply store r =
      match store.get? id with
      | some p => (.json 200 p.toJson, store)
      | none => (.ofFault (policyNotFound id), store) := by
  cases h with
  | get hmethod hpath hne hslash hid =>
    rw [answer_of_route (ofPath?_segment hpath hne hslash)]
    cases hget : store.get? id with
    | none => simp only [dispatch, hmethod, getPolicy, hid, hget]
    | some p => simp only [dispatch, hmethod, getPolicy, hid, hget]

theorem answer_delete (h : Asks r (.delete id)) :
    answer setting supply store r =
      match store.delete id with
      | .error e => (.ofFault (.ofStore e), store)
      | .ok s => (.bare 204, s) := by
  cases h with
  | delete hmethod hpath hne hslash hid =>
    rw [answer_of_route (ofPath?_segment hpath hne hslash)]
    cases hdelete : store.delete id with
    | error e => simp only [dispatch, hmethod, deletePolicy, hid, hdelete]
    | ok s => simp only [dispatch, hmethod, deletePolicy, hid, hdelete]

/-- A body that holds no acceptable policy is refused, whatever is stored. -/
theorem createPolicy_of_not_asks (supply : Supply) (hmethod : r.method = "POST")
    (hroute : Route.ofPath? r.path = some .policies) (h : ∀ op, ¬ Asks r op) :
    ∃ response, ∀ s, createPolicy supply s r = (response, s) := by
  unfold createPolicy
  cases hbody : r.decodeBody CreateRequest.decode with
  | error e => exact ⟨_, fun _ => rfl⟩
  | ok request =>
    cases hfault : request.fault? with
    | some fault => exact ⟨_, fun _ => by simp only [hfault]; rfl⟩
    | none =>
      exact absurd (.create hmethod (ofPath?_eq_policies_iff.mp hroute) hbody hfault) (h _)

/-- A segment that names no id is refused, whatever is stored. -/
theorem deletePolicy_of_not_asks {segment : String} (hmethod : r.method = "DELETE")
    (hroute : Route.ofPath? r.path = some (.policy segment)) (h : ∀ op, ¬ Asks r op) :
    ∃ response, ∀ s, deletePolicy s segment = (response, s) := by
  obtain ⟨cs, rfl, hpath, hne, hslash⟩ := exists_of_ofPath?_policy hroute
  unfold deletePolicy
  cases hid : readSegment (String.ofList cs) with
  | error e => exact ⟨_, fun _ => rfl⟩
  | ok id => exact absurd (.delete hmethod hpath hne hslash hid) (h _)

/-- A request that asks for no operation leaves the store as it is, and its response depends on the
policies that are found alone. -/
theorem answer_of_not_asks {s t : PolicyStore} (hget : ∀ id, s.get? id = t.get? id)
    (h : ∀ op, ¬ Asks r op) :
    answer setting supply t r = ((answer setting supply s r).1, t) := by
  cases hroute : Route.ofPath? r.path with
  | none =>
    rw [Request.path] at hroute
    simp only [answer, hroute]
  | some route =>
    rw [answer_of_route hroute, answer_of_route hroute]
    -- One case for each route and method.  Only creation and deletion hand back another store.
    unfold dispatch
    split
    · rfl
    · rfl
    · next hmethod =>
      obtain ⟨response, hcreate⟩ := createPolicy_of_not_asks supply hmethod hroute h
      rw [hcreate, hcreate]
    · next hmethod =>
      exact absurd (.list hmethod (ofPath?_eq_policies_iff.mp hroute)) (h _)
    · rfl
    · simp only [getPolicy, hget]
    · simp only [getPolicy, hget]
    · next hmethod =>
      obtain ⟨response, hdelete⟩ := deletePolicy_of_not_asks hmethod hroute h
      rw [hdelete, hdelete]
    · simp only [getResults, report, hget]
    · rfl

theorem answer_store_of_not_asks (h : ∀ op, ¬ Asks r op) :
    (answer setting supply store r).2 = store := by
  rw [answer_of_not_asks (fun _ => rfl) h]

/-- A body of JSON with too many bytes is refused whatever it holds, and nothing is stored. -/
theorem answer_of_large_body (hmethod : r.method = "POST")
    (hpath : r.path = "/api/policies".toList ∨ r.path = "/api/results".toList)
    (htype : r.hasJsonType = true) (hlarge : maxBody < r.body.length) :
    answer setting supply store r =
      (.text 413 "Failed to buffer the request body: length limit exceeded", store) := by
  rcases hpath with hpath | hpath
  · rw [answer_of_route (ofPath?_eq_policies_iff.mpr hpath)]
    simp only [dispatch, hmethod, createPolicy, Request.decodeBody_of_large htype hlarge]
    rfl
  · rw [answer_of_route (ofPath?_results hpath)]
    simp only [dispatch, hmethod, getResults, Request.decodeBody_of_large htype hlarge]
    rfl

/-- An answer that reports a failure leaves the store as it is. -/
theorem answer_store_of_failure (h : 400 ≤ (answer setting supply store r).1.status) :
    (answer setting supply store r).2 = store := by
  cases hop : operation? r with
  | none => exact answer_store_of_not_asks (operation?_eq_none_iff.mp hop)
  | some op =>
    have hasks := operation?_eq_some_iff.mp hop
    cases op with
    | create request =>
      rw [answer_create hasks] at h ⊢
      cases hsave : store.save (request.toPolicy supply.newId (supply.clock 0)) with
      | error e => rfl
      | ok s =>
        rw [hsave] at h
        have hstatus : 400 ≤ 201 := h
        omega
    | list => rw [answer_list hasks]
    | get id =>
      rw [answer_get hasks]
      cases store.get? id with
      | none => rfl
      | some p => rfl
    | delete id =>
      rw [answer_delete hasks] at h ⊢
      cases hdelete : store.delete id with
      | error e => rfl
      | ok s =>
        rw [hdelete] at h
        have hstatus : 400 ≤ 204 := h
        omega

end Answers
end PolicyAudit.Service
