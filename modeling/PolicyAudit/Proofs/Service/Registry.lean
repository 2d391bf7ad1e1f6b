import Mathlib.Data.List.Induction
import PolicyAudit.Proofs.Service.Operation
import PolicyAudit.Proofs.Store.Contents

/-! # The service as a map of policies

A run of the service is a `history` of exchanges, each a request with its response.  The policies
that are `live` after a history are those that an exchange of it created and no later one deleted.
They are all that the service keeps: every exchange answers what a map from ids to policies with the
live ones as its entries would (`Step`), and the store holds these policies.

This needs ids and times that are new (`Fresh`).  Along a run the store `Tracks` the live policies,
and `Tracks.step` carries this over one exchange, whatever its request asks for. -/

namespace PolicyAudit.Service

/-- A request, what it drew on, and its response. -/
structure Exchange where
  supply : Supply
  request : Request
  response : Response

namespace Exchange

/-- The policy that the exchange created. -/
def created? (e : Exchange) : Option Policy :=
  match operation? e.request with
  | some (.create request) =>
    if e.response.status = 201 then some (request.toPolicy e.supply.newId (e.supply.clock 0))
    else none
  | _ => none

/-- The id whose policy the exchange deleted. -/
def deleted? (e : Exchange) : Option Uuid :=
  match operation? e.request with
  | some (.delete id) => if e.response.status = 204 then some id else none
  | _ => none

theorem created?_eq_some_iff {e : Exchange} {p : Policy} :
    e.created? = some p ↔ ∃ request, Asks e.request (.create request) ∧ e.response.status = 201 ∧
      p = ⟨e.supply.newId, request.name, request.description, request.rules, e.supply.clock 0⟩ := by
  constructor
  · intro h
    unfold created? at h
    split at h
    · next request hop =>
      split at h
      · next hstatus =>
        exact ⟨request, operation?_eq_some_iff.mp hop, hstatus, (Option.some.inj h).symm⟩
      · cases h
    · cases h
  · rintro ⟨request, hasks, hstatus, rfl⟩
    simp only [created?, operation?_eq_some_iff.mpr hasks, if_pos hstatus]
    rfl

theorem deleted?_eq_some_iff {e : Exchange} {id : Uuid} :
    e.deleted? = some id ↔ Asks e.request (.delete id) ∧ e.response.status = 204 := by
  constructor
  · intro h
    unfold deleted? at h
    split at h
    · next hop =>
      split at h
      · next hstatus =>
        obtain rfl := Option.some.inj h
        exact ⟨operation?_eq_some_iff.mp hop, hstatus⟩
      · cases h
    · cases h
  · rintro ⟨hasks, hstatus⟩
    simp only [deleted?, operation?_eq_some_iff.mpr hasks, if_pos hstatus]

end Exchange

/-- The policies that were created and not deleted later, in the order of their creation. -/
def live : List Exchange → List Policy
  | [] => []
  | e :: rest =>
    match e.created? with
    | some p => if rest.any fun d => d.deleted? = some p.id then live rest else p :: live rest
    | none => live rest

/-- The exchange with a store. -/
def exchange (setting : Setting) (supply : Supply) (store : PolicyStore) (r : Request) : Exchange :=
  ⟨supply, r, (answer setting supply store r).1⟩

/-- The exchanges of a run from the empty store. -/
def history (setting : Setting) (script : List (Supply × Request)) : List Exchange :=
  List.zipWith (fun a response => ⟨a.1, a.2, response⟩) script (run setting .empty script).1

/-- An exchange with a map from ids to policies, which are the entries in the order of their
creation.  Only creation and deletion change the map. -/
inductive Step (setting : Setting) (entries : List Policy) (e : Exchange) : List Policy → Prop
  | created {request : CreateRequest} {p : Policy} :
      Asks e.request (.create request) →
      p = ⟨e.supply.newId, request.name, request.description, request.rules, e.supply.clock 0⟩ →
      (∀ q ∈ entries, q.id ≠ p.id) → e.response = .json 201 p.toJson →
      Step setting entries e (entries ++ [p])
  | listed :
      Asks e.request .list → e.response = .json 200 (.array (entries.map Policy.toJson)) →
      Step setting entries e entries
  | found {p : Policy} :
      Asks e.request (.get p.id) → p ∈ entries → e.response = .json 200 p.toJson →
      Step setting entries e entries
  | notFound {id : Uuid} :
      Asks e.request (.get id) → (∀ p ∈ entries, p.id ≠ id) →
      e.response = .json 404 (Fault.notFound ("Policy " ++ id.text ++ " not found")).toJson →
      Step setting entries e entries
  | deleted {p : Policy} :
      Asks e.request (.delete p.id) → p ∈ entries → e.response = .bare 204 →
      Step setting entries e (entries.filter (·.id ≠ p.id))
  | notDeleted {id : Uuid} :
      Asks e.request (.delete id) → (∀ p ∈ entries, p.id ≠ id) →
      e.response =
        .json 404 (Fault.notFound ("Policy with id " ++ id.text ++ " not found")).toJson →
      Step setting entries e entries
  | other {s : PolicyStore} :
      (∀ op, ¬ Asks e.request op) → s.policies = entries →
      answer setting e.supply s e.request = (e.response, s) →
      Step setting entries e entries

/-- A failure leaves the map as it is. -/
theorem Step.eq_of_failure {setting : Setting} {entries entries' : List Policy} {e : Exchange}
    (h : Step setting entries e entries') (hstatus : 400 ≤ e.response.status) :
    entries' = entries := by
  cases h with
  | created hasks hp hid hresponse =>
    rw [hresponse] at hstatus
    exact absurd hstatus (by simp [Response.json])
  | deleted hasks hp hresponse =>
    rw [hresponse] at hstatus
    exact absurd hstatus (by simp [Response.bare])
  | listed => rfl
  | found => rfl
  | notFound => rfl
  | notDeleted => rfl
  | other => rfl

/-- A policy is created by an exchange that answers it. -/
theorem Step.response_of_created? {setting : Setting} {entries entries' : List Policy}
    {e : Exchange} {p : Policy} (h : Step setting entries e entries')
    (hp : e.created? = some p) : e.response = .json 201 p.toJson := by
  obtain ⟨request, hasks, -, rfl⟩ := Exchange.created?_eq_some_iff.mp hp
  cases h with
  | created hasks' hp' hid hresponse =>
    obtain rfl := Operation.create.inj (hasks.unique hasks')
    rw [hresponse, hp']
  | listed hasks' => cases hasks.unique hasks'
  | found hasks' => cases hasks.unique hasks'
  | notFound hasks' => cases hasks.unique hasks'
  | deleted hasks' => cases hasks.unique hasks'
  | notDeleted hasks' => cases hasks.unique hasks'
  | other hasks' => exact absurd hasks (hasks' _)

/-- Whenever two requests create policies, the later one draws another id and a later time. -/
def Fresh (script : List (Supply × Request)) : Prop :=
  script.Pairwise fun a b => ∀ p q, Asks a.2 (.create p) → Asks b.2 (.create q) →
    a.1.newId ≠ b.1.newId ∧ (a.1.clock 0).rank < (b.1.clock 0).rank

theorem fresh_of_pairwise {script : List (Supply × Request)}
    (h : script.Pairwise fun a b =>
      a.1.newId ≠ b.1.newId ∧ (a.1.clock 0).rank < (b.1.clock 0).rank) : Fresh script :=
  h.imp fun hab _ _ _ _ => hab

/-! ### Histories -/

/-- The live policies after one more exchange. -/
def Exchange.update (e : Exchange) (entries : List Policy) : List Policy :=
  entries.filter (fun p => e.deleted? ≠ some p.id) ++ e.created?.toList

theorem Exchange.update_eq_self {e : Exchange} (hc : e.created? = none) (hd : e.deleted? = none)
    (entries : List Policy) : e.update entries = entries := by
  simp [update, hc, hd]

theorem Exchange.update_eq_concat {e : Exchange} {p : Policy} (hc : e.created? = some p)
    (hd : e.deleted? = none) (entries : List Policy) : e.update entries = entries ++ [p] := by
  simp [update, hc, hd]

theorem Exchange.update_eq_filter {e : Exchange} {id : Uuid} (hc : e.created? = none)
    (hd : e.deleted? = some id) (entries : List Policy) :
    e.update entries = entries.filter (·.id ≠ id) := by
  simp [update, hc, hd, eq_comm]

theorem live_concat (h : List Exchange) (e : Exchange) : live (h ++ [e]) = e.update (live h) := by
  induction h with
  | nil => cases hc : e.created? <;> simp [live, Exchange.update, hc]
  | cons d h ih =>
    rw [List.cons_append, live, live]
    cases hc : d.created? with
    | none => exact ih
    | some p =>
      have hany : (h ++ [e]).any (fun d => d.deleted? = some p.id) =
          (h.any (fun d => d.deleted? = some p.id) || decide (e.deleted? = some p.id)) := by
        rw [List.any_append, List.any_cons, List.any_nil, Bool.or_false]
      dsimp only
      rw [hany, ih]
      by_cases hdel : h.any fun d => d.deleted? = some p.id
      · simp only [hdel, Bool.true_or, if_true]
      · by_cases he : e.deleted? = some p.id
        · simp [hdel, he, Exchange.update]
        · simp [hdel, he, Exchange.update]

theorem run_append (setting : Setting) (store : PolicyStore) (a b : List (Supply × Request)) :
    run setting store (a ++ b) =
      ((run setting store a).1 ++ (run setting (run setting store a).2 b).1,
        (run setting (run setting store a).2 b).2) := by
  induction a generalizing store with
  | nil => rfl
  | cons x a ih =>
    obtain ⟨supply, r⟩ := x
    simp only [List.cons_append, run, ih]

theorem run_length (setting : Setting) (store : PolicyStore) (script : List (Supply × Request)) :
    (run setting store script).1.length = script.length := by
  induction script generalizing store with
  | nil => rfl
  | cons x script ih =>
    obtain ⟨supply, r⟩ := x
    simp only [run, List.length_cons, ih]

theorem history_concat (setting : Setting) (script : List (Supply × Request)) (supply : Supply)
    (r : Request) :
    history setting (script ++ [(supply, r)]) = history setting script ++
      [exchange setting supply (run setting .empty script).2 r] := by
  rw [history, run_append, List.zipWith_append (run_length setting .empty script).symm]
  rfl

theorem history_length (setting : Setting) (script : List (Supply × Request)) :
    (history setting script).length = script.length := by
  rw [history, List.length_zipWith, run_length, Nat.min_self]

/-! ### Runs -/

/-- The store holds the entries, which come from requests of the script, earlier ones first. -/
structure Tracks (script : List (Supply × Request)) (store : PolicyStore) (entries : List Policy) :
    Prop where
  perm : store.policies.Perm entries
  ordered : entries.Pairwise fun p q => p.createdAt.rank < q.createdAt.rank
  stem : ∀ p ∈ entries, ∃ a ∈ script,
    (∃ request, Asks a.2 (.create request)) ∧ p.id = a.1.newId ∧ p.createdAt = a.1.clock 0

/-- One exchange is a step of the map, and the store tracks the entries behind it. -/
def Carries (setting : Setting) (supply : Supply) (r : Request) (script : List (Supply × Request))
    (store : PolicyStore) (entries : List Policy) : Prop :=
  let e := exchange setting supply store r
  Step setting entries e (e.update entries) ∧
    Tracks (script ++ [(supply, r)]) (answer setting supply store r).2 (e.update entries)

namespace Tracks

variable {setting : Setting} {script : List (Supply × Request)} {store : PolicyStore}
  {entries : List Policy} {supply : Supply} {r : Request} {id : Uuid}

theorem empty : Tracks [] .empty [] := ⟨.nil, .nil, by simp⟩

/-- The entries stay tracked by a request that leaves the store as it is. -/
theorem weaken (h : Tracks script store entries) (a : Supply × Request) :
    Tracks (script ++ [a]) store entries where
  perm := h.perm
  ordered := h.ordered
  stem p hp := by
    obtain ⟨b, hb, hstem⟩ := h.stem p hp
    exact ⟨b, List.mem_append_left _ hb, hstem⟩

theorem filter {store' : PolicyStore} (h : Tracks script store entries)
    (hstore : store'.policies = store.policies.filter (·.id ≠ id)) :
    Tracks script store' (entries.filter (·.id ≠ id)) where
  perm := hstore ▸ h.perm.filter _
  ordered := h.ordered.filter _
  stem p hp := h.stem p (List.mem_of_mem_filter hp)

theorem distinct (h : Tracks script store entries) :
    entries.Pairwise fun p q => p.id ≠ q.id :=
  (h.perm.pairwise_iff fun hne => hne.symm).mp store.distinct

theorem get?_eq_none_iff (h : Tracks script store entries) :
    store.get? id = none ↔ ∀ p ∈ entries, p.id ≠ id := by
  rw [PolicyStore.get?_eq_none_iff]
  exact forall_congr' fun p => by rw [h.perm.mem_iff]

theorem list_eq (h : Tracks script store entries) (visits : Arrangement) :
    store.list visits = entries :=
  PolicyStore.list_eq_of_perm h.perm h.ordered visits

/-- No entry has the id or a time at or after that of a new policy. -/
theorem new (h : Tracks script store entries) (hfresh : Fresh (script ++ [(supply, r)]))
    {request : CreateRequest} (hasks : Asks r (.create request)) {p : Policy} (hp : p ∈ entries) :
    p.id ≠ supply.newId ∧ p.createdAt.rank < (supply.clock 0).rank := by
  obtain ⟨a, ha, ⟨q, hq⟩, hid, htime⟩ := h.stem p hp
  rw [hid, htime]
  exact (List.pairwise_append.mp hfresh).2.2 a ha _ (List.mem_singleton_self _) q request hq hasks

theorem carries_create (h : Tracks script store entries)
    (hfresh : Fresh (script ++ [(supply, r)])) {request : CreateRequest}
    (hasks : Asks r (.create request)) : Carries setting supply r script store entries := by
  have hop : operation? r = some (.create request) := operation?_eq_some_iff.mpr hasks
  let p : Policy := request.toPolicy supply.newId (supply.clock 0)
  have hid : ∀ q ∈ entries, q.id ≠ p.id := fun q hq => (h.new hfresh hasks hq).1
  have hstored : ∀ q ∈ store.policies, q.id ≠ p.id := fun q hq => hid q (h.perm.mem_iff.mp hq)
  obtain ⟨store', hsave, hpolicies⟩ := PolicyStore.exists_save_eq_ok hstored
  have hanswer : answer setting supply store r = (.json 201 p.toJson, store') := by
    rw [answer_create hasks, hsave]
  have hresponse : (exchange setting supply store r).response = .json 201 p.toJson := by
    rw [exchange, hanswer]
  have hc : (exchange setting supply store r).created? = some p := by
    simp only [Exchange.created?, exchange, hop, hanswer]
    rfl
  have hd : (exchange setting supply store r).deleted? = none := by
    simp only [Exchange.deleted?, exchange, hop]
  rw [Carries, Exchange.update_eq_concat hc hd, hanswer]
  refine ⟨.created hasks rfl hid hresponse, ?_, ?_, ?_⟩
  · rw [hpolicies]
    exact (h.perm.cons p).trans (List.perm_append_singleton p entries).symm
  · refine List.pairwise_append.mpr ⟨h.ordered, List.pairwise_singleton _ _, ?_⟩
    intro q hq q' hq'
    obtain rfl := List.mem_singleton.mp hq'
    exact (h.new hfresh hasks hq).2
  · intro q hq
    rcases List.mem_append.mp hq with hq | hq
    · exact (h.weaken (supply, r)).stem q hq
    · obtain rfl := List.mem_singleton.mp hq
      exact ⟨(supply, r), by simp, ⟨request, hasks⟩, rfl, rfl⟩

/-- An exchange that neither creates nor deletes a policy. -/
theorem carries_of_unchanged (h : Tracks script store entries)
    (hc : (exchange setting supply store r).created? = none)
    (hd : (exchange setting supply store r).deleted? = none)
    (hstep : Step setting entries (exchange setting supply store r) entries)
    (hstore : (answer setting supply store r).2 = store) :
    Carries setting supply r script store entries := by
  rw [Carries, Exchange.update_eq_self hc hd, hstore]
  exact ⟨hstep, h.weaken _⟩

theorem carries_list (h : Tracks script store entries) (hasks : Asks r .list) :
    Carries setting supply r script store entries := by
  have hop : operation? r = some .list := operation?_eq_some_iff.mpr hasks
  have hanswer : answer setting supply store r =
      (.json 200 (.array (entries.map Policy.toJson)), store) := by
    rw [answer_list hasks, h.list_eq]
  apply h.carries_of_unchanged
  · simp only [Exchange.created?, exchange, hop]
  · simp only [Exchange.deleted?, exchange, hop]
  · exact .listed hasks (by rw [exchange, hanswer])
  · rw [hanswer]

theorem carries_get (h : Tracks script store entries) (hasks : Asks r (.get id)) :
    Carries setting supply r script store entries := by
  have hop : operation? r = some (.get id) := operation?_eq_some_iff.mpr hasks
  have hc : (exchange setting supply store r).created? = none := by
    simp only [Exchange.created?, exchange, hop]
  have hd : (exchange setting supply store r).deleted? = none := by
    simp only [Exchange.deleted?, exchange, hop]
  cases hget : store.get? id with
  | none =>
    have hanswer : answer setting supply store r = (.ofFault (policyNotFound id), store) := by
      rw [answer_get hasks, hget]
    have hresponse :
        (exchange setting supply store r).response = .ofFault (policyNotFound id) := by
      rw [exchange, hanswer]
    exact h.carries_of_unchanged hc hd
      (.notFound hasks (h.get?_eq_none_iff.mp hget) hresponse) (by rw [hanswer])
  | some p =>
    obtain ⟨hp, rfl⟩ := PolicyStore.get?_eq_some_iff.mp hget
    have hanswer : answer setting supply store r = (.json 200 p.toJson, store) := by
      rw [answer_get hasks, hget]
    have hresponse : (exchange setting supply store r).response = .json 200 p.toJson := by
      rw [exchange, hanswer]
    exact h.carries_of_unchanged hc hd (.found hasks (h.perm.mem_iff.mp hp) hresponse)
      (by rw [hanswer])

theorem carries_delete (h : Tracks script store entries) (hasks : Asks r (.delete id)) :
    Carries setting supply r script store entries := by
  have hop : operation? r = some (.delete id) := operation?_eq_some_iff.mpr hasks
  have hc : (exchange setting supply store r).created? = none := by
    simp only [Exchange.created?, exchange, hop]
  cases hget : store.get? id with
  | none =>
    have hfree : ∀ p ∈ store.policies, p.id ≠ id := PolicyStore.get?_eq_none_iff.mp hget
    have hanswer : answer setting supply store r =
        (.ofFault (.notFound ("Policy with id " ++ id.text ++ " not found")), store) := by
      rw [answer_delete hasks, PolicyStore.delete_eq_error hfree]
      rfl
    have hd : (exchange setting supply store r).deleted? = none := by
      simp only [Exchange.deleted?, exchange, hop, hanswer]
      rfl
    have hresponse : (exchange setting supply store r).response =
        .ofFault (.notFound ("Policy with id " ++ id.text ++ " not found")) := by
      rw [exchange, hanswer]
    exact h.carries_of_unchanged hc hd
      (.notDeleted hasks (h.get?_eq_none_iff.mp hget) hresponse) (by rw [hanswer])
  | some p =>
    obtain ⟨hp, rfl⟩ := PolicyStore.get?_eq_some_iff.mp hget
    obtain ⟨store', hdelete, hpolicies⟩ := PolicyStore.exists_delete_eq_ok hp
    have hanswer : answer setting supply store r = (.bare 204, store') := by
      rw [answer_delete hasks, hdelete]
    have hd : (exchange setting supply store r).deleted? = some p.id := by
      simp only [Exchange.deleted?, exchange, hop, hanswer]
      rfl
    have hresponse : (exchange setting supply store r).response = .bare 204 := by
      rw [exchange, hanswer]
    rw [Carries, Exchange.update_eq_filter hc hd, hanswer]
    exact ⟨.deleted hasks (h.perm.mem_iff.mp hp) hresponse, (h.filter hpolicies).weaken _⟩

theorem carries_other (h : Tracks script store entries) (hasks : ∀ op, ¬ Asks r op) :
    Carries setting supply r script store entries := by
  have hop : operation? r = none := operation?_eq_none_iff.mpr hasks
  -- The store that holds the entries in their own order answers alike.
  let s : PolicyStore := ⟨entries, h.distinct⟩
  have hanswer : answer setting supply s r = ((answer setting supply store r).1, s) :=
    answer_of_not_asks (PolicyStore.get?_eq_of_perm h.perm) hasks
  apply h.carries_of_unchanged
  · simp only [Exchange.created?, exchange, hop]
  · simp only [Exchange.deleted?, exchange, hop]
  · exact .other hasks (show s.policies = entries from rfl) hanswer
  · exact answer_store_of_not_asks hasks

/-- Every exchange is a step of the map, and the store tracks the entries behind it. -/
theorem step (h : Tracks script store entries) (hfresh : Fresh (script ++ [(supply, r)])) :
    Carries setting supply r script store entries := by
  cases hop : operation? r with
  | none => exact h.carries_other (operation?_eq_none_iff.mp hop)
  | some op =>
    have hasks : Asks r op := operation?_eq_some_iff.mp hop
    cases op with
    | create request => exact h.carries_create hfresh hasks
    | list => exact h.carries_list hasks
    | get id => exact h.carries_get hasks
    | delete id => exact h.carries_delete hasks

end Tracks

/-- A run keeps the policies that are live after its history. -/
theorem tracks_live (setting : Setting) {script : List (Supply × Request)} (h : Fresh script) :
    Tracks script (run setting .empty script).2 (live (history setting script)) := by
  induction script using List.reverseRecOn with
  | nil => exact .empty
  | append_singleton script a ih =>
    obtain ⟨supply, r⟩ := a
    have hstep : Carries setting supply r script _ _ := (ih (List.pairwise_append.mp h).1).step h
    rw [history_concat, live_concat, run_append]
    exact hstep.2

/-- Every exchange of a run is a step of the map from the policies that are live before it to those
that are live after it. -/
theorem step_of_mem_history (setting : Setting) {script : List (Supply × Request)}
    (h : Fresh script) {before after : List Exchange} {e : Exchange}
    (he : history setting script = before ++ e :: after) :
    Step setting (live before) e (live (before ++ [e])) := by
  induction script using List.reverseRecOn generalizing after with
  | nil => exact absurd he (by simp [history])
  | append_singleton script a ih =>
    obtain ⟨supply, r⟩ := a
    have hbefore : Fresh script := (List.pairwise_append.mp h).1
    rw [history_concat] at he
    rcases List.eq_nil_or_concat' after with rfl | ⟨after, last, rfl⟩
    -- The exchange is the last one, or one of the history before.
    · obtain ⟨rfl, hlast⟩ := List.append_inj' he rfl
      obtain rfl := List.head_eq_of_cons_eq hlast
      rw [live_concat]
      exact ((tracks_live setting hbefore).step h).1
    · rw [← List.cons_append, ← List.append_assoc] at he
      exact ih hbefore (List.append_inj' he rfl).1

/-- Every exchange of a run is a step of the map from the policies that are live before it to those
that are live after it; the body of a creation is that of the policy it adds, and a failure changes
nothing.  The live policies have ids of their own and come in the order of their creation, and they
are what the store holds and lists.  Whatever the store, only a request that asks for an operation
and does not fail can change it. -/
theorem history_refines_map (setting : Setting) {script : List (Supply × Request)}
    (h : Fresh script) :
    (history setting script).length = script.length ∧
    (∀ before e after, history setting script = before ++ e :: after →
      Step setting (live before) e (live (before ++ [e])) ∧
      (∀ p, e.created? = some p → e.response = .json 201 p.toJson) ∧
      (400 ≤ e.response.status → live (before ++ [e]) = live before)) ∧
    (live (history setting script)).Pairwise
      (fun p q => p.id ≠ q.id ∧ p.createdAt.rank < q.createdAt.rank) ∧
    (run setting .empty script).2.policies.Perm (live (history setting script)) ∧
    (∀ visits, (run setting .empty script).2.list visits = live (history setting script)) ∧
    ∀ supply store r,
      ((∀ op, ¬ Asks r op) ∨ 400 ≤ (answer setting supply store r).1.status) →
        (answer setting supply store r).2 = store := by
  have htracks := tracks_live setting h
  refine ⟨history_length setting script, ?_, htracks.distinct.and htracks.ordered, htracks.perm,
    htracks.list_eq, ?_⟩
  · intro before e after he
    have hstep := step_of_mem_history setting h he
    exact ⟨hstep, fun p hp => hstep.response_of_created? hp, hstep.eq_of_failure⟩
  · intro supply store r hr
    rcases hr with hasks | hstatus
    · exact answer_store_of_not_asks hasks
    · exact answer_store_of_failure hstatus

def sampleSetting : Setting := ⟨.new ⟨"/work"⟩ "standard", fun _ => .error .notFound⟩

/-- A policy is created, found, deleted, and found no more. -/
def sampleScript : List (Supply × Request) :=
  let path := "/api/policies/0000000000000000000000000000000A"
  let supply (n : Nat) (h : IsTime n 0) : Supply :=
    ⟨.ofNat n, fun _ => ⟨⟨2025, 6, 30, by decide⟩, ⟨n, 0, h⟩⟩, .unchanged⟩
  [(supply 10 (by decide),
      ⟨"POST", "/api/policies", some "application/json", Text.bytes "\x7b\"name\":\"base\"\x7d"⟩),
    (supply 11 (by decide), ⟨"GET", path, none, []⟩),
    (supply 12 (by decide), ⟨"DELETE", path, none, []⟩),
    (supply 13 (by decide), ⟨"GET", path, none, []⟩)]

theorem history_refines_map_sample :
    Fresh sampleScript ∧
    (run sampleSetting .empty sampleScript).1.map (·.status) = [201, 200, 204, 404] ∧
    ∀ visits, (run sampleSetting .empty sampleScript).2.list visits =
      live (history sampleSetting sampleScript) := by
  have hfresh : Fresh sampleScript := fresh_of_pairwise (by decide)
  exact ⟨hfresh, by decide +kernel,
    (history_refines_map sampleSetting hfresh).2.2.2.2.1⟩

end PolicyAudit.Service
