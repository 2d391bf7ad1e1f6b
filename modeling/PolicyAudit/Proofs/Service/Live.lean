import PolicyAudit.Proofs.Service.Registry

/-! # What the service keeps

The store behind a run holds the live policies of its history, whatever ids and times the requests
drew (`run_perm_live`): a policy whose id is taken is refused and so never becomes live.  Each
exchange changes the store as it changes the live policies (`answer_perm_update`), and the run
follows by induction on its requests.

`LiveWith` says on the history alone which rules an id stands for, and `liveWith_history_iff` finds
them in the store. -/

namespace PolicyAudit.Service

/-- An exchange created the policy with the id, for a request with these rules, and no later one
deleted it. -/
def LiveWith (h : List Exchange) (id : Uuid) (rules : List PolicyRule) : Prop :=
  ∃ before e after creation, h = before ++ e :: after ∧
    Asks e.request (.create creation) ∧ e.response.status = 201 ∧ e.supply.newId = id ∧
    creation.rules = rules ∧
    ∀ d ∈ after, ¬ (Asks d.request (.delete id) ∧ d.response.status = 204)

/-! ### Live policies -/

/-- A place in a list is its front or one behind it. -/
theorem exists_split_cons_iff {α : Type} {a : α} {as : List α} {P : α → List α → Prop} :
    (∃ before x after, a :: as = before ++ x :: after ∧ P x after) ↔
      P a as ∨ ∃ before x after, as = before ++ x :: after ∧ P x after := by
  constructor
  · rintro ⟨before, x, after, h, hP⟩
    cases before with
    | nil =>
      obtain ⟨rfl, rfl⟩ := List.cons.inj h
      exact .inl hP
    | cons b before =>
      obtain ⟨rfl, rfl⟩ := List.cons.inj h
      exact .inr ⟨before, x, after, rfl, hP⟩
  · rintro (hP | ⟨before, x, after, rfl, hP⟩)
    · exact ⟨[], a, as, rfl, hP⟩
    · exact ⟨a :: before, x, after, rfl, hP⟩

theorem mem_live_iff {h : List Exchange} {p : Policy} :
    p ∈ live h ↔ ∃ before e after, h = before ++ e :: after ∧
      e.created? = some p ∧ ∀ d ∈ after, d.deleted? ≠ some p.id := by
  induction h with
  | nil => simp [live]
  | cons e h ih =>
    rw [exists_split_cons_iff, ← ih, live]
    cases hc : e.created? with
    | none => simp
    | some q =>
      dsimp only
      split
      · next hany =>
        obtain ⟨d, hd, hdel⟩ := List.any_eq_true.mp hany
        refine ⟨.inr, fun hp => hp.resolve_left ?_⟩
        rintro ⟨heq, hkeep⟩
        obtain rfl := Option.some.inj heq
        exact hkeep d hd (of_decide_eq_true hdel)
      · next hany =>
        have hkeep : ∀ d ∈ h, d.deleted? ≠ some q.id := fun d hd hdel =>
          hany (List.any_eq_true.mpr ⟨d, hd, decide_eq_true hdel⟩)
        rw [List.mem_cons]
        refine or_congr_left ⟨?_, fun hp => (Option.some.inj hp.1).symm⟩
        rintro rfl
        exact ⟨rfl, hkeep⟩

theorem liveWith_iff {h : List Exchange} {id : Uuid} {rules : List PolicyRule} :
    LiveWith h id rules ↔ ∃ p ∈ live h, p.id = id ∧ p.rules = rules := by
  constructor
  · rintro ⟨before, e, after, creation, hsplit, hasks, hstatus, rfl, rfl, hkeep⟩
    refine ⟨_, mem_live_iff.mpr ⟨before, e, after, hsplit,
      Exchange.created?_eq_some_iff.mpr ⟨creation, hasks, hstatus, rfl⟩, ?_⟩, rfl, rfl⟩
    exact fun d hd hdel => hkeep d hd (Exchange.deleted?_eq_some_iff.mp hdel)
  · rintro ⟨p, hp, rfl, rfl⟩
    obtain ⟨before, e, after, hsplit, hc, hkeep⟩ := mem_live_iff.mp hp
    obtain ⟨creation, hasks, hstatus, rfl⟩ := Exchange.created?_eq_some_iff.mp hc
    refine ⟨before, e, after, creation, hsplit, hasks, hstatus, rfl, rfl, ?_⟩
    exact fun d hd hdel => hkeep d hd (Exchange.deleted?_eq_some_iff.mpr hdel)

/-! ### The store behind an exchange -/

section

variable {setting : Setting} {supply : Supply} {store : PolicyStore} {r : Request}

theorem Exchange.created?_eq_none_of_status {e : Exchange} (h : e.response.status ≠ 201) :
    e.created? = none := by
  rw [Option.eq_none_iff_forall_ne_some]
  intro p hp
  obtain ⟨-, -, hstatus, -⟩ := created?_eq_some_iff.mp hp
  exact h hstatus

theorem Exchange.deleted?_eq_none_of_status {e : Exchange} (h : e.response.status ≠ 204) :
    e.deleted? = none := by
  rw [Option.eq_none_iff_forall_ne_some]
  intro id hid
  exact h (deleted?_eq_some_iff.mp hid).2

/-- An exchange that leaves the store as it is and neither creates nor deletes a policy. -/
theorem answer_perm_of_unchanged (hc : (exchange setting supply store r).created? = none)
    (hd : (exchange setting supply store r).deleted? = none)
    (hstore : (answer setting supply store r).2 = store) :
    (answer setting supply store r).2.policies.Perm
      ((exchange setting supply store r).update store.policies) := by
  rw [Exchange.update_eq_self hc hd, hstore]

theorem answer_perm_create {request : CreateRequest} (hasks : Asks r (.create request)) :
    (answer setting supply store r).2.policies.Perm
      ((exchange setting supply store r).update store.policies) := by
  let p : Policy := request.toPolicy supply.newId (supply.clock 0)
  have hd : (exchange setting supply store r).deleted? = none := by
    simp only [Exchange.deleted?, exchange, operation?_eq_some_iff.mpr hasks]
  by_cases htaken : ∃ q ∈ store.policies, q.id = p.id
  · obtain ⟨q, hq, hid⟩ := htaken
    have hanswer : answer setting supply store r = _ := answer_create hasks
    rw [PolicyStore.save_eq_error hq hid] at hanswer
    refine answer_perm_of_unchanged (Exchange.created?_eq_none_of_status ?_) hd (by rw [hanswer])
    rw [exchange, hanswer]
    exact (by decide : 400 ≠ 201)
  · have hnew : ∀ q ∈ store.policies, q.id ≠ p.id := fun q hq hid => htaken ⟨q, hq, hid⟩
    obtain ⟨store', hsave, hpolicies⟩ := PolicyStore.exists_save_eq_ok hnew
    have hanswer : answer setting supply store r = (.json 201 p.toJson, store') := by
      rw [answer_create hasks, hsave]
    have hc : (exchange setting supply store r).created? = some p :=
      Exchange.created?_eq_some_iff.mpr ⟨request, hasks, by rw [exchange, hanswer]; rfl, rfl⟩
    rw [Exchange.update_eq_concat hc hd, hanswer, hpolicies]
    exact (List.perm_append_singleton p store.policies).symm

theorem answer_perm_delete {id : Uuid} (hasks : Asks r (.delete id)) :
    (answer setting supply store r).2.policies.Perm
      ((exchange setting supply store r).update store.policies) := by
  have hc : (exchange setting supply store r).created? = none := by
    simp only [Exchange.created?, exchange, operation?_eq_some_iff.mpr hasks]
  cases hget : store.get? id with
  | none =>
    have hanswer : answer setting supply store r = _ := answer_delete hasks
    rw [PolicyStore.delete_eq_error (PolicyStore.get?_eq_none_iff.mp hget)] at hanswer
    refine answer_perm_of_unchanged hc (Exchange.deleted?_eq_none_of_status ?_) (by rw [hanswer])
    rw [exchange, hanswer]
    exact (by decide : 404 ≠ 204)
  | some p =>
    obtain ⟨hp, rfl⟩ := PolicyStore.get?_eq_some_iff.mp hget
    obtain ⟨store', hdelete, hpolicies⟩ := PolicyStore.exists_delete_eq_ok hp
    have hanswer : answer setting supply store r = (.bare 204, store') := by
      rw [answer_delete hasks, hdelete]
    have hd : (exchange setting supply store r).deleted? = some p.id :=
      Exchange.deleted?_eq_some_iff.mpr ⟨hasks, by rw [exchange, hanswer]; rfl⟩
    rw [Exchange.update_eq_filter hc hd, hanswer, hpolicies]

/-- An exchange changes the stored policies as it changes the live ones. -/
theorem answer_perm_update (setting : Setting) (supply : Supply) (store : PolicyStore)
    (r : Request) :
    (answer setting supply store r).2.policies.Perm
      ((exchange setting supply store r).update store.policies) := by
  cases hop : operation? r with
  | none =>
    apply answer_perm_of_unchanged
    · simp only [Exchange.created?, exchange, hop]
    · simp only [Exchange.deleted?, exchange, hop]
    · exact answer_store_of_not_asks (operation?_eq_none_iff.mp hop)
  | some op =>
    have hasks : Asks r op := operation?_eq_some_iff.mp hop
    cases op with
    | create request => exact answer_perm_create hasks
    | list =>
      apply answer_perm_of_unchanged
      · simp only [Exchange.created?, exchange, hop]
      · simp only [Exchange.deleted?, exchange, hop]
      · rw [answer_list hasks]
    | get id =>
      apply answer_perm_of_unchanged
      · simp only [Exchange.created?, exchange, hop]
      · simp only [Exchange.deleted?, exchange, hop]
      · rw [answer_get hasks]
        cases store.get? id <;> rfl
    | delete id => exact answer_perm_delete hasks

theorem Exchange.update_perm (e : Exchange) {ps qs : List Policy} (h : ps.Perm qs) :
    (e.update ps).Perm (e.update qs) :=
  (h.filter _).append_right _

/-! ### The store behind a run -/

/-- The store behind a run holds the live policies of its history. -/
theorem run_perm_live (setting : Setting) (script : List (Supply × Request)) :
    (run setting .empty script).2.policies.Perm (live (history setting script)) := by
  induction script using List.reverseRecOn with
  | nil => exact .nil
  | append_singleton script a ih =>
    obtain ⟨supply, r⟩ := a
    rw [history_concat, live_concat, run_append]
    exact (answer_perm_update setting supply _ r).trans (Exchange.update_perm _ ih)

/-- The rules of the live policies are those that the store holds. -/
theorem liveWith_history_iff {script : List (Supply × Request)} {id : Uuid}
    {rules : List PolicyRule} :
    LiveWith (history setting script) id rules ↔
      ∃ p, (run setting .empty script).2.get? id = some p ∧ p.rules = rules := by
  rw [liveWith_iff]
  constructor
  · rintro ⟨p, hp, hid, hrules⟩
    have hstored := (run_perm_live setting script).mem_iff.mpr hp
    exact ⟨p, PolicyStore.get?_eq_some_iff.mpr ⟨hstored, hid⟩, hrules⟩
  · rintro ⟨p, hget, hrules⟩
    obtain ⟨hstored, hid⟩ := PolicyStore.get?_eq_some_iff.mp hget
    exact ⟨p, (run_perm_live setting script).mem_iff.mp hstored, hid, hrules⟩

/-- A live policy has one list of rules. -/
theorem LiveWith.unique {script : List (Supply × Request)} {id : Uuid}
    {rules rules' : List PolicyRule} (h : LiveWith (history setting script) id rules)
    (h' : LiveWith (history setting script) id rules') : rules = rules' := by
  obtain ⟨p, hget, rfl⟩ := liveWith_history_iff.mp h
  obtain ⟨p', hget', rfl⟩ := liveWith_history_iff.mp h'
  rw [Option.some.inj (hget.symm.trans hget')]

end
end PolicyAudit.Service
