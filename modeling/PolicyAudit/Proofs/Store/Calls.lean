import Mathlib.Data.List.Chain
import Mathlib.Data.List.Induction
import Mathlib.Logic.Function.Basic
import PolicyAudit.PolicyStore.Call
import PolicyAudit.Proofs.Store.Contents

/-! # The store as a map

Any number of callers share a store, and each call takes effect as a whole.  A `trace` is what
happens then: the calls in the order in which they take effect, whoever makes them, each with its
reply.  The replies are those of a map from ids to policies (`MapStep`), whose entries are the
`contents` that the trace itself tells of: under an id the policy of the latest successful save,
unless a successful delete came after it (`contents_eq_some_iff`).

`perform_step` compares one call of the store and of the map, and `get?_performAll` carries this
over a trace.  Of one id, saves and deletes that succeed take turns (`takesTurns_trace`). -/

namespace PolicyAudit.PolicyStore

/-- A call of one of the callers, with its reply. -/
structure Event (Caller : Type) where
  caller : Caller
  call : Call
  reply : Reply

variable {Caller : Type}

namespace Event

/-- The policy that the event stored. -/
def saved? (e : Event Caller) : Option Policy :=
  match e.call, e.reply with
  | .save _, .saved p => some p
  | _, _ => none

/-- The id whose policy the event removed. -/
def deleted? (e : Event Caller) : Option Uuid :=
  match e.call, e.reply with
  | .delete id, .deleted => some id
  | _, _ => none

end Event

/-- What happens when calls take effect one after the other. -/
def trace (s : PolicyStore) : List (Caller × Call) → List (Event Caller)
  | [] => []
  | (caller, call) :: rest =>
    ⟨caller, call, (s.perform call).1⟩ :: trace (s.perform call).2 rest

/-- The store behind calls that took effect one after the other. -/
def performAll (s : PolicyStore) (calls : List (Caller × Call)) : PolicyStore :=
  calls.foldl (fun s c => (s.perform c.2).2) s

/-! ### Maps -/

/-- A map from ids to policies. -/
abbrev Entries : Type := Uuid → Option Policy

/-- A call to a map, its reply, and the map behind it.  Only a save under a free id and a delete of
a taken one change the map. -/
inductive MapStep (m : Entries) : Call → Reply → Entries → Prop
  | saved {p : Policy} :
      m p.id = none → MapStep m (.save p) (.saved p) (Function.update m p.id (some p))
  | taken {p q : Policy} :
      m p.id = some q →
      MapStep m (.save p)
        (.refused (.alreadyExists ("Policy with id " ++ p.id.text ++ " already exists"))) m
  | found {id : Uuid} : MapStep m (.get id) (.found (m id)) m
  | listed {visits : Arrangement} {ps : List Policy} :
      (∀ p, p ∈ ps ↔ m p.id = some p) → ps.Nodup → ps.Pairwise NotAfter →
      MapStep m (.list visits) (.listed ps) m
  | deleted {id : Uuid} {p : Policy} :
      m id = some p → MapStep m (.delete id) .deleted (Function.update m id none)
  | notFound {id : Uuid} :
      m id = none →
      MapStep m (.delete id)
        (.refused (.notFound ("Policy with id " ++ id.text ++ " not found"))) m

/-- The map behind an event. -/
def Event.update (e : Event Caller) (m : Entries) : Entries :=
  match e.saved?, e.deleted? with
  | some p, _ => Function.update m p.id (some p)
  | none, some id => Function.update m id none
  | none, none => m

/-- The entries that events leave behind, from no entries on. -/
def contents (es : List (Event Caller)) : Entries := es.foldl (fun m e => e.update m) fun _ => none

theorem contents_concat (es : List (Event Caller)) (e : Event Caller) :
    contents (es ++ [e]) = e.update (contents es) := by
  rw [contents, List.foldl_append]
  rfl

/-! ### The latest save -/

/-- The event stored a policy under the id, or removed one. -/
def Event.Changes (e : Event Caller) (id : Uuid) : Prop :=
  (∃ p, e.saved? = some p ∧ p.id = id) ∨ e.deleted? = some id

/-- The latest successful save of the id stored the policy, and no successful delete of the id came
after it. -/
def IsLatest (es : List (Event Caller)) (id : Uuid) (p : Policy) : Prop :=
  ∃ before e after, es = before ++ e :: after ∧ e.saved? = some p ∧ p.id = id ∧
    ∀ d ∈ after, ¬ d.Changes id

/-- An event that stores a policy removes none. -/
theorem Event.deleted?_eq_none_of_saved? {e : Event Caller} {p : Policy}
    (h : e.saved? = some p) : e.deleted? = none := by
  obtain ⟨caller, call, reply⟩ := e
  cases call <;> first | rfl | cases h

theorem Event.saved?_eq_none_of_deleted? {e : Event Caller} {id : Uuid}
    (h : e.deleted? = some id) : e.saved? = none := by
  cases hsaved : e.saved? with
  | none => rfl
  | some p =>
    rw [deleted?_eq_none_of_saved? hsaved] at h
    cases h

theorem Event.update_of_not_changes {e : Event Caller} {id : Uuid} (h : ¬ e.Changes id)
    (m : Entries) : e.update m id = m id := by
  obtain ⟨hs, hd⟩ := not_or.mp h
  unfold Event.update
  cases hsaved : e.saved? with
  | some p => exact Function.update_of_ne (fun heq => hs ⟨p, hsaved, heq.symm⟩) _ _
  | none =>
    cases hdeleted : e.deleted? with
    | some gone =>
      have hne : id ≠ gone := fun heq => hd (by rw [hdeleted, heq])
      exact Function.update_of_ne hne _ _
    | none => rfl

theorem Event.update_of_saved? {e : Event Caller} {p : Policy} (h : e.saved? = some p)
    (m : Entries) : e.update m p.id = some p := by
  simp [Event.update, h]

theorem Event.update_of_deleted? {e : Event Caller} {id : Uuid} (h : e.deleted? = some id)
    (m : Entries) : e.update m id = none := by
  simp [Event.update, saved?_eq_none_of_deleted? h, h]

/-- An event of a list with one more at the end is that one, or one of the list. -/
theorem concat_eq_append_cons_iff {α : Type} {as before after : List α} {a b : α} :
    as ++ [a] = before ++ b :: after ↔
      (after = [] ∧ as = before ∧ a = b) ∨
        ∃ rest, after = rest ++ [a] ∧ as = before ++ b :: rest := by
  constructor
  · intro h
    rcases List.eq_nil_or_concat' after with rfl | ⟨rest, last, rfl⟩
    · obtain ⟨rfl, hlast⟩ := List.append_inj' h rfl
      exact .inl ⟨rfl, rfl, List.head_eq_of_cons_eq hlast⟩
    · rw [← List.cons_append, ← List.append_assoc] at h
      obtain ⟨rfl, hlast⟩ := List.append_inj' h rfl
      obtain rfl := List.head_eq_of_cons_eq hlast
      exact .inr ⟨rest, rfl, rfl⟩
  · rintro (⟨rfl, rfl, rfl⟩ | ⟨rest, rfl, rfl⟩)
    · rfl
    · simp

/-- The latest save of some events and one more. -/
theorem isLatest_concat {es : List (Event Caller)} {e : Event Caller} {id : Uuid} {p : Policy} :
    IsLatest (es ++ [e]) id p ↔
      (e.saved? = some p ∧ p.id = id) ∨ (¬ e.Changes id ∧ IsLatest es id p) := by
  constructor
  · rintro ⟨before, e', after, hsplit, hsaved, hid, hafter⟩
    rcases concat_eq_append_cons_iff.mp hsplit with ⟨rfl, rfl, rfl⟩ | ⟨rest, rfl, rfl⟩
    · exact .inl ⟨hsaved, hid⟩
    · refine .inr ⟨hafter e (by simp), before, e', rest, rfl, hsaved, hid, ?_⟩
      exact fun d hd => hafter d (List.mem_append_left _ hd)
  · rintro (⟨hsaved, hid⟩ | ⟨hkeep, before, e', after, rfl, hsaved, hid, hafter⟩)
    · exact ⟨es, e, [], rfl, hsaved, hid, by simp⟩
    · refine ⟨before, e', after ++ [e], by simp, hsaved, hid, ?_⟩
      intro d hd
      rcases List.mem_append.mp hd with hd | hd
      · exact hafter d hd
      · obtain rfl := List.mem_singleton.mp hd
        exact hkeep

theorem contents_eq_some_iff (es : List (Event Caller)) (id : Uuid) (p : Policy) :
    contents es id = some p ↔ IsLatest es id p := by
  induction es using List.reverseRecOn with
  | nil => simp [contents, IsLatest]
  | append_singleton es e ih =>
    rw [contents_concat, isLatest_concat]
    by_cases hchanges : e.Changes id
    · rcases hchanges with ⟨q, hsaved, rfl⟩ | hdeleted
      · rw [Event.update_of_saved? hsaved]
        simp only [hsaved, Option.some.injEq]
        constructor
        · rintro rfl
          exact .inl ⟨rfl, rfl⟩
        · rintro (⟨rfl, -⟩ | ⟨hkeep, -⟩)
          · rfl
          · exact absurd (.inl ⟨q, hsaved, rfl⟩) hkeep
      · rw [Event.update_of_deleted? hdeleted]
        constructor
        · intro h
          cases h
        · rintro (⟨hsaved, -⟩ | ⟨hkeep, -⟩)
          · rw [Event.deleted?_eq_none_of_saved? hsaved] at hdeleted
            cases hdeleted
          · exact absurd (.inr hdeleted) hkeep
    · rw [Event.update_of_not_changes hchanges, ih]
      constructor
      · exact fun h => .inr ⟨hchanges, h⟩
      · rintro (⟨hsaved, hid⟩ | ⟨-, h⟩)
        · exact absurd (.inl ⟨p, hsaved, hid⟩) hchanges
        · exact h

/-! ### One call -/

theorem mem_list_iff {s : PolicyStore} {visits : Arrangement} {p : Policy} :
    p ∈ s.list visits ↔ s.get? p.id = some p := by
  rw [(list_perm s visits).mem_iff, get?_eq_some_iff]
  simp

theorem nodup_list (s : PolicyStore) (visits : Arrangement) : (s.list visits).Nodup := by
  refine (list_perm s visits).nodup_iff.mpr (s.distinct.imp ?_)
  rintro p q hne rfl
  exact hne rfl

/-- A call that neither stores nor removes a policy leaves the store as it is. -/
theorem perform_eq_self {s : PolicyStore} {call : Call}
    (hsaved : ∀ p, (s.perform call).1 ≠ .saved p) (hdeleted : (s.perform call).1 ≠ .deleted) :
    (s.perform call).2 = s := by
  cases call with
  | save p =>
    rw [perform] at hsaved ⊢
    cases hsave : s.save p with
    | ok t => exact absurd (by rw [hsave]) (hsaved p)
    | error e => rfl
  | get id => rfl
  | list visits => rfl
  | delete id =>
    rw [perform] at hdeleted ⊢
    cases hdelete : s.delete id with
    | ok t => exact absurd (by rw [hdelete]) hdeleted
    | error e => rfl

/-- A call of the store is one of the map of its entries, and the store holds the entries behind
it. -/
theorem perform_step (s : PolicyStore) (caller : Caller) (call : Call) :
    MapStep s.get? call (s.perform call).1
        (Event.update ⟨caller, call, (s.perform call).1⟩ s.get?) ∧
      (s.perform call).2.get? = Event.update ⟨caller, call, (s.perform call).1⟩ s.get? := by
  cases call with
  | save p =>
    cases hget : s.get? p.id with
    | none =>
      obtain ⟨t, hsave, -⟩ := exists_save_eq_ok (get?_eq_none_iff.mp hget)
      have hperform : s.perform (.save p) = (.saved p, t) := by rw [perform, hsave]
      rw [hperform]
      refine ⟨.saved hget, funext fun id => ?_⟩
      rw [get?_save hsave]
      by_cases hid : p.id = id
      · subst hid
        simp [Event.update, Event.saved?]
      · simp [Event.update, Event.saved?, hid, Function.update_of_ne (Ne.symm hid)]
    | some q =>
      obtain ⟨hq, hid⟩ := get?_eq_some_iff.mp hget
      have hperform : s.perform (.save p) =
          (.refused (.alreadyExists ("Policy with id " ++ p.id.text ++ " already exists")), s) := by
        rw [perform, save_eq_error hq hid]
      rw [hperform]
      exact ⟨.taken hget, rfl⟩
  | get id => exact ⟨.found, rfl⟩
  | list visits =>
    exact ⟨.listed (fun p => mem_list_iff) (nodup_list s visits) (list_pairwise s visits), rfl⟩
  | delete id =>
    cases hget : s.get? id with
    | none =>
      have hperform : s.perform (.delete id) =
          (.refused (.notFound ("Policy with id " ++ id.text ++ " not found")), s) := by
        rw [perform, delete_eq_error (get?_eq_none_iff.mp hget)]
      rw [hperform]
      exact ⟨.notFound hget, rfl⟩
    | some p =>
      obtain ⟨hp, rfl⟩ := get?_eq_some_iff.mp hget
      obtain ⟨t, hdelete, -⟩ := exists_delete_eq_ok hp
      have hperform : s.perform (.delete p.id) = (.deleted, t) := by rw [perform, hdelete]
      rw [hperform]
      refine ⟨.deleted hget, funext fun id => ?_⟩
      rw [get?_delete hdelete]
      by_cases hid : p.id = id
      · subst hid
        simp [Event.update, Event.saved?, Event.deleted?]
      · simp [Event.update, Event.saved?, Event.deleted?, hid, Function.update_of_ne (Ne.symm hid)]

/-! ### Traces -/

theorem trace_concat (s : PolicyStore) (calls : List (Caller × Call)) (caller : Caller)
    (call : Call) :
    trace s (calls ++ [(caller, call)]) =
      trace s calls ++ [⟨caller, call, ((performAll s calls).perform call).1⟩] := by
  induction calls generalizing s with
  | nil => rfl
  | cons c calls ih => rw [List.cons_append, trace, ih, trace, performAll, List.cons_append]; rfl

theorem performAll_concat (s : PolicyStore) (calls : List (Caller × Call)) (c : Caller × Call) :
    performAll s (calls ++ [c]) = ((performAll s calls).perform c.2).2 := by
  rw [performAll, List.foldl_append]
  rfl

theorem map_trace (s : PolicyStore) (calls : List (Caller × Call)) :
    (trace s calls).map (fun e => (e.caller, e.call)) = calls := by
  induction calls generalizing s with
  | nil => rfl
  | cons c calls ih => rw [trace, List.map_cons, ih]

/-- The store holds the entries that its trace tells of. -/
theorem get?_performAll (calls : List (Caller × Call)) :
    (performAll .empty calls).get? = contents (trace .empty calls) := by
  induction calls using List.reverseRecOn with
  | nil => exact funext get?_empty
  | append_singleton calls c ih =>
    rw [performAll_concat, trace_concat, contents_concat, ← ih]
    exact (perform_step _ c.1 c.2).2

/-- Every event of a trace is a step of the map of the entries before it. -/
theorem mapStep_of_mem_trace (calls : List (Caller × Call)) {before after : List (Event Caller)}
    {e : Event Caller} (h : trace .empty calls = before ++ e :: after) :
    MapStep (contents before) e.call e.reply (contents (before ++ [e])) := by
  induction calls using List.reverseRecOn generalizing after with
  | nil => exact absurd h (by simp [trace])
  | append_singleton calls c ih =>
    rw [trace_concat] at h
    -- The event is the last one, or one of the trace before.
    rcases concat_eq_append_cons_iff.mp h with ⟨rfl, rfl, rfl⟩ | ⟨rest, rfl, hbefore⟩
    · rw [contents_concat, ← get?_performAll]
      exact (perform_step _ c.1 c.2).1
    · exact ih hbefore

/-! ### Saves and deletes of one id -/

/-- What an event does to the entry of an id. -/
inductive Change where
  | saved
  | deleted
deriving DecidableEq

/-- The change that an event makes to the entry of the id. -/
def Event.change? (id : Uuid) (e : Event Caller) : Option Change :=
  if e.saved?.map (·.id) = some id then some .saved
  else if e.deleted? = some id then some .deleted
  else none

/-- The successful saves and deletes of the id, in their order. -/
def changes (id : Uuid) (es : List (Event Caller)) : List Change := es.filterMap (·.change? id)

/-- Saves and deletes take turns, and a save comes first. -/
def Alternate (cs : List Change) : Prop :=
  cs.IsChain (· ≠ ·) ∧ ∀ c, cs.head? = some c → c = .saved

theorem alternate_concat {cs : List Change} {c : Change} (h : Alternate cs)
    (hc : c = .deleted ↔ cs.getLast? = some .saved) : Alternate (cs ++ [c]) := by
  have hlast : ∀ x ∈ cs.getLast?, x ≠ c := by
    rintro x hx rfl
    cases x with
    | saved => exact absurd (hc.mpr hx) (by simp)
    | deleted =>
      rw [Option.mem_def, hc.mp rfl] at hx
      cases hx
  refine ⟨h.1.append (List.isChain_singleton c) fun x hx y hy => ?_, ?_⟩
  · obtain rfl : c = y := by simpa using hy
    exact hlast x hx
  · intro x hx
    cases cs with
    | nil =>
      obtain rfl : c = x := by simpa using hx
      cases c with
      | saved => rfl
      | deleted => exact absurd (hc.mp rfl) (by simp)
    | cons y cs => exact h.2 x hx

theorem Event.change?_eq_none_iff {e : Event Caller} {id : Uuid} :
    e.change? id = none ↔ ¬ e.Changes id := by
  rw [Event.change?, Event.Changes, not_or,
    ← Option.map_eq_some_iff (f := fun p : Policy => p.id)]
  by_cases hs : e.saved?.map (·.id) = some id
  · simp [hs]
  · by_cases hd : e.deleted? = some id <;> simp [hs, hd]

/-- What is saved had a free id. -/
theorem MapStep.of_saved? {m m' : Entries} {e : Event Caller} (h : MapStep m e.call e.reply m')
    {p : Policy} (hsaved : e.saved? = some p) : m p.id = none := by
  obtain ⟨caller, call, reply⟩ := e
  cases h with
  | saved hfree =>
    obtain rfl := Option.some.inj hsaved
    exact hfree
  | taken => cases hsaved
  | found => cases hsaved
  | listed => cases hsaved
  | deleted => cases hsaved
  | notFound => cases hsaved

/-- What is deleted was there. -/
theorem MapStep.of_deleted? {m m' : Entries} {e : Event Caller} (h : MapStep m e.call e.reply m')
    {id : Uuid} (hdeleted : e.deleted? = some id) : ∃ p, m id = some p := by
  obtain ⟨caller, call, reply⟩ := e
  cases h with
  | deleted hthere =>
    obtain rfl := Option.some.inj hdeleted
    exact ⟨_, hthere⟩
  | saved => cases hdeleted
  | taken => cases hdeleted
  | found => cases hdeleted
  | listed => cases hdeleted
  | notFound => cases hdeleted

/-- The changes of an id take turns, and the last of them is a save exactly if the id has an
entry. -/
structure TakesTurns (id : Uuid) (es : List (Event Caller)) : Prop where
  alternate : Alternate (changes id es)
  last_iff : (changes id es).getLast? = some .saved ↔ ∃ p, contents es id = some p

theorem TakesTurns.concat {id : Uuid} {es : List (Event Caller)} {e : Event Caller}
    (h : TakesTurns id es)
    (hstep : MapStep (contents es) e.call e.reply (contents (es ++ [e]))) :
    TakesTurns id (es ++ [e]) := by
  have hconcat : changes id (es ++ [e]) = changes id es ++ (e.change? id).toList := by
    rw [changes, List.filterMap_append]
    cases hc : e.change? id <;> simp [changes, hc]
  by_cases hchanges : e.Changes id
  · rcases hchanges with ⟨p, hsaved, rfl⟩ | hdeleted
    · have hchange : e.change? p.id = some .saved := by simp [Event.change?, hsaved]
      rw [hchange, Option.toList_some] at hconcat
      constructor
      · rw [hconcat]
        refine alternate_concat h.alternate ?_
        rw [h.last_iff, hstep.of_saved? hsaved]
        simp
      · rw [hconcat, contents_concat, Event.update_of_saved? hsaved]
        simp
    · have hchange : e.change? id = some .deleted := by
        simp [Event.change?, Event.saved?_eq_none_of_deleted? hdeleted, hdeleted]
      rw [hchange, Option.toList_some] at hconcat
      constructor
      · rw [hconcat]
        refine alternate_concat h.alternate ?_
        rw [h.last_iff]
        exact iff_of_true rfl (hstep.of_deleted? hdeleted)
      · rw [hconcat, contents_concat, Event.update_of_deleted? hdeleted]
        simp
  · rw [Event.change?_eq_none_iff.mpr hchanges, Option.toList_none, List.append_nil] at hconcat
    constructor
    · rw [hconcat]
      exact h.alternate
    · rw [hconcat, contents_concat, Event.update_of_not_changes hchanges]
      exact h.last_iff

theorem takesTurns_trace (id : Uuid) (calls : List (Caller × Call)) :
    TakesTurns id (trace .empty calls) := by
  induction calls using List.reverseRecOn with
  | nil => exact ⟨⟨.nil, by simp [changes, trace]⟩, by simp [changes, trace, contents]⟩
  | append_singleton calls c ih =>
    have hstep := mapStep_of_mem_trace (calls ++ [c]) (trace_concat .empty calls c.1 c.2)
    rw [trace_concat]
    exact ih.concat hstep

/-- Whatever calls take effect one after the other, and whoever makes them, each is answered as the
map of the entries before it answers, and leaves the entries behind it.  An entry is the policy of
the latest successful save of its id, and is gone when a successful delete came after it.  The store
holds these entries, each under its own id.  A call that neither stores nor removes a policy leaves
the store itself as it is, and of one id successful saves and deletes take turns, beginning with a
save. -/
theorem calls_refine_map (calls : List (Caller × Call)) :
    (trace .empty calls).map (fun e => (e.caller, e.call)) = calls ∧
    (∀ before e after, trace .empty calls = before ++ e :: after →
      MapStep (contents before) e.call e.reply (contents (before ++ [e]))) ∧
    (∀ (es : List (Event Caller)) id p, contents es id = some p ↔ IsLatest es id p) ∧
    (performAll .empty calls).get? = contents (trace .empty calls) ∧
    (∀ id p, (performAll .empty calls).get? id = some p →
      p.id = id ∧ p ∈ (performAll .empty calls).policies) ∧
    (∀ p ∈ (performAll .empty calls).policies, (performAll .empty calls).get? p.id = some p) ∧
    (∀ (s : PolicyStore) (call : Call), (∀ p, (s.perform call).1 ≠ .saved p) →
      (s.perform call).1 ≠ .deleted → (s.perform call).2 = s) ∧
    ∀ id, Alternate (changes id (trace .empty calls)) := by
  refine ⟨map_trace .empty calls, ?_, contents_eq_some_iff, get?_performAll calls,
    ?_, ?_, ?_, ?_⟩
  · intro before e after h
    exact mapStep_of_mem_trace calls h
  · intro id p h
    obtain ⟨hmem, hid⟩ := get?_eq_some_iff.mp h
    exact ⟨hid, hmem⟩
  · intro p hp
    exact get?_eq_some_iff.mpr ⟨hp, rfl⟩
  · intro s call hsaved hdeleted
    exact perform_eq_self hsaved hdeleted
  · intro id
    exact (takesTurns_trace id calls).alternate

end PolicyAudit.PolicyStore
