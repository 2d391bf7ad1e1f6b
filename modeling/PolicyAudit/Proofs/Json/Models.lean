import PolicyAudit.Observation
import PolicyAudit.Policy.Request
import PolicyAudit.Proofs.Instant.Rfc3339
import PolicyAudit.Proofs.Json.Decoder
import PolicyAudit.Proofs.Uuid

/-! # Models as JSON

Each type that is written as JSON is a `Model`, and what it is written as decodes to the value again:
`decode_encode`, one model after the other, the inner ones first.

What a value is decoded from is not always what it is written as.  Anywhere in the tree an object may
have its members in another order and lack one that holds its default.  Values that differ in this
alone are `Alike`, and like values decode alike (`Alike.agree`), since a record finds the same in
each of its slots.  An array in the place of an object lacks nothing: its items stand for the fields
one by one. -/

namespace PolicyAudit

open Json (Decoder Draft)
open Json.Decoder (Agree Made Slot agree_list agree_record_of_items agree_record_of_members
  and_of_absent and_of_member list_map member?_perm memberProblem?_eq_none_iff
  memberProblem?_insert memberProblem?_perm memberProblem?_replace record_object_eq_ok_iff)

/-! ### Decoding what was encoded -/

theorem Uuid.decode_toJson (u : Uuid) : decode u.toJson.draft = .ok u := by
  simp only [toJson, Json.draft, decode, Decoder.parsed, read_text]
  rfl

theorem Instant.decode_toJson (i : Instant) : decode i.toJson.draft = .ok i := by
  simp only [toJson, Json.draft, decode, Decoder.parsed, read_text]
  rfl

theorem Status.decode_toJson (s : Status) : decode s.toJson.draft = .ok s := by
  cases s <;> rfl

theorem Json.decode_ofOption_string (o : Option String) :
    Decoder.optional .string (Json.ofOption .string o).draft = .ok o := by
  cases o <;> rfl

theorem Json.decode_string_list (ss : List String) :
    Decoder.list .string (Json.array (ss.map .string)).draft = .ok ss :=
  list_map (fun _ => rfl) ss

theorem PolicyCheck.decode_toJson (c : PolicyCheck) : decode c.toJson.draft = .ok c := by
  obtain ⟨id, description⟩ := c
  cases description <;> rfl

theorem PolicyRule.decode_toJson (r : PolicyRule) : decode r.toJson.draft = .ok r := by
  obtain ⟨ruleId, description, checks⟩ := r
  have hchecks := list_map PolicyCheck.decode_toJson checks
  -- A description that is there is one more member.
  cases description with
  | none =>
    exact record_object_eq_ok_iff.mpr
      ⟨rfl, and_of_member (and_of_absent (and_of_member rfl rfl rfl) rfl) rfl hchecks⟩
  | some text =>
    exact record_object_eq_ok_iff.mpr
      ⟨rfl, and_of_member (and_of_member (and_of_member rfl rfl rfl) rfl rfl) rfl hchecks⟩

theorem Policy.decode_toJson (p : Policy) : decode p.toJson.draft = .ok p := by
  obtain ⟨id, name, description, rules, createdAt⟩ := p
  have hdescription := Json.decode_ofOption_string description
  have hrules := list_map PolicyRule.decode_toJson rules
  refine record_object_eq_ok_iff.mpr ⟨rfl, ?_⟩
  refine and_of_member ?_ rfl createdAt.decode_toJson
  refine and_of_member ?_ rfl hrules
  refine and_of_member ?_ rfl hdescription
  exact and_of_member (and_of_member rfl rfl id.decode_toJson) rfl rfl

theorem Property.decode_toJson (p : Property) : decode p.toJson.draft = .ok p := rfl

theorem Link.decode_toJson (l : Link) : decode l.toJson.draft = .ok l := rfl

theorem Subject.decode_toJson (s : Subject) : decode s.toJson.draft = .ok s := by
  obtain ⟨title, type, resourceId, evaluatedOn, result, reason, props⟩ := s
  have hprops := list_map Property.decode_toJson props
  refine record_object_eq_ok_iff.mpr ⟨rfl, ?_⟩
  refine and_of_member ?_ rfl hprops
  refine and_of_member ?_ rfl rfl
  refine and_of_member ?_ rfl result.decode_toJson
  refine and_of_member ?_ rfl evaluatedOn.decode_toJson
  exact and_of_member (and_of_member (and_of_member rfl rfl rfl) rfl rfl) rfl rfl

theorem Observation.decode_toJson (o : Observation) : decode o.toJson.draft = .ok o := by
  obtain ⟨title, methods, collected, checkId, subjects, relevantEvidences⟩ := o
  have hmethods := Json.decode_string_list methods
  have hsubjects := list_map Subject.decode_toJson subjects
  have hevidences := list_map Link.decode_toJson relevantEvidences
  refine record_object_eq_ok_iff.mpr ⟨rfl, ?_⟩
  refine and_of_member ?_ rfl hevidences
  refine and_of_member ?_ rfl hsubjects
  refine and_of_member ?_ rfl rfl
  refine and_of_member ?_ rfl collected.decode_toJson
  exact and_of_member (and_of_member rfl rfl rfl) rfl hmethods

theorem Report.decode_toJson (r : Report) : decode r.toJson.draft = .ok r := by
  obtain ⟨observations⟩ := r
  have hobservations := list_map Observation.decode_toJson observations
  exact record_object_eq_ok_iff.mpr ⟨rfl, and_of_member rfl rfl hobservations⟩

theorem CreateRequest.decode_toJson (r : CreateRequest) : decode r.toJson.draft = .ok r := by
  obtain ⟨name, description, rules⟩ := r
  have hdescription := Json.decode_ofOption_string description
  have hrules := list_map PolicyRule.decode_toJson rules
  refine record_object_eq_ok_iff.mpr ⟨rfl, ?_⟩
  refine and_of_member ?_ rfl hrules
  exact and_of_member (and_of_member rfl rfl rfl) rfl hdescription

theorem ResultsRequest.decode_toJson (r : ResultsRequest) : decode r.toJson.draft = .ok r := by
  obtain ⟨policyId, resultsPath⟩ := r
  have hpath := Json.decode_ofOption_string resultsPath
  refine record_object_eq_ok_iff.mpr ⟨rfl, ?_⟩
  exact and_of_member (and_of_member rfl rfl policyId.decode_toJson) rfl hpath

/-! ### Models -/

/-- The types that are written as JSON. -/
inductive Model where
  | status
  | check
  | rule
  | policy
  | property
  | link
  | subject
  | observation
  | report
  | createRequest
  | resultsRequest

namespace Model

/-- The values of a model. -/
def Value : Model → Type
  | status => Status
  | check => PolicyCheck
  | rule => PolicyRule
  | policy => Policy
  | property => Property
  | link => Link
  | subject => Subject
  | observation => Observation
  | report => Report
  | createRequest => CreateRequest
  | resultsRequest => ResultsRequest

/-- What a value is written as. -/
def encode : (m : Model) → m.Value → Json
  | status => Status.toJson
  | check => PolicyCheck.toJson
  | rule => PolicyRule.toJson
  | policy => Policy.toJson
  | property => Property.toJson
  | link => Link.toJson
  | subject => Subject.toJson
  | observation => Observation.toJson
  | report => Report.toJson
  | createRequest => CreateRequest.toJson
  | resultsRequest => ResultsRequest.toJson

def decode : (m : Model) → Decoder m.Value
  | status => Status.decode
  | check => PolicyCheck.decode
  | rule => PolicyRule.decode
  | policy => Policy.decode
  | property => Property.decode
  | link => Link.decode
  | subject => Subject.decode
  | observation => Observation.decode
  | report => Report.decode
  | createRequest => CreateRequest.decode
  | resultsRequest => ResultsRequest.decode

/-- The members that an object may lack, with the values that they have then. -/
def defaults : Model → List (String × Json)
  | check => [("description", .null)]
  | rule => [("description", .null), ("checks", .array [])]
  | policy => [("description", .null)]
  | subject => [("props", .array [])]
  | createRequest => [("description", .null), ("rules", .array [])]
  | resultsRequest => [("results_path", .null)]
  | _ => []

/-- The members that hold lists of another model, with their places in an array. -/
def parts : Model → List (String × Nat × Model)
  | rule => [("checks", 2, check)]
  | policy => [("rules", 3, rule)]
  | subject => [("props", 6, property)]
  | observation => [("subjects", 4, subject), ("relevant_evidences", 5, link)]
  | report => [("observations_by_check", 0, observation)]
  | createRequest => [("rules", 2, rule)]
  | _ => []

theorem decode_encode : (m : Model) → (x : m.Value) → m.decode (m.encode x).draft = .ok x
  | status => Status.decode_toJson
  | check => PolicyCheck.decode_toJson
  | rule => PolicyRule.decode_toJson
  | policy => Policy.decode_toJson
  | property => Property.decode_toJson
  | link => Link.decode_toJson
  | subject => Subject.decode_toJson
  | observation => Observation.decode_toJson
  | report => Report.decode_toJson
  | createRequest => CreateRequest.decode_toJson
  | resultsRequest => ResultsRequest.decode_toJson

/-! ### Like values -/

/-- The values differ, anywhere in the tree, at most in the order of members and in members that one
of them lacks and the other has with their defaults. -/
inductive Alike : Model → Json → Json → Prop
  | refl (m : Model) (v : Json) : Alike m v v
  | symm {m : Model} {v w : Json} : Alike m v w → Alike m w v
  | trans {m : Model} {u v w : Json} : Alike m u v → Alike m v w → Alike m u w
  | perm {m : Model} {ms ms' : List (String × Json)} :
      ms.Perm ms' → Alike m (.object ms) (.object ms')
  | lacks {m : Model} {key : String} {value : Json} {before after : List (String × Json)} :
      (key, value) ∈ m.defaults → (∀ member ∈ before ++ after, member.1 ≠ key) →
      Alike m (.object (before ++ after)) (.object (before ++ (key, value) :: after))
  | member {m n : Model} {key : String} {place : Nat} {v w : Json}
      {before after : List (String × Json)} {front back : List Json} :
      (key, place, n) ∈ m.parts → Alike n v w →
      Alike m (.object (before ++ (key, .array (front ++ v :: back)) :: after))
        (.object (before ++ (key, .array (front ++ w :: back)) :: after))
  | item {m n : Model} {key : String} {v w : Json} {before after front back : List Json} :
      (key, before.length, n) ∈ m.parts → Alike n v w →
      Alike m (.array (before ++ .array (front ++ v :: back) :: after))
        (.array (before ++ .array (front ++ w :: back) :: after))

/-- The model is a record with slots of different names, among them one for each default and one for
each part, at its place. -/
structure IsRecord (m : Model) (slots : List Slot) : Prop where
  made : ∃ name fs, m.decode = .record name fs ∧ Made fs slots
  distinct : (slots.map (·.name)).Nodup
  default : ∀ p ∈ m.defaults, ∃ (i : Nat) (s : Slot), slots[i]? = some s ∧ s.name = p.1 ∧
    s.absent = (s.decode p.2.draft).toOption
  part : ∀ p ∈ m.parts, ∃ s : Slot, slots[p.2.1]? = some s ∧ s.name = p.1 ∧
    ∀ d d', Agree (.list p.2.2.decode) d d' → Agree s.decode d d'

/-- Every model is a record, except for the statuses, which are words. -/
theorem exists_isRecord {m : Model} (h : m ≠ .status) : ∃ slots, m.IsRecord slots := by
  cases m with
  | status => exact absurd rfl h
  | check =>
    exact ⟨_, ⟨_, _, rfl, .and (.and (.pure _))⟩, by simp,
      List.forall_mem_singleton.mpr ⟨1, _, rfl, rfl, rfl⟩, List.forall_mem_nil _⟩
  | rule =>
    exact ⟨_, ⟨_, _, rfl, .and (.and (.and (.pure _)))⟩, by simp,
      List.forall_mem_cons.mpr ⟨⟨1, _, rfl, rfl, rfl⟩,
        List.forall_mem_singleton.mpr ⟨2, _, rfl, rfl, rfl⟩⟩,
      List.forall_mem_singleton.mpr ⟨_, rfl, rfl, fun _ _ h => h⟩⟩
  | policy =>
    exact ⟨_, ⟨_, _, rfl, .and (.and (.and (.and (.and (.pure _)))))⟩, by simp,
      List.forall_mem_singleton.mpr ⟨2, _, rfl, rfl, rfl⟩,
      List.forall_mem_singleton.mpr ⟨_, rfl, rfl, fun _ _ h => h⟩⟩
  | property =>
    exact ⟨_, ⟨_, _, rfl, .and (.and (.pure _))⟩, by simp, List.forall_mem_nil _,
      List.forall_mem_nil _⟩
  | link =>
    exact ⟨_, ⟨_, _, rfl, .and (.and (.pure _))⟩, by simp, List.forall_mem_nil _,
      List.forall_mem_nil _⟩
  | subject =>
    exact ⟨_, ⟨_, _, rfl, .and (.and (.and (.and (.and (.and (.and (.pure _)))))))⟩, by simp,
      List.forall_mem_singleton.mpr ⟨6, _, rfl, rfl, rfl⟩,
      List.forall_mem_singleton.mpr ⟨_, rfl, rfl, fun _ _ h => h⟩⟩
  | observation =>
    exact ⟨_, ⟨_, _, rfl, .and (.and (.and (.and (.and (.and (.pure _))))))⟩, by simp,
      List.forall_mem_nil _,
      List.forall_mem_cons.mpr ⟨⟨_, rfl, rfl, fun _ _ h => h⟩,
        List.forall_mem_singleton.mpr ⟨_, rfl, rfl, fun _ _ h => h⟩⟩⟩
  | report =>
    exact ⟨_, ⟨_, _, rfl, .and (.pure _)⟩, by simp, List.forall_mem_nil _,
      List.forall_mem_singleton.mpr ⟨_, rfl, rfl, fun _ _ h => h⟩⟩
  | createRequest =>
    exact ⟨_, ⟨_, _, rfl, .and (.and (.and (.pure _)))⟩, by simp,
      List.forall_mem_cons.mpr ⟨⟨1, _, rfl, rfl, rfl⟩,
        List.forall_mem_singleton.mpr ⟨2, _, rfl, rfl, rfl⟩⟩,
      List.forall_mem_singleton.mpr ⟨_, rfl, rfl, fun _ _ h => h⟩⟩
  | resultsRequest =>
    exact ⟨_, ⟨_, _, rfl, .and (.and (.pure _))⟩, by simp,
      List.forall_mem_singleton.mpr ⟨1, _, rfl, rfl, rfl⟩, List.forall_mem_nil _⟩

theorem ne_status_of_default {m : Model} {p : String × Json} (h : p ∈ m.defaults) :
    m ≠ .status := by
  rintro rfl
  cases h

theorem ne_status_of_part {m : Model} {p : String × Nat × Model} (h : p ∈ m.parts) :
    m ≠ .status := by
  rintro rfl
  cases h

namespace IsRecord

variable {m n : Model} {slots : List Slot} {key : String}

theorem eq_of_name_eq (h : m.IsRecord slots) {i : Nat} {s t : Slot} (hs : s ∈ slots)
    (ht : slots[i]? = some t) (hname : s.name = t.name) : s = t :=
  List.inj_on_of_nodup_map h.distinct hs (List.mem_of_getElem? ht) hname

/-- The members of an object may come in any order. -/
theorem agree_perm (h : m.IsRecord slots) {ms ms' : List (String × Json)} (hperm : ms.Perm ms') :
    Agree m.decode (Json.object ms).draft (Json.object ms').draft := by
  obtain ⟨name, fs, hdecode, hmade⟩ := h.made
  rw [hdecode]
  refine agree_record_of_members hmade (memberProblem?_perm hperm) (fun hms s hs => ?_) name
  have hname : s.name ∈ fs.names := hmade.names_eq ▸ List.mem_map_of_mem hs
  rw [Slot.inMembers?, Slot.inMembers?,
    member?_perm hperm hname (memberProblem?_eq_none_iff.mp hms).1]

/-- A member with its default may come in where its key is free. -/
theorem agree_insert (h : m.IsRecord slots) {value : Json} {before after : List (String × Json)}
    (hdefault : (key, value) ∈ m.defaults) (hfree : ∀ member ∈ before ++ after, member.1 ≠ key) :
    Agree m.decode (Json.object (before ++ after)).draft
      (Json.object (before ++ (key, value) :: after)).draft := by
  obtain ⟨name, fs, hdecode, hmade⟩ := h.made
  obtain ⟨i, t, ht, htname, habsent⟩ := h.default _ hdefault
  rw [hdecode]
  refine agree_record_of_members hmade (memberProblem?_insert hfree) (fun _ s hs => ?_) name
  refine Slot.inMembers?_insert hfree fun hname => ?_
  obtain rfl := h.eq_of_name_eq hs ht (hname.trans htname.symm)
  exact habsent

/-- A part may hold another list that agrees, in an object. -/
theorem agree_member (h : m.IsRecord slots) {place : Nat} {v w : Json}
    {before after : List (String × Json)} (hpart : (key, place, n) ∈ m.parts)
    (hagree : Agree (.list n.decode) v.draft w.draft) :
    Agree m.decode (Json.object (before ++ (key, v) :: after)).draft
      (Json.object (before ++ (key, w) :: after)).draft := by
  obtain ⟨name, fs, hdecode, hmade⟩ := h.made
  obtain ⟨t, ht, htname, hlist⟩ := h.part _ hpart
  rw [hdecode]
  refine agree_record_of_members hmade memberProblem?_replace (fun _ s hs => ?_) name
  refine Slot.inMembers?_replace fun hname => ?_
  obtain rfl := h.eq_of_name_eq hs ht (hname.trans htname.symm)
  exact hlist _ _ hagree

/-- A part may hold another list that agrees, in an array. -/
theorem agree_item (h : m.IsRecord slots) {v w : Json} {before after : List Json}
    (hpart : (key, before.length, n) ∈ m.parts)
    (hagree : Agree (.list n.decode) v.draft w.draft) :
    Agree m.decode (Json.array (before ++ v :: after)).draft
      (Json.array (before ++ w :: after)).draft := by
  obtain ⟨name, fs, hdecode, hmade⟩ := h.made
  obtain ⟨t, ht, -, hlist⟩ := h.part _ hpart
  rw [hdecode]
  simp only [Json.draft, Json.draftItems_eq_map, List.map_append, List.map_cons]
  refine agree_record_of_items hmade (by simp) (fun i s hs => ?_) name
  refine Slot.inItems?_replace fun hplace => ?_
  rw [List.length_map] at hplace
  subst hplace
  obtain rfl := Option.some.inj (hs.symm.trans ht)
  exact hlist _ _ hagree

end IsRecord

/-- A status is read from an object with one member only. -/
theorem agree_perm_status {ms ms' : List (String × Json)} (h : ms.Perm ms') :
    Agree Status.decode (Json.object ms).draft (Json.object ms').draft := by
  match ms, ms', h with
  | [], [], _ => exact .refl _ _
  | [m], [m'], h =>
    obtain rfl : m' = m := List.singleton_inj.mp h.symm.eq_singleton
    exact .refl _ _
  | _ :: _ :: _, _ :: _ :: _, _ => exact fun _ => Iff.rfl
  | [], _ :: _, h | [_], [], h | [_], _ :: _ :: _, h | _ :: _ :: _, [], h | _ :: _ :: _, [_], h =>
    exact absurd h.length_eq (by simp)

theorem agree_list_draft {decode : Decoder α} {v w : Json} (h : Agree decode v.draft w.draft)
    (front back : List Json) :
    Agree (.list decode) (Json.array (front ++ v :: back)).draft
      (Json.array (front ++ w :: back)).draft := by
  simp only [Json.draft, Json.draftItems_eq_map, List.map_append, List.map_cons]
  exact agree_list h _ _

/-- Like values decode to the same value or both to none. -/
theorem Alike.agree {m : Model} {v w : Json} (h : Alike m v w) :
    Agree m.decode v.draft w.draft := by
  induction h with
  | refl m v => exact .refl _ _
  | symm _ ih => exact fun x => (ih x).symm
  | trans _ _ ih ih' => exact fun x => (ih x).trans (ih' x)
  | @perm m ms ms' hperm =>
    by_cases hm : m = .status
    · subst hm
      exact agree_perm_status hperm
    · obtain ⟨slots, hm⟩ := exists_isRecord hm
      exact hm.agree_perm hperm
  | lacks hdefault hfree =>
    obtain ⟨slots, hm⟩ := exists_isRecord (ne_status_of_default hdefault)
    exact hm.agree_insert hdefault hfree
  | member hpart _ ih =>
    obtain ⟨slots, hm⟩ := exists_isRecord (ne_status_of_part hpart)
    exact hm.agree_member hpart (agree_list_draft ih _ _)
  | item hpart _ ih =>
    obtain ⟨slots, hm⟩ := exists_isRecord (ne_status_of_part hpart)
    exact hm.agree_item hpart (agree_list_draft ih _ _)

/-- Every value of every model is decoded from what it is written as, its identifiers and instants
from their texts.  So a value that a model is decoded from has a normal form, which decodes to the
same and is written again as it stands; and like values decode to the same. -/
theorem decode_agrees_with_encode :
    (∀ u : Uuid, Uuid.read u.text = .ok u) ∧
    (∀ i : Instant, Instant.read i.text = .ok i) ∧
    (∀ (m : Model) (x : m.Value), m.decode (m.encode x).draft = .ok x) ∧
    (∀ (m : Model) (v : Json) (x : m.Value), m.decode v.draft = .ok x →
      m.decode (m.encode x).draft = m.decode v.draft ∧
      ∀ y, m.decode (m.encode x).draft = .ok y → m.encode y = m.encode x) ∧
    ∀ (m : Model) (v w : Json), Alike m v w →
      ∀ x, m.decode v.draft = .ok x ↔ m.decode w.draft = .ok x := by
  refine ⟨Uuid.read_text, Instant.read_text, decode_encode, ?_, fun m v w h => h.agree⟩
  intro m v x hv
  refine ⟨(decode_encode m x).trans hv.symm, fun y hy => ?_⟩
  rw [Except.ok.inj (hy.symm.trans (decode_encode m x))]

end Model

end PolicyAudit
