import Mathlib.Data.List.Forall2
import Mathlib.Data.List.Nodup
import PolicyAudit.Json.Decoder

/-! # Laws of decoding

A list decodes item by item (`list_eq_ok_iff`).  A record that is built of fields has one `Slot` for
each of them (`Made`), and what it decodes to is decided by what its slots find, each on its own, in
the members of an object or the items of an array.

Two drafts that decode to the same values `Agree`.  Lists and records carry agreement from their
parts to the whole: `agree_list`, `agree_record_of_members` and `agree_record_of_items`. -/

namespace PolicyAudit.Json

/-! ### Legible values -/

mutual

/-- Nothing of a value that is known in full is a fault. -/
theorem isLegible_draft : (v : Json) → v.draft.isLegible = true
  | .null => rfl
  | .bool _ => rfl
  | .number _ => rfl
  | .string _ => rfl
  | .array items => areLegible_draftItems items
  | .object members => membersLegible_draftMembers members

theorem areLegible_draftItems : (items : List Json) → Draft.areLegible (draftItems items) = true
  | [] => rfl
  | item :: items => by
    rw [draftItems, Draft.areLegible, isLegible_draft item, areLegible_draftItems items]
    rfl

theorem membersLegible_draftMembers :
    (members : List (String × Json)) → Draft.membersLegible (draftMembers members) = true
  | [] => rfl
  | (key, value) :: members => by
    rw [draftMembers, Draft.membersLegible, isLegible_draft value,
      membersLegible_draftMembers members]
    rfl

end

namespace Decoder

variable {α β : Type}

/-- The drafts decode to the same value or both to none. -/
def Agree (decode : Decoder α) (d d' : Draft) : Prop := ∀ a, decode d = .ok a ↔ decode d' = .ok a

theorem Agree.refl (decode : Decoder α) (d : Draft) : Agree decode d d := fun _ => Iff.rfl

theorem toOption_eq_some_iff {ε : Type} {e : Except ε α} {a : α} :
    e.toOption = some a ↔ e = .ok a := by
  cases e <;> simp [Except.toOption]

theorem Agree.toOption_eq {decode : Decoder α} {d d' : Draft} (h : Agree decode d d') :
    (decode d).toOption = (decode d').toOption :=
  Option.ext fun a => by rw [toOption_eq_some_iff, toOption_eq_some_iff, h a]

/-! ### Lists -/

/-- The items are decoded one by one, whatever their indices. -/
theorem items_eq_ok_iff {decode : Decoder α} {index : Nat} {ds : List Draft} {as : List α} :
    items decode index ds = .ok as ↔ List.Forall₂ (fun d a => decode d = .ok a) ds as := by
  induction ds generalizing index as with
  | nil => rw [items, List.forall₂_nil_left_iff, Except.ok.injEq, eq_comm]
  | cons d ds ih =>
    rw [items, List.forall₂_cons_left_iff]
    cases hd : decode d with
    | error p => simp
    | ok a =>
      cases hds : items decode (index + 1) ds with
      | error p =>
        have hnone : ∀ bs, ¬ List.Forall₂ (fun d a => decode d = .ok a) ds bs := by
          intro bs hbs
          have hback : items decode (index + 1) ds = .ok bs := ih.mpr hbs
          rw [hds] at hback
          cases hback
        simp [Except.map, hnone]
      | ok bs =>
        have hbs := ih.mp hds
        simp only [Except.map, Except.ok.injEq]
        constructor
        · rintro rfl
          exact ⟨a, bs, rfl, hbs, rfl⟩
        · rintro ⟨a', bs', rfl, hbs', rfl⟩
          have heq := hds.symm.trans (ih.mpr hbs')
          rw [Except.ok.inj heq]

theorem list_eq_ok_iff {decode : Decoder α} {ds : List Draft} {as : List α} :
    list decode (.array ds) = .ok as ↔ List.Forall₂ (fun d a => decode d = .ok a) ds as :=
  items_eq_ok_iff

/-- A list of encoded values decodes to these values, if each of them does. -/
theorem list_map {decode : Decoder α} {encode : α → Json}
    (h : ∀ a, decode (encode a).draft = .ok a) (as : List α) :
    list decode (Json.array (as.map encode)).draft = .ok as := by
  rw [draft, draftItems_eq_map, list_eq_ok_iff, List.map_map, List.forall₂_map_left_iff]
  exact List.forall₂_same.mpr fun a _ => h a

/-- A list agrees with one that has another draft in the place of an item. -/
theorem agree_list {decode : Decoder α} {d d' : Draft} (h : Agree decode d d')
    (before after : List Draft) :
    Agree (list decode) (.array (before ++ d :: after)) (.array (before ++ d' :: after)) := by
  intro as
  rw [list_eq_ok_iff, list_eq_ok_iff]
  induction before generalizing as with
  | nil => simp only [List.nil_append, List.forall₂_cons_left_iff, h _]
  | cons b before ih => simp only [List.cons_append, List.forall₂_cons_left_iff, ih]

/-! ### Slots -/

/-- What the members of an object hold under a key first. -/
def member? (key : String) (ms : List (Option String × Draft)) : Option Draft :=
  (ms.find? (·.1 = some key)).map (·.2)

/-- A field by itself. -/
structure Slot where
  name : String
  {Value : Type}
  decode : Decoder Value
  absent : Option Value
  short : Option Value

/-- What the field finds in the members of an object. -/
def Slot.inMembers? (s : Slot) (ms : List (Option String × Draft)) : Option s.Value :=
  match member? s.name ms with
  | some d => (s.decode d).toOption
  | none => s.absent

/-- What the field finds at its place in the items of an array. -/
def Slot.inItems? (s : Slot) (ds : List Draft) (index : Nat) : Option s.Value :=
  match ds[index]? with
  | some d => (s.decode d).toOption
  | none => s.short

/-- The fields are those of the slots, in their order. -/
inductive Made : {α : Type} → Fields α → List Slot → Prop
  | pure {α : Type} (a : α) : Made (Fields.pure a) []
  | and {α β : Type} {fs : Fields (α → β)} {slots : List Slot} {name : String}
      {decode : Decoder α} {absent short : Option α} :
      Made fs slots →
      Made (fs.and name decode absent short) (slots ++ [⟨name, decode, absent, short⟩])

theorem Made.names_eq {fs : Fields α} {slots : List Slot} (h : Made fs slots) :
    fs.names = slots.map (·.name) := by
  induction h with
  | pure => rfl
  | and _ ih => rw [Fields.and, ih, List.map_append, List.map_singleton]

theorem both_eq_ok_iff {f : Placed (α → β)} {x : Placed α} {b : β} :
    f.both x = .ok b ↔ ∃ g a, f = .ok g ∧ x = .ok a ∧ g a = b := by
  cases f <;> cases x <;> simp [Placed.both]

theorem lookup?_eq_member? (key : String) (place : Nat) (ms : List (Option String × Draft)) :
    (Fields.lookup? key place ms).map (·.2) = member? key ms := by
  induction ms generalizing place with
  | nil => rfl
  | cons m ms ih =>
    obtain ⟨k, d⟩ := m
    rw [Fields.lookup?, member?, List.find?_cons]
    by_cases h : k = some key
    · simp [h]
    · simpa [h, member?] using ih (place + 1)

section

variable {fs : Fields (α → β)} {name : String} {decode : Decoder α} {absent short : Option α}
  {ms : List (Option String × Draft)} {ds : List Draft} {record : String} {size index : Nat}

theorem one_members_eq_ok_iff {a : α} :
    (Fields.one name decode absent short).read (.members ms) index = .ok a ↔
      (Slot.mk name decode absent short).inMembers? ms = some a := by
  have hmember := lookup?_eq_member? name 0 ms
  rw [Slot.inMembers?]
  simp only [Fields.one]
  cases hlookup : Fields.lookup? name 0 ms with
  | none =>
    rw [hlookup, Option.map_none] at hmember
    rw [← hmember]
    cases absent <;> simp
  | some found =>
    obtain ⟨place, d⟩ := found
    rw [hlookup, Option.map_some] at hmember
    rw [← hmember]
    cases hd : decode d <;> simp [hd, Except.toOption]

theorem one_items_eq_ok_iff {a : α} :
    (Fields.one name decode absent short).read (.items ds record size) index = .ok a ↔
      (Slot.mk name decode absent short).inItems? ds index = some a := by
  rw [Slot.inItems?]
  simp only [Fields.one]
  cases ds[index]? with
  | none => cases short <;> simp
  | some d => cases hd : decode d <;> simp [hd, Except.toOption]

/-- Fields are read from an object slot by slot. -/
theorem and_members_eq_ok_iff {b : β} :
    (fs.and name decode absent short).read (.members ms) index = .ok b ↔
      ∃ f a, fs.read (.members ms) index = .ok f ∧
        (Slot.mk name decode absent short).inMembers? ms = some a ∧ f a = b := by
  simp only [Fields.and, both_eq_ok_iff, one_members_eq_ok_iff]

/-- One more field is read from an object that has a member for it. -/
theorem and_of_member {f : α → β} {a : α} {d : Draft}
    (hf : fs.read (.members ms) index = .ok f) (hd : member? name ms = some d)
    (ha : decode d = .ok a) :
    (fs.and name decode absent short).read (.members ms) index = .ok (f a) := by
  refine and_members_eq_ok_iff.mpr ⟨f, a, hf, ?_, rfl⟩
  rw [Slot.inMembers?]
  simp only [hd, ha, Except.toOption]

/-- One more field is read from an object that lacks it. -/
theorem and_of_absent {f : α → β} {a : α} (hf : fs.read (.members ms) index = .ok f)
    (hd : member? name ms = none) :
    (fs.and name decode (some a) short).read (.members ms) index = .ok (f a) := by
  refine and_members_eq_ok_iff.mpr ⟨f, a, hf, ?_, rfl⟩
  rw [Slot.inMembers?]
  simp only [hd]

theorem and_items_eq_ok_iff {b : β} :
    (fs.and name decode absent short).read (.items ds record size) index = .ok b ↔
      ∃ f a, fs.read (.items ds record size) index = .ok f ∧
        (Slot.mk name decode absent short).inItems? ds (index + fs.names.length) = some a ∧
        f a = b := by
  simp only [Fields.and, both_eq_ok_iff, one_items_eq_ok_iff]

end

/-- Fields whose slots find the same are read alike from two objects. -/
theorem Made.members_congr {fs : Fields α} {slots : List Slot} (h : Made fs slots)
    {ms ms' : List (Option String × Draft)}
    (hslots : ∀ s ∈ slots, s.inMembers? ms = s.inMembers? ms') (index : Nat) (a : α) :
    fs.read (.members ms) index = .ok a ↔ fs.read (.members ms') index = .ok a := by
  induction h with
  | pure => exact Iff.rfl
  | and _ ih =>
    have hlast := hslots _ (List.mem_append_right _ List.mem_cons_self)
    have hfront := ih fun s hs => hslots s (List.mem_append_left _ hs)
    simp only [and_members_eq_ok_iff, hfront, hlast]

/-- Fields whose slots find the same, each at its own place, are read alike from two arrays. -/
theorem Made.items_congr {fs : Fields α} {slots : List Slot} (h : Made fs slots)
    {ds ds' : List Draft}
    (hslots : ∀ (i : Nat) (s : Slot), slots[i]? = some s → s.inItems? ds i = s.inItems? ds' i)
    (record : String) (size : Nat) (a : α) :
    fs.read (.items ds record size) 0 = .ok a ↔ fs.read (.items ds' record size) 0 = .ok a := by
  induction h with
  | pure => exact Iff.rfl
  | @and _ _ fs slots name decode absent short hmade ih =>
    have hlength : 0 + fs.names.length = slots.length := by
      rw [Nat.zero_add, hmade.names_eq, List.length_map]
    have hlast : (Slot.mk name decode absent short).inItems? ds slots.length =
        (Slot.mk name decode absent short).inItems? ds' slots.length :=
      hslots _ _ (by simp)
    have hfront := ih fun i s hs => hslots i s (by
      rw [List.getElem?_append_left (List.getElem?_eq_some_iff.mp hs).1, hs])
    simp only [and_items_eq_ok_iff, hlength, hlast, hfront]

/-! ### Records -/

theorem record_object_eq_ok_iff {name : String} {fs : Fields α}
    {ms : List (Option String × Draft)} {a : α} :
    record name fs (.object ms) = .ok a ↔
      memberProblem? fs.names [] 0 ms = none ∧ fs.read (.members ms) 0 = .ok a := by
  rw [record]
  cases memberProblem? fs.names [] 0 ms <;> cases fs.read (.members ms) 0 <;> simp

theorem record_array_eq_ok_iff {name : String} {fs : Fields α} {ds : List Draft} {a : α} :
    record name fs (.array ds) = .ok a ↔
      fs.read (.items ds name fs.names.length) 0 = .ok a ∧ ds.length ≤ fs.names.length := by
  rw [record]
  cases fs.read (.items ds name fs.names.length) 0 with
  | error e => simp
  | ok b =>
    by_cases hlong : fs.names.length < ds.length
    · simp [hlong]
    · simp [hlong, Nat.not_lt.mp hlong]

/-- A record agrees between objects that have both no member out of place or both one, if the slots
find the same in them. -/
theorem agree_record_of_members {fs : Fields α} {slots : List Slot} (h : Made fs slots)
    {ms ms' : List (Option String × Draft)}
    (hkeys : memberProblem? fs.names [] 0 ms = none ↔ memberProblem? fs.names [] 0 ms' = none)
    (hslots : memberProblem? fs.names [] 0 ms = none →
      ∀ s ∈ slots, s.inMembers? ms = s.inMembers? ms') (name : String) :
    Agree (record name fs) (.object ms) (.object ms') := by
  intro a
  rw [record_object_eq_ok_iff, record_object_eq_ok_iff, ← hkeys]
  exact and_congr_right fun hms => h.members_congr (hslots hms) 0 a

/-- A record agrees between arrays of one length whose slots find the same. -/
theorem agree_record_of_items {fs : Fields α} {slots : List Slot} (h : Made fs slots)
    {ds ds' : List Draft} (hlength : ds.length = ds'.length)
    (hslots : ∀ (i : Nat) (s : Slot), slots[i]? = some s → s.inItems? ds i = s.inItems? ds' i)
    (name : String) : Agree (record name fs) (.array ds) (.array ds') := by
  intro a
  rw [record_array_eq_ok_iff, record_array_eq_ok_iff, hlength, h.items_congr hslots]

/-! ### Members of values -/

section

variable {names : List String} {key : String} {value : Json} {before after : List (String × Json)}

/-- The keys of members that the record names. -/
def namedKeys (names : List String) (ms : List (String × Json)) : List String :=
  (ms.map (·.1)).filter fun k => decide (k ∈ names)

theorem namedKeys_append (ms ms' : List (String × Json)) :
    namedKeys names (ms ++ ms') = namedKeys names ms ++ namedKeys names ms' := by
  simp [namedKeys]

theorem namedKeys_cons (ms : List (String × Json)) :
    namedKeys names ((key, value) :: ms) =
      if key ∈ names then key :: namedKeys names ms else namedKeys names ms := by
  by_cases h : key ∈ names <;> simp [namedKeys, h]

/-- A value that is known in full has no member out of place exactly when its keys that the record
names differ from each other. -/
theorem memberProblem?_eq_none_iff {seen : List String} {place : Nat}
    {ms : List (String × Json)} :
    memberProblem? names seen place (draftMembers ms) = none ↔
      (namedKeys names ms).Nodup ∧ ∀ k ∈ namedKeys names ms, k ∉ seen := by
  induction ms generalizing seen place with
  | nil => simp [draftMembers, memberProblem?, namedKeys]
  | cons m ms ih =>
    obtain ⟨k, v⟩ := m
    rw [draftMembers, memberProblem?, namedKeys_cons]
    by_cases hname : k ∈ names
    · rw [if_pos hname, if_pos hname, List.nodup_cons]
      by_cases hseen : k ∈ seen
      · simp [hseen]
      · rw [if_neg hseen, ih]
        grind
    · rw [if_neg hname, if_neg hname, isLegible_draft, if_pos rfl, ih]

/-- A member whose key is free may be put anywhere. -/
theorem memberProblem?_insert (hfree : ∀ m ∈ before ++ after, m.1 ≠ key) :
    memberProblem? names [] 0 (draftMembers (before ++ after)) = none ↔
      memberProblem? names [] 0 (draftMembers (before ++ (key, value) :: after)) = none := by
  have hnew : key ∉ namedKeys names (before ++ after) := by
    intro hkey
    obtain ⟨m, hm, rfl⟩ := List.mem_map.mp (List.mem_filter.mp hkey).1
    exact hfree m hm rfl
  have hkeys : (namedKeys names (before ++ after)).Nodup ↔
      (namedKeys names (before ++ (key, value) :: after)).Nodup := by
    rw [namedKeys_append] at hnew ⊢
    rw [namedKeys_append, namedKeys_cons]
    split
    · rw [List.nodup_middle, List.nodup_cons, and_iff_right hnew]
    · rfl
  simp only [memberProblem?_eq_none_iff, hkeys, List.not_mem_nil, not_false_eq_true, implies_true,
    and_true]

theorem memberProblem?_replace {value' : Json} :
    memberProblem? names [] 0 (draftMembers (before ++ (key, value) :: after)) = none ↔
      memberProblem? names [] 0 (draftMembers (before ++ (key, value') :: after)) = none := by
  simp only [memberProblem?_eq_none_iff, namedKeys, List.map_append, List.map_cons]

/-- Members out of place stay out of place in any order. -/
theorem memberProblem?_perm {ms ms' : List (String × Json)} (h : ms.Perm ms') :
    memberProblem? names [] 0 (draftMembers ms) = none ↔
      memberProblem? names [] 0 (draftMembers ms') = none := by
  have hkeys : (namedKeys names ms).Perm (namedKeys names ms') := (h.map _).filter _
  simp only [memberProblem?_eq_none_iff, hkeys.nodup_iff, List.not_mem_nil, not_false_eq_true,
    implies_true, and_true]

theorem member?_cons {name : String} {ms : List (String × Json)} :
    member? name (draftMembers ((key, value) :: ms)) =
      if key = name then some value.draft else member? name (draftMembers ms) := by
  by_cases h : key = name
  · simp [member?, draftMembers, h]
  · simp [member?, draftMembers, h]

/-- What stands in front decides, unless it lacks the key. -/
theorem member?_append {name : String} {ms ms' : List (String × Json)} :
    member? name (draftMembers (ms ++ ms')) =
      (member? name (draftMembers ms)).or (member? name (draftMembers ms')) := by
  induction ms with
  | nil => rfl
  | cons m ms ih =>
    obtain ⟨k, v⟩ := m
    rw [List.cons_append, member?_cons, member?_cons, ih]
    split
    · rfl
    · rfl

theorem member?_eq_none {name : String} {ms : List (String × Json)} (h : ∀ m ∈ ms, m.1 ≠ name) :
    member? name (draftMembers ms) = none := by
  induction ms with
  | nil => rfl
  | cons m ms ih =>
    obtain ⟨k, v⟩ := m
    rw [member?_cons, if_neg (h _ List.mem_cons_self),
      ih fun m hm => h m (List.mem_cons_of_mem _ hm)]

/-- The order of members does not matter for a key that stands there once at most. -/
theorem member?_perm {name : String} {ms ms' : List (String × Json)} (h : ms.Perm ms')
    (hname : name ∈ names) (hkeys : (namedKeys names ms).Nodup) :
    member? name (draftMembers ms) = member? name (draftMembers ms') := by
  induction h with
  | nil => rfl
  | @cons m ms _ _ ih =>
    obtain ⟨k, v⟩ := m
    have htail : (namedKeys names ms).Nodup := by
      rw [namedKeys_cons] at hkeys
      split at hkeys
      · exact hkeys.of_cons
      · exact hkeys
    rw [member?_cons, member?_cons, ih htail]
  | swap m m' ms =>
    obtain ⟨k, v⟩ := m
    obtain ⟨k', v'⟩ := m'
    simp only [member?_cons]
    by_cases hk : k = name
    · by_cases hk' : k' = name
      · subst hk hk'
        simp [namedKeys_cons, hname] at hkeys
      · simp only [hk, hk', if_true, if_false]
    · simp only [hk, if_false]
  | @trans ms ms' _ h _ ih ih' =>
    have hperm : (namedKeys names ms).Perm (namedKeys names ms') := (h.map _).filter _
    rw [ih hkeys, ih' (hperm.nodup_iff.mp hkeys)]

/-- A slot finds the same when a member with its default comes in. -/
theorem Slot.inMembers?_insert {s : Slot} (hfree : ∀ m ∈ before ++ after, m.1 ≠ key)
    (h : s.name = key → s.absent = (s.decode value.draft).toOption) :
    s.inMembers? (draftMembers (before ++ after)) =
      s.inMembers? (draftMembers (before ++ (key, value) :: after)) := by
  have hbefore : ∀ m ∈ before, m.1 ≠ key := fun m hm => hfree m (List.mem_append_left _ hm)
  by_cases hname : s.name = key
  · have hnone : member? s.name (draftMembers (before ++ after)) = none :=
      member?_eq_none (hname ▸ hfree)
    have hsome : member? s.name (draftMembers (before ++ (key, value) :: after)) =
        some value.draft := by
      rw [member?_append, member?_eq_none (hname ▸ hbefore), member?_cons, if_pos hname.symm]
      rfl
    rw [inMembers?, inMembers?, hnone, hsome]
    exact h hname
  · rw [inMembers?, inMembers?, member?_append, member?_append, member?_cons,
      if_neg (Ne.symm hname)]

/-- A slot finds the same when the draft of its member agrees. -/
theorem Slot.inMembers?_replace {s : Slot} {value' : Json}
    (h : s.name = key → Agree s.decode value.draft value'.draft) :
    s.inMembers? (draftMembers (before ++ (key, value) :: after)) =
      s.inMembers? (draftMembers (before ++ (key, value') :: after)) := by
  rw [inMembers?, inMembers?, member?_append, member?_append, member?_cons, member?_cons]
  by_cases hname : s.name = key
  · rw [if_pos hname.symm, if_pos hname.symm]
    cases member? s.name (draftMembers before) with
    | none => exact (h hname).toOption_eq
    | some d => rfl
  · rw [if_neg (Ne.symm hname), if_neg (Ne.symm hname)]

end

/-- A slot finds the same when the draft at its place agrees. -/
theorem Slot.inItems?_replace {s : Slot} {d d' : Draft} {before after : List Draft} {index : Nat}
    (h : index = before.length → Agree s.decode d d') :
    s.inItems? (before ++ d :: after) index = s.inItems? (before ++ d' :: after) index := by
  rw [inItems?, inItems?]
  by_cases hplace : index = before.length
  · subst hplace
    simp only [List.getElem?_append_right (Nat.le_refl _), Nat.sub_self, List.getElem?_cons_zero]
    exact (h rfl).toOption_eq
  · have hsame : (before ++ d :: after)[index]? = (before ++ d' :: after)[index]? := by
      grind
    rw [hsame]

end Decoder
end PolicyAudit.Json
