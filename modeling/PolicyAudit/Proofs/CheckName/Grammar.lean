import PolicyAudit.CheckName

/-! # The form of an identifier

A vendor's identifier has a colon, behind it a hyphen, and behind that another colon.  The first of
each kind cut the identifier into four parts (`Decomposes`), of which the third, between the hyphen
and the second colon, is the segment with the name.  `NameOf` says which name a segment has: what
stands in front of the revision at its end, or the whole segment if it does not end with a revision.

An identifier has one decomposition at most and a segment one name (`Decomposes.unique`,
`nameOf_iff`), and these are what `segment?` and `dropRevision` find (`segment?_eq_some_iff`).
`Names` puts the two together, and `ofIdentifier` is decided by it (`ofIdentifier_eq_ok_iff`). -/

namespace PolicyAudit.CheckName

/-! ### Decompositions -/

/-- The parts of an identifier: in front of its first colon, from there to the next hyphen, from
there to the next colon, and behind that. -/
structure Decomposes (identifier front space segment back : List Char) : Prop where
  parts : identifier = front ++ ':' :: (space ++ '-' :: (segment ++ ':' :: back))
  front_colon : ':' ∉ front
  space_hyphen : '-' ∉ space
  segment_colon : ':' ∉ segment
  segment_line : '\n' ∉ segment
  back_line : '\n' ∉ back

/-- The segment in front of the first colon, if neither the segment nor what follows the colon has
a line feed. -/
def leadingSegment? (cs : List Char) : Option (List Char) :=
  (cut? ':' cs).bind fun cut => if '\n' ∈ cut.1 ∨ '\n' ∈ cut.2 then none else some cut.1

theorem segment?_eq (identifier : List Char) :
    segment? identifier = (cut? ':' identifier).bind fun atColon =>
      (cut? '-' atColon.2).bind fun atHyphen => leadingSegment? atHyphen.2 := rfl

theorem leadingSegment?_eq_some_iff {cs segment : List Char} :
    leadingSegment? cs = some segment ↔
      ∃ back, cs = segment ++ ':' :: back ∧ ':' ∉ segment ∧ '\n' ∉ segment ∧ '\n' ∉ back := by
  simp only [leadingSegment?, Option.bind_eq_some_iff, Prod.exists]
  constructor
  · rintro ⟨segment', back, hcut, hlines⟩
    obtain ⟨hparts, hcolon⟩ := cut?_eq_some_iff.mp hcut
    split at hlines
    · cases hlines
    · next hline =>
      obtain rfl := Option.some.inj hlines
      exact ⟨back, hparts, hcolon, not_or.mp hline⟩
  · rintro ⟨back, hparts, hcolon, hlines⟩
    exact ⟨segment, back, cut?_eq_some_iff.mpr ⟨hparts, hcolon⟩, if_neg (not_or.mpr hlines)⟩

theorem leadingSegment?_of_newline {cs : List Char} (h : '\n' ∈ cs) :
    leadingSegment? cs = none := by
  cases hsegment : leadingSegment? cs with
  | none => rfl
  | some segment =>
    obtain ⟨back, rfl, -, hline, hline'⟩ := leadingSegment?_eq_some_iff.mp hsegment
    simp [hline, hline'] at h

theorem leadingSegment?_cons {c : Char} (hcolon : c ≠ ':') (hline : c ≠ '\n') (cs : List Char) :
    leadingSegment? (c :: cs) = (leadingSegment? cs).map (c :: ·) := by
  simp only [leadingSegment?, cut?, if_neg hcolon, Option.bind_map, Option.map_bind]
  congr 1
  funext cut
  simp only [Function.comp_apply, List.mem_cons, Ne.symm hline, false_or]
  split <;> rfl

theorem segment?_eq_some_iff {identifier segment : List Char} :
    segment? identifier = some segment ↔
      ∃ front space back, Decomposes identifier front space segment back := by
  simp only [segment?_eq, Option.bind_eq_some_iff, Prod.exists, leadingSegment?_eq_some_iff]
  constructor
  · rintro ⟨front, rest, hfront, space, rest', hspace, back, hback, hsegment, hline, hline'⟩
    obtain ⟨hparts, hcolon⟩ := cut?_eq_some_iff.mp hfront
    obtain ⟨hparts', hhyphen⟩ := cut?_eq_some_iff.mp hspace
    subst hback hparts'
    exact ⟨front, space, back, hparts, hcolon, hhyphen, hsegment, hline, hline'⟩
  · rintro ⟨front, space, back, h⟩
    exact ⟨front, _, cut?_eq_some_iff.mpr ⟨h.parts, h.front_colon⟩, space, _,
      cut?_eq_some_iff.mpr ⟨rfl, h.space_hyphen⟩, back, rfl, h.segment_colon, h.segment_line,
      h.back_line⟩

/-- There is one way to cut at the first occurrence. -/
theorem cut_unique {c : Char} {front back front' back' : List Char}
    (h : front ++ c :: back = front' ++ c :: back') (hfront : c ∉ front) (hfront' : c ∉ front') :
    front = front' ∧ back = back' := by
  have hcut : cut? c (front ++ c :: back) = some (front, back) :=
    cut?_eq_some_iff.mpr ⟨rfl, hfront⟩
  rw [cut?_eq_some_iff.mpr ⟨h, hfront'⟩] at hcut
  simpa [eq_comm] using hcut

/-- An identifier has one decomposition at most. -/
theorem Decomposes.unique {identifier f n s b f' n' s' b' : List Char}
    (h : Decomposes identifier f n s b) (h' : Decomposes identifier f' n' s' b') :
    f = f' ∧ n = n' ∧ s = s' ∧ b = b' := by
  have hparts := h.parts.symm.trans h'.parts
  obtain ⟨hfront, hrest⟩ := cut_unique hparts h.front_colon h'.front_colon
  obtain ⟨hspace, hrest'⟩ := cut_unique hrest h.space_hyphen h'.space_hyphen
  obtain ⟨hsegment, hback⟩ := cut_unique hrest' h.segment_colon h'.segment_colon
  exact ⟨hfront, hspace, hsegment, hback⟩

/-! ### Revisions -/

/-- A hyphen and decimal digits, at least one. -/
def IsRevision (cs : List Char) : Prop :=
  ∃ digits, cs = '-' :: digits ∧ digits ≠ [] ∧ ∀ c ∈ digits, Text.isDecimalDigit c = true

/-- The name that a segment holds: the segment without the revision at its end, or the segment
itself if it does not end with a revision. -/
def NameOf (segment name : List Char) : Prop :=
  (∃ revision, IsRevision revision ∧ segment = name ++ revision) ∨
    (name = segment ∧ ∀ front revision, IsRevision revision → segment ≠ front ++ revision)

theorem IsRevision.not_mem {revision : List Char} (h : IsRevision revision) {c : Char}
    (hhyphen : c ≠ '-') (hdigit : Text.isDecimalDigit c = false) : c ∉ revision := by
  obtain ⟨digits, rfl, -, hdigits⟩ := h
  intro hmem
  rcases List.mem_cons.mp hmem with hc | hc
  · exact hhyphen hc
  · simp [hdigits c hc] at hdigit

theorem dropRevision_append {revision : List Char} (h : IsRevision revision) (front : List Char) :
    dropRevision (front ++ revision) = front := by
  obtain ⟨digits, rfl, hne, hdigits⟩ := h
  have hreverse : (front ++ '-' :: digits).reverse = digits.reverse ++ '-' :: front.reverse := by
    simp
  have htake : (digits.reverse ++ '-' :: front.reverse).takeWhile Text.isDecimalDigit =
      digits.reverse := by
    rw [List.takeWhile_append_of_pos fun c hc => hdigits c (List.mem_reverse.mp hc),
      List.takeWhile_cons_of_neg (by simp [Text.isDecimalDigit_hyphen]), List.append_nil]
  rw [dropRevision, hreverse, htake, List.drop_left]
  simp [hne]

theorem dropRevision_eq_self {segment : List Char}
    (h : ∀ front revision, IsRevision revision → segment ≠ front ++ revision) :
    dropRevision segment = segment := by
  simp only [dropRevision]
  generalize hdigits : segment.reverse.takeWhile Text.isDecimalDigit = digits
  split
  · next front hfront =>
    split
    · rfl
    · next hne =>
      have hreverse : segment.reverse = digits ++ '-' :: front := by
        have hprefix : digits <+: segment.reverse := hdigits ▸ List.takeWhile_prefix _
        rw [← hfront, List.prefix_iff_eq_append.mp hprefix]
      have hsegment : segment = front.reverse ++ '-' :: digits.reverse := by
        rw [← List.reverse_reverse segment, hreverse]
        simp
      have hall : ∀ c ∈ digits, Text.isDecimalDigit c = true :=
        List.all_eq_true.mp (hdigits ▸ List.all_takeWhile)
      refine absurd hsegment (h _ _ ⟨_, rfl, ?_, fun c hc => hall c (List.mem_reverse.mp hc)⟩)
      simpa using hne
  · rfl

/-- A segment has one name, and `dropRevision` finds it. -/
theorem nameOf_iff {segment name : List Char} :
    NameOf segment name ↔ dropRevision segment = name := by
  constructor
  · rintro (⟨revision, hrevision, rfl⟩ | ⟨rfl, hnone⟩)
    · exact dropRevision_append hrevision name
    · exact dropRevision_eq_self hnone
  · rintro rfl
    by_cases h : ∃ front revision, IsRevision revision ∧ segment = front ++ revision
    · obtain ⟨front, revision, hrevision, rfl⟩ := h
      rw [dropRevision_append hrevision]
      exact .inl ⟨revision, hrevision, rfl⟩
    · have hnone : ∀ front revision, IsRevision revision → segment ≠ front ++ revision :=
        fun front revision hrevision heq => h ⟨front, revision, hrevision, heq⟩
      exact .inr ⟨dropRevision_eq_self hnone, hnone⟩

/-- A character in front of a segment belongs to the name, unless a revision begins with it. -/
theorem dropRevision_cons {c : Char} {segment : List Char} (h : ¬ IsRevision (c :: segment)) :
    dropRevision (c :: segment) = c :: dropRevision segment := by
  rw [← nameOf_iff]
  have hname : NameOf segment (dropRevision segment) := nameOf_iff.mpr rfl
  rcases hname with ⟨revision, hrevision, hsegment⟩ | ⟨hname, hnone⟩
  · exact .inl ⟨revision, hrevision, by rw [List.cons_append, ← hsegment]⟩
  · refine .inr ⟨by rw [hname], fun front revision hrevision heq => ?_⟩
    cases front with
    | nil => exact h (heq ▸ hrevision)
    | cons d front => exact hnone front revision hrevision (List.cons.inj heq).2

/-! ### Names in identifiers -/

/-- The name, perhaps empty, that an identifier of the form `Decomposes` holds. -/
def Names (identifier name : List Char) : Prop :=
  ∃ front space segment back, Decomposes identifier front space segment back ∧ NameOf segment name

theorem names_iff {identifier name : List Char} :
    Names identifier name ↔ (segment? identifier).map dropRevision = some name := by
  simp only [Names, nameOf_iff, Option.map_eq_some_iff, segment?_eq_some_iff]
  constructor
  · rintro ⟨front, space, segment, back, hparts, hname⟩
    exact ⟨segment, ⟨front, space, back, hparts⟩, hname⟩
  · rintro ⟨segment, ⟨front, space, back, hparts⟩, hname⟩
    exact ⟨front, space, segment, back, hparts, hname⟩

theorem Names.unique {identifier name name' : List Char} (h : Names identifier name)
    (h' : Names identifier name') : name = name' :=
  Option.some.inj ((names_iff.mp h).symm.trans (names_iff.mp h'))

theorem Names.text_ne_empty {identifier : String} {name : List Char}
    (h : Names identifier.toList name) : identifier ≠ "" := by
  rintro rfl
  obtain ⟨front, space, segment, back, hparts, -⟩ := h
  simpa using hparts.parts

/-- The three answers to an identifier, each with the form that the trimmed identifier has. -/
theorem ofIdentifier_cases (raw : String) :
    (Text.trim raw = "" ∧ ofIdentifier raw = .error .missing) ∨
    (∃ name, name ≠ "" ∧ Names (Text.trim raw).toList name.toList ∧ ofIdentifier raw = .ok name) ∨
    (Text.trim raw ≠ "" ∧ (∀ name, Names (Text.trim raw).toList name → name = []) ∧
      ofIdentifier raw = .error (.malformed (Text.trim raw))) := by
  by_cases hempty : Text.trim raw = ""
  · exact .inl ⟨hempty, by simp [ofIdentifier, hempty]⟩
  · simp only [names_iff]
    match hname : (segment? (Text.trim raw).toList).map dropRevision with
    | none =>
      exact .inr (.inr ⟨hempty, by simp, by simp only [ofIdentifier, hempty, hname, if_false]⟩)
    | some [] =>
      exact .inr (.inr ⟨hempty, by simp, by simp only [ofIdentifier, hempty, hname, if_false]⟩)
    | some (c :: cs) =>
      refine .inr (.inl ⟨String.ofList (c :: cs), ?_, by rw [String.toList_ofList], ?_⟩)
      · simp
      · simp only [ofIdentifier, hempty, hname, if_false]

theorem ofIdentifier_eq_missing_iff {raw : String} :
    ofIdentifier raw = .error .missing ↔ Text.trim raw = "" := by
  rcases ofIdentifier_cases raw with ⟨hempty, h⟩ | ⟨name, -, hnames, h⟩ | ⟨hempty, -, h⟩
  · simp [h, hempty]
  · simp [h, hnames.text_ne_empty]
  · simp [h, hempty]

theorem ofIdentifier_eq_ok_iff {raw name : String} :
    ofIdentifier raw = .ok name ↔ name ≠ "" ∧ Names (Text.trim raw).toList name.toList := by
  constructor
  · intro hok
    rcases ofIdentifier_cases raw with ⟨-, h⟩ | ⟨name', hne, hnames, h⟩ | ⟨-, -, h⟩
    · cases hok.symm.trans h
    · cases hok.symm.trans h
      exact ⟨hne, hnames⟩
    · cases hok.symm.trans h
  · rintro ⟨hne, hnames⟩
    rcases ofIdentifier_cases raw with ⟨hempty, -⟩ | ⟨name', -, hnames', h⟩ | ⟨-, hnil, -⟩
    · exact absurd hempty hnames.text_ne_empty
    · rw [h, String.toList_injective (hnames'.unique hnames)]
    · exact absurd (String.toList_eq_nil_iff.mp (hnil _ hnames)) hne

theorem ofIdentifier_eq_malformed_iff {raw identifier : String} :
    ofIdentifier raw = .error (.malformed identifier) ↔
      identifier = Text.trim raw ∧ Text.trim raw ≠ "" ∧
        ∀ name, Names (Text.trim raw).toList name → name = [] := by
  constructor
  · intro hmalformed
    rcases ofIdentifier_cases raw with ⟨-, h⟩ | ⟨name, -, -, h⟩ | ⟨hempty, hnil, h⟩
    · cases hmalformed.symm.trans h
    · cases hmalformed.symm.trans h
    · cases hmalformed.symm.trans h
      exact ⟨rfl, hempty, hnil⟩
  · rintro ⟨rfl, hempty, hnil⟩
    rcases ofIdentifier_cases raw with ⟨hempty', -⟩ | ⟨name, hne, hnames, -⟩ | ⟨-, -, h⟩
    · exact absurd hempty' hempty
    · exact absurd (String.toList_eq_nil_iff.mp (hnil _ hnames)) hne
    · exact h

end PolicyAudit.CheckName
