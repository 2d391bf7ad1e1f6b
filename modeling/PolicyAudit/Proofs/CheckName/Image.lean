import PolicyAudit.Proofs.CheckName.Grammar

/-! # The names that identifiers have

A name of an identifier is not empty and has neither a colon nor a line feed, because its segment
ends at a colon and stays on one line (`Names.colon_not_mem`, `Names.newline_not_mem`).  Every other
text is the name of the identifier that `identifierOf` writes for it.  The revision at the end of
that identifier is the one that a name loses, and so a name that ends like a revision itself, or
begins or ends with blanks, is kept.

Without a colon a text is no identifier, and in particular no name is (`ofIdentifier_image`). -/

namespace PolicyAudit.CheckName

/-! ### Names have no colon -/

theorem NameOf.mem_segment {segment name : List Char} (h : NameOf segment name) {c : Char}
    (hc : c ∈ name) : c ∈ segment := by
  rcases h with ⟨revision, -, rfl⟩ | ⟨rfl, -⟩
  · exact List.mem_append_left _ hc
  · exact hc

theorem Names.colon_not_mem {identifier name : List Char} (h : Names identifier name) :
    ':' ∉ name := by
  obtain ⟨front, space, segment, back, hparts, hname⟩ := h
  exact fun hmem => hparts.segment_colon (hname.mem_segment hmem)

theorem Names.newline_not_mem {identifier name : List Char} (h : Names identifier name) :
    '\n' ∉ name := by
  obtain ⟨front, space, segment, back, hparts, hname⟩ := h
  exact fun hmem => hparts.segment_line (hname.mem_segment hmem)

theorem Names.colon_mem {identifier name : List Char} (h : Names identifier name) :
    ':' ∈ identifier := by
  obtain ⟨front, space, segment, back, hparts, -⟩ := h
  rw [hparts.parts]
  exact List.mem_append_right _ List.mem_cons_self

/-- A name is a part of its identifier. -/
theorem Names.mem {identifier name : List Char} (h : Names identifier name) {c : Char}
    (hc : c ∈ name) : c ∈ identifier := by
  obtain ⟨front, space, segment, back, hparts, hname⟩ := h
  rw [hparts.parts]
  simp [hname.mem_segment hc]

theorem mem_of_ofIdentifier_eq_ok {raw name : String} (h : ofIdentifier raw = .ok name) {c : Char}
    (hc : c ∈ name.toList) : c ∈ raw.toList :=
  Text.mem_of_mem_trim ((ofIdentifier_eq_ok_iff.mp h).2.mem hc)

/-! ### Identifiers for names -/

/-- An identifier that has the name. -/
def identifierOf (name : String) : String := "oval:ssg-" ++ name ++ "-1:def:1"

theorem toList_identifierOf (name : String) :
    (identifierOf name).toList = "oval:ssg-".toList ++ name.toList ++ "-1:def:1".toList := by
  simp only [identifierOf, String.toList_append]

theorem trim_identifierOf (name : String) : Text.trim (identifierOf name) = identifierOf name := by
  have htrim : Text.trimChars (identifierOf name).toList = (identifierOf name).toList := by
    apply Text.trimChars_eq_self
    · intro c hc
      rw [toList_identifierOf] at hc
      obtain rfl : 'o' = c := by simpa using hc
      decide
    · intro c hc
      rw [toList_identifierOf, List.getLast?_append] at hc
      obtain rfl : '1' = c := by simpa using hc
      decide
  rw [Text.trim, htrim, String.ofList_toList]

theorem decomposes_identifierOf {name : String} (hcolon : ':' ∉ name.toList)
    (hline : '\n' ∉ name.toList) :
    Decomposes (identifierOf name).toList "oval".toList "ssg".toList (name.toList ++ "-1".toList)
      "def:1".toList where
  parts := by
    rw [toList_identifierOf]
    simp
  front_colon := by decide
  space_hyphen := by decide
  segment_colon := by
    rw [List.mem_append, not_or]
    exact ⟨hcolon, by decide⟩
  segment_line := by
    rw [List.mem_append, not_or]
    exact ⟨hline, by decide⟩
  back_line := by decide

theorem names_identifierOf {name : String} (hcolon : ':' ∉ name.toList)
    (hline : '\n' ∉ name.toList) : Names (identifierOf name).toList name.toList := by
  have hrevision : IsRevision "-1".toList :=
    ⟨['1'], rfl, by decide, List.forall_mem_singleton.mpr (by decide)⟩
  exact ⟨_, _, _, _, decomposes_identifierOf hcolon hline, .inl ⟨_, hrevision, rfl⟩⟩

theorem ofIdentifier_identifierOf {name : String} (hne : name ≠ "") (hcolon : ':' ∉ name.toList)
    (hline : '\n' ∉ name.toList) : ofIdentifier (identifierOf name) = .ok name := by
  rw [ofIdentifier_eq_ok_iff, trim_identifierOf]
  exact ⟨hne, names_identifierOf hcolon hline⟩

/-- Some identifier has the name exactly if the name is not empty and has neither a colon nor a line
feed. -/
theorem exists_ofIdentifier_eq_ok_iff {name : String} :
    (∃ raw, ofIdentifier raw = .ok name) ↔
      name ≠ "" ∧ ':' ∉ name.toList ∧ '\n' ∉ name.toList := by
  constructor
  · rintro ⟨raw, hraw⟩
    obtain ⟨hne, hnames⟩ := ofIdentifier_eq_ok_iff.mp hraw
    exact ⟨hne, hnames.colon_not_mem, hnames.newline_not_mem⟩
  · rintro ⟨hne, hcolon, hline⟩
    exact ⟨identifierOf name, ofIdentifier_identifierOf hne hcolon hline⟩

/-! ### Names are no identifiers -/

/-- A text without a colon is refused. -/
theorem ofIdentifier_of_colon_not_mem {raw : String} (h : ':' ∉ raw.toList) :
    ofIdentifier raw =
      .error (if Text.trim raw = "" then .missing else .malformed (Text.trim raw)) := by
  by_cases hempty : Text.trim raw = ""
  · rw [if_pos hempty, ofIdentifier_eq_missing_iff]
    exact hempty
  · rw [if_neg hempty, ofIdentifier_eq_malformed_iff]
    refine ⟨rfl, hempty, fun name hnames => ?_⟩
    exact absurd (Text.mem_of_mem_trim hnames.colon_mem) h

/-- Which names there are, and that none of them is an identifier.  A text is the name of some
identifier exactly if it is not empty and has neither a colon nor a line feed.  Such a name has no
name itself: it is missing if it is blank, and otherwise it is malformed. -/
theorem ofIdentifier_image :
    (∀ name, (∃ raw, ofIdentifier raw = .ok name) ↔
      name ≠ "" ∧ ':' ∉ name.toList ∧ '\n' ∉ name.toList) ∧
    ∀ raw name, ofIdentifier raw = .ok name →
      (Text.trim name = "" ∧ ofIdentifier name = .error .missing) ∨
        (Text.trim name ≠ "" ∧ ofIdentifier name = .error (.malformed (Text.trim name))) := by
  refine ⟨fun name => exists_ofIdentifier_eq_ok_iff, fun raw name hraw => ?_⟩
  obtain ⟨-, hcolon, -⟩ := exists_ofIdentifier_eq_ok_iff.mp ⟨raw, hraw⟩
  have herror := ofIdentifier_of_colon_not_mem hcolon
  by_cases hblank : Text.trim name = ""
  · rw [if_pos hblank] at herror
    exact .inl ⟨hblank, herror⟩
  · rw [if_neg hblank] at herror
    exact .inr ⟨hblank, herror⟩

theorem ofIdentifier_image_sample :
    (∃ raw, ofIdentifier raw = .ok " sshd enabled-2-٣ ") ∧
    ofIdentifier "oval:ssg-\u2003-1:def:1" = .ok "\u2003" ∧
    ofIdentifier "\u2003" = .error .missing ∧
    ofIdentifier "oval:ssg-sshd-7 :def:1" = .ok "sshd-7 " ∧
    ofIdentifier "sshd-7 " = .error (.malformed "sshd-7") := by
  obtain ⟨hname, hagain⟩ := ofIdentifier_image
  have hblank : ofIdentifier "oval:ssg-\u2003-1:def:1" = .ok "\u2003" := by rfl
  have hsshd : ofIdentifier "oval:ssg-sshd-7 :def:1" = .ok "sshd-7 " := by rfl
  refine ⟨(hname _).mpr (by decide), hblank, ?_, hsshd, ?_⟩
  · exact ((hagain _ _ hblank).resolve_right fun h => h.1 (by decide)).2
  · exact ((hagain _ _ hsshd).resolve_left fun h => absurd h.1 (by decide)).2

end PolicyAudit.CheckName
