import PolicyAudit.Proofs.CheckName.Grammar

/-! # Identifiers as matches of a pattern

The form of an identifier can be written as a pattern with lazy and greedy runs, an optional part
and a group, `^[^:]*?:[^-]*?-(.*?)(?:-\d+)?:.*$`, and left to a matcher that backtracks.  Such a
matcher goes through the ways in which a text can begin with the pattern, in the order in which it
prefers them (`Pattern.ways`), and takes the group's text in the first of them
(`Pattern.captured?`).

Most identifiers have several ways with different texts in the group: a name with a revision also
matches without the optional part, and the group may run over colons.  The first way has the name
of the identifier all the same (`captured?_identifierPattern`), and so the matcher and the cuts of
`ofIdentifier` agree (`ofIdentifier_grammar`). -/

namespace PolicyAudit.CheckName

/-! ### Patterns and their matches -/

/-- The patterns of a matcher that backtracks. -/
inductive Pattern where
  | one (test : Char → Bool)
  /-- Characters that pass the test, as few as possible or as many. -/
  | run (test : Char → Bool) (greedy : Bool)
  /-- The pattern, or else nothing. -/
  | maybe (p : Pattern)
  | seq (p q : Pattern)
  /-- The pattern, with the text that matches it captured. -/
  | group (p : Pattern)
  | atEnd

/-- A way to match a pattern at the beginning of a text: the characters it takes, the ones that its
last group captures, and the rest of the text. -/
structure Match where
  taken : List Char
  captured : Option (List Char)
  rest : List Char

/-- The way `m` with one more character taken in front. -/
def Match.behind (c : Char) (m : Match) : Match := { m with taken := c :: m.taken }

theorem Match.captured_head?_map_behind (c : Char) (ms : List Match) :
    (ms.map (Match.behind c)).head?.bind Match.captured = ms.head?.bind Match.captured := by
  cases ms <;> rfl

/-- The ways to take characters that pass the test, the shortest first. -/
def splits (test : Char → Bool) : List Char → List (List Char × List Char)
  | [] => [([], [])]
  | c :: cs => ([], c :: cs) ::
      if test c then (splits test cs).map fun split => (c :: split.1, split.2) else []

/-- The ways to match the pattern, the preferred ones first. -/
def Pattern.ways : Pattern → List Char → List Match
  | one test, cs => match cs with
    | [] => []
    | c :: cs => if test c then [⟨[c], none, cs⟩] else []
  | run test greedy, cs =>
    let shortestFirst := (splits test cs).map fun split => ⟨split.1, none, split.2⟩
    if greedy then shortestFirst.reverse else shortestFirst
  | maybe p, cs => p.ways cs ++ [⟨[], none, cs⟩]
  | seq p q, cs => (p.ways cs).flatMap fun m => (q.ways m.rest).map fun m' =>
      ⟨m.taken ++ m'.taken, m'.captured.or m.captured, m'.rest⟩
  | group p, cs => (p.ways cs).map fun m => { m with captured := some m.taken }
  | atEnd, cs => if cs = [] then [⟨[], none, []⟩] else []

/-- What the group captures in the preferred way. -/
def Pattern.captured? (p : Pattern) (cs : List Char) : Option (List Char) :=
  (p.ways cs).head?.bind Match.captured

/-- Some way to match the pattern leaves `rest` over. -/
def Pattern.Leaves (p : Pattern) (cs rest : List Char) : Prop := ∃ m ∈ p.ways cs, m.rest = rest

/-! ### What patterns match -/

theorem mem_splits_iff {test : Char → Bool} {cs front back : List Char} :
    (front, back) ∈ splits test cs ↔ cs = front ++ back ∧ ∀ c ∈ front, test c = true := by
  induction cs generalizing front back with
  | nil =>
    rw [splits, List.mem_singleton, Prod.mk.injEq, eq_comm (a := ([] : List Char)),
      List.append_eq_nil_iff]
    constructor
    · rintro ⟨rfl, rfl⟩
      exact ⟨⟨rfl, rfl⟩, by simp⟩
    · exact And.left
  | cons d ds ih =>
    rw [splits, List.mem_cons, Prod.mk.injEq]
    cases front with
    | nil =>
      have hlater : ([], back) ∉ (splits test ds).map fun split => (d :: split.1, split.2) := by
        simp
      split <;> simp [hlater, eq_comm (a := back)]
    | cons c front =>
      by_cases hd : test d = true
      · rw [if_pos hd]
        simp only [List.mem_map, Prod.exists, ih, Prod.mk.injEq, List.cons_append,
          List.cons.injEq, List.forall_mem_cons, reduceCtorEq, false_and, false_or]
        constructor
        · rintro ⟨front', back', ⟨hds, hall⟩, ⟨rfl, rfl⟩, rfl⟩
          exact ⟨⟨rfl, hds⟩, hd, hall⟩
        · rintro ⟨⟨rfl, hds⟩, -, hall⟩
          exact ⟨front, back, ⟨hds, hall⟩, ⟨rfl, rfl⟩, rfl⟩
      · rw [if_neg hd]
        simp only [List.cons_append, List.cons.injEq, List.forall_mem_cons, reduceCtorEq,
          false_and, List.not_mem_nil, or_self, false_iff]
        rintro ⟨⟨rfl, -⟩, hc, -⟩
        exact hd hc

namespace Pattern

variable {p q : Pattern} {test : Char → Bool} {greedy : Bool} {cs rest : List Char}

theorem ways_ne_nil_iff : p.ways cs ≠ [] ↔ ∃ rest, p.Leaves cs rest := by
  constructor
  · intro h
    obtain ⟨m, hm⟩ := List.exists_mem_of_ne_nil _ h
    exact ⟨m.rest, m, hm, rfl⟩
  · rintro ⟨rest, m, hm, -⟩
    exact List.ne_nil_of_mem hm

theorem leaves_one : (one test).Leaves cs rest ↔ ∃ c, cs = c :: rest ∧ test c = true := by
  simp only [Leaves, ways]
  cases cs with
  | nil => simp
  | cons d ds =>
    simp only [List.cons.injEq]
    split
    · next hd =>
      simp only [List.mem_singleton, exists_eq_left]
      constructor
      · rintro rfl
        exact ⟨d, ⟨rfl, rfl⟩, hd⟩
      · rintro ⟨_, ⟨-, hrest⟩, -⟩
        exact hrest
    · next hd =>
      simp only [List.not_mem_nil, false_and, exists_false, false_iff]
      rintro ⟨_, ⟨rfl, -⟩, hc⟩
      exact hd hc

theorem leaves_run :
    (run test greedy).Leaves cs rest ↔
      ∃ front, cs = front ++ rest ∧ ∀ c ∈ front, test c = true := by
  have hways : ∀ m : Match, m ∈ (run test greedy).ways cs ↔
      ∃ split ∈ splits test cs, ⟨split.1, none, split.2⟩ = m := by
    intro m
    cases greedy <;> simp [ways]
  simp only [← mem_splits_iff, Leaves, hways]
  constructor
  · rintro ⟨_, ⟨⟨front, back⟩, hsplit, rfl⟩, rfl⟩
    exact ⟨front, hsplit⟩
  · rintro ⟨front, hsplit⟩
    exact ⟨_, ⟨_, hsplit, rfl⟩, rfl⟩

theorem leaves_maybe : (maybe p).Leaves cs rest ↔ p.Leaves cs rest ∨ rest = cs := by
  simp [Leaves, ways, or_and_right, exists_or, eq_comm]

theorem leaves_seq : (seq p q).Leaves cs rest ↔ ∃ mid, p.Leaves cs mid ∧ q.Leaves mid rest := by
  simp only [Leaves, ways, List.mem_flatMap, List.mem_map]
  constructor
  · rintro ⟨_, ⟨m, hm, m', hm', rfl⟩, rfl⟩
    exact ⟨m.rest, ⟨m, hm, rfl⟩, m', hm', rfl⟩
  · rintro ⟨_, ⟨m, hm, rfl⟩, m', hm', rfl⟩
    exact ⟨_, ⟨m, hm, m', hm', rfl⟩, rfl⟩

theorem leaves_atEnd : atEnd.Leaves cs rest ↔ cs = [] ∧ rest = [] := by
  simp only [Leaves, ways]
  split
  · next h => simp [h, eq_comm]
  · next h => simp [h]

/-! ### What groups capture -/

/-- A lazy run takes no character if the pattern behind it can match without. -/
theorem ways_run_seq_cons (test : Char → Bool) (q : Pattern) (c : Char) (cs : List Char) :
    (seq (run test false) q).ways (c :: cs) = q.ways (c :: cs) ++
      if test c then ((seq (run test false) q).ways cs).map (Match.behind c) else [] := by
  have hseq : ∀ cs, (seq (run test false) q).ways cs = (splits test cs).flatMap fun split =>
      (q.ways split.2).map fun m => ⟨split.1 ++ m.taken, m.captured, m.rest⟩ := by
    simp [ways, List.flatMap_map]
  rw [hseq, hseq, splits]
  split <;> simp [Match.behind, Function.comp_def, List.flatMap_map, List.map_flatMap]

/-- A lazy run up to a character is a cut at the first one. -/
theorem captured?_run_seq_one (c : Char) (q : Pattern) (cs : List Char) :
    (seq (run (· != c) false) (seq (one (· == c)) q)).captured? cs =
      (cut? c cs).bind fun cut => q.captured? cut.2 := by
  induction cs with
  | nil => rfl
  | cons d ds ih =>
    rw [captured?] at ih ⊢
    rw [ways_run_seq_cons, cut?]
    by_cases h : d = c
    · have hone : (seq (one (· == c)) q).ways (d :: ds) = (q.ways ds).map (Match.behind d) := by
        simp [ways, h, Match.behind]
      rw [hone, if_neg (by simp [h]), List.append_nil, Match.captured_head?_map_behind, if_pos h]
      rfl
    · have hone : (seq (one (· == c)) q).ways (d :: ds) = [] := by
        simp [ways, h]
      rw [hone, if_pos (by simp [h]), List.nil_append, Match.captured_head?_map_behind, if_neg h,
        ih, Option.bind_map]
      rfl

/-- A lazy run in a group captures the shortest text behind which the rest of the pattern, if it
captures nothing itself, has a match. -/
theorem captured?_group_run_seq (test : Char → Bool)
    (hq : ∀ cs, ∀ m ∈ q.ways cs, m.captured = none) (cs : List Char) :
    (seq (group (run test false)) q).captured? cs =
      ((splits test cs).find? fun split => !(q.ways split.2).isEmpty).map Prod.fst := by
  simp only [captured?, ways]
  induction splits test cs with
  | nil => rfl
  | cons split splits ih =>
    cases hways : q.ways split.2 with
    | nil => simpa [hways] using ih
    | cons m ms =>
      have hm : m.captured = none := hq split.2 m (by simp [hways])
      simp [hways, hm]

/-- The pattern captures nothing. -/
def Groupless : Pattern → Prop
  | maybe p => p.Groupless
  | seq p q => p.Groupless ∧ q.Groupless
  | group _ => False
  | _ => True

theorem Groupless.captured_eq_none {p : Pattern} (h : p.Groupless) {cs : List Char} {m : Match}
    (hm : m ∈ p.ways cs) : m.captured = none := by
  induction p generalizing cs m with
  | one test =>
    cases cs with
    | nil => simp [ways] at hm
    | cons c cs =>
      rw [ways] at hm
      split at hm
      · simp [List.mem_singleton.mp hm]
      · cases hm
  | run test greedy =>
    have hsplits : ∃ split ∈ splits test cs, (⟨split.1, none, split.2⟩ : Match) = m := by
      cases greedy <;> simpa [ways] using hm
    obtain ⟨split, -, rfl⟩ := hsplits
    rfl
  | maybe p ih =>
    rcases List.mem_append.mp hm with hm | hm
    · exact ih h hm
    · simp [List.mem_singleton.mp hm]
  | seq p q ihp ihq =>
    simp only [ways, List.mem_flatMap, List.mem_map] at hm
    obtain ⟨m₁, hm₁, m₂, hm₂, rfl⟩ := hm
    simp [ihp h.1 hm₁, ihq h.2 hm₂]
  | group p => exact h.elim
  | atEnd =>
    rw [ways] at hm
    split at hm
    · simp [List.mem_singleton.mp hm]
    · cases hm

end Pattern

/-! ### The pattern of identifiers -/

/-- A hyphen and decimal digits, at least one. -/
def revisionPattern : Pattern :=
  .seq (.one (· == '-')) (.seq (.one Text.isDecimalDigit) (.run Text.isDecimalDigit true))

/-- What stands behind a name: perhaps a revision, and the rest of the line from a colon on. -/
def endPattern : Pattern :=
  .seq (.maybe revisionPattern) (.seq (.one (· == ':')) (.seq (.run (· != '\n') true) .atEnd))

/-- A name, captured, and what stands behind it. -/
def namePattern : Pattern := .seq (.group (.run (· != '\n') false)) endPattern

/-- The pattern of a vendor's identifier. -/
def identifierPattern : Pattern :=
  .seq (.run (· != ':') false) (.seq (.one (· == ':'))
    (.seq (.run (· != '-') false) (.seq (.one (· == '-')) namePattern)))

/-- A text with which the line goes on behind a name. -/
def EndsName (cs : List Char) : Prop :=
  ∃ back, '\n' ∉ back ∧
    (cs = ':' :: back ∨ ∃ revision, IsRevision revision ∧ cs = revision ++ ':' :: back)

theorem EndsName.not_newline {cs : List Char} (h : EndsName cs) : '\n' ∉ cs := by
  obtain ⟨back, hback, rfl | ⟨revision, hrevision, rfl⟩⟩ := h
  · simpa using hback
  · have hline : '\n' ∉ revision := hrevision.not_mem (by decide) (by decide)
    simp [hline, hback]

theorem leaves_revisionPattern {cs rest : List Char} :
    revisionPattern.Leaves cs rest ↔ ∃ revision, IsRevision revision ∧ cs = revision ++ rest := by
  simp only [revisionPattern, Pattern.leaves_seq, Pattern.leaves_one, Pattern.leaves_run,
    beq_iff_eq]
  constructor
  · rintro ⟨_, ⟨_, rfl, rfl⟩, _, ⟨c, rfl, hc⟩, digits, rfl, hdigits⟩
    exact ⟨'-' :: c :: digits, ⟨c :: digits, rfl, by simp, by simpa [hc] using hdigits⟩, rfl⟩
  · rintro ⟨_, ⟨digits, rfl, hne, hdigits⟩, rfl⟩
    cases digits with
    | nil => exact absurd rfl hne
    | cons c digits =>
      obtain ⟨hc, hdigits⟩ := List.forall_mem_cons.mp hdigits
      exact ⟨_, ⟨_, rfl, rfl⟩, _, ⟨c, rfl, hc⟩, digits, rfl, hdigits⟩

theorem ways_endPattern_ne_nil_iff {cs : List Char} : endPattern.ways cs ≠ [] ↔ EndsName cs := by
  rw [Pattern.ways_ne_nil_iff]
  simp only [endPattern, Pattern.leaves_seq, Pattern.leaves_maybe, leaves_revisionPattern,
    Pattern.leaves_one, Pattern.leaves_run, Pattern.leaves_atEnd, beq_iff_eq]
  constructor
  · rintro ⟨_, mid, hmid, _, ⟨_, rfl, rfl⟩, _, ⟨back, rfl, hback⟩, rfl, rfl⟩
    refine ⟨back, fun hmem => by simpa using hback _ hmem, ?_⟩
    rcases hmid with ⟨revision, hrevision, rfl⟩ | rfl
    · exact .inr ⟨revision, hrevision, by simp⟩
    · exact .inl (by simp)
  · rintro ⟨back, hback, h⟩
    refine ⟨[], ':' :: back, ?_, back, ⟨_, rfl, rfl⟩, [], ⟨back, by simp, fun c hc => ?_⟩, rfl, rfl⟩
    · rcases h with rfl | ⟨revision, hrevision, rfl⟩
      · exact .inr rfl
      · exact .inl ⟨revision, hrevision, rfl⟩
    · exact bne_iff_ne.mpr fun h => hback (h ▸ hc)

/-- Behind a character other than a colon, the line goes on as behind a name if the character begins
a revision that fills the segment. -/
theorem endsName_cons_iff {c : Char} (hcolon : c ≠ ':') {cs : List Char} :
    EndsName (c :: cs) ↔
      ∃ segment, leadingSegment? cs = some segment ∧ IsRevision (c :: segment) := by
  simp only [leadingSegment?_eq_some_iff]
  constructor
  · rintro ⟨back, hback, h | ⟨revision, hrevision, h⟩⟩
    · exact absurd (List.cons.inj h).1 hcolon
    · obtain ⟨digits, rfl, hne, hdigits⟩ := hrevision
      obtain ⟨rfl, rfl⟩ := List.cons.inj h
      have hrevision : IsRevision ('-' :: digits) := ⟨digits, rfl, hne, hdigits⟩
      have hcolon' : ':' ∉ '-' :: digits := hrevision.not_mem (by decide) (by decide)
      have hline : '\n' ∉ '-' :: digits := hrevision.not_mem (by decide) (by decide)
      exact ⟨digits, ⟨back, rfl, fun h => hcolon' (.tail _ h), fun h => hline (.tail _ h), hback⟩,
        hrevision⟩
  · rintro ⟨segment, ⟨back, rfl, -, -, hback⟩, hrevision⟩
    exact ⟨back, hback, .inr ⟨c :: segment, hrevision, rfl⟩⟩

theorem captured?_namePattern_eq (cs : List Char) :
    namePattern.captured? cs =
      ((splits (· != '\n') cs).find? fun split =>
        !(endPattern.ways split.2).isEmpty).map Prod.fst :=
  have hgroupless : endPattern.Groupless := by
    simp [endPattern, revisionPattern, Pattern.Groupless]
  Pattern.captured?_group_run_seq _ (fun _ _ hm => hgroupless.captured_eq_none hm) cs

theorem captured?_namePattern_of_newline {cs : List Char} (h : '\n' ∈ cs) :
    namePattern.captured? cs = none := by
  rw [captured?_namePattern_eq, Option.map_eq_none_iff, List.find?_eq_none]
  rintro ⟨front, back⟩ hsplit hback
  obtain ⟨rfl, hfront⟩ := mem_splits_iff.mp hsplit
  have hends : EndsName back := ways_endPattern_ne_nil_iff.mp (by simpa using hback)
  rcases List.mem_append.mp h with h | h
  · simpa using hfront _ h
  · exact hends.not_newline h

theorem captured?_namePattern_of_endsName {cs : List Char} (h : EndsName cs) :
    namePattern.captured? cs = some [] := by
  have hways : endPattern.ways cs ≠ [] := ways_endPattern_ne_nil_iff.mpr h
  rw [captured?_namePattern_eq]
  cases cs <;> simp [splits, hways]

theorem captured?_namePattern_cons {c : Char} (hline : c ≠ '\n') {cs : List Char}
    (h : ¬ EndsName (c :: cs)) :
    namePattern.captured? (c :: cs) = (namePattern.captured? cs).map (c :: ·) := by
  have hways : endPattern.ways (c :: cs) = [] :=
    Classical.not_not.mp fun hne => h (ways_endPattern_ne_nil_iff.mp hne)
  rw [captured?_namePattern_eq, captured?_namePattern_eq]
  simp [splits, hways, hline, List.find?_map, Function.comp_def]

/-- The group has the name, perhaps empty, of the segment. -/
theorem captured?_namePattern (cs : List Char) :
    namePattern.captured? cs = (leadingSegment? cs).map dropRevision := by
  by_cases hline : '\n' ∈ cs
  · rw [captured?_namePattern_of_newline hline, leadingSegment?_of_newline hline]
    rfl
  · -- Without a line feed the text is a segment, a colon and the rest, or has no colon.  The
    -- matcher lets the group grow until the end of the pattern fits, which is where a revision
    -- fills the rest of the segment, or else at the colon.
    induction cs with
    | nil => rfl
    | cons c cs ih =>
      obtain ⟨hc, hcs⟩ := not_or.mp (mt List.mem_cons.mpr hline)
      have ih := ih hcs
      by_cases hcolon : c = ':'
      · subst hcolon
        have hsegment : leadingSegment? (':' :: cs) = some [] :=
          leadingSegment?_eq_some_iff.mpr ⟨cs, rfl, List.not_mem_nil, List.not_mem_nil, hcs⟩
        rw [captured?_namePattern_of_endsName ⟨cs, hcs, .inl rfl⟩, hsegment]
        rfl
      · rw [leadingSegment?_cons hcolon (Ne.symm hc)]
        cases hsegment : leadingSegment? cs with
        | none =>
          have hends : ¬ EndsName (c :: cs) := by
            simp [endsName_cons_iff hcolon, hsegment]
          rw [captured?_namePattern_cons (Ne.symm hc) hends, ih, hsegment]
          rfl
        | some segment =>
          have hends : EndsName (c :: cs) ↔ IsRevision (c :: segment) := by
            simp [endsName_cons_iff hcolon, hsegment]
          by_cases hrevision : IsRevision (c :: segment)
          · have hdrop : dropRevision (c :: segment) = [] := dropRevision_append hrevision []
            rw [captured?_namePattern_of_endsName (hends.mpr hrevision), Option.map_some,
              Option.map_some, hdrop]
          · rw [captured?_namePattern_cons (Ne.symm hc) (mt hends.mp hrevision), ih, hsegment,
              Option.map_some, Option.map_some, Option.map_some, Option.map_some,
              dropRevision_cons hrevision]

/-- The matcher captures what the cuts find. -/
theorem captured?_identifierPattern (cs : List Char) :
    identifierPattern.captured? cs = (segment? cs).map dropRevision := by
  simp only [identifierPattern, Pattern.captured?_run_seq_one, captured?_namePattern, segment?_eq,
    Option.map_bind, Function.comp_def]

/-- Which name an identifier has.  Without text it has none; in the form `Decomposes` it has the
name of its segment, unless that is empty; in every other form it is malformed.  It has one
decomposition at most, and the pattern captures the same name.  A segment that is a revision leaves
no name, and a segment loses one revision only, even if the name ends with a revision again. -/
theorem ofIdentifier_grammar (raw : String) :
    (ofIdentifier raw = .error .missing ↔ Text.trim raw = "") ∧
    (∀ name, ofIdentifier raw = .ok name ↔
      name ≠ "" ∧ Names (Text.trim raw).toList name.toList) ∧
    (∀ identifier, ofIdentifier raw = .error (.malformed identifier) ↔
      identifier = Text.trim raw ∧ Text.trim raw ≠ "" ∧
        ∀ name, Names (Text.trim raw).toList name → name = []) ∧
    (∀ front space segment back front' space' segment' back',
      Decomposes (Text.trim raw).toList front space segment back →
      Decomposes (Text.trim raw).toList front' space' segment' back' →
      front = front' ∧ space = space' ∧ segment = segment' ∧ back = back') ∧
    (∀ name, identifierPattern.captured? (Text.trim raw).toList = some name ↔
      Names (Text.trim raw).toList name) ∧
    (∀ front space revision back, IsRevision revision →
      Decomposes (Text.trim raw).toList front space revision back →
      ofIdentifier raw = .error (.malformed (Text.trim raw))) ∧
    (∀ front space name revision back, name ≠ [] → IsRevision revision →
      Decomposes (Text.trim raw).toList front space (name ++ revision) back →
      ofIdentifier raw = .ok (String.ofList name)) := by
  refine ⟨ofIdentifier_eq_missing_iff, fun _ => ofIdentifier_eq_ok_iff,
    fun _ => ofIdentifier_eq_malformed_iff, fun _ _ _ _ _ _ _ _ h h' => h.unique h', fun name => ?_,
    fun front space revision back hrevision h => ?_,
    fun front space name revision back hname hrevision h => ?_⟩
  · rw [captured?_identifierPattern, names_iff]
  · have hnames : Names (Text.trim raw).toList [] :=
      ⟨front, space, revision, back, h, .inl ⟨revision, hrevision, rfl⟩⟩
    refine ofIdentifier_eq_malformed_iff.mpr ⟨rfl, hnames.text_ne_empty, fun name h' => ?_⟩
    exact h'.unique hnames
  · have hnames : Names (Text.trim raw).toList name :=
      ⟨front, space, name ++ revision, back, h, .inl ⟨revision, hrevision, rfl⟩⟩
    refine ofIdentifier_eq_ok_iff.mpr ⟨by simpa using hname, ?_⟩
    rwa [String.toList_ofList]

theorem ofIdentifier_grammar_sample :
    Decomposes (Text.trim " oval:ssg-a-1-2:def:1\n").toList "oval".toList "ssg".toList
      "a-1-2".toList "def:1".toList ∧
    ofIdentifier " oval:ssg-a-1-2:def:1\n" = .ok "a-1" := by
  have hparts : Decomposes (Text.trim " oval:ssg-a-1-2:def:1\n").toList "oval".toList "ssg".toList
      "a-1-2".toList "def:1".toList :=
    ⟨by decide, by decide, by decide, by decide, by decide, by decide⟩
  have hrevision : IsRevision "-2".toList :=
    ⟨['2'], by decide, by decide, List.forall_mem_singleton.mpr (by decide)⟩
  obtain ⟨-, -, -, -, -, -, hname⟩ := ofIdentifier_grammar " oval:ssg-a-1-2:def:1\n"
  exact ⟨hparts, hname _ _ "a-1".toList _ _ (by decide) hrevision hparts⟩

example : ofIdentifier "oval:ssg--12:def:1" = .error (.malformed "oval:ssg--12:def:1") := by rfl

end PolicyAudit.CheckName
