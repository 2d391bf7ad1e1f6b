import Mathlib.Data.List.Basic
import PolicyAudit.Path

/-! # Components of paths

The parts of two texts with a slash between them are those of the first text and then those of the
second one (`splitSlashes_append_slash`).  So are the components of a joined path, but for the point
that a relative path may begin with (`components_join`).

A path `LiesIn` a directory if its components are those of the directory and others behind them that
never lead up.  A path that takes the text of the directory and `GoesOn` inside its last name does
not lie there (`GoesOn.not_liesIn`), although one text begins with the other. -/

namespace PolicyAudit.Path

/-! ### Parts -/

theorem splitSlashes_slash (cs : List Char) : splitSlashes ('/' :: cs) = [] :: splitSlashes cs := by
  rw [splitSlashes, if_pos rfl]

theorem splitSlashes_ne_nil (cs : List Char) : splitSlashes cs ≠ [] := by
  cases cs with
  | nil => simp [splitSlashes]
  | cons c cs =>
    unfold splitSlashes
    split
    · simp
    · split <;> simp

theorem splitSlashes_cons {c : Char} {cs part : List Char} {back : List (List Char)} (hc : c ≠ '/')
    (h : splitSlashes cs = part :: back) : splitSlashes (c :: cs) = (c :: part) :: back := by
  rw [splitSlashes, if_neg hc, h]

/-- The last part of a text goes on with the first part of what follows. -/
theorem splitSlashes_append {cs ds part part' : List Char} {front back : List (List Char)}
    (hcs : splitSlashes cs = front ++ [part]) (hds : splitSlashes ds = part' :: back) :
    splitSlashes (cs ++ ds) = front ++ (part ++ part') :: back := by
  induction cs generalizing front part with
  | nil =>
    have hnil : [] ++ [[]] = front ++ [part] := hcs
    obtain ⟨rfl, hpart⟩ := List.append_inj' hnil rfl
    obtain rfl := List.head_eq_of_cons_eq hpart
    exact hds
  | cons c cs ih =>
    rw [List.cons_append]
    by_cases hc : c = '/'
    · subst hc
      rw [splitSlashes_slash] at hcs ⊢
      cases front with
      | nil => exact absurd (List.tail_eq_of_cons_eq hcs) (splitSlashes_ne_nil cs)
      | cons a front =>
        obtain ⟨rfl, hrest⟩ := List.cons.inj hcs
        rw [ih hrest, List.cons_append]
    · obtain ⟨a, as, ha⟩ := List.exists_cons_of_ne_nil (splitSlashes_ne_nil cs)
      rw [splitSlashes_cons hc ha] at hcs
      -- The character stands in front of the first part, which is the last one if there is no
      -- other.
      cases front with
      | nil =>
        obtain ⟨rfl, rfl⟩ := List.cons.inj hcs
        have hcs' : splitSlashes cs = [] ++ [_] := ha
        exact splitSlashes_cons hc (ih hcs')
      | cons b front =>
        obtain ⟨rfl, rfl⟩ := List.cons.inj hcs
        have hcs' : splitSlashes cs = (a :: front) ++ [part] := ha
        exact splitSlashes_cons hc (ih hcs')

theorem splitSlashes_append_slash (cs ds : List Char) :
    splitSlashes (cs ++ '/' :: ds) = splitSlashes cs ++ splitSlashes ds := by
  have hcs := List.dropLast_append_getLast (splitSlashes_ne_nil cs)
  rw [splitSlashes_append hcs.symm (splitSlashes_slash ds), List.append_nil, List.append_cons, hcs]

/-! ### Components -/

/-- The components without the point that a relative path may begin with. -/
def steps (p : Path) : List Component := p.components.filter (· ≠ .current)

/-- Only empty parts and points are no components. -/
theorem component?_eq_some_iff {part : List Char} {c : Component} :
    component? part = some c ↔ part ≠ [] ∧ part ≠ ['.'] ∧
      c = if part = ['.', '.'] then .parent else .name (String.ofList part) := by
  unfold component?
  by_cases hskip : part = [] ∨ part = ['.']
  · rw [if_pos hskip]
    rcases hskip with h | h
    · simp [h]
    · simp [h]
  · obtain ⟨hne, hpoint⟩ := not_or.mp hskip
    rw [if_neg hskip]
    rw [← apply_ite, Option.some_inj, eq_comm]
    simp only [ne_eq, hne, hpoint, not_false_eq_true, true_and]

theorem component?_ne_current (part : List Char) : component? part ≠ some .current := by
  intro h
  have hc := (component?_eq_some_iff.mp h).2.2
  split at hc
  · cases hc
  · cases hc

/-- A part is known from its component. -/
theorem component?_inj {a b : List Char} {c : Component} (ha : component? a = some c)
    (hb : component? b = some c) : a = b := by
  have hac := (component?_eq_some_iff.mp ha).2.2
  have hbc := (component?_eq_some_iff.mp hb).2.2
  rw [hac] at hbc
  by_cases hpa : a = ['.', '.']
  · by_cases hpb : b = ['.', '.']
    · rw [hpa, hpb]
    · rw [if_pos hpa, if_neg hpb] at hbc
      cases hbc
  · by_cases hpb : b = ['.', '.']
    · rw [if_neg hpa, if_pos hpb] at hbc
      cases hbc
    · rw [if_neg hpa, if_neg hpb] at hbc
      exact String.ofList_injective (Component.name.inj hbc)

theorem components_eq (p : Path) :
    p.components = (front? p.text.toList).toList ++
      (splitSlashes p.text.toList).filterMap component? := rfl

theorem steps_of_relative {p : Path} (h : p.isAbsolute = false) :
    p.steps = (splitSlashes p.text.toList).filterMap component? := by
  have hhead : p.text.toList.head? ≠ some '/' := by simpa [isAbsolute] using h
  have hfront : ∀ c ∈ (front? p.text.toList).toList, c = .current := by
    unfold front?
    rw [if_neg hhead]
    split <;> simp
  have hrest : ∀ c ∈ (splitSlashes p.text.toList).filterMap component?, c ≠ .current := by
    rintro c hc rfl
    obtain ⟨part, -, hpart⟩ := List.mem_filterMap.mp hc
    exact component?_ne_current part hpart
  rw [steps, components_eq, List.filter_append, List.filter_eq_nil_iff.mpr (by simpa using hfront),
    List.nil_append, List.filter_eq_self.mpr (by simpa using hrest)]

/-! ### Joined paths -/

/-- What is in front of a slash decides on the component at the front. -/
theorem front?_append_slash (cs ds : List Char) :
    front? (cs ++ '/' :: ds) = front? (cs ++ ['/']) := by
  obtain ⟨part, back, hcs⟩ := List.exists_cons_of_ne_nil (splitSlashes_ne_nil cs)
  unfold front?
  rw [splitSlashes_append_slash, splitSlashes_append_slash, hcs]
  cases cs with
  | nil => rfl
  | cons c cs => rfl

theorem front?_slash {cs : List Char} (h : cs ≠ []) : front? (cs ++ ['/']) = front? cs := by
  obtain ⟨part, back, hcs⟩ := List.exists_cons_of_ne_nil (splitSlashes_ne_nil cs)
  unfold front?
  rw [splitSlashes_append_slash, hcs]
  cases cs with
  | nil => exact absurd rfl h
  | cons c cs => rfl

/-- A joined path is the text of the directory, a slash unless it ends with one, and the other
text. -/
theorem exists_toList_join {w p : Path} (hw : w.text ≠ "") (hp : p.isAbsolute = false) :
    ∃ cs, (w.join p).text.toList = cs ++ '/' :: p.text.toList ∧
      (w.text.toList = cs ∧ cs ≠ [] ∨ w.text.toList = cs ++ ['/']) := by
  have hchars : w.text.toList ≠ [] := by simpa using hw
  have hempty : w.text.isEmpty = false := by simpa using hw
  unfold join
  simp only [hp, hempty, Bool.false_eq_true, if_false, false_or]
  by_cases hlast : w.text.toList.getLast? = some '/'
  · have hsplit : w.text.toList = w.text.toList.dropLast ++ ['/'] :=
      (List.dropLast_append_getLast? '/' hlast).symm
    refine ⟨w.text.toList.dropLast, ?_, .inr hsplit⟩
    rw [if_pos hlast, String.toList_append]
    conv_lhs => rw [hsplit]
    rw [List.append_assoc]
    rfl
  · refine ⟨w.text.toList, ?_, .inl ⟨rfl, hchars⟩⟩
    rw [if_neg hlast, String.toList_append, String.toList_append, List.append_assoc]
    rfl

theorem join_of_absolute {w p : Path} (hp : p.isAbsolute = true) : w.join p = p := by
  rw [join, if_pos hp]

theorem components_join {w p : Path} (hw : w.text ≠ "") (hp : p.isAbsolute = false) :
    (w.join p).components = w.components ++ p.steps := by
  obtain ⟨cs, hjoin, hdirectory⟩ := exists_toList_join hw hp
  rw [steps_of_relative hp, components_eq, components_eq, hjoin, front?_append_slash,
    splitSlashes_append_slash, List.filterMap_append, ← List.append_assoc]
  rcases hdirectory with ⟨rfl, hne⟩ | hslash
  · rw [front?_slash hne]
  · rw [hslash, splitSlashes_append_slash, List.filterMap_append]
    simp [splitSlashes, component?]

/-! ### Paths in a directory -/

/-- The components of the path are those of the directory and others behind them, none of which
leads up. -/
def LiesIn (p directory : Path) : Prop :=
  ∃ rest, p.components = directory.components ++ rest ∧ Component.parent ∉ rest

theorem liesIn_iff {p directory : Path} :
    p.LiesIn directory ↔ directory.components <+: p.components ∧
      Component.parent ∉ p.components.drop directory.components.length := by
  constructor
  · rintro ⟨rest, hrest, hparent⟩
    rw [hrest, List.drop_left]
    exact ⟨List.prefix_append _ _, hparent⟩
  · rintro ⟨⟨rest, hrest⟩, hparent⟩
    rw [← hrest, List.drop_left] at hparent
    exact ⟨rest, hrest.symm, hparent⟩

instance (p directory : Path) : Decidable (p.LiesIn directory) :=
  decidable_of_iff _ liesIn_iff.symm

theorem LiesIn.parent_mem_iff {p directory : Path} (h : p.LiesIn directory) :
    Component.parent ∈ p.components ↔ Component.parent ∈ directory.components := by
  obtain ⟨rest, hrest, hparent⟩ := h
  rw [hrest, List.mem_append]
  exact or_iff_left hparent

/-- A relative path leads into the directory that it is joined to, unless it leads up somewhere. -/
theorem liesIn_join_iff {w p : Path} (hw : w.text ≠ "") (hp : p.isAbsolute = false) :
    (w.join p).LiesIn w ↔ Component.parent ∉ p.components := by
  have hsteps : Component.parent ∈ p.steps ↔ Component.parent ∈ p.components := by
    simp [steps, List.mem_filter]
  rw [← hsteps]
  constructor
  · rintro ⟨rest, hrest, hparent⟩
    rw [components_join hw hp] at hrest
    rw [List.append_cancel_left hrest]
    exact hparent
  · exact fun hparent => ⟨p.steps, components_join hw hp, hparent⟩

/-- The text of the path is that of the directory and goes on inside its last component. -/
def GoesOn (p directory : Path) : Prop :=
  ∃ front part more, splitSlashes directory.text.toList = front ++ [part] ∧
    component? part ≠ none ∧ p.text.toList = directory.text.toList ++ more ∧
    more ≠ [] ∧ more.head? ≠ some '/'

/-- A longer part is another component. -/
theorem exists_component?_append {part more : List Char} {c : Component}
    (h : component? part = some c) (hmore : more ≠ []) :
    ∃ c', component? (part ++ more) = some c' ∧ c ≠ c' := by
  have hne : part ≠ [] := (component?_eq_some_iff.mp h).1
  have hpoint : part ++ more ≠ ['.'] := by
    intro heq
    have hlength := congrArg List.length heq
    have hpart := List.length_pos_iff.mpr hne
    have hpos := List.length_pos_iff.mpr hmore
    rw [List.length_append, List.length_singleton] at hlength
    omega
  refine ⟨_, component?_eq_some_iff.mpr ⟨by simp [hne], hpoint, rfl⟩, ?_⟩
  intro heq
  have hpart : part = part ++ more :=
    component?_inj h (component?_eq_some_iff.mpr ⟨by simp [hne], hpoint, heq⟩)
  exact hmore (by simpa using hpart)

/-- The front of a text does not depend on what follows its last component. -/
theorem front?_append {cs ds part part' : List Char} {front back : List (List Char)}
    (hcs : splitSlashes cs = front ++ [part])
    (hds : splitSlashes (cs ++ ds) = front ++ part' :: back) (hpart : component? part ≠ none)
    (hpart' : component? part' ≠ none) : front? (cs ++ ds) = front? cs := by
  obtain ⟨c, hc⟩ := Option.ne_none_iff_exists'.mp hpart
  obtain ⟨c', hc'⟩ := Option.ne_none_iff_exists'.mp hpart'
  obtain ⟨hne, hpoint, -⟩ := component?_eq_some_iff.mp hc
  obtain ⟨-, hpoint', -⟩ := component?_eq_some_iff.mp hc'
  unfold front?
  rw [hds, hcs]
  cases cs with
  | nil =>
    have hnil : [] ++ [[]] = front ++ [part] := hcs
    exact absurd (List.head_eq_of_cons_eq (List.append_inj' hnil rfl).2).symm hne
  | cons e es =>
    cases front with
    | nil => simp [hpoint, hpoint']
    | cons a front => rfl

/-- A path that goes on in the last component has another component in its place. -/
theorem GoesOn.exists_components {p directory : Path} (h : p.GoesOn directory) :
    ∃ front c c' back, directory.components = front ++ [c] ∧
      p.components = front ++ c' :: back ∧ c ≠ c' := by
  obtain ⟨front, part, more, hsplit, hpart, htext, hne, hhead⟩ := h
  obtain ⟨c, hc⟩ := Option.ne_none_iff_exists'.mp hpart
  obtain ⟨d, ds, rfl⟩ := List.exists_cons_of_ne_nil hne
  -- The first character behind the text of the directory belongs to its last part.
  have hd : d ≠ '/' := by simpa using hhead
  obtain ⟨part', back, hmore⟩ := List.exists_cons_of_ne_nil (splitSlashes_ne_nil ds)
  have hsplit' : splitSlashes (directory.text.toList ++ d :: ds) =
      front ++ (part ++ d :: part') :: back :=
    splitSlashes_append hsplit (splitSlashes_cons hd hmore)
  obtain ⟨c', hc', hcc'⟩ : ∃ c', component? (part ++ d :: part') = some c' ∧ c ≠ c' :=
    exists_component?_append hc (List.cons_ne_nil d part')
  have hfront : front? (directory.text.toList ++ d :: ds) = front? directory.text.toList :=
    front?_append hsplit hsplit' hpart (by simp [hc'])
  refine ⟨(front? directory.text.toList).toList ++ front.filterMap component?, c, c',
    back.filterMap component?, ?_, ?_, hcc'⟩
  · rw [components_eq, hsplit, List.filterMap_append, List.append_assoc]
    simp [hc]
  · rw [components_eq, htext, hfront, hsplit', List.filterMap_append, List.append_assoc,
      List.filterMap_cons, hc']

theorem GoesOn.not_liesIn {p directory : Path} (h : p.GoesOn directory) : ¬ p.LiesIn directory := by
  rintro ⟨rest, hrest, -⟩
  obtain ⟨front, c, c', back, hdirectory, hp, hne⟩ := h.exists_components
  rw [hdirectory, hp, List.append_assoc] at hrest
  exact hne (List.head_eq_of_cons_eq (List.append_cancel_left hrest)).symm

end PolicyAudit.Path
