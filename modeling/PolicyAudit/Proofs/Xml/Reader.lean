import PolicyAudit.Xml.Cursor

/-! # Laws of readers

`Yields` says what is true of everything that a reader returns, if it returns at all.  `Takes` says
that it does return: in front of some rest it takes a text away, and what it returns has a property.
Both go through a sequence of readers one by one (`yields_bind`, `takes_bind`).  A reader that only
looks takes the empty text. -/

namespace PolicyAudit.Xml

/-! ### Results of readers -/

/-- Whatever the reader returns has the property. -/
def Yields {α : Type} (x : Reader α) (P : α → Prop) : Prop := ∀ s a s', x s = .ok (a, s') → P a

section

variable {α β : Type} {P : α → Prop} {Q : β → Prop}

theorem yields_pure {a : α} (h : P a) : Yields (pure a) P := by
  intro s b s' hb
  obtain rfl : a = b := congrArg Prod.fst (Except.ok.inj hb)
  exact h

theorem yields_throw (e : Error) : Yields (throw e : Reader α) P := by
  intro s b s' hb
  cases hb

/-- Nothing comes behind an error. -/
theorem yields_throw_bind (e : Error) (f : α → Reader β) :
    Yields ((throw e : Reader α) >>= f) Q := by
  intro s b s' hb
  cases hb

theorem yields_any (x : Reader α) : Yields x fun _ => True := fun _ _ _ _ => trivial

theorem yields_bind {x : Reader α} {f : α → Reader β} (hx : Yields x P)
    (hf : ∀ a, P a → Yields (f a) Q) : Yields (x >>= f) Q := by
  intro s b s' hb
  change (x s >>= fun p => f p.1 p.2) = .ok (b, s') at hb
  cases h : x s with
  | error e =>
    rw [h] at hb
    cases hb
  | ok p =>
    rw [h] at hb
    exact hf p.1 (hx s p.1 p.2 h) p.2 b s' hb

/-- What comes of a reader that may return anything. -/
theorem yields_after {x : Reader α} {f : α → Reader β} (hf : ∀ a, Yields (f a) Q) :
    Yields (x >>= f) Q :=
  yields_bind (yields_any x) fun a _ => hf a

theorem yields_lift {x : Except Error α} (h : ∀ a, x = .ok a → P a) :
    Yields (liftM x : Reader α) P := by
  intro s a s' ha
  cases hx : x with
  | error e =>
    rw [hx] at ha
    cases ha
  | ok b =>
    rw [hx] at ha
    obtain rfl : b = a := congrArg Prod.fst (Except.ok.inj ha)
    exact h b hx

end

/-! ### Readers that take a text away -/

/-- In front of the rest, the reader takes the text away and returns a value with the property. -/
def Takes {α : Type} (x : Reader α) (text rest : List Char) (P : α → Prop) : Prop :=
  ∀ s : Cursor, s.rest = text ++ rest → ∃ a s', x s = .ok (a, s') ∧ s'.rest = rest ∧ P a

section

variable {α β : Type} {P : α → Prop} {Q : β → Prop} {x : Reader α} {f : α → Reader β}
  {text text' rest : List Char}

theorem takes_pure {a : α} (h : P a) : Takes (pure a) [] rest P :=
  fun s hs => ⟨a, s, rfl, hs, h⟩

theorem takes_bind (hx : Takes x text (text' ++ rest) P)
    (hf : ∀ a, P a → Takes (f a) text' rest Q) : Takes (x >>= f) (text ++ text') rest Q := by
  intro s hs
  obtain ⟨a, s', hrun, hs', ha⟩ := hx s (hs.trans (List.append_assoc ..))
  obtain ⟨b, s'', hrun', hs'', hb⟩ := hf a ha s' hs'
  refine ⟨b, s'', ?_, hs'', hb⟩
  change (x s >>= fun p => f p.1 p.2) = .ok (b, s'')
  rw [hrun]
  exact hrun'

/-- The first reader takes one character. -/
theorem takes_step {c : Char} (hx : Takes x [c] (text ++ rest) P)
    (hf : ∀ a, P a → Takes (f a) text rest Q) : Takes (x >>= f) (c :: text) rest Q :=
  takes_bind hx hf

/-- The first reader takes nothing. -/
theorem takes_look (hx : Takes x [] (text ++ rest) P) (hf : ∀ a, P a → Takes (f a) text rest Q) :
    Takes (x >>= f) text rest Q :=
  takes_bind hx hf

/-- The second reader takes nothing. -/
theorem takes_last (hx : Takes x text rest P) (hf : ∀ a, P a → Takes (f a) [] rest Q) :
    Takes (x >>= f) text rest Q := by
  simpa only [List.append_nil] using takes_bind hx hf

theorem takes_lift {y : Except Error α} {a : α} (h : y = .ok a) (ha : P a) :
    Takes (liftM y : Reader α) [] rest P := by
  intro s hs
  subst h
  exact ⟨a, s, rfl, hs, ha⟩

theorem takes_get : Takes get [] rest fun s => s.rest = rest :=
  fun s hs => ⟨s, s, rfl, hs, hs⟩

theorem takes_here : Takes here [] rest fun _ => True :=
  fun s hs => ⟨s.position, s, rfl, hs, trivial⟩

theorem takes_atEnd : Takes atEnd [] rest (· = rest.isEmpty) :=
  fun s hs => ⟨s.rest.isEmpty, s, rfl, hs, by rw [hs]; rfl⟩

theorem takes_looksAt (t : String) :
    Takes (looksAt t) [] rest (· = t.toList.isPrefixOf rest) :=
  fun s hs => ⟨t.toList.isPrefixOf s.rest, s, rfl, hs, by rw [hs]; rfl⟩

theorem takes_peek {c : Char} : Takes peek [] (c :: rest) (· = c) := by
  intro s hs
  refine ⟨c, s, ?_, hs, rfl⟩
  rw [peek, hs]
  rfl

theorem takes_advance : Takes (advance text.length) text rest fun _ => True :=
  fun s hs => ⟨(), ⟨s.rest.drop text.length, _⟩, rfl, by rw [hs, List.drop_left], trivial⟩

/-- The text does not begin with such a character. -/
def Stops (p : Char → Bool) (rest : List Char) : Prop := rest.takeWhile p = []

theorem stops_cons {p : Char → Bool} {c : Char} (h : p c = false) : Stops p (c :: rest) :=
  List.takeWhile_cons_of_neg (by simpa using h)

theorem takes_takeWhile {p : Char → Bool} (htext : ∀ c ∈ text, p c = true)
    (hrest : Stops p rest) : Takes (takeWhile p) text rest (· = text) := by
  unfold takeWhile
  refine takes_look takes_get fun s hs => ?_
  have hrun : s.rest.takeWhile p = text := by
    rw [hs, List.takeWhile_append_of_pos htext, hrest, List.append_nil]
  dsimp only
  rw [hrun]
  exact takes_last takes_advance fun _ _ => takes_pure rfl

theorem takes_takeWhile_nil {p : Char → Bool} (hrest : Stops p rest) :
    Takes (takeWhile p) [] rest (· = []) :=
  takes_takeWhile (fun _ h => absurd h List.not_mem_nil) hrest

theorem takes_skipSpaces (hrest : Stops isSpace rest) :
    Takes skipSpaces [] rest fun _ => True :=
  takes_look (takes_takeWhile_nil hrest) fun _ _ => takes_pure trivial

theorem takes_expect {c : Char} : Takes (expect c) [c] rest fun _ => True := by
  unfold expect
  refine takes_look takes_peek ?_
  rintro _ rfl
  rw [if_pos rfl]
  exact takes_advance

theorem takeUntilLoop_eq {stop : List Char → Bool} {done : List Char} {position : Position}
    {d : Char} (htext : ∀ c ∈ text, isXmlChar c = true ∧ ∀ cs, stop (c :: cs) = false)
    (hd : isXmlChar d = true) (hstop : stop (d :: rest) = true) :
    takeUntilLoop stop done position (text ++ d :: rest) =
      .ok (text.reverse ++ done, ⟨d :: rest, position.afterAll text⟩) := by
  induction text generalizing done position with
  | nil => simp [takeUntilLoop, hd, hstop, Position.afterAll]
  | cons c text ih =>
    obtain ⟨⟨hc, hgo⟩, htext⟩ := List.forall_mem_cons.mp htext
    simp only [List.cons_append, takeUntilLoop, hc, hgo, Bool.not_true, Bool.false_eq_true,
      if_false, ih htext, List.reverse_cons, List.append_assoc, List.nil_append, Position.afterAll,
      List.foldl_cons]

theorem takes_takeUntil {stop : List Char → Bool} {d : Char}
    (htext : ∀ c ∈ text, isXmlChar c = true ∧ ∀ cs, stop (c :: cs) = false)
    (hd : isXmlChar d = true) (hstop : stop (d :: rest) = true) :
    Takes (takeUntil stop) text (d :: rest) (· = text) := by
  intro s hs
  refine ⟨text, ⟨d :: rest, s.position.afterAll text⟩, ?_, rfl, rfl⟩
  rw [takeUntil, hs, takeUntilLoop_eq htext hd hstop]
  simp [Except.map]

end

end PolicyAudit.Xml
