import Mathlib.Data.List.Forall2
import PolicyAudit.Proofs.Xml.References

/-! # Writing a document

`write` writes an element with everything inside it in one plain way: without namespaces, each
element with a start tag and an end tag, and data as `writeData` has it.  What is written of an
element that is `Writable` is read back as that element: `read_write`.

For the content of an element, `Leads` says how the reader goes from one progress to another.  What
is written of some nodes leads to their being pushed into the innermost open element
(`leads_writeNodes`), by induction on how they are `Writable`. -/

namespace PolicyAudit.Xml

/-! ### Names -/

/-- A name without a colon. -/
structure IsName (name : String) : Prop where
  begins : beginsName name.toList = true
  chars : ∀ c ∈ name.toList, isNameChar c = true

theorem isName_of_all {name : String}
    (h : (beginsName name.toList && name.toList.all isNameChar) = true) : IsName name := by
  obtain ⟨hbegins, hchars⟩ := Bool.and_eq_true_iff.mp h
  exact ⟨hbegins, List.all_eq_true.mp hchars⟩

/-- The text begins with a character that ends a name. -/
def EndsName (rest : List Char) : Prop :=
  ∃ c cs, rest = c :: cs ∧ isNameChar c = false ∧ c ≠ ':'

theorem IsName.exists_cons {name : String} (h : IsName name) :
    ∃ c cs, name.toList = c :: cs ∧ isNameStart c = true := by
  have hbegins := h.begins
  cases hname : name.toList with
  | nil => simp [hname, beginsName] at hbegins
  | cons c cs => exact ⟨c, cs, rfl, by simpa [hname, beginsName] using hbegins⟩

theorem ne_of_isNameStart {c d : Char} (hc : isNameStart c = true) (hd : isNameStart d = false) :
    c ≠ d := by
  rintro rfl
  rw [hc] at hd
  cases hd

theorem isSpace_of_isNameStart {c : Char} (h : isNameStart c = true) : isSpace c = false := by
  have hne : ∀ d, isNameStart d = false → c ≠ d := fun _ => ne_of_isNameStart h
  simp [isSpace, hne ' ' (by decide), hne '\t' (by decide), hne '\n' (by decide),
    hne '\r' (by decide)]

theorem takes_readQName {name : String} (h : IsName name) {rest : List Char}
    (hrest : EndsName rest) : Takes readQName name.toList rest (· = ⟨"", name⟩) := by
  obtain ⟨c, cs, rfl, hc, hcolon⟩ := hrest
  unfold readQName
  refine takes_look takes_here fun position _ => ?_
  refine takes_last (takes_takeWhile h.chars (stops_cons hc)) ?_
  rintro _ rfl
  refine takes_look (takes_looksAt ":") ?_
  rintro _ rfl
  have hlooks : ":".toList.isPrefixOf (c :: cs) = false := by
    simpa [List.isPrefixOf] using Ne.symm hcolon
  rw [List.nil_append, hlooks, if_neg Bool.false_ne_true, if_pos h.begins, String.ofList_toList]
  exact takes_pure rfl

/-! ### Start tags -/

def writeAttribute (a : Attribute) : List Char :=
  a.name.toList ++ '=' :: '"' :: (writeData a.value.toList ++ ['"'])

/-- An attribute that can be written. -/
structure Attribute.Writable (a : Attribute) : Prop where
  plain : a.namespaceUri = none
  name : IsName a.name
  noBinding : a.name ≠ "xmlns"
  value : AreXml a.value.toList

/-- Some raw attribute has the name and the value of the attribute. -/
def IsRaw (r : RawAttribute) (a : Attribute) : Prop := r.name = ⟨"", a.name⟩ ∧ r.value = a.value

theorem takes_readQuote {rest : List Char} : Takes readQuote ['"'] rest (· = '"') := by
  unfold readQuote
  refine takes_look takes_peek ?_
  rintro _ rfl
  rw [if_pos (.inl rfl)]
  exact takes_last takes_advance fun _ _ => takes_pure rfl

section

variable {a : Attribute} {as : List Attribute} {rest : List Char} {t : TagContent} {known : Scope}

theorem takes_readRawAttribute (h : a.Writable) :
    Takes readRawAttribute (writeAttribute a) rest fun r =>
      r.1 = ⟨"", a.name⟩ ∧ r.2.2 = writeData a.value.toList := by
  unfold readRawAttribute writeAttribute
  refine takes_bind (takes_readQName h.name ⟨'=', _, rfl, by decide, by decide⟩) ?_
  rintro _ rfl
  refine takes_look (takes_skipSpaces (stops_cons (by decide))) fun _ _ => ?_
  refine takes_step takes_expect fun _ _ => ?_
  refine takes_look (takes_skipSpaces (stops_cons (by decide))) fun _ _ => ?_
  refine takes_step takes_readQuote ?_
  rintro _ rfl
  refine takes_look takes_here fun start _ => ?_
  have hdata : ∀ c ∈ writeData a.value.toList, isXmlChar c = true ∧ ∀ cs : List Char,
      (decide ((c :: cs).head? = some '"') || decide ((c :: cs).head? = some '<')) = false := by
    intro c hc
    have hchar := isDataChar_of_mem_writeData h.value hc
    exact ⟨hchar.xml, by simp [hchar.quote, hchar.less]⟩
  refine takes_bind (takes_takeUntil hdata (by decide) (by simp)) ?_
  rintro _ rfl
  exact takes_last takes_expect fun _ _ => takes_pure ⟨rfl, rfl⟩

/-- A tag with no bindings has these attributes so far, in a document with these bindings. -/
structure TagContent.Holds (t : TagContent) (known : Scope) (as : List Attribute) : Prop where
  noBinding : t.bindings = []
  attributes : List.Forall₂ IsRaw t.attributes.reverse as
  known : t.known = known

theorem takes_readAttribute (h : a.Writable) (ht : t.Holds known as) :
    Takes (readAttribute t) (writeAttribute a) rest (TagContent.Holds · known (as ++ [a])) := by
  unfold readAttribute
  refine takes_look takes_here fun position _ => ?_
  refine takes_last (takes_readRawAttribute h) ?_
  rintro ⟨name, start, raw⟩ ⟨rfl, rfl⟩
  refine takes_look (takes_lift (pieces_writeData start _) rfl) ?_
  rintro _ rfl
  have hvalue : String.ofList (attributeChars (a.value.toList.map pieceOf)) = a.value := by
    rw [attributeChars_map_pieceOf, String.ofList_toList]
  have hadd : t.add ⟨⟨"", a.name⟩, a.value, position⟩ =
      .ok ⟨t.bindings, ⟨⟨"", a.name⟩, a.value, position⟩ :: t.attributes, t.known⟩ := by
    rw [TagContent.add, if_neg (show ("" : String) ≠ "xmlns" by decide), if_neg h.noBinding]
  rw [hvalue]
  refine takes_lift hadd ⟨ht.noBinding, ?_, ht.known⟩
  rw [List.reverse_cons]
  exact List.rel_append ht.attributes (.cons ⟨rfl, rfl⟩ .nil)

/-- The attributes of a tag, each behind a blank. -/
def writeAttributes (as : List Attribute) : List Char := as.flatMap fun a => ' ' :: writeAttribute a

theorem length_le_writeAttributes (as : List Attribute) :
    as.length ≤ (writeAttributes as).length := by
  induction as with
  | nil => exact Nat.zero_le _
  | cons a as ih =>
    rw [writeAttributes, List.flatMap_cons, ← writeAttributes, List.length_append, List.length_cons,
      List.length_cons]
    omega

theorem takes_readTagContent {fuel : Nat} {done : List Attribute} (h : ∀ a ∈ as, a.Writable)
    (ht : t.Holds known done) (hfuel : as.length < fuel) :
    Takes (readTagContent fuel t) (writeAttributes as ++ ['>']) rest fun r =>
      r.1.Holds known (done ++ as) ∧ r.2 = .opened := by
  induction as generalizing fuel done t with
  | nil =>
    obtain ⟨fuel, rfl⟩ := Nat.exists_eq_add_one.mpr hfuel
    unfold readTagContent
    refine takes_look takes_atEnd ?_
    rintro _ rfl
    rw [if_neg (by simp)]
    refine takes_look (takes_takeWhile_nil (stops_cons (by decide))) ?_
    rintro _ rfl
    refine takes_look takes_peek ?_
    rintro _ rfl
    rw [if_neg (by decide), if_pos rfl]
    refine takes_last takes_advance fun _ _ => takes_pure ⟨?_, rfl⟩
    rwa [List.append_nil]
  | cons a as ih =>
    obtain ⟨ha, has⟩ := List.forall_mem_cons.mp h
    obtain ⟨fuel, rfl⟩ := Nat.exists_eq_add_one.mpr (Nat.zero_lt_of_lt hfuel)
    have htext : writeAttributes (a :: as) ++ ['>'] =
        ' ' :: (writeAttribute a ++ (writeAttributes as ++ ['>'])) := by
      simp [writeAttributes]
    rw [htext]
    unfold readTagContent
    refine takes_look takes_atEnd ?_
    rintro _ rfl
    rw [if_neg (by simp)]
    obtain ⟨c, cs, hname, hc⟩ := ha.name.exists_cons
    obtain ⟨cs', hattribute⟩ :
        ∃ cs', writeAttribute a ++ (writeAttributes as ++ ['>']) ++ rest = c :: cs' :=
      ⟨_, by rw [writeAttribute, hname]; rfl⟩
    refine takes_step (takes_takeWhile (List.forall_mem_singleton.mpr rfl) ?_) ?_
    · rw [hattribute]
      exact stops_cons (isSpace_of_isNameStart hc)
    rintro _ rfl
    refine takes_look (P := (· = c)) ?_ ?_
    · rw [hattribute]
      exact takes_peek
    rintro _ rfl
    rw [if_neg (ne_of_isNameStart hc (by decide)), if_neg (ne_of_isNameStart hc (by decide)),
      if_neg (by decide)]
    refine takes_bind (takes_readAttribute ha ht) fun t' ht' => ?_
    have hrest := ih has ht' (Nat.lt_of_succ_lt_succ hfuel)
    rwa [List.append_assoc] at hrest

theorem resolveLoop_eq_ok {scope : Scope} {done : List Attribute} {raw : List RawAttribute}
    (hraw : List.Forall₂ IsRaw raw as) (h : ∀ a ∈ as, a.Writable)
    (hnames : (as.map (·.name)).Nodup) (hdone : ∀ a ∈ as, ∀ d ∈ done, d.name ≠ a.name) :
    TagContent.resolveLoop scope done raw = .ok (done.reverse ++ as) := by
  induction hraw generalizing done with
  | nil => rw [TagContent.resolveLoop, List.append_nil]
  | @cons r a raw as hr _ ih =>
    obtain ⟨ha, has⟩ := List.forall_mem_cons.mp h
    obtain ⟨hfirst, hnames⟩ := List.nodup_cons.mp hnames
    obtain ⟨hdone, hlater⟩ := List.forall_mem_cons.mp hdone
    obtain ⟨hname, hvalue⟩ := hr
    have huri : TagContent.attributeUri scope r = .ok none := by
      rw [TagContent.attributeUri, hname]
      rfl
    have hnew : ¬ (done.any fun d => d.namespaceUri = none ∧ d.name = a.name) = true := by
      simpa using fun d hd _ => hdone d hd
    have hattribute : (⟨none, a.name, a.value⟩ : Attribute) = a := by rw [← ha.plain]
    rw [TagContent.resolveLoop, huri]
    dsimp only
    rw [hname, if_neg hnew, hvalue, hattribute, ih has hnames]
    · rw [List.reverse_cons, List.append_assoc, List.singleton_append]
    · intro b hb d hd
      rcases List.mem_cons.mp hd with rfl | hd
      · exact fun heq => hfirst (List.mem_map.mpr ⟨b, hb, heq.symm⟩)
      · exact hlater b hb d hd

/-- Attributes that can be written in one tag. -/
structure WritableAttributes (as : List Attribute) : Prop where
  each : ∀ a ∈ as, a.Writable
  names : (as.map (·.name)).Nodup

theorem writableAttributes_nil : WritableAttributes [] :=
  ⟨fun _ h => absurd h List.not_mem_nil, List.nodup_nil⟩

theorem TagContent.Holds.scope (h : t.Holds known as) : t.scope [] = [] := by
  rw [TagContent.scope, h.noBinding]
  rfl

theorem TagContent.Holds.resolve (h : t.Holds known as) (has : WritableAttributes as) :
    t.resolve [] = .ok as := by
  rw [TagContent.resolve, h.scope, resolveLoop_eq_ok h.attributes has.each has.names
    (fun _ _ _ hd => absurd hd List.not_mem_nil)]
  rfl

def writeStartTag (name : String) (as : List Attribute) : List Char :=
  '<' :: (name.toList ++ (writeAttributes as ++ ['>']))

/-- A start tag begins with a bracket and a character of its name. -/
theorem exists_writeStartTag_eq_cons {name : String} (hname : IsName name) (as : List Attribute)
    (rest : List Char) :
    ∃ c cs, isNameStart c = true ∧ writeStartTag name as ++ rest = '<' :: c :: cs := by
  obtain ⟨c, cs, hcs, hc⟩ := hname.exists_cons
  exact ⟨c, _, hc, by rw [writeStartTag, hcs]; rfl⟩

theorem endsName_writeAttributes : EndsName (writeAttributes as ++ ['>'] ++ rest) := by
  cases as with
  | nil => exact ⟨'>', rest, rfl, by decide, by decide⟩
  | cons a as => exact ⟨' ', _, rfl, by decide, by decide⟩

/-- The open element behind a start tag. -/
def openOf (name : String) (as : List Attribute) : OpenElement := ⟨⟨"", name⟩, none, as, [], []⟩

theorem takes_readStartTag {p : Progress} {name : String} (hp : p.scope = []) (hname : IsName name)
    (has : WritableAttributes as) :
    Takes (readStartTag p) (writeStartTag name as) rest
      (· = ⟨openOf name as :: p.stack, p.top, p.known⟩) := by
  unfold readStartTag writeStartTag
  refine takes_step takes_advance fun _ _ => takes_look takes_here fun position _ => ?_
  refine takes_bind (takes_readQName hname endsName_writeAttributes) ?_
  rintro _ rfl
  dsimp only
  rw [if_neg (by decide)]
  refine takes_look takes_get fun s hs => ?_
  have hlength : as.length < s.rest.length + 1 := by
    rw [hs, List.append_assoc, List.length_append]
    have hle := length_le_writeAttributes as
    omega
  have hempty : (TagContent.empty p.known).Holds p.known [] := ⟨rfl, .nil, rfl⟩
  refine takes_last (takes_readTagContent has.each hempty hlength) ?_
  rintro ⟨t, tagEnd⟩ ⟨ht, htagEnd⟩
  obtain rfl : tagEnd = .opened := htagEnd
  replace ht : t.Holds p.known as := ht
  dsimp only
  rw [hp, ht.scope, ht.known, if_neg (show TagEnd.opened ≠ .cutOff by decide)]
  refine takes_look (takes_lift (ht.resolve has) rfl) ?_
  rintro _ rfl
  refine takes_look (takes_lift (a := none) rfl rfl) ?_
  rintro _ rfl
  rw [if_pos rfl]
  exact takes_pure rfl

end

/-! ### Content -/

def writeEndTag (name : String) : List Char := '<' :: '/' :: (name.toList ++ ['>'])

mutual

/-- The text of a node.  Comments and processing instructions, which hold no data, are left out. -/
def writeNode : Node → List Char
  | .element _ name attributes children =>
    writeStartTag name attributes ++ (writeNodes children ++ writeEndTag name)
  | .text value => writeData value.toList
  | .comment _ => []
  | .instruction _ _ => []

/-- The text of some nodes. -/
def writeNodes : List Node → List Char
  | [] => []
  | node :: nodes => writeNode node ++ writeNodes nodes

end

/-- Nodes that can be written: elements without namespaces, and texts apart from each other. -/
inductive Writable : List Node → Prop
  | nil : Writable []
  | element {name : String} {attributes : List Attribute} {children nodes : List Node} :
      IsName name → WritableAttributes attributes → Writable children → Writable nodes →
      Writable (.element none name attributes children :: nodes)
  | text {value : String} {nodes : List Node} :
      value ≠ "" → AreXml value.toList → (∀ s ns, nodes ≠ .text s :: ns) → Writable nodes →
      Writable (.text value :: nodes)

/-- An element with one attribute. -/
theorem writable_keyed {name key value : String} {children nodes : List Node} (hname : IsName name)
    (hkey : IsName key) (hbinding : key ≠ "xmlns") (hvalue : AreXml value.toList)
    (hchildren : Writable children) (hnodes : Writable nodes) :
    Writable (.element none name [⟨none, key, value⟩] children :: nodes) :=
  have hattributes : WritableAttributes [⟨none, key, value⟩] :=
    ⟨List.forall_mem_singleton.mpr ⟨rfl, hkey, hbinding, hvalue⟩, List.pairwise_singleton _ _⟩
  .element hname hattributes hchildren hnodes

/-- An element with a text alone. -/
theorem writable_labelled {name value : String} {nodes : List Node} (hname : IsName name)
    (hne : value ≠ "") (hvalue : AreXml value.toList) (hnodes : Writable nodes) :
    Writable (.element none name [] [.text value] :: nodes) :=
  have htext : Writable [.text value] := .text hne hvalue (fun _ _ h => by cases h) .nil
  .element hname writableAttributes_nil htext hnodes

/-- The open element with more nodes inside. -/
def OpenElement.push (e : OpenElement) (nodes : List Node) : OpenElement :=
  ⟨e.name, e.namespaceUri, e.attributes, e.scope, nodes.reverse ++ e.children⟩

section

variable {p p' p'' : Progress} {e : OpenElement} {stack : List OpenElement} {top : List Node}
  {known : Scope} {text text' rest : List Char}

theorem takes_readEndTag {name : String} (hname : IsName name) (he : e.name = ⟨"", name⟩) :
    Takes (readEndTag ⟨e :: stack, top, known⟩) (writeEndTag name) rest
      (· = (⟨stack, top, known⟩ : Progress).add e.close) := by
  unfold readEndTag writeEndTag
  refine takes_look takes_here fun position _ => ?_
  have hmark : Takes (advance 2) ['<', '/'] (name.toList ++ ['>'] ++ rest) fun _ => True :=
    takes_advance
  refine takes_bind hmark fun _ _ => ?_
  refine takes_bind (takes_readQName hname ⟨'>', rest, rfl, by decide, by decide⟩) ?_
  rintro _ rfl
  refine takes_look (takes_skipSpaces (stops_cons (by decide))) fun _ _ => ?_
  refine takes_last takes_expect fun _ _ => ?_
  dsimp only
  rw [if_pos he.symm]
  exact takes_pure rfl

theorem hasCdataEnd_of_not_mem {cs : List Char} (h : '>' ∉ cs) : hasCdataEnd cs = false := by
  induction cs using hasCdataEnd.induct with
  | case1 rest => simp at h
  | case2 c cs hne ih =>
    rw [hasCdataEnd]
    · exact ih fun hmem => h (List.mem_cons_of_mem _ hmem)
    · exact hne
  | case3 => rfl

theorem takes_readText {value : String} (h : AreXml value.toList) :
    Takes (readText p) (writeData value.toList) ('<' :: rest) (· = p.add (.text value)) := by
  have hstop : ∀ c ∈ writeData value.toList, isXmlChar c = true ∧ ∀ cs : List Char,
      decide ((c :: cs).head? = some '<') = false := by
    intro c hc
    have hchar := isDataChar_of_mem_writeData h hc
    exact ⟨hchar.xml, by simp [hchar.less]⟩
  have hend : hasCdataEnd (writeData value.toList) = false :=
    hasCdataEnd_of_not_mem fun hmem => (isDataChar_of_mem_writeData h hmem).greater rfl
  unfold readText
  refine takes_look takes_here fun start _ => ?_
  refine takes_last (takes_takeUntil hstop (by decide) (by simp)) ?_
  rintro _ rfl
  dsimp only
  rw [hend, if_neg Bool.false_ne_true]
  refine takes_look (takes_lift (pieces_writeData start _) rfl) ?_
  rintro _ rfl
  rw [textChars_map_pieceOf, String.ofList_toList]
  exact takes_pure rfl

theorem takes_readPart_startTag {name : String} {as : List Attribute} (hp : p.scope = [])
    (hname : IsName name) (has : WritableAttributes as) :
    Takes (readPart p) (writeStartTag name as) rest
      (· = ⟨openOf name as :: p.stack, p.top, p.known⟩) := by
  obtain ⟨c, cs, hc, hfront⟩ := exists_writeStartTag_eq_cons hname as rest
  unfold readPart
  refine takes_look takes_get fun s hs => ?_
  rw [hs, hfront]
  split
  · next h =>
    cases h
    exact absurd hc (by decide)
  · next h =>
    cases h
    exact absurd hc (by decide)
  · next h =>
    cases h
    exact absurd hc (by decide)
  · next h => cases h
  · exact takes_readStartTag hp hname has
  · next h => exact absurd rfl (h _)

theorem takes_readPart_endTag {name : String} (hname : IsName name) (he : e.name = ⟨"", name⟩) :
    Takes (readPart ⟨e :: stack, top, known⟩) (writeEndTag name) rest
      (· = (⟨stack, top, known⟩ : Progress).add e.close) := by
  unfold readPart
  refine takes_look takes_get fun s hs => ?_
  rw [hs]
  exact takes_readEndTag hname he

theorem takes_readPart_text {value : String} (hne : value ≠ "") (h : AreXml value.toList) :
    Takes (readPart p) (writeData value.toList) ('<' :: rest) (· = p.add (.text value)) := by
  obtain ⟨d, ds, hds⟩ :=
    List.exists_cons_of_ne_nil (writeData_ne_nil (mt String.toList_eq_nil_iff.mp hne))
  have hd : d ≠ '<' := (isDataChar_of_mem_writeData h (hds ▸ List.mem_cons_self)).less
  unfold readPart
  refine takes_look takes_get fun s hs => ?_
  rw [hs, hds]
  split
  · next h => exact absurd (List.cons.inj h).1 hd
  · next h => exact absurd (List.cons.inj h).1 hd
  · next h => exact absurd (List.cons.inj h).1 hd
  · next h => exact absurd (List.cons.inj h).1 hd
  · next h => exact absurd (List.cons.inj h).1 hd
  · exact hds ▸ takes_readText h

/-- Going on from one progress, the reader of content takes the text away and goes on from another
one.  It looks at no more parts than there are characters in the text. -/
def Leads (p : Progress) (text rest : List Char) (p' : Progress) : Prop :=
  ∃ n ≤ text.length, ∀ fuel (s : Cursor), s.rest = text ++ rest →
    ∃ s' : Cursor, s'.rest = rest ∧ readContent (fuel + n) p s = readContent fuel p' s'

theorem leads_refl : Leads p [] rest p :=
  ⟨0, Nat.le_refl 0, fun _ s hs => ⟨s, hs, rfl⟩⟩

theorem leads_trans (h : Leads p text (text' ++ rest) p') (h' : Leads p' text' rest p'') :
    Leads p (text ++ text') rest p'' := by
  obtain ⟨n, hn, h⟩ := h
  obtain ⟨m, hm, h'⟩ := h'
  refine ⟨m + n, ?_, fun fuel s hs => ?_⟩
  · rw [List.length_append]
    omega
  · obtain ⟨s', hs', heq⟩ := h (fuel + m) s (hs.trans (List.append_assoc ..))
    obtain ⟨s'', hs'', heq'⟩ := h' fuel s' hs'
    exact ⟨s'', hs'', by rw [← Nat.add_assoc, heq, heq']⟩

/-- Inside of an element, the next part is read. -/
theorem leads_of_takes (h : Takes (readPart ⟨e :: stack, top, known⟩) text rest (· = p))
    (htext : text ≠ []) : Leads ⟨e :: stack, top, known⟩ text rest p := by
  refine ⟨1, List.length_pos_iff.mpr htext, fun fuel s hs => ?_⟩
  obtain ⟨_, s', hrun, hs', rfl⟩ := h s hs
  refine ⟨s', hs', ?_⟩
  have hmore : ¬ ((e :: stack).isEmpty || s.rest.isEmpty) = true := by simp [hs, htext]
  rw [readContent]
  change (if ((e :: stack).isEmpty || s.rest.isEmpty) = true then pure _
    else readPart _ >>= readContent fuel : Reader Progress) s = _
  rw [if_neg hmore]
  change (readPart _ s >>= fun r => readContent fuel r.1 r.2) = _
  rw [hrun]
  rfl

theorem OpenElement.push_push (e : OpenElement) (ns ms : List Node) :
    (e.push ns).push ms = e.push (ns ++ ms) := by
  simp [OpenElement.push]

theorem close_push_openOf (name : String) (as : List Attribute) (nodes : List Node) :
    ((openOf name as).push nodes).close = .element none name as nodes := by
  simp [openOf, OpenElement.push, OpenElement.close]

/-- What is inside of an element leads to its end. -/
theorem leads_endTag {name : String} {as : List Attribute} {children : List Node}
    (hname : IsName name)
    (hchildren : Leads ⟨openOf name as :: stack, top, known⟩ (writeNodes children)
      (writeEndTag name ++ rest) ⟨(openOf name as).push children :: stack, top, known⟩) :
    Leads ⟨openOf name as :: stack, top, known⟩ (writeNodes children ++ writeEndTag name) rest
      ((⟨stack, top, known⟩ : Progress).add (.element none name as children)) := by
  have hend : Leads ⟨(openOf name as).push children :: stack, top, known⟩ (writeEndTag name) rest
      ((⟨stack, top, known⟩ : Progress).add ((openOf name as).push children).close) :=
    leads_of_takes (takes_readPart_endTag hname rfl) (List.cons_ne_nil _ _)
  rw [close_push_openOf] at hend
  exact leads_trans hchildren hend

/-- Nodes that do not begin with a text are written with a tag in front, if one follows. -/
theorem exists_writeNodes_eq_cons {nodes : List Node} (h : Writable nodes)
    (hnodes : ∀ s ns, nodes ≠ .text s :: ns) (rest : List Char) :
    ∃ cs, writeNodes nodes ++ '<' :: rest = '<' :: cs := by
  cases h with
  | nil => exact ⟨rest, rfl⟩
  | element _ _ _ _ => exact ⟨_, rfl⟩
  | text _ _ _ _ => exact absurd rfl (hnodes _ _)

theorem leads_writeNodes {nodes : List Node} (h : Writable nodes) (he : e.scope = []) :
    Leads ⟨e :: stack, top, known⟩ (writeNodes nodes) ('<' :: rest)
      ⟨e.push nodes :: stack, top, known⟩ := by
  induction h generalizing e stack rest with
  | nil => exact leads_refl
  | @element name as children nodes hname has _ _ ihchildren ihnodes =>
    have hinside : Leads ⟨openOf name as :: e :: stack, top, known⟩
        (writeNodes children ++ writeEndTag name) (writeNodes nodes ++ '<' :: rest)
        ⟨e.push [.element none name as children] :: stack, top, known⟩ :=
      leads_endTag hname (ihchildren rfl)
    have hnodes : Leads ⟨e.push [.element none name as children] :: stack, top, known⟩
        (writeNodes nodes) ('<' :: rest) ⟨(e.push [.element none name as children]).push nodes :: stack, top, known⟩ :=
      ihnodes he
    rw [OpenElement.push_push] at hnodes
    rw [writeNodes, writeNode]
    refine leads_trans (leads_trans ?_ hinside) hnodes
    exact leads_of_takes (takes_readPart_startTag he hname has) (List.cons_ne_nil _ _)
  | @text value nodes hne hvalue hapart hnodes ih =>
    obtain ⟨cs, hcs⟩ := exists_writeNodes_eq_cons hnodes hapart rest
    have hlater : Leads ⟨e.push [.text value] :: stack, top, known⟩ (writeNodes nodes) ('<' :: rest)
        ⟨(e.push [.text value]).push nodes :: stack, top, known⟩ := ih he
    rw [OpenElement.push_push] at hlater
    rw [writeNodes, writeNode]
    refine leads_trans ?_ hlater
    rw [hcs]
    exact leads_of_takes (takes_readPart_text hne hvalue)
      (writeData_ne_nil (mt String.toList_eq_nil_iff.mp hne))

/-! ### Documents -/

theorem takes_readContent {fuel : Nat} (h : Leads p text rest p') (hclosed : p'.stack = [])
    (hfuel : text.length ≤ fuel) : Takes (readContent fuel p) text rest (· = p') := by
  obtain ⟨n, hn, h⟩ := h
  obtain ⟨fuel, rfl⟩ := Nat.exists_eq_add_of_le' (Nat.le_trans hn hfuel)
  intro s hs
  obtain ⟨s', hs', hrun⟩ := h fuel s hs
  refine ⟨p', s', ?_, hs', rfl⟩
  rw [hrun]
  cases fuel with
  | zero => rfl
  | succ fuel =>
    rw [readContent]
    change (if (p'.stack.isEmpty || s'.rest.isEmpty) = true then pure p'
      else readPart p' >>= readContent fuel : Reader Progress) s' = _
    rw [if_pos (by simp [hclosed])]
    rfl

/-- Nothing is skipped in front of a text that begins with neither a blank nor a comment nor an
instruction. -/
theorem takes_readMisc {fuel : Nat} (hspace : Stops isSpace rest)
    (hcomment : "<!--".toList.isPrefixOf rest = false)
    (hinstruction : "<?".toList.isPrefixOf rest = false) :
    Takes (readMisc fuel p) [] rest (· = p) := by
  cases fuel with
  | zero => exact takes_pure rfl
  | succ fuel =>
    unfold readMisc
    refine takes_look (takes_skipSpaces hspace) fun _ _ => ?_
    refine takes_look (takes_looksAt _) ?_
    rintro _ rfl
    rw [List.nil_append, hcomment, if_neg Bool.false_ne_true]
    refine takes_look (takes_looksAt _) ?_
    rintro _ rfl
    rw [List.nil_append, hinstruction, if_neg Bool.false_ne_true]
    exact takes_pure rfl

/-- In front of a name, a tag is no other markup. -/
theorem isPrefixOf_tag {c d : Char} {mark : List Char} (hc : isNameStart c = true)
    (hd : isNameStart d = false) : ('<' :: d :: mark).isPrefixOf ('<' :: c :: text) = false := by
  simp [List.isPrefixOf, Ne.symm (ne_of_isNameStart hc hd)]

theorem takes_readDocument {name : String} {as : List Attribute} {children : List Node}
    (hname : IsName name) (has : WritableAttributes as) (hchildren : Writable children) :
    Takes readDocument (writeNode (.element none name as children)) []
      (· = ⟨[], [.element none name as children], .initial⟩) := by
  obtain ⟨c, cs, hc, hstart⟩ :=
    exists_writeStartTag_eq_cons hname as (writeNodes children ++ writeEndTag name)
  have hfront : writeNode (.element none name as children) ++ [] = '<' :: c :: cs := by
    rw [List.append_nil, writeNode, hstart]
  have hmark : "\ufeff".toList.isPrefixOf ('<' :: c :: cs) = false := rfl
  have htag : "<".toList.isPrefixOf ('<' :: c :: cs) = true := rfl
  have hdoctype : "<!DOCTYPE".toList.isPrefixOf ('<' :: c :: cs) = false :=
    isPrefixOf_tag hc (by decide)
  have hdeclaration : "<?xml ".toList.isPrefixOf ('<' :: c :: cs) = false :=
    isPrefixOf_tag hc (by decide)
  have hinside : Leads ⟨[openOf name as], [], .initial⟩ (writeNodes children ++ writeEndTag name) []
      ⟨[], [.element none name as children], .initial⟩ :=
    leads_endTag hname (leads_writeNodes hchildren rfl)
  unfold readDocument
  extract_lets finish start
  have hfinish : Takes (finish ()) (writeNode (.element none name as children)) []
      (· = ⟨[], [.element none name as children], .initial⟩) := by
    refine takes_look takes_get fun s hs => ?_
    extract_lets fuel content
    have hcontent : Takes (content ⟨[openOf name as], [], .initial⟩)
        (writeNodes children ++ writeEndTag name) []
        (· = ⟨[], [.element none name as children], .initial⟩) := by
      have hfuel : (writeNodes children ++ writeEndTag name).length ≤ fuel := by
        have hlength : s.rest.length = (writeStartTag name as).length +
            (writeNodes children ++ writeEndTag name).length := by
          rw [hs, List.append_nil, writeNode, List.length_append]
        omega
      refine takes_last (takes_readContent hinside rfl hfuel) ?_
      rintro _ rfl
      refine takes_look (takes_readMisc rfl rfl rfl) ?_
      rintro _ rfl
      refine takes_look takes_atEnd ?_
      rintro _ rfl
      exact takes_pure rfl
    refine takes_look (P := (· = Progress.empty)) ?_ ?_
    · rw [hfront]
      exact takes_readMisc (stops_cons (by decide)) (isPrefixOf_tag hc (by decide))
        (isPrefixOf_tag hc (by decide))
    rintro _ rfl
    refine takes_look (takes_looksAt _) ?_
    rintro _ rfl
    extract_lets root
    rw [hfront, hdoctype, if_neg Bool.false_ne_true]
    refine takes_look (takes_looksAt _) ?_
    rintro _ rfl
    rw [hfront, if_pos htag, writeNode]
    refine takes_bind (takes_readStartTag rfl hname has) ?_
    rintro _ rfl
    exact hcontent
  refine takes_look (takes_looksAt _) ?_
  rintro _ rfl
  rw [hfront, hmark, if_neg Bool.false_ne_true]
  refine takes_look (takes_looksAt _) ?_
  rintro _ rfl
  rw [hfront, hdeclaration, if_neg Bool.false_ne_true]
  exact hfinish

end

/-- The text of a document with one element. -/
def write (node : Node) : String := String.ofList (writeNode node)

/-- An element that can be written is read back. -/
theorem read_write {name : String} {as : List Attribute} {children : List Node}
    (hname : IsName name) (has : WritableAttributes as) (hchildren : Writable children) :
    read (write (.element none name as children)) = .ok [.element none name as children] := by
  obtain ⟨_, s, hrun, -, rfl⟩ := takes_readDocument hname has hchildren
    ⟨writeNode (.element none name as children), Position.start⟩ (List.append_nil _).symm
  rw [read, write, String.toList_ofList, hrun]
  rfl

end PolicyAudit.Xml
