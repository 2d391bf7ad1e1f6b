import PolicyAudit.Proofs.Xml.Reader
import PolicyAudit.Xml.Document

/-! # Characters of attribute values

A document that is read has characters of XML alone in the values of its attributes
(`areXml_of_read`).  The literal characters of a value are looked at before its quote is, and a
reference never stands for another character.

What the readers of this module yield is `Plain` in this sense: attributes, start tags and the
progress of a document. -/

namespace PolicyAudit.Xml

/-! ### Values -/

/-- All of the characters are characters of XML. -/
def AreXml (cs : List Char) : Prop := ∀ c ∈ cs, isXmlChar c = true

theorem areXml_cons {c : Char} {cs : List Char} :
    AreXml (c :: cs) ↔ isXmlChar c = true ∧ AreXml cs := List.forall_mem_cons

theorem areXml_of_all {cs : List Char} (h : cs.all isXmlChar = true) : AreXml cs :=
  List.all_eq_true.mp h

theorem areXml_of_takeUntilLoop {stop : List Char → Bool} {done cs : List Char}
    {position : Position} {r : List Char × Cursor}
    (h : takeUntilLoop stop done position cs = .ok r) (hdone : AreXml done) : AreXml r.1 := by
  induction cs generalizing done position with
  | nil =>
    obtain rfl := Except.ok.inj h
    exact hdone
  | cons c cs ih =>
    rw [takeUntilLoop] at h
    split at h
    · cases h
    · next hc =>
      split at h
      · obtain rfl := Except.ok.inj h
        exact hdone
      · exact ih h (areXml_cons.mpr ⟨by simpa using hc, hdone⟩)

theorem yields_takeUntil (stop : List Char → Bool) : Yields (takeUntil stop) AreXml := by
  intro s cs s' h
  rw [takeUntil] at h
  cases hloop : takeUntilLoop stop [] s.position s.rest with
  | error e =>
    rw [hloop] at h
    cases h
  | ok r =>
    rw [hloop] at h
    obtain rfl : r.1.reverse = cs := congrArg Prod.fst (Except.ok.inj h)
    intro c hc
    exact areXml_of_takeUntilLoop hloop (fun _ h => absurd h List.not_mem_nil) c
      (List.mem_reverse.mp hc)

theorem yields_readRawAttribute : Yields readRawAttribute fun r => AreXml r.2.2 := by
  unfold readRawAttribute
  iterate 6 refine yields_after fun _ => ?_
  refine yields_bind (yields_takeUntil _) fun value hvalue => ?_
  exact yields_after fun _ => yields_pure hvalue

theorem isXmlChar_of_characterOf? {n : Nat} {c : Char} (h : characterOf? n = some c) :
    isXmlChar c = true := by
  unfold characterOf? at h
  obtain ⟨-, h⟩ := Option.ite_none_left_eq_some.mp h
  obtain ⟨hxml, hc⟩ := Option.ite_none_right_eq_some.mp h
  exact Option.some.inj hc ▸ hxml

theorem isXmlChar_of_numbered? {base : Nat} {digit? : Char → Option Nat} {cs : List Char}
    {c : Char} (h : numbered? base digit? cs = some c) : isXmlChar c = true := by
  rw [numbered?] at h
  split at h
  · cases h
  · obtain ⟨n, -, hn⟩ := Option.bind_eq_some_iff.mp h
    exact isXmlChar_of_characterOf? hn

theorem isXmlChar_of_mem_namedCharacters {entry : String × Char} (h : entry ∈ namedCharacters) :
    isXmlChar entry.2 = true := by
  have hall : ∀ entry ∈ namedCharacters, isXmlChar entry.2 = true := by
    simp only [namedCharacters, List.forall_mem_cons]
    decide
  exact hall entry h

theorem isXmlChar_of_resolveReference {start : Position} {body : List Char} {c : Char}
    (h : resolveReference start body = .ok c) : isXmlChar c = true := by
  unfold resolveReference at h
  dsimp only at h
  split at h
  · split at h
    · next hc =>
      obtain rfl := Except.ok.inj h
      exact isXmlChar_of_numbered? hc
    · cases h
  · split at h
    · next hc =>
      obtain rfl := Except.ok.inj h
      exact isXmlChar_of_numbered? hc
    · cases h
  · split at h
    · split at h
      · next hfind =>
        obtain rfl := Except.ok.inj h
        exact isXmlChar_of_mem_namedCharacters (List.mem_of_find?_eq_some hfind)
      · cases h
    · cases h

/-- The character of a piece. -/
def Piece.char : Piece → Char
  | literal c => c
  | referenced c => c

/-- The pieces stand for characters of XML. -/
def ArePlain (ps : List Piece) : Prop := ∀ p ∈ ps, isXmlChar p.char = true

theorem arePlain_of_readPieces {done ps : List Piece} {pending : Option (Position × List Char)}
    {position : Position} {cs : List Char} (h : readPieces done pending position cs = .ok ps)
    (hdone : ArePlain done) (hcs : AreXml cs) : ArePlain ps := by
  induction cs generalizing done pending position with
  | nil =>
    unfold readPieces at h
    split at h
    · obtain rfl := Except.ok.inj h
      exact hdone
    · cases h
  | cons c cs ih =>
    obtain ⟨hc, hcs⟩ := areXml_cons.mp hcs
    unfold readPieces at h
    split at h
    · split at h
      · exact ih h hdone hcs
      · exact ih h (List.forall_mem_cons.mpr ⟨hc, hdone⟩) hcs
    · split at h
      · split at h
        · next hr =>
          exact ih h (List.forall_mem_cons.mpr ⟨isXmlChar_of_resolveReference hr, hdone⟩) hcs
        · cases h
      · exact ih h hdone hcs

theorem arePlain_of_pieces {start : Position} {cs : List Char} {ps : List Piece}
    (h : pieces start cs = .ok ps) (hcs : AreXml cs) : ArePlain ps := by
  rw [pieces] at h
  cases hread : readPieces [] none start cs with
  | error e =>
    rw [hread] at h
    cases h
  | ok qs =>
    rw [hread] at h
    obtain rfl := Except.ok.inj h
    intro p hp
    exact arePlain_of_readPieces hread (fun _ h => absurd h List.not_mem_nil) hcs p
      (List.mem_reverse.mp hp)

theorem areXml_attributeChars {ps : List Piece} (h : ArePlain ps) : AreXml (attributeChars ps) := by
  induction ps using attributeChars.induct with
  | case1 => exact fun _ h => absurd h List.not_mem_nil
  | case2 c rest ih =>
    obtain ⟨hc, hrest⟩ := List.forall_mem_cons.mp h
    rw [attributeChars]
    exact areXml_cons.mpr ⟨hc, ih hrest⟩
  | case3 rest ih =>
    obtain ⟨-, hrest⟩ := List.forall_mem_cons.mp h
    obtain ⟨-, hrest⟩ := List.forall_mem_cons.mp hrest
    rw [attributeChars]
    exact areXml_cons.mpr ⟨by decide, ih hrest⟩
  | case4 c rest hline ih =>
    obtain ⟨hc, hrest⟩ := List.forall_mem_cons.mp h
    rw [attributeChars]
    · refine areXml_cons.mpr ⟨?_, ih hrest⟩
      split
      · decide
      · exact hc
    · exact hline

/-! ### Start tags -/

/-- The attributes read so far have characters of XML alone. -/
def TagContent.Plain (t : TagContent) : Prop := ∀ a ∈ t.attributes, AreXml a.value.toList

theorem ite_error_eq_ok_iff {ε α : Type} {c : Prop} [Decidable c] {e : ε} {x : Except ε α} {a : α} :
    (if c then .error e else x) = .ok a ↔ ¬ c ∧ x = .ok a := by
  by_cases h : c <;> simp [h]

/-- A binding is no attribute. -/
theorem TagContent.attributes_of_insert {t t' : TagContent} {qualifier uri : String}
    (h : t.insert qualifier uri = .ok t') : t'.attributes = t.attributes := by
  rw [TagContent.insert] at h
  split at h
  · obtain rfl := Except.ok.inj h
    rfl
  · split at h
    · obtain rfl := Except.ok.inj h
      rfl
    · cases h

theorem TagContent.attributes_of_bind {t t' : TagContent} {qualifier uri : String}
    {position : Position} (h : t.bind qualifier uri position = .ok t') :
    t'.attributes = t.attributes := by
  rw [TagContent.bind] at h
  iterate 4 obtain ⟨-, h⟩ := ite_error_eq_ok_iff.mp h
  split at h
  · obtain rfl := Except.ok.inj h
    rfl
  · exact TagContent.attributes_of_insert h

theorem TagContent.attributes_of_bindDefault {t t' : TagContent} {uri : String}
    {position : Position} (h : t.bindDefault uri position = .ok t') :
    t'.attributes = t.attributes := by
  rw [TagContent.bindDefault] at h
  iterate 2 obtain ⟨-, h⟩ := ite_error_eq_ok_iff.mp h
  exact TagContent.attributes_of_insert h

theorem TagContent.plain_of_add {t t' : TagContent} {a : RawAttribute} (h : t.add a = .ok t')
    (ht : t.Plain) (ha : AreXml a.value.toList) : t'.Plain := by
  unfold TagContent.add at h
  split at h
  · rw [TagContent.Plain, TagContent.attributes_of_bind h]
    exact ht
  · split at h
    · rw [TagContent.Plain, TagContent.attributes_of_bindDefault h]
      exact ht
    · obtain rfl := Except.ok.inj h
      exact List.forall_mem_cons.mpr ⟨ha, ht⟩

theorem yields_readAttribute {t : TagContent} (ht : t.Plain) :
    Yields (readAttribute t) TagContent.Plain := by
  unfold readAttribute
  refine yields_after fun position => ?_
  refine yields_bind yields_readRawAttribute fun raw hraw => ?_
  refine yields_bind (yields_lift fun ps hps => arePlain_of_pieces hps hraw) fun ps hps => ?_
  refine yields_lift fun t' h => TagContent.plain_of_add h ht ?_
  rw [String.toList_ofList]
  exact areXml_attributeChars hps

theorem yields_readTagContent (fuel : Nat) {t : TagContent} (ht : t.Plain) :
    Yields (readTagContent fuel t) fun r => r.1.Plain := by
  induction fuel generalizing t with
  | zero => exact yields_pure ht
  | succ fuel ih =>
    unfold readTagContent
    refine yields_after fun ended => ?_
    split
    · exact yields_pure ht
    · refine yields_after fun spaces => yields_after fun c => ?_
      split
      · exact yields_after fun _ => yields_after fun _ => yields_pure ht
      · split
        · exact yields_after fun _ => yields_pure ht
        · split
          · exact yields_after fun position => yields_throw _
          · exact yields_bind (yields_readAttribute ht) fun t' ht' => ih ht'

/-- The attributes have characters of XML alone. -/
def PlainAttributes (attributes : List Attribute) : Prop :=
  ∀ a ∈ attributes, AreXml a.value.toList

theorem plainAttributes_of_resolveLoop {scope : Scope} {done : List Attribute}
    {raw : List RawAttribute} {attributes : List Attribute}
    (h : TagContent.resolveLoop scope done raw = .ok attributes) (hdone : PlainAttributes done)
    (hraw : ∀ a ∈ raw, AreXml a.value.toList) : PlainAttributes attributes := by
  induction raw generalizing done with
  | nil =>
    obtain rfl := Except.ok.inj h
    exact fun a ha => hdone a (List.mem_reverse.mp ha)
  | cons a raw ih =>
    obtain ⟨ha, hraw⟩ := List.forall_mem_cons.mp hraw
    unfold TagContent.resolveLoop at h
    split at h
    · cases h
    · split at h
      · cases h
      · exact ih h (List.forall_mem_cons.mpr ⟨ha, hdone⟩) hraw

theorem plainAttributes_of_resolve {t : TagContent} {outer : Scope} {attributes : List Attribute}
    (h : t.resolve outer = .ok attributes) (ht : t.Plain) : PlainAttributes attributes :=
  plainAttributes_of_resolveLoop h (fun _ h => absurd h List.not_mem_nil)
    fun a ha => ht a (List.mem_reverse.mp ha)

/-! ### Documents -/

/-- The elements of the nodes, at any depth, have plain attributes. -/
def PlainNodes (nodes : List Node) : Prop :=
  ∀ node ∈ nodes, ∀ e ∈ node.elements, PlainAttributes e.attributes

theorem plainNodes_cons {node : Node} {nodes : List Node} :
    PlainNodes (node :: nodes) ↔
      (∀ e ∈ node.elements, PlainAttributes e.attributes) ∧ PlainNodes nodes :=
  List.forall_mem_cons

theorem mem_elementsOf {nodes : List Node} {e : Element} :
    e ∈ Node.elementsOf nodes ↔ ∃ node ∈ nodes, e ∈ node.elements := by
  induction nodes with
  | nil => simp [Node.elementsOf]
  | cons node nodes ih => simp [Node.elementsOf, ih]

/-- An open element with plain attributes, and plain nodes inside. -/
structure OpenElement.Plain (e : OpenElement) : Prop where
  attributes : PlainAttributes e.attributes
  children : PlainNodes e.children

theorem OpenElement.Plain.close {e : OpenElement} (h : e.Plain) :
    ∀ e' ∈ e.close.elements, PlainAttributes e'.attributes := by
  intro e' he'
  rcases List.mem_cons.mp he' with rfl | he'
  · exact h.attributes
  · obtain ⟨node, hnode, he'⟩ := mem_elementsOf.mp he'
    exact h.children node (List.mem_reverse.mp hnode) e' he'

/-- What has been read of a document has plain attributes. -/
structure Progress.Plain (p : Progress) : Prop where
  stack : ∀ e ∈ p.stack, e.Plain
  top : PlainNodes p.top

theorem Progress.Plain.add {p : Progress} {node : Node} (h : p.Plain)
    (hnode : ∀ e ∈ node.elements, PlainAttributes e.attributes) : (p.add node).Plain := by
  obtain ⟨stack, top, known⟩ := p
  cases stack with
  | nil => exact ⟨h.stack, plainNodes_cons.mpr ⟨hnode, h.top⟩⟩
  | cons e stack =>
    obtain ⟨he, hstack⟩ := List.forall_mem_cons.mp h.stack
    have hopen : OpenElement.Plain
        ⟨e.name, e.namespaceUri, e.attributes, e.scope, node :: e.children⟩ :=
      ⟨he.attributes, plainNodes_cons.mpr ⟨hnode, he.children⟩⟩
    exact ⟨List.forall_mem_cons.mpr ⟨hopen, hstack⟩, h.top⟩

/-- A node without elements changes nothing. -/
theorem Progress.Plain.add_of_elements_eq_nil {p : Progress} {node : Node} (h : p.Plain)
    (hnode : node.elements = []) : (p.add node).Plain :=
  h.add fun _ he => absurd (hnode ▸ he) List.not_mem_nil

section

variable {p : Progress}

theorem yields_readStartTag (hp : p.Plain) : Yields (readStartTag p) Progress.Plain := by
  unfold readStartTag
  refine yields_after fun _ => yields_after fun position => yields_after fun name => ?_
  dsimp only
  split
  · exact yields_throw_bind _ _
  · refine yields_after fun s => ?_
    have hempty : (TagContent.empty p.known).Plain := fun _ h => absurd h List.not_mem_nil
    refine yields_bind (yields_readTagContent _ hempty) fun r hr => ?_
    split
    · exact yields_pure hp
    · refine yields_bind (yields_lift fun as has => plainAttributes_of_resolve has hr)
        fun as has => ?_
      refine yields_after fun uri => ?_
      have hopen : OpenElement.Plain ⟨name, uri, as, r.1.scope p.scope, []⟩ :=
        ⟨has, fun _ h => absurd h List.not_mem_nil⟩
      split
      · exact yields_pure ⟨List.forall_mem_cons.mpr ⟨hopen, hp.stack⟩, hp.top⟩
      · exact yields_pure (Progress.Plain.add ⟨hp.stack, hp.top⟩ hopen.close)

theorem yields_readEndTag (hp : p.Plain) : Yields (readEndTag p) Progress.Plain := by
  unfold readEndTag
  iterate 5 refine yields_after fun _ => ?_
  split
  · exact yields_throw _
  · next e stack hstack =>
    obtain ⟨he, hrest⟩ := List.forall_mem_cons.mp (hstack ▸ hp.stack)
    split
    · exact yields_pure (Progress.Plain.add ⟨hrest, hp.top⟩ he.close)
    · exact yields_throw _

theorem yields_readComment (hp : p.Plain) : Yields (readComment p) Progress.Plain := by
  unfold readComment
  iterate 4 refine yields_after fun _ => ?_
  dsimp only
  split
  · exact yields_throw_bind _ _
  · exact yields_pure (hp.add_of_elements_eq_nil rfl)

theorem yields_readInstruction (hp : p.Plain) : Yields (readInstruction p) Progress.Plain := by
  unfold readInstruction
  refine yields_after fun _ => ?_
  dsimp only
  split
  · exact yields_after fun _ => yields_throw_bind _ _
  · iterate 5 refine yields_after fun _ => ?_
    exact yields_pure (hp.add_of_elements_eq_nil rfl)

theorem yields_readCdata (hp : p.Plain) : Yields (readCdata p) Progress.Plain := by
  unfold readCdata
  iterate 3 refine yields_after fun _ => ?_
  exact yields_pure (hp.add_of_elements_eq_nil rfl)

theorem yields_readText (hp : p.Plain) : Yields (readText p) Progress.Plain := by
  unfold readText
  iterate 2 refine yields_after fun _ => ?_
  dsimp only
  split
  · exact yields_after fun _ => yields_throw_bind _ _
  · exact yields_after fun _ => yields_pure (hp.add_of_elements_eq_nil rfl)

theorem yields_readPart (hp : p.Plain) : Yields (readPart p) Progress.Plain := by
  unfold readPart
  refine yields_after fun s => ?_
  split
  · refine yields_after fun _ => ?_
    split
    · exact yields_readComment hp
    · refine yields_after fun _ => ?_
      split
      · exact yields_readCdata hp
      · exact yields_after fun _ => yields_throw _
  · exact yields_readInstruction hp
  · exact yields_readEndTag hp
  · exact yields_after fun _ => yields_throw _
  · exact yields_readStartTag hp
  · exact yields_readText hp

theorem yields_readContent (fuel : Nat) (hp : p.Plain) :
    Yields (readContent fuel p) Progress.Plain := by
  induction fuel generalizing p with
  | zero => exact yields_pure hp
  | succ fuel ih =>
    unfold readContent
    refine yields_after fun _ => ?_
    split
    · exact yields_pure hp
    · exact yields_bind (yields_readPart hp) fun p' hp' => ih hp'

theorem yields_readMisc (fuel : Nat) (hp : p.Plain) : Yields (readMisc fuel p) Progress.Plain := by
  induction fuel generalizing p with
  | zero => exact yields_pure hp
  | succ fuel ih =>
    unfold readMisc
    iterate 2 refine yields_after fun _ => ?_
    split
    · exact yields_bind (yields_readComment hp) fun p' hp' => ih hp'
    · refine yields_after fun _ => ?_
      split
      · exact yields_bind (yields_readInstruction hp) fun p' hp' => ih hp'
      · exact yields_pure hp

end

theorem yields_readDocument : Yields readDocument Progress.Plain := by
  have hempty : Progress.empty.Plain :=
    ⟨fun _ h => absurd h List.not_mem_nil, fun _ h => absurd h List.not_mem_nil⟩
  unfold readDocument
  extract_lets finish start
  have hfinish : ∀ u, Yields (finish u) Progress.Plain := by
    intro u
    refine yields_after fun s => ?_
    extract_lets fuel content
    have hcontent : ∀ p, p.Plain → Yields (content p) Progress.Plain := by
      intro p hp
      refine yields_bind (yields_readContent fuel hp) fun p hp => ?_
      refine yields_bind (yields_readMisc fuel hp) fun p hp => yields_after fun ended => ?_
      extract_lets done
      split
      · exact yields_pure hp
      · exact yields_after fun _ => yields_throw_bind _ _
    refine yields_bind (yields_readMisc fuel hempty) fun p hp => yields_after fun isDoctype => ?_
    extract_lets root
    have hroot : ∀ u, Yields (root u) Progress.Plain := by
      intro u
      refine yields_after fun isTag => ?_
      split
      · exact yields_bind (yields_readStartTag hp) hcontent
      · exact yields_bind (yields_pure hp) hcontent
    split
    · exact yields_throw_bind _ _
    · exact hroot ()
  have hstart : ∀ u, Yields (start u) Progress.Plain := by
    intro u
    refine yields_after fun isDeclaration => ?_
    split
    · exact yields_after hfinish
    · exact hfinish ()
  refine yields_after fun hasMark => ?_
  split
  · exact yields_after hstart
  · exact hstart ()

/-- The attributes of a document that is read have characters of XML alone. -/
theorem areXml_of_read {s : String} {nodes : List Node} (h : read s = .ok nodes) {e : Element}
    (he : e ∈ Node.elementsOf nodes) {a : Attribute} (ha : a ∈ e.attributes) :
    AreXml a.value.toList := by
  rw [read] at h
  cases hread : readDocument ⟨s.toList, Position.start⟩ with
  | error e =>
    rw [hread] at h
    cases h
  | ok r =>
    have hplain : r.1.Plain := yields_readDocument _ _ _ hread
    rw [hread] at h
    have htop : nodes = r.1.top.reverse := by
      simp only [bind, Except.bind, pure, Except.pure] at h
      split at h
      · split at h
        · cases h
        · exact (Except.ok.inj h).symm
      · cases h
    rw [htop] at he
    obtain ⟨node, hnode, he⟩ := mem_elementsOf.mp he
    exact hplain.top node (List.mem_reverse.mp hnode) e he a ha

end PolicyAudit.Xml
