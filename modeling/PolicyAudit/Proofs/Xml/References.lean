import PolicyAudit.Proofs.Xml.Characters

/-! # Writing data

`writeData` writes the characters of a value or of a text.  A character that means something to a
reader is written as a reference, and so is a blank that a reader would take for another one.
Whatever a document may hold can be written: the pieces of what is written stand for the same
characters, in values (`attributeChars_map_pieceOf`) and in texts (`textChars_map_pieceOf`), and
what is written has nothing in it that ends either of them (`isDataChar_of_mem_writeData`). -/

namespace PolicyAudit.Xml

/-- The characters that are written as references, with what stands between `&` and `;`. -/
def escapes : List (Char × String) :=
  [('<', "lt"), ('>', "gt"), ('&', "amp"), ('"', "quot"), ('\t', "#9"), ('\n', "#10"),
    ('\r', "#13")]

def escape? (c : Char) : Option String := (escapes.find? (·.1 = c)).map (·.2)

def writeChar (c : Char) : List Char :=
  match escape? c with
  | some body => '&' :: (body.toList ++ [';'])
  | none => [c]

def writeData (cs : List Char) : List Char := cs.flatMap writeChar

/-- The piece that is read off what is written of a character. -/
def pieceOf (c : Char) : Piece := if (escape? c).isSome then .referenced c else .literal c

/-! ### Characters that are written -/

/-- A character that may stand inside of data. -/
structure IsDataChar (c : Char) : Prop where
  xml : isXmlChar c = true
  less : c ≠ '<'
  greater : c ≠ '>'
  quote : c ≠ '"'

theorem mem_escapes_of_escape? {c : Char} {body : String} (h : escape? c = some body) :
    (c, body) ∈ escapes := by
  obtain ⟨entry, hfind, rfl⟩ := Option.map_eq_some_iff.mp h
  obtain rfl : entry.1 = c := by simpa using List.find?_some hfind
  exact List.mem_of_find?_eq_some hfind

/-- A character that is written as it is differs from the others. -/
theorem ne_of_escape? {c d : Char} (hc : escape? c = none) (hd : escape? d ≠ none) : c ≠ d := by
  rintro rfl
  exact hd hc

theorem isDataChar_of_mem_escape? {c d : Char} {body : String} (h : escape? c = some body)
    (hd : d ∈ body.toList) : d ≠ ';' ∧ IsDataChar d := by
  have hall : (escapes.all fun entry => entry.2.toList.all fun d =>
      isXmlChar d && d != ';' && d != '<' && d != '>' && d != '"') = true := by decide
  have hplain := List.all_eq_true.mp (List.all_eq_true.mp hall _ (mem_escapes_of_escape? h)) d hd
  simp only [Bool.and_eq_true, bne_iff_ne] at hplain
  obtain ⟨⟨⟨⟨hxml, hsemicolon⟩, hless⟩, hgreater⟩, hquote⟩ := hplain
  exact ⟨hsemicolon, hxml, hless, hgreater, hquote⟩

theorem isDataChar_of_mem_writeChar {c d : Char} (hc : isXmlChar c = true)
    (hd : d ∈ writeChar c) : IsDataChar d := by
  unfold writeChar at hd
  split at hd
  · next body hbody =>
    rcases List.mem_cons.mp hd with rfl | hd
    · exact ⟨by decide, by decide, by decide, by decide⟩
    · rcases List.mem_append.mp hd with hd | hd
      · exact (isDataChar_of_mem_escape? hbody hd).2
      · obtain rfl := List.mem_singleton.mp hd
        exact ⟨by decide, by decide, by decide, by decide⟩
  · next hplain =>
    obtain rfl := List.mem_singleton.mp hd
    exact ⟨hc, ne_of_escape? hplain (by decide), ne_of_escape? hplain (by decide),
      ne_of_escape? hplain (by decide)⟩

section

variable {cs : List Char}

theorem isDataChar_of_mem_writeData (hcs : AreXml cs) {d : Char} (hd : d ∈ writeData cs) :
    IsDataChar d := by
  obtain ⟨c, hc, hd⟩ := List.mem_flatMap.mp hd
  exact isDataChar_of_mem_writeChar (hcs c hc) hd

theorem writeData_ne_nil (h : cs ≠ []) : writeData cs ≠ [] := by
  obtain ⟨c, cs, rfl⟩ := List.exists_cons_of_ne_nil h
  have hchar : writeChar c ≠ [] := by
    unfold writeChar
    split
    · exact List.cons_ne_nil _ _
    · exact List.cons_ne_nil _ _
  rw [writeData, List.flatMap_cons]
  exact List.append_ne_nil_of_left_ne_nil hchar _

end

/-! ### Pieces of what is written -/

theorem resolveReference_of_escape? {c : Char} {body : String} (h : escape? c = some body)
    (start : Position) : resolveReference start body.toList = .ok c := by
  have hmem := mem_escapes_of_escape? h
  simp only [escapes, List.mem_cons, Prod.mk.injEq, List.not_mem_nil, or_false] at hmem
  rcases hmem with ⟨rfl, rfl⟩ | ⟨rfl, rfl⟩ | ⟨rfl, rfl⟩ | ⟨rfl, rfl⟩ | ⟨rfl, rfl⟩ | ⟨rfl, rfl⟩ |
    ⟨rfl, rfl⟩ <;> rfl

/-- A reference is read to its end; `acc` is what has been read of it, last character first. -/
theorem readPieces_reference (done : List Piece) {start : Position} (acc : List Char)
    {body : List Char} (rest : List Char) {c : Char} (hbody : ';' ∉ body)
    (hc : resolveReference start (acc.reverse ++ body) = .ok c) (position : Position) :
    ∃ position', readPieces done (some (start, acc)) position (body ++ ';' :: rest) =
      readPieces (.referenced c :: done) none position' rest := by
  induction body generalizing acc position with
  | nil =>
    rw [List.append_nil] at hc
    exact ⟨position.after ';', by simp [readPieces, hc]⟩
  | cons d body ih =>
    obtain ⟨hd, hbody⟩ := not_or.mp (mt List.mem_cons.mpr hbody)
    obtain ⟨position', h⟩ := ih (d :: acc) hbody (by simpa using hc) (position.after d)
    refine ⟨position', ?_⟩
    rw [List.cons_append, readPieces, if_neg (Ne.symm hd), h]

theorem readPieces_writeChar (done : List Piece) (c : Char) (rest : List Char)
    (position : Position) :
    ∃ position', readPieces done none position (writeChar c ++ rest) =
      readPieces (pieceOf c :: done) none position' rest := by
  unfold writeChar pieceOf
  split
  · next body hbody =>
    have hsemicolon : ';' ∉ body.toList := fun h => (isDataChar_of_mem_escape? hbody h).1 rfl
    obtain ⟨position', h⟩ := readPieces_reference done [] rest hsemicolon
      (resolveReference_of_escape? hbody position) (position.after '&')
    refine ⟨position', ?_⟩
    rw [hbody, List.cons_append, List.append_assoc, List.singleton_append, readPieces]
    simpa using h
  · next hplain =>
    have hamp : c ≠ '&' := ne_of_escape? hplain (by decide)
    exact ⟨position.after c, by simp [readPieces, hplain, hamp]⟩

theorem readPieces_writeData {done : List Piece} (cs : List Char) (position : Position) :
    readPieces done none position (writeData cs) = .ok ((cs.map pieceOf).reverse ++ done) := by
  induction cs generalizing done position with
  | nil => rfl
  | cons c cs ih =>
    obtain ⟨position', h⟩ := readPieces_writeChar done c (writeData cs) position
    rw [writeData, List.flatMap_cons, ← writeData, h, ih]
    simp

theorem pieces_writeData (start : Position) (cs : List Char) :
    pieces start (writeData cs) = .ok (cs.map pieceOf) := by
  rw [pieces, readPieces_writeData]
  simp [Except.map]

/-! ### Normalisation changes nothing -/

theorem attributeChars_map_pieceOf (cs : List Char) : attributeChars (cs.map pieceOf) = cs := by
  induction cs with
  | nil => rfl
  | cons c cs ih =>
    rw [List.map_cons, pieceOf]
    split
    · rw [attributeChars, ih]
    · next hsome =>
      have hplain : escape? c = none := by simpa using hsome
      have htab : c ≠ '\t' := ne_of_escape? hplain (by decide)
      have hline : c ≠ '\n' := ne_of_escape? hplain (by decide)
      have hreturn : c ≠ '\r' := ne_of_escape? hplain (by decide)
      rw [attributeChars, ih]
      · simp [htab, hline, hreturn]
      · exact fun _ _ h => hreturn h

/-- Behind another character than a carriage return, one that is none either is added as it is. -/
theorem pushLiteral_eq_cons {done : List Char} {c : Char} {isLast : Bool}
    (hdone : done.head? ≠ some '\r') (hc : c ≠ '\r') : pushLiteral done c isLast = c :: done := by
  unfold pushLiteral
  dsimp only
  rw [if_neg fun h => hc h.2]
  split
  · exact absurd rfl hdone
  · rfl

/-- A carriage return is always a reference, and what stands behind one is taken as it is. -/
theorem textCharsLoop_map_pieceOf {done : List Char} {asIs : Bool} (cs : List Char)
    (hdone : asIs = false → done.head? ≠ some '\r') :
    textCharsLoop done asIs (cs.map pieceOf) = cs.reverse ++ done := by
  induction cs generalizing done asIs with
  | nil => rfl
  | cons c cs ih =>
    rw [List.map_cons, pieceOf, List.reverse_cons, List.append_assoc, List.singleton_append]
    split
    · rw [textCharsLoop]
      exact ih fun h => absurd h (by decide)
    · next hsome =>
      have hplain : escape? c = none := by simpa using hsome
      have hreturn : c ≠ '\r' := ne_of_escape? hplain (by decide)
      have hhead : (c :: done).head? ≠ some '\r' := by simpa using hreturn
      rw [textCharsLoop]
      split
      · exact ih fun _ => hhead
      · next hasIs =>
        rw [pushLiteral_eq_cons (hdone (by simpa using hasIs)) hreturn]
        exact ih fun _ => hhead

theorem textChars_map_pieceOf (cs : List Char) : textChars (cs.map pieceOf) = cs := by
  rw [textChars, textCharsLoop_map_pieceOf cs (by simp), List.append_nil, List.reverse_reverse]

end PolicyAudit.Xml
