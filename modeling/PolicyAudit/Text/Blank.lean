/-! # Blank characters and trimming

A character is *blank* when it has the Unicode property `White_Space`: the ASCII blanks, the next
line control, the no-break space and the spaces and separators of the other scripts.  The
information separators `U+001C`–`U+001F`, the Mongolian vowel separator, the zero width space and
the byte order mark are not blank.

`trim` drops the blanks at both ends of a text.  Its result neither begins nor ends with a blank
(`trimChars_head?`, `trimChars_getLast?`), what it drops is blank (`exists_append_trimChars`), and
a second trim changes nothing (`trimChars_trimChars`). -/

namespace PolicyAudit.Text

/-- The Unicode property `White_Space`. -/
def isBlank (c : Char) : Bool :=
  let n := c.toNat
  (0x09 ≤ n && n ≤ 0x0d) || n == 0x20 || n == 0x85 || n == 0xa0 || n == 0x1680 ||
    (0x2000 ≤ n && n ≤ 0x200a) || n == 0x2028 || n == 0x2029 || n == 0x202f || n == 0x205f ||
    n == 0x3000

/-- The characters without the blanks in front. -/
def trimStartChars (cs : List Char) : List Char := cs.dropWhile isBlank

/-- The characters without the blanks behind. -/
def trimEndChars (cs : List Char) : List Char := (cs.reverse.dropWhile isBlank).reverse

/-- The characters without the blanks at either end. -/
def trimChars (cs : List Char) : List Char := trimEndChars (trimStartChars cs)

/-- The text without the blanks at either end. -/
def trim (s : String) : String := String.ofList (trimChars s.toList)

/-- A text that is empty, or holds blanks only. -/
def isBlankText (s : String) : Bool := s.toList.all isBlank

/-! ### Laws of trimming -/

theorem trimStartChars_head? (cs : List Char) (c : Char)
    (h : (trimStartChars cs).head? = some c) : isBlank c = false := by
  have := List.head?_dropWhile_not isBlank cs
  rw [trimStartChars] at h
  simpa [h] using this

theorem trimEndChars_getLast? (cs : List Char) (c : Char)
    (h : (trimEndChars cs).getLast? = some c) : isBlank c = false := by
  have := List.head?_dropWhile_not isBlank cs.reverse
  rw [trimEndChars, List.getLast?_reverse] at h
  simpa [h] using this

/-- What `trimStartChars` drops is a run of blanks in front. -/
theorem exists_append_trimStartChars (cs : List Char) :
    ∃ front, front.all isBlank = true ∧ front ++ trimStartChars cs = cs :=
  ⟨cs.takeWhile isBlank, List.all_takeWhile, List.takeWhile_append_dropWhile⟩

/-- What `trimEndChars` drops is a run of blanks behind. -/
theorem exists_trimEndChars_append (cs : List Char) :
    ∃ back, back.all isBlank = true ∧ trimEndChars cs ++ back = cs := by
  refine ⟨(cs.reverse.takeWhile isBlank).reverse, ?_, ?_⟩
  · rw [List.all_reverse]; exact List.all_takeWhile
  · rw [trimEndChars, ← List.reverse_append, List.takeWhile_append_dropWhile, List.reverse_reverse]

/-- A text is its trimmed form between two runs of blanks. -/
theorem exists_append_trimChars (cs : List Char) :
    ∃ front back, front.all isBlank = true ∧ back.all isBlank = true ∧
      front ++ trimChars cs ++ back = cs := by
  obtain ⟨front, hf, ef⟩ := exists_append_trimStartChars cs
  obtain ⟨back, hb, eb⟩ := exists_trimEndChars_append (trimStartChars cs)
  exact ⟨front, back, hf, hb, by rw [List.append_assoc, trimChars, eb, ef]⟩

theorem trimChars_getLast? (cs : List Char) (c : Char)
    (h : (trimChars cs).getLast? = some c) : isBlank c = false :=
  trimEndChars_getLast? _ c h

theorem trimChars_head? (cs : List Char) (c : Char)
    (h : (trimChars cs).head? = some c) : isBlank c = false := by
  obtain ⟨back, -, eb⟩ := exists_trimEndChars_append (trimStartChars cs)
  refine trimStartChars_head? cs c ?_
  rw [← eb]
  cases ht : trimEndChars (trimStartChars cs) with
  | nil => simp [trimChars, ht] at h
  | cons d ds => simpa [trimChars, ht] using h

/-- Characters that neither begin nor end with a blank are their own trimmed form. -/
theorem trimChars_eq_self (cs : List Char) (hh : ∀ c, cs.head? = some c → isBlank c = false)
    (hl : ∀ c, cs.getLast? = some c → isBlank c = false) : trimChars cs = cs := by
  have h1 : trimStartChars cs = cs := by
    cases cs with
    | nil => rfl
    | cons c cs => simp [trimStartChars, hh c rfl]
  have h2 : cs.reverse.dropWhile isBlank = cs.reverse := by
    cases hr : cs.reverse with
    | nil => rfl
    | cons c rs =>
      have hc : isBlank c = false := hl c (by rw [← List.head?_reverse, hr]; rfl)
      simp [hc]
  rw [trimChars, h1, trimEndChars, h2, List.reverse_reverse]

theorem trimChars_trimChars (cs : List Char) : trimChars (trimChars cs) = trimChars cs :=
  trimChars_eq_self _ (trimChars_head? cs) (trimChars_getLast? cs)

theorem trim_trim (s : String) : trim (trim s) = trim s := by
  simp [trim, trimChars_trimChars]

/-- Trimming adds no character. -/
theorem mem_of_mem_trim {s : String} {c : Char} (h : c ∈ (trim s).toList) : c ∈ s.toList := by
  obtain ⟨front, back, -, -, e⟩ := exists_append_trimChars s.toList
  rw [trim, String.toList_ofList] at h
  rw [← e]
  exact List.mem_append_left _ (List.mem_append_right _ h)

/-- The trimmed form is empty exactly for a blank text. -/
theorem trim_eq_empty_iff (s : String) : trim s = "" ↔ isBlankText s = true := by
  have key : trimChars s.toList = [] ↔ s.toList.all isBlank = true := by
    constructor
    · intro h
      obtain ⟨front, back, hf, hb, e⟩ := exists_append_trimChars s.toList
      rw [h, List.append_nil] at e
      simp [← e, List.all_append, hf, hb]
    · intro h
      obtain ⟨front, -, e⟩ := exists_append_trimStartChars s.toList
      cases ht : trimStartChars s.toList with
      | nil => rw [trimChars, ht]; rfl
      | cons c cs =>
        have hc := trimStartChars_head? s.toList c (by rw [ht]; rfl)
        have : isBlank c = true := List.all_eq_true.mp h c (by rw [← e, ht]; simp)
        rw [hc] at this; cases this
  rw [isBlankText, ← key, trim]
  constructor
  · intro h
    have := congrArg String.toList h
    simpa using this
  · intro h; rw [h]

end PolicyAudit.Text
