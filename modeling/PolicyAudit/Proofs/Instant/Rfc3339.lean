import PolicyAudit.Instant.Rfc3339

/-! # Texts of instants

Each part of the reader takes what the writer put down for it and leaves the rest: a run of digits
its number, a signed year the year, a fraction the nanoseconds.  Put together, the text of an instant
is read as that instant (`read_text`), leap seconds included. -/

namespace PolicyAudit.Instant

/-! ### Digits -/

theorem isDigit_of_mem_padded {width n : Nat} {c : Char} (h : c ∈ padded width n) :
    isDigit c = true := by
  rcases List.mem_append.mp h with h | h
  · rw [List.eq_of_mem_replicate h]
    rfl
  · have hdigit : c.isDigit = true := Nat.isDigit_of_mem_toDigits (by decide) (by decide) h
    simpa [Char.isDigit, isDigit, Char.le_def] using hdigit

theorem length_padded {width n : Nat} (hwidth : 0 < width) (h : n < Nat.pow 10 width) :
    (padded width n).length = width := by
  have hlength : (Nat.toDigits 10 n).length ≤ width :=
    (Nat.length_toDigits_le_iff (by decide) hwidth).mpr h
  simp only [padded, List.length_append, List.length_replicate]
  omega

theorem padded_ne_nil {width n : Nat} : padded width n ≠ [] := by
  simp [padded, Nat.toDigits_ne_nil]

theorem digitsValue_padded (width n : Nat) : digitsValue (padded width n) = n := by
  have hvalue (cs : List Char) : digitsValue cs = Nat.ofDigitChars 10 cs 0 := by
    simp only [digitsValue, Nat.ofDigitChars_eq_foldl, Nat.mul_comm 10]
    rfl
  rw [hvalue, padded, Nat.ofDigitChars_append, Nat.ofDigitChars_replicate_zero, Nat.mul_zero,
    Nat.ofDigitChars_ten_toDigits]

/-- No digit is blank. -/
theorem isBlank_of_isDigit {c : Char} (h : isDigit c = true) : Text.isBlank c = false := by
  have hc : 0x30 ≤ c.toNat ∧ c.toNat ≤ 0x39 := by
    simpa [isDigit, Char.le_def, UInt32.le_iff_toNat_le] using h
  simp only [Text.isBlank, Bool.or_eq_false_iff, Bool.and_eq_false_iff, decide_eq_false_iff_not,
    beq_eq_false_iff_ne]
  omega

/-! ### Parts -/

section

variable {width n : Nat} {rest : List Char}

theorem takeWhile_padded_append (width n : Nat) (rest : List Char) :
    (padded width n ++ rest).takeWhile isDigit = padded width n ++ rest.takeWhile isDigit :=
  List.takeWhile_append_of_pos fun _ => isDigit_of_mem_padded

/-- Digits of the width that is asked for are read, whatever follows them. -/
theorem readDigits_padded (hwidth : 0 < width) (h : n < Nat.pow 10 width) :
    readDigits (some width) (padded width n ++ rest) = .ok (padded width n, rest) := by
  have htake : (padded width n ++ rest.takeWhile isDigit).take width = padded width n :=
    List.take_left' (length_padded hwidth h)
  simp [readDigits, takeWhile_padded_append, htake, padded_ne_nil]

/-- All digits are read if none follows them. -/
theorem readDigits_padded_of_head? (h : ∀ c, rest.head? = some c → isDigit c = false) :
    readDigits none (padded width n ++ rest) = .ok (padded width n, rest) := by
  have hrest : rest.takeWhile isDigit = [] := by
    cases rest with
    | nil => rfl
    | cons c rest => simp [h c rfl]
  simp [readDigits, takeWhile_padded_append, hrest, padded_ne_nil]

theorem skipBlanks_cons {c : Char} (h : Text.isBlank c = false) :
    skipBlanks (c :: rest) = .ok ((), c :: rest) := by
  simp [skipBlanks, Text.trimStartChars, h]

theorem skipBlanks_padded : skipBlanks (padded width n ++ rest) = .ok ((), padded width n ++ rest) := by
  cases hds : padded width n with
  | nil => exact absurd hds padded_ne_nil
  | cons c cs =>
    have hc : isDigit c = true := isDigit_of_mem_padded (hds ▸ List.mem_cons_self)
    exact skipBlanks_cons (isBlank_of_isDigit hc)

/-- A step that succeeds hands its value and the rest to the next. -/
theorem bind_of_ok {α β : Type} {x : Reader α} {f : α → Reader β} {cs cs' : List Char} {a : α}
    (h : x cs = .ok (a, cs')) : (x >>= f) cs = f a cs' := by
  show (x cs >>= fun p => f p.1 p.2) = f a cs'
  rw [h]
  rfl

theorem separator_cons {c : Char} (h : Text.isBlank c = false) :
    separator c (c :: rest) = .ok ((), rest) := by
  rw [separator, bind_of_ok (skipBlanks_cons h), expect, if_pos rfl]

theorem readPart_padded {low high : Nat} (hlow : low ≤ n) (hhigh : n ≤ high) (h : n < 100) :
    readPart low high (padded 2 n ++ rest) = .ok (n, rest) := by
  rw [readPart, bind_of_ok skipBlanks_padded, bind_of_ok (readDigits_padded (by decide) h),
    digitsValue_padded]
  simp only [hlow, hhigh, and_self, if_true]
  rfl

theorem get_bind {α : Type} {f : List Char → Reader α} {cs : List Char} :
    (get >>= f) cs = f cs cs := rfl

/-- The year, if it can be computed with. -/
def yearWithin (year : Int) : Reader Int :=
  if -maxReadYear - 1 ≤ year ∧ year ≤ maxReadYear then pure year else throw .outOfRange

theorem readYear_minus (cs : List Char) :
    readYear ('-' :: cs) =
      (readDigits none >>= fun ds => yearWithin (-(digitsValue ds : Int))) cs := rfl

theorem readYear_plus (cs : List Char) :
    readYear ('+' :: cs) =
      (readDigits none >>= fun ds => yearWithin (digitsValue ds : Int)) cs := rfl

theorem readYear_digit {c : Char} {cs : List Char} (hc : isDigit c = true) :
    readYear (c :: cs) =
      (readDigits (some 4) >>= fun ds => yearWithin (digitsValue ds : Int)) (c :: cs) := by
  have hminus : c ≠ '-' := by
    rintro rfl
    cases hc
  have hplus : c ≠ '+' := by
    rintro rfl
    cases hc
  rw [readYear, bind_of_ok (skipBlanks_cons (isBlank_of_isDigit hc)), get_bind]
  simp only [List.cons.injEq, hminus, hplus, false_and, imp_self, implies_true, pure_bind]
  rfl

/-- A year of the calendar is read up to the hyphen behind it. -/
theorem readYear_yearText {year : Int} (hmin : minYear ≤ year) (hmax : year ≤ maxYear) :
    readYear (yearText year ++ '-' :: rest) = .ok (year, '-' :: rest) := by
  have hhyphen : ∀ c, ('-' :: rest).head? = some c → isDigit c = false := by
    rintro c ⟨⟩
    rfl
  have hwithin (cs : List Char) : yearWithin year cs = .ok (year, cs) := by
    have hrange : -maxReadYear - 1 ≤ year ∧ year ≤ maxReadYear :=
      ⟨Int.le_trans (by decide) hmin, Int.le_trans hmax (by decide)⟩
    rw [yearWithin, if_pos hrange]
    rfl
  rw [yearText]
  split
  · next hplain =>
    have hsmall : year.toNat < Nat.pow 10 4 := by
      show year.toNat < 10000
      omega
    have hvalue : ((year.toNat : Nat) : Int) = year := by omega
    obtain ⟨c, cs, hds⟩ := List.exists_cons_of_ne_nil
      (show padded 4 year.toNat ≠ [] from padded_ne_nil)
    have hc : isDigit c = true := isDigit_of_mem_padded (hds ▸ List.mem_cons_self)
    rw [hds, List.cons_append, readYear_digit hc, ← List.cons_append, ← hds,
      bind_of_ok (readDigits_padded (by decide) hsmall), digitsValue_padded, hvalue, hwithin]
  · next hsigned =>
    split
    · next hneg =>
      have hvalue : -((year.natAbs : Nat) : Int) = year := by omega
      rw [List.cons_append, readYear_minus, bind_of_ok (readDigits_padded_of_head? hhyphen),
        digitsValue_padded, hvalue, hwithin]
    · next hpos =>
      have hvalue : ((year.natAbs : Nat) : Int) = year := by omega
      rw [List.cons_append, readYear_plus, bind_of_ok (readDigits_padded_of_head? hhyphen),
        digitsValue_padded, hvalue, hwithin]

theorem readFraction_point (cs : List Char) :
    readFraction ('.' :: cs) = (readDigits none >>= fun ds =>
      pure (digitsValue (ds.take 9) * Nat.pow 10 (9 - (ds.take 9).length))) cs := rfl

/-- Up to nine digits of a fraction count as that many digits of the nanoseconds. -/
theorem readFraction_padded {nano : Nat} (hwidth : 0 < width) (hnine : width ≤ 9)
    (h : n < Nat.pow 10 width) (hnano : n * Nat.pow 10 (9 - width) = nano) :
    readFraction ('.' :: padded width n ++ ['Z']) = .ok (nano, ['Z']) := by
  have hzone : ∀ c, ['Z'].head? = some c → isDigit c = false := by
    rintro c ⟨⟩
    rfl
  have hlength : (padded width n).length = width := length_padded hwidth h
  have htake : (padded width n).take 9 = padded width n := List.take_of_length_le (by omega)
  rw [List.cons_append, readFraction_point, bind_of_ok (readDigits_padded_of_head? hzone), htake,
    hlength, digitsValue_padded, hnano]
  rfl

theorem readFraction_fractionText {nano : Nat} (h : nano < nanosPerSecond) :
    readFraction (fractionText nano ++ ['Z']) = .ok (nano, ['Z']) := by
  have hnano : nano < 1000000000 := h
  rw [fractionText]
  split
  · next hzero =>
    subst hzero
    rfl
  · split
    · next hmillis =>
      have hsmall : nano / 1000000 < 1000 := by omega
      have hvalue : nano / 1000000 * 1000000 = nano := by omega
      exact readFraction_padded (by decide) (by decide) hsmall hvalue
    · split
      · next hmicros =>
        have hsmall : nano / 1000 < 1000000 := by omega
        have hvalue : nano / 1000 * 1000 = nano := by omega
        exact readFraction_padded (by decide) (by decide) hsmall hvalue
      · exact readFraction_padded (by decide) (by decide) hnano (Nat.mul_one nano)

theorem readMark_T (cs : List Char) : readMark ('T' :: cs) = .ok ((), cs) := rfl

theorem readZone_Z : readZone ['Z'] = .ok (0, []) := rfl

end

/-! ### Instants -/

/-- What the text of an instant says. -/
def reading (i : Instant) : Reading where
  year := i.date.year
  month := i.date.month
  day := i.date.day
  hour := i.time.second / 3600
  minute := i.time.second / 60 % 60
  second := i.time.second % 60 + if nanosPerSecond ≤ i.time.nano then 1 else 0
  nano := if nanosPerSecond ≤ i.time.nano then i.time.nano - nanosPerSecond else i.time.nano
  offset := 0

theorem chars_eq (i : Instant) :
    i.chars = yearText i.reading.year ++ ('-' :: (padded 2 i.reading.month ++
      ('-' :: (padded 2 i.reading.day ++ ('T' :: (padded 2 i.reading.hour ++
      (':' :: (padded 2 i.reading.minute ++ (':' :: (padded 2 i.reading.second ++
      (fractionText i.reading.nano ++ ['Z']))))))))))) := by
  simp only [chars, List.append_assoc, List.cons_append]
  rfl

/-- The clock shows a second 60 at most, and a fraction below one second. -/
theorem reading_second_le (i : Instant) :
    i.reading.second ≤ 60 ∧ i.reading.nano < nanosPerSecond := by
  obtain ⟨-, hnano, -⟩ := i.time.isTime
  by_cases hleap : nanosPerSecond ≤ i.time.nano
  · simp only [reading, if_pos hleap]
    omega
  · simp only [reading, if_neg hleap]
    omega

theorem readParts_chars (i : Instant) : readParts i.chars = .ok (i.reading, []) := by
  obtain ⟨hyear, hyear', hmonth, hmonth', hday, hday'⟩ :
      IsDate i.reading.year i.reading.month i.reading.day := i.date.isDate
  have hday31 : i.reading.day ≤ 31 := Nat.le_trans hday' (daysInMonth_le _ _)
  have hhour : i.reading.hour ≤ 23 := by
    have hsecond : i.time.second < 86400 := i.time.isTime.1
    simp only [reading]
    omega
  have hminute : i.reading.minute ≤ 59 := by
    simp only [reading]
    omega
  obtain ⟨hsecond, hnano⟩ := reading_second_le i
  rw [chars_eq, readParts, bind_of_ok (readYear_yearText hyear hyear'),
    bind_of_ok (separator_cons rfl), bind_of_ok (readPart_padded hmonth hmonth' (by omega)),
    bind_of_ok (separator_cons rfl), bind_of_ok (readPart_padded hday hday31 (by omega)),
    bind_of_ok (readMark_T _), bind_of_ok (readPart_padded (Nat.zero_le _) hhour (by omega)),
    bind_of_ok (separator_cons rfl),
    bind_of_ok (readPart_padded (Nat.zero_le _) hminute (by omega)),
    bind_of_ok (separator_cons rfl),
    bind_of_ok (readPart_padded (Nat.zero_le _) hsecond (by omega)),
    bind_of_ok (readFraction_fractionText hnano), bind_of_ok readZone_Z]
  rfl

/-- The parts of the clock make up the time again, a second 60 being the prolonged second 59. -/
theorem reading_time (i : Instant) :
    i.reading.hour * 3600 + i.reading.minute * 60 +
        (if i.reading.second = 60 then 59 else i.reading.second) = i.time.second ∧
      i.reading.nano + (if i.reading.second = 60 then nanosPerSecond else 0) = i.time.nano := by
  obtain ⟨-, -, hleap⟩ := i.time.isTime
  by_cases h : nanosPerSecond ≤ i.time.nano
  · have hlast : i.time.second % 60 = 59 := hleap h
    simp only [reading, if_pos h, hlast, if_true]
    omega
  · have hclock : i.time.second % 60 + 0 ≠ 60 := by omega
    simp only [reading, if_neg h, if_neg hclock]
    omega

theorem instant_reading (i : Instant) : i.reading.instant = .ok i := by
  have hdate : Date.ofParts? i.reading.year i.reading.month i.reading.day = some i.date :=
    dif_pos i.date.isDate
  have htime : TimeOfDay.ofParts? i.time.second i.time.nano = some i.time := dif_pos i.time.isTime
  have hshift : shift? i.date i.time i.reading.offset = some i := shift?_zero i.date i.time
  obtain ⟨hsecond, hnano⟩ := reading_time i
  simp only [Reading.instant, hsecond, hnano, hdate, htime, hshift]
  rfl

/-- The text of an instant is read as that instant. -/
theorem read_text (i : Instant) : read i.text = .ok i := by
  rw [read, text, String.toList_ofList, readParts_chars]
  exact instant_reading i

end PolicyAudit.Instant
