import PolicyAudit.Uuid

/-! # Texts of identifiers

The hyphenated text of an identifier has 36 bytes, so it is read as five groups.  These join to the
digits in a row (`ungroup?_group`), and the digits to the identifier: `read_text`. -/

namespace PolicyAudit.Uuid

/-! ### Groups -/

theorem ungroup?_append {a b c d e : List Char} (ha : a.length = 8) (hb : b.length = 4)
    (hc : c.length = 4) (hd : d.length = 4) (he : e.length = 12) :
    ungroup? (a ++ '-' :: b ++ '-' :: c ++ '-' :: d ++ '-' :: e) =
      some (a ++ b ++ c ++ d ++ e) := by
  simp [ungroup?, ha, hb, hc, hd, he, List.drop_append, List.drop_of_length_le]

/-- The characters between the hyphens are all characters. -/
theorem parts_append (cs : List Char) :
    cs.take 8 ++ (cs.drop 8).take 4 ++ (cs.drop 12).take 4 ++ (cs.drop 16).take 4 ++
      cs.drop 20 = cs := by
  rw [← List.take_add, ← List.take_add, ← List.take_add, List.take_append_drop]

theorem ungroup?_group {cs : List Char} (h : cs.length = 32) : ungroup? (group cs) = some cs := by
  rw [group, ungroup?_append (by simp [h]) (by simp [h]) (by simp [h]) (by simp [h]) (by simp [h]),
    parts_append]

theorem length_group {cs : List Char} (h : cs.length = 32) : (group cs).length = 36 := by
  simp [group, h]

theorem eq_or_mem_of_mem_group {cs : List Char} {c : Char} (h : c ∈ group cs) :
    c = '-' ∨ c ∈ cs := by
  have hparts : c = '-' ∨ c ∈ cs.take 8 ++ (cs.drop 8).take 4 ++ (cs.drop 12).take 4 ++
      (cs.drop 16).take 4 ++ cs.drop 20 := by
    simp only [group, List.mem_append, List.mem_cons] at h ⊢
    grind
  rwa [parts_append] at hparts

/-! ### Bytes -/

theorem utf8Size_digitChar (d : Fin 16) : (digitChar d).utf8Size = 1 := by
  revert d; decide

/-- Characters of one byte each have as many bytes as there are of them. -/
theorem byteLength_eq_length {cs : List Char} (h : ∀ c ∈ cs, c.utf8Size = 1) :
    byteLength cs = cs.length := by
  have key (n : Nat) : cs.foldl (fun n c => n + c.utf8Size) n = n + cs.length := by
    induction cs generalizing n with
    | nil => rfl
    | cons c cs ih =>
      rw [List.foldl_cons, h c List.mem_cons_self,
        ih (fun c hc => h c (List.mem_cons_of_mem _ hc)), List.length_cons]
      omega
  rw [byteLength, key, Nat.zero_add]

/-! ### Reading -/

theorem ofDigits?_map_digitChar (u : Uuid) : ofDigits? (u.digits.map digitChar) = some u := by
  have hread : (u.digits.map digitChar).mapM digit? = some u.digits := by
    induction u.digits with
    | nil => rfl
    | cons d ds ih => simp [digit?_digitChar, ih]
  simp only [ofDigits?, hread, u.length_digits, dite_true]

/-- The text of an identifier is read as that identifier. -/
theorem read_text (u : Uuid) : read u.text = .ok u := by
  have hlength : (u.digits.map digitChar).length = 32 := by
    rw [List.length_map, u.length_digits]
  have hbytes : byteLength (group (u.digits.map digitChar)) = 36 := by
    rw [byteLength_eq_length, length_group hlength]
    intro c hc
    rcases eq_or_mem_of_mem_group hc with rfl | hmem
    · rfl
    · obtain ⟨d, -, rfl⟩ := List.mem_map.mp hmem
      exact utf8Size_digitChar d
  rw [read, text, String.toList_ofList, readChars]
  simp only [hbytes, readGroups, ungroup?_group hlength, Option.bind_some,
    ofDigits?_map_digitChar]
  rfl

end PolicyAudit.Uuid
