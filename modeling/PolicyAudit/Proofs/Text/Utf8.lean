import Mathlib.Data.String.Basic
import PolicyAudit.Text.Utf8

/-! # The order of texts by their bytes

A character has one to four bytes in UTF-8, as its number has place (`CharBytes`).  The bytes of a
lesser character are less than those of a greater one before either ends (`CharBytes.append_lt`), so
texts have one order, whether they are compared by characters or by bytes (`lt_iff_bytes_lt`). -/

namespace PolicyAudit.Text

theorem bytes_eq (s : String) : bytes s = s.toList.flatMap String.utf8EncodeChar := by
  have h : s.toUTF8 = s.toList.utf8Encode := String.utf8Encode_toList.symm
  rw [bytes, h, List.utf8Encode, List.toList_data_toByteArray]

/-! ### Characters -/

/-- The bytes of the character with a number: each holds a digit of it. -/
inductive CharBytes : Nat → List UInt8 → Prop
  | one {a : Nat} : a < 0x80 → CharBytes a [.ofNat a]
  | two {a b : Nat} : a < 32 → b < 64 → 0x80 ≤ a * 64 + b →
      CharBytes (a * 64 + b) [.ofNat (a + 0xC0), .ofNat (b + 0x80)]
  | three {a b c : Nat} : a < 16 → b < 64 → c < 64 → 0x800 ≤ (a * 64 + b) * 64 + c →
      CharBytes ((a * 64 + b) * 64 + c) [.ofNat (a + 0xE0), .ofNat (b + 0x80), .ofNat (c + 0x80)]
  | four {a b c d : Nat} : a < 8 → b < 64 → c < 64 → d < 64 →
      0x10000 ≤ ((a * 64 + b) * 64 + c) * 64 + d →
      CharBytes (((a * 64 + b) * 64 + c) * 64 + d)
        [.ofNat (a + 0xF0), .ofNat (b + 0x80), .ofNat (c + 0x80), .ofNat (d + 0x80)]

theorem charBytes_encode (c : Char) : CharBytes c.val.toNat (String.utf8EncodeChar c) := by
  have hmax : c.val.toNat < 0x110000 := by
    have hvalid := c.valid
    simp only [UInt32.isValidChar, Nat.isValidChar] at hvalid
    omega
  unfold String.utf8EncodeChar
  generalize c.val.toNat = v at *
  by_cases h1 : v ≤ 0x7F
  · rw [if_pos h1]
    exact .one (by omega)
  by_cases h2 : v ≤ 0x7FF
  · rw [if_neg h1, if_pos h2]
    have hv : v / 64 % 32 * 64 + v % 64 = v := by omega
    have h := CharBytes.two (a := v / 64 % 32) (b := v % 64) (by omega) (by omega) (by omega)
    rwa [hv] at h
  by_cases h3 : v ≤ 0xFFFF
  · rw [if_neg h1, if_neg h2, if_pos h3]
    have hv : (v / 4096 % 16 * 64 + v / 64 % 64) * 64 + v % 64 = v := by omega
    have h := CharBytes.three (a := v / 4096 % 16) (b := v / 64 % 64) (c := v % 64)
      (by omega) (by omega) (by omega) (by omega)
    rwa [hv] at h
  · rw [if_neg h1, if_neg h2, if_neg h3]
    have hv : ((v / 262144 % 8 * 64 + v / 4096 % 64) * 64 + v / 64 % 64) * 64 + v % 64 = v := by
      omega
    have h := CharBytes.four (a := v / 262144 % 8) (b := v / 4096 % 64) (c := v / 64 % 64)
      (d := v % 64) (by omega) (by omega) (by omega) (by omega) (by omega)
    rwa [hv] at h

/-- Bytes compare as their numbers do. -/
theorem cons_ofNat_lt_iff {m n : Nat} (hm : m < 256) (hn : n < 256) (ms ns : List UInt8) :
    UInt8.ofNat m :: ms < UInt8.ofNat n :: ns ↔ m < n ∨ (m = n ∧ ms < ns) := by
  have hm' : (UInt8.ofNat m).toNat = m := UInt8.toNat_ofNat_of_lt' hm
  have hn' : (UInt8.ofNat n).toNat = n := UInt8.toNat_ofNat_of_lt' hn
  rw [List.cons_lt_cons_iff, UInt8.lt_iff_toNat_lt, ← UInt8.toNat_inj, hm', hn']

/-- The bytes of a lesser character come first, whatever follows them. -/
theorem CharBytes.append_lt {m n : Nat} {bs bs' : List UInt8} (hm : CharBytes m bs)
    (hn : CharBytes n bs') (h : m < n) (cs cs' : List UInt8) : bs ++ cs < bs' ++ cs' := by
  -- A shorter form has the lesser first byte; two of one form differ in the digit that decides.
  cases hm <;> cases hn <;>
    simp (disch := omega) only [List.cons_append, List.nil_append, cons_ofNat_lt_iff] <;> omega

theorem CharBytes.nil_lt {v : Nat} {bs : List UInt8} (h : CharBytes v bs) (cs : List UInt8) :
    [] < bs ++ cs := by
  cases h <;> exact List.nil_lt_cons _ _

/-! ### Texts -/

theorem flatMap_encode_lt {cs ds : List Char} (h : cs < ds) :
    cs.flatMap String.utf8EncodeChar < ds.flatMap String.utf8EncodeChar := by
  induction h with
  | nil =>
    rw [List.flatMap_nil, List.flatMap_cons]
    exact (charBytes_encode _).nil_lt _
  | rel hlt =>
    rw [List.flatMap_cons, List.flatMap_cons]
    exact (charBytes_encode _).append_lt (charBytes_encode _) hlt _ _
  | cons _ ih =>
    rw [List.flatMap_cons, List.flatMap_cons]
    exact List.append_left_lt ih

/-- Texts stand in the order of their bytes. -/
theorem lt_iff_bytes_lt {s t : String} : s < t ↔ bytes s < bytes t := by
  have bytes_lt {s t : String} (h : s < t) : bytes s < bytes t := by
    rw [bytes_eq, bytes_eq]
    exact flatMap_encode_lt (String.lt_iff_toList_lt.mp h)
  constructor
  · exact bytes_lt
  · intro h
    rcases lt_trichotomy s t with hlt | rfl | hgt
    · exact hlt
    · exact absurd h (List.lt_irrefl _)
    · exact absurd h (List.lt_asymm (bytes_lt hgt))

theorem le_iff_bytes_le {s t : String} : s ≤ t ↔ bytes s ≤ bytes t := by
  rw [← not_lt, lt_iff_bytes_lt, List.not_lt]

theorem bytes_injective {s t : String} (h : bytes s = bytes t) : s = t := by
  rcases lt_trichotomy s t with hlt | heq | hgt
  · exact absurd (h ▸ lt_iff_bytes_lt.mp hlt) (List.lt_irrefl _)
  · exact heq
  · exact absurd (h ▸ lt_iff_bytes_lt.mp hgt) (List.lt_irrefl _)

end PolicyAudit.Text
