import PolicyAudit.Text.Utf8

/-! # Percent escapes

A percent sign and two hexadecimal digits stand for one byte.  A percent sign that does not begin
an escape stands for itself, and so does every other byte.  The bytes that result need not be
UTF-8. -/

namespace PolicyAudit.Text

/-- The value of a hexadecimal digit of either case. -/
def hexValue? (b : UInt8) : Option UInt8 :=
  if 0x30 ≤ b ∧ b ≤ 0x39 then some (b - 0x30)
  else if 0x41 ≤ b ∧ b ≤ 0x46 then some (b - 0x37)
  else if 0x61 ≤ b ∧ b ≤ 0x66 then some (b - 0x57)
  else none

/-- The bytes that the escapes stand for. -/
def percentDecode : List UInt8 → List UInt8
  | [] => []
  | 0x25 :: h :: l :: rest =>
    match hexValue? h, hexValue? l with
    | some x, some y => (x * 16 + y) :: percentDecode rest
    | _, _ => 0x25 :: percentDecode (h :: l :: rest)
  | b :: rest => b :: percentDecode rest

/-- The text that the escapes of `s` stand for, if it is UTF-8. -/
def percentDecodeText? (s : String) : Option String :=
  ofBytes? (percentDecode (bytes s))

end PolicyAudit.Text
