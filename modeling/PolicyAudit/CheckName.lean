import PolicyAudit.Text.Blank
import PolicyAudit.Text.DecimalDigit
import PolicyAudit.Text.Quoted
import PolicyAudit.Status

/-! # Names of checks

A results document refers to a check by a vendor's identifier, such as
`oval:ssg-sshd_enabled-1:def:1`; a policy names the check by its short name, `sshd_enabled`.

`CheckName.ofIdentifier` finds the short name.  In the trimmed identifier it is the segment between
the first hyphen behind the first colon and the next colon, without a revision: one hyphen and
decimal digits at the end of the segment.  Neither the segment nor the text behind it may have a
line feed, and the name may not be empty. -/

namespace PolicyAudit.CheckName

/-- Why an identifier has no short name. -/
inductive NameError where
  | missing
  /-- The trimmed identifier does not have the form of a vendor's identifier. -/
  | malformed (identifier : String)
deriving DecidableEq, Repr

namespace NameError

def message : NameError → String
  | missing => "check-content-ref node has no 'name' attribute"
  | malformed identifier => "check id " ++ Text.quoted identifier ++ " is in unexpected format"

/-- The status of a check that has no short name. -/
def status : NameError → Status
  | missing => .invalid
  | malformed _ => .invalid

end NameError

/-- A way from identifiers to short names. -/
abbrev Normalizer := String → Except NameError String

/-- The characters before and behind the first `c`. -/
def cut? (c : Char) : List Char → Option (List Char × List Char)
  | [] => none
  | d :: ds => if d = c then some ([], ds) else (cut? c ds).map fun r => (d :: r.1, r.2)

/-- The segment that holds the name and perhaps a revision. -/
def segment? (identifier : List Char) : Option (List Char) := do
  let (_, rest) ← cut? ':' identifier
  let (_, rest) ← cut? '-' rest
  let (segment, rest) ← cut? ':' rest
  if '\n' ∈ segment ∨ '\n' ∈ rest then none else some segment

/-- The segment without the one revision at its end, if it has one. -/
def dropRevision (segment : List Char) : List Char :=
  let digits := segment.reverse.takeWhile Text.isDecimalDigit
  match segment.reverse.drop digits.length with
  | '-' :: front => if digits.isEmpty then segment else front.reverse
  | _ => segment

/-- The short name in an identifier. -/
def ofIdentifier : Normalizer := fun raw =>
  let identifier := Text.trim raw
  if identifier = "" then .error .missing
  else match (segment? identifier.toList).map dropRevision with
    | none => .error (.malformed identifier)
    | some [] => .error (.malformed identifier)
    | some name => .ok (String.ofList name)

/-- The identifier itself, trimmed, as its short name. -/
def verbatim : Normalizer := fun raw => .ok (Text.trim raw)

/-! ### Laws of cutting -/

/-- Cutting finds the first occurrence. -/
theorem cut?_eq_some_iff {c : Char} {cs front back : List Char} :
    cut? c cs = some (front, back) ↔ cs = front ++ c :: back ∧ c ∉ front := by
  induction cs generalizing front with
  | nil => simp [cut?]
  | cons d ds ih =>
    by_cases h : d = c
    · subst h
      cases front <;> simp [cut?, eq_comm]
      intro e; simp [e]
    · cases front with
      | nil => simp [cut?, h]
      | cons e front =>
        simp only [cut?, h, if_false, Option.map_eq_some_iff, Prod.mk.injEq, List.cons_append,
          List.cons.injEq, List.mem_cons, not_or, Prod.exists]
        constructor
        · rintro ⟨a, b, hab, ⟨rfl, rfl⟩, rfl⟩
          obtain ⟨e1, e2⟩ := ih.mp hab
          exact ⟨⟨rfl, e1⟩, fun e => h e.symm, e2⟩
        · rintro ⟨⟨rfl, e1⟩, -, e2⟩
          exact ⟨front, back, ih.mpr ⟨e1, e2⟩, ⟨rfl, rfl⟩, rfl⟩

end PolicyAudit.CheckName
