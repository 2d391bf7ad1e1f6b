import PolicyAudit.Text.Blank
import PolicyAudit.Text.Quoted
import PolicyAudit.Json.Decoder

/-! # Statuses

A `Status` is the verdict on one check of one host.  A scanner reports an outcome in words of its
own; `Status.ofOutcome` takes an outcome to a status.  A check that was not run, although the
policy expected it, counts as an error.  No other word is ever taken for a verdict. -/

namespace PolicyAudit

inductive Status where
  | pass
  | fail
  | error
  | invalid
deriving DecidableEq, Repr

namespace Status

/-- The word for a status. -/
def text : Status → String
  | pass => "pass"
  | fail => "fail"
  | error => "error"
  | invalid => "invalid"

/-! ### JSON -/

def toJson (s : Status) : Json := .string s.text

/-- The statuses by their words. -/
def names : List (String × Status) :=
  [pass, fail, error, invalid].map fun s => (s.text, s)

def decode : Json.Decoder Status := Json.Decoder.variant names

/-! ### Outcomes -/

/-- Why an outcome is no verdict. -/
inductive OutcomeError where
  /-- The result carries no outcome at all. -/
  | missing
  /-- The trimmed outcome is none of the known words. -/
  | unrecognized (outcome : String)
deriving DecidableEq, Repr

namespace OutcomeError

def message : OutcomeError → String
  | missing => "rule-result node has no 'result' element"
  | unrecognized outcome => "couldn't match rule-result outcome " ++ Text.quoted outcome

/-- The status of a check whose outcome is no verdict. -/
def status : OutcomeError → Status
  | missing => .invalid
  | unrecognized _ => .invalid

end OutcomeError

/-- The status that a word stands for. -/
def ofWord? (word : String) : Option Status :=
  if word = "pass" ∨ word = "fixed" then some pass
  else if word = "fail" then some fail
  else if word = "notselected" ∨ word = "notapplicable" ∨ word = "error" ∨ word = "unknown" then
    some error
  else none

/-- The status of an outcome, blanks at its ends apart. -/
def ofOutcome : Option String → Except OutcomeError Status
  | none => .error .missing
  | some outcome =>
    match ofWord? (Text.trim outcome) with
    | some s => .ok s
    | none => .error (.unrecognized (Text.trim outcome))

end Status
end PolicyAudit
