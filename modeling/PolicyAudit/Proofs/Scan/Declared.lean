import Mathlib.Data.Set.Card
import PolicyAudit.Proofs.Scan.Observable

/-! # What a policy decides

All that a run takes from a policy is which names its checks have, character by character: not the
rule that declares a check, nor the order of the declarations, their number or their descriptions.
The set of some rules holds exactly the names that they declare, each of them once, and the set of
two lists of rules is the union of theirs.

Nothing less would do.  If only one of two sets has a name, a document can be written on which the
runs differ (`subset_of_sameEnd`).  Policies therefore declare the same names exactly if their runs
end alike on every document and with every way to name checks: `declaredNames_determine_runs`. -/

namespace PolicyAudit

/-- The names of the checks that the rules declare. -/
def declaredNames (rules : List PolicyRule) : Set String :=
  {name | ∃ rule ∈ rules, ∃ check ∈ rule.checks, check.id = name}

namespace CheckSet

variable {rules rules' : List PolicyRule}

theorem encard_setOf_mem (s : CheckSet) : {name | name ∈ s}.encard = s.size := by
  have hnodup : s.names.Nodup := by
    refine s.ascending.imp fun hlt => ?_
    rintro rfl
    exact String.lt_irrefl _ hlt
  have hset : {name | name ∈ s} = (s.names.toFinset : Set String) := by
    rw [List.coe_toFinset]
    rfl
  rw [hset, Set.encard_coe_eq_coe_finsetCard, List.toFinset_card_of_nodup hnodup, size]

theorem setOf_mem_ofRules (rules : List PolicyRule) :
    {name | name ∈ ofRules rules} = declaredNames rules :=
  Set.ext fun _ => mem_ofRules

theorem ofRules_append (rules rules' : List PolicyRule) :
    ofRules (rules ++ rules') = ofRules rules ∪ ofRules rules' := by
  refine ext_mem fun name => ?_
  rw [mem_union, mem_ofRules, mem_ofRules, mem_ofRules]
  simp only [List.mem_append, or_and_right, exists_or]

theorem ofRules_eq_iff :
    ofRules rules = ofRules rules' ↔ declaredNames rules = declaredNames rules' := by
  rw [← setOf_mem_ofRules, ← setOf_mem_ofRules]
  constructor
  · intro h
    rw [h]
  · intro h
    exact ext_mem fun name => Set.ext_iff.mp h name

/-- The grouping, the order and the repetition of names do not show. -/
example : ofRules [⟨"r1", none, [⟨"A", none⟩, ⟨"B", none⟩]⟩, ⟨"r2", none, [⟨"B", none⟩]⟩] =
    ofRules [⟨"r", some "all", [⟨"B", some "second"⟩, ⟨"A", none⟩]⟩] := by decide

end CheckSet

namespace Scan

variable {s t : CheckSet} {clock clock' : Nat → Instant}

/-- The checks of observations do not depend on the times. -/
theorem exists_checkId_of_sameButTimes {os os' : List Observation} (h : SameButTimes os os')
    (time : Instant) {o : Observation} (ho : o ∈ os) : ∃ o' ∈ os', o'.checkId = o.checkId := by
  have hmem : o.restamp time ∈ os'.map (·.restamp time) := h time ▸ List.mem_map_of_mem ho
  obtain ⟨o', ho', heq⟩ := List.mem_map.mp hmem
  have hcheck : (o'.restamp time).checkId = (o.restamp time).checkId :=
    congrArg Observation.checkId heq
  exact ⟨o', ho', hcheck⟩

/-- A name of the first set is observed where all checks get that name, so that the second set has
it too. -/
theorem subset_of_sameEnd (h : ∀ normalize d,
    SameEnd (correlate normalize clock d s) (correlate normalize clock' d t)) :
    ∀ name ∈ s, name ∈ t := by
  intro name hmem
  have hrun : ∃ report, correlate (fun _ => .ok name) clock (scanOfCheck "arf.xml" "") s =
      .ok report ∧ ∃ o ∈ report.observations, o.checkId = name :=
    correlate_scanOfCheck rfl hmem
  obtain ⟨report, hrun, o, ho, hname⟩ := hrun
  obtain ⟨report', hrun', hsame⟩ := (hrun ▸ h (fun _ => .ok name) _).exists_report
  obtain ⟨o', ho', hcheck⟩ := exists_checkId_of_sameButTimes hsame (clock 0) ho
  rw [← hname, ← hcheck]
  exact checkId_mem_of_mem hrun' ho'

/-- Sets are the same exactly if no run tells them apart. -/
theorem eq_iff_sameEnd (clock clock' : Nat → Instant) :
    s = t ↔ ∀ normalize d,
      SameEnd (correlate normalize clock d s) (correlate normalize clock' d t) := by
  constructor
  · rintro rfl normalize d
    exact sameEnd_of_clock normalize clock clock' d s
  · intro h
    have hsub : ∀ name ∈ s, name ∈ t := subset_of_sameEnd h
    have hsub' : ∀ name ∈ t, name ∈ s := subset_of_sameEnd fun normalize d => (h normalize d).symm
    exact CheckSet.ext_mem fun name => ⟨hsub name, hsub' name⟩

/-- What the rules of a policy come to.  Their set holds the names of their checks as they are
written, as many as there are different ones; the set of two lists of rules is the union of theirs;
and the sets are the same exactly if the same names are declared.  Two policies that declare the
same names thus have runs that end alike, whatever the document, the clocks and the way to name
checks.  If a name is declared by one of them only, some run tells them apart. -/
theorem declaredNames_determine_runs (rules rules' : List PolicyRule) :
    (∀ name, name ∈ CheckSet.ofRules rules ↔
      ∃ rule ∈ rules, ∃ check ∈ rule.checks, check.id = name) ∧
    (declaredNames rules).encard = (CheckSet.ofRules rules).size ∧
    CheckSet.ofRules (rules ++ rules') = CheckSet.ofRules rules ∪ CheckSet.ofRules rules' ∧
    (CheckSet.ofRules rules = CheckSet.ofRules rules' ↔
      declaredNames rules = declaredNames rules') ∧
    ∀ (p p' : Policy) (clock clock' : Nat → Instant),
      declaredNames p.rules = declaredNames p'.rules ↔
        ∀ normalize d, SameEnd (correlate normalize clock d (.ofPolicy p))
          (correlate normalize clock' d (.ofPolicy p')) := by
  refine ⟨fun name => CheckSet.mem_ofRules, ?_, CheckSet.ofRules_append rules rules',
    CheckSet.ofRules_eq_iff, ?_⟩
  · rw [← CheckSet.setOf_mem_ofRules, CheckSet.encard_setOf_mem]
  · intro p p' clock clock'
    rw [← CheckSet.ofRules_eq_iff]
    exact eq_iff_sameEnd clock clock'

end Scan
end PolicyAudit
