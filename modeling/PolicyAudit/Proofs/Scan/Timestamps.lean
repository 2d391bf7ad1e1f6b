import PolicyAudit.Proofs.Scan.Run

/-! # Reports apart from their times

The clock decides on the times in a report and on nothing else.  `Observation.restamp` puts one time
in the place of all times of an observation, and observations that agree after that are
`SameButTimes`.  Two runs that differ in their clocks alone end alike: with the same error, or with
reports that differ in times only (`correlate_error_of_clock`, `correlate_ok_of_clock`).  `SameEnd`
says this of any two runs. -/

namespace PolicyAudit

/-- The observation with one time in the place of all its times. -/
def Observation.restamp (time : Instant) (o : Observation) : Observation :=
  { o with
    collected := time
    subjects := o.subjects.map fun s => { s with evaluatedOn := time } }

/-- The observations of two lists agree one by one, apart from their times. -/
def SameButTimes (os os' : List Observation) : Prop :=
  ∀ time : Instant, os.map (·.restamp time) = os'.map (·.restamp time)

namespace Scan

variable {normalize : CheckName.Normalizer} {d : ResultsDocument} {checks : CheckSet}
  {clock clock' : Nat → Instant} {report : Report}

theorem restamp_observe (f : Finding) (target evidenceHref : String) (time time' : Instant) :
    (f.observe target evidenceHref time').restamp time = f.observe target evidenceHref time := rfl

/-- Restamped, the observations of findings do not show when each was made. -/
theorem map_restamp_observe (fs : List Finding) (target evidenceHref : String)
    (clock : Nat → Instant) (time : Instant) :
    (fs.mapIdx fun i f => f.observe target evidenceHref (clock i)).map (·.restamp time) =
      fs.map fun f => f.observe target evidenceHref time := by
  rw [List.mapIdx_eq_zipIdx_map, List.map_map]
  refine List.ext_getElem (by simp) fun i h₁ h₂ => ?_
  simp only [List.getElem_map, List.getElem_zipIdx, Function.comp_apply, restamp_observe]

/-- Restamped, a report is read off the findings of its document. -/
theorem map_restamp_observations {target : String} (htarget : HasTarget d target)
    (h : correlate normalize clock d checks = .ok report) (time : Instant) :
    report.observations.map (·.restamp time) =
      ((d.elementsNamed "rule-result").filterMap (findingOf? normalize d checks)).map
        fun f => f.observe target d.evidenceHref time := by
  obtain ⟨target', htarget', -, hobs⟩ := correlate_eq_ok_iff.mp h
  obtain rfl : target' = target :=
    Option.some.inj ((target?_eq_some_iff.mpr htarget').symm.trans
      (target?_eq_some_iff.mpr htarget))
  rw [hobs, map_restamp_observe]

/-! ### Other clocks -/

/-- A run succeeds with every clock or with none. -/
theorem exists_correlate_eq_ok_iff :
    (∃ report, correlate normalize clock d checks = .ok report) ↔
      ¬ LacksTarget d ∧
        ∀ result ∈ d.elementsNamed "rule-result", ∀ e, ¬ Fatal normalize d checks result e := by
  rw [not_lacksTarget_iff]
  constructor
  · rintro ⟨report, h⟩
    obtain ⟨target, htarget, hfatal, -⟩ := correlate_eq_ok_iff.mp h
    exact ⟨⟨target, htarget⟩, hfatal⟩
  · rintro ⟨⟨target, htarget⟩, hfatal⟩
    exact ⟨⟨((d.elementsNamed "rule-result").filterMap (findingOf? normalize d checks)).mapIdx
      fun i f => f.observe target d.evidenceHref (clock i)⟩,
      correlate_eq_ok_iff.mpr ⟨target, htarget, hfatal, rfl⟩⟩

theorem correlate_error_of_clock {e : CorrelationError}
    (h : correlate normalize clock d checks = .error e) :
    correlate normalize clock' d checks = .error e :=
  correlate_eq_error_iff_findings.mpr (correlate_eq_error_iff_findings.mp h)

theorem correlate_ok_of_clock (h : correlate normalize clock d checks = .ok report) :
    ∃ report', correlate normalize clock' d checks = .ok report' ∧
      SameButTimes report.observations report'.observations := by
  obtain ⟨target, htarget, -, -⟩ := correlate_eq_ok_iff.mp h
  obtain ⟨report', h'⟩ : ∃ report', correlate normalize clock' d checks = .ok report' :=
    exists_correlate_eq_ok_iff.mpr (exists_correlate_eq_ok_iff.mp ⟨report, h⟩)
  refine ⟨report', h', fun time => ?_⟩
  rw [map_restamp_observations htarget h, map_restamp_observations htarget h']

/-- Two runs end with the same error, or with reports that agree apart from their times. -/
inductive SameEnd : Except CorrelationError Report → Except CorrelationError Report → Prop
  | failed (e : CorrelationError) : SameEnd (.error e) (.error e)
  | reported {report report' : Report} :
      SameButTimes report.observations report'.observations → SameEnd (.ok report) (.ok report')

theorem SameEnd.symm {run run' : Except CorrelationError Report} (h : SameEnd run run') :
    SameEnd run' run := by
  cases h with
  | failed e => exact .failed e
  | reported hsame => exact .reported fun time => (hsame time).symm

theorem SameEnd.exists_report {run : Except CorrelationError Report}
    (h : SameEnd (.ok report) run) :
    ∃ report', run = .ok report' ∧ SameButTimes report.observations report'.observations := by
  cases h with
  | reported hsame => exact ⟨_, rfl, hsame⟩

theorem sameEnd_of_clock (normalize : CheckName.Normalizer) (clock clock' : Nat → Instant)
    (d : ResultsDocument) (checks : CheckSet) :
    SameEnd (correlate normalize clock d checks) (correlate normalize clock' d checks) := by
  cases hrun : correlate normalize clock d checks with
  | error e =>
    rw [correlate_error_of_clock hrun]
    exact .failed e
  | ok report =>
    obtain ⟨report', hrun', hsame⟩ : ∃ report', correlate normalize clock' d checks = .ok report' ∧
        SameButTimes report.observations report'.observations := correlate_ok_of_clock hrun
    rw [hrun']
    exact .reported hsame

end Scan
end PolicyAudit
