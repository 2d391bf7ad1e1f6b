import PolicyAudit.Service.Config

/-! # Configurations from variables

A variable gives a value when it has one that is not blank, and otherwise leaves it open (`Gives`,
`LeavesOpen`).  `IsConfigOf` says what a configuration has to be to follow the variables: each value
as it is given, or the default where it is left open, and as the port the number that the text
writes (`WritesNumber`).

A configuration is made exactly when a profile is given and the port, if one is given, is a number
of at most 16 bits.  The profile is looked at first.  What is made then, `draft`, always passes the
validation at the end, since neither a given workspace nor the current directory is empty
(`IsConfigOf.validate`), and so no call fails there: `ofLookup_eq_ok_iff_isConfigOf`. -/

namespace PolicyAudit.Service.Config

variable {lookup : String → Option String} {name value : String} {currentDirectory : Path}
  {c : Config} {port : Nat}

/-! ### Values -/

/-- The variable has this value, which is not blank. -/
def Gives (lookup : String → Option String) (name value : String) : Prop :=
  lookup name = some value ∧ Text.trim value ≠ ""

/-- The variable is absent or blank. -/
def LeavesOpen (lookup : String → Option String) (name : String) : Prop :=
  ∀ value, lookup name = some value → Text.trim value = ""

/-- The variable gives the value, or leaves it open and the value is the default. -/
def Sets (lookup : String → Option String) (name default value : String) : Prop :=
  Gives lookup name value ∨ (LeavesOpen lookup name ∧ value = default)

theorem value?_eq_some_iff : value? lookup name = some value ↔ Gives lookup name value := by
  rw [value?, Option.filter_eq_some_iff, Gives, ne_eq, Text.trim_eq_empty_iff, Bool.not_eq_true',
    Bool.not_eq_true]

theorem value?_eq_none_iff : value? lookup name = none ↔ LeavesOpen lookup name := by
  rw [value?, Option.filter_eq_none_iff]
  simp only [LeavesOpen, Text.trim_eq_empty_iff, Bool.not_eq_true', Bool.not_eq_false]

theorem LeavesOpen.not_gives (h : LeavesOpen lookup name) : ¬ Gives lookup name value :=
  fun hgives => hgives.2 (h value hgives.1)

/-- A variable gives a value or leaves it open. -/
theorem exists_gives_or_leavesOpen (lookup : String → Option String) (name : String) :
    (∃ value, Gives lookup name value) ∨ LeavesOpen lookup name := by
  cases h : value? lookup name with
  | none => exact .inr (value?_eq_none_iff.mp h)
  | some value => exact .inl ⟨value, value?_eq_some_iff.mp h⟩

theorem Gives.unique {value' : String} (h : Gives lookup name value)
    (h' : Gives lookup name value') : value = value' :=
  Option.some.inj (h.1.symm.trans h'.1)

theorem Sets.unique {default value' : String} (h : Sets lookup name default value)
    (h' : Sets lookup name default value') : value = value' := by
  rcases h with hgives | ⟨hopen, rfl⟩
  · rcases h' with hgives' | ⟨hopen', -⟩
    · exact hgives.unique hgives'
    · exact absurd hgives hopen'.not_gives
  · rcases h' with hgives' | ⟨-, rfl⟩
    · exact absurd hgives' hopen.not_gives
    · rfl

theorem getD_value?_eq_iff {default : String} :
    (value? lookup name).getD default = value ↔ Sets lookup name default value := by
  cases h : value? lookup name with
  | none =>
    have hopen : LeavesOpen lookup name := value?_eq_none_iff.mp h
    simp [Sets, hopen, hopen.not_gives, eq_comm]
  | some given =>
    have hgives : Gives lookup name given := value?_eq_some_iff.mp h
    rw [Option.getD_some]
    constructor
    · rintro rfl
      exact .inl hgives
    · rintro (hvalue | ⟨hopen, -⟩)
      · exact hgives.unique hvalue
      · exact absurd hgives hopen.not_gives

/-! ### Ports -/

/-- The text is the number in decimal: ASCII digits, perhaps behind one plus sign.  There may be
any number of zeros in front. -/
def WritesNumber (text : String) (n : Nat) : Prop :=
  ∃ digits, digits ≠ [] ∧ (∀ d ∈ digits, d.isDigit = true) ∧
    (text.toList = digits ∨ text.toList = '+' :: digits) ∧ Nat.ofDigitChars 10 digits 0 = n

/-- The text is a number of at most 16 bits. -/
def IsPort (text : String) : Prop := ∃ n, WritesNumber text n ∧ n ≤ 65535

theorem digitsValue?_eq_some_iff {cs : List Char} {n : Nat} :
    digitsValue? cs = some n ↔
      cs ≠ [] ∧ (∀ d ∈ cs, d.isDigit = true) ∧ Nat.ofDigitChars 10 cs 0 = n := by
  have hdigit (d : Char) : ('0' ≤ d && d ≤ '9') = d.isDigit := by
    simp [Char.isDigit, Char.le_def]
  have hvalue : cs.foldl (fun n c => n * 10 + (c.toNat - 0x30)) 0 = Nat.ofDigitChars 10 cs 0 := by
    simp only [Nat.ofDigitChars_eq_foldl, Nat.mul_comm 10]
    rfl
  rw [digitsValue?, hvalue]
  simp only [hdigit, List.all_eq_true]
  split
  · next h =>
    rw [Option.some.injEq]
    exact ⟨fun hn => ⟨h.1, h.2, hn⟩, fun hn => hn.2.2⟩
  · next h =>
    simp only [reduceCtorEq, false_iff]
    exact fun hn => h ⟨hn.1, hn.2.1⟩

/-- The characters behind a plus sign, if the text begins with one. -/
def withoutSign : List Char → List Char
  | '+' :: cs => cs
  | cs => cs

theorem withoutSign_eq_iff {cs digits : List Char} (h : '+' ∉ digits) :
    withoutSign cs = digits ↔ cs = digits ∨ cs = '+' :: digits := by
  unfold withoutSign
  split
  · next cs =>
    constructor
    · rintro rfl
      exact .inr rfl
    · rintro (rfl | hcs)
      · exact absurd List.mem_cons_self h
      · exact (List.cons.inj hcs).2
  · next hsign =>
    constructor
    · exact .inl
    · rintro (hcs | hcs)
      · exact hcs
      · exact absurd hcs (hsign digits)

theorem writesNumber_iff {text : String} {n : Nat} :
    WritesNumber text n ↔ digitsValue? (withoutSign text.toList) = some n := by
  rw [digitsValue?_eq_some_iff, WritesNumber]
  have hsign {digits : List Char} (hdigits : ∀ d ∈ digits, d.isDigit = true) : '+' ∉ digits :=
    fun hmem => absurd (hdigits '+' hmem) (by decide)
  constructor
  · rintro ⟨digits, hne, hdigits, htext, hn⟩
    rw [(withoutSign_eq_iff (hsign hdigits)).mpr htext]
    exact ⟨hne, hdigits, hn⟩
  · rintro ⟨hne, hdigits, hn⟩
    exact ⟨_, hne, hdigits, (withoutSign_eq_iff (hsign hdigits)).mp rfl, hn⟩

theorem port?_eq_some_iff {text : String} {n : Nat} :
    port? text = some n ↔ WritesNumber text n ∧ n ≤ 65535 := by
  rw [writesNumber_iff]
  unfold port?
  dsimp only
  split
  · next m hm =>
    have hm : digitsValue? (withoutSign text.toList) = some m := hm
    rw [hm, Option.some.injEq]
    split
    · next hle =>
      rw [Option.some.injEq]
      constructor
      · rintro rfl
        exact ⟨rfl, hle⟩
      · exact And.left
    · next hgt =>
      simp only [reduceCtorEq, false_iff, not_and]
      rintro rfl
      exact hgt
  · next hnone =>
    have hnone : digitsValue? (withoutSign text.toList) = none := hnone
    simp [hnone]

theorem port?_eq_none_iff {text : String} : port? text = none ↔ ¬ IsPort text := by
  rw [Option.eq_none_iff_forall_ne_some, IsPort, not_exists]
  simp only [ne_eq, port?_eq_some_iff]

theorem portOf_of_gives {text : String} (h : Gives lookup "PORT" text) :
    portOf lookup = match port? text with
      | some n => .ok n
      | none => .error (.invalid "PORT" (Text.quoted text ++ " is not a valid port")) := by
  have hvalue : value? lookup portVariable = some text := value?_eq_some_iff.mpr h
  rw [portOf, hvalue]
  rfl

theorem portOf_of_leavesOpen (h : LeavesOpen lookup "PORT") : portOf lookup = .ok 8080 := by
  have hvalue : value? lookup portVariable = none := value?_eq_none_iff.mpr h
  rw [portOf, hvalue]
  rfl

theorem portOf_eq_ok_iff :
    portOf lookup = .ok port ↔
      (∃ text, Gives lookup "PORT" text ∧ WritesNumber text port ∧ port ≤ 65535) ∨
        (LeavesOpen lookup "PORT" ∧ port = 8080) := by
  rcases exists_gives_or_leavesOpen lookup "PORT" with ⟨text, hgives⟩ | hopen
  · rw [portOf_of_gives hgives]
    constructor
    · intro h
      split at h
      · next n hn =>
        obtain rfl := Except.ok.inj h
        exact .inl ⟨text, hgives, port?_eq_some_iff.mp hn⟩
      · cases h
    · rintro (⟨text', hgives', hport⟩ | ⟨hopen, -⟩)
      · obtain rfl := hgives.unique hgives'
        rw [port?_eq_some_iff.mpr hport]
      · exact absurd hgives hopen.not_gives
  · rw [portOf_of_leavesOpen hopen, Except.ok.injEq]
    constructor
    · rintro rfl
      exact .inr ⟨hopen, rfl⟩
    · rintro (⟨text, hgives, -⟩ | ⟨-, rfl⟩)
      · exact absurd hgives hopen.not_gives
      · rfl

theorem portOf_of_not_isPort {text : String} (h : Gives lookup "PORT" text)
    (hport : ¬ IsPort text) :
    portOf lookup = .error (.invalid "PORT" (Text.quoted text ++ " is not a valid port")) := by
  rw [portOf_of_gives h, port?_eq_none_iff.mpr hport]

theorem exists_portOf_iff :
    (∃ port, portOf lookup = .ok port) ↔ ∀ text, Gives lookup "PORT" text → IsPort text := by
  constructor
  · rintro ⟨port, hport⟩ text hgives
    rcases portOf_eq_ok_iff.mp hport with ⟨text', hgives', hn, hle⟩ | ⟨hopen, -⟩
    · obtain rfl : text = text' := hgives.unique hgives'
      exact ⟨port, hn, hle⟩
    · exact absurd hgives hopen.not_gives
  · intro h
    rcases exists_gives_or_leavesOpen lookup "PORT" with ⟨text, hgives⟩ | hopen
    · obtain ⟨n, hn, hle⟩ := h text hgives
      exact ⟨n, portOf_eq_ok_iff.mpr (.inl ⟨text, hgives, hn, hle⟩)⟩
    · exact ⟨8080, portOf_of_leavesOpen hopen⟩

/-! ### Configurations -/

/-- The configuration follows the variables: every value is the given one as it stands, or the
default. -/
structure IsConfigOf (lookup : String → Option String) (currentDirectory : Path) (c : Config) :
    Prop where
  host : Sets lookup "HOST" "127.0.0.1" c.host
  port : (∃ text, Gives lookup "PORT" text ∧ WritesNumber text c.port ∧ c.port ≤ 65535) ∨
    (LeavesOpen lookup "PORT" ∧ c.port = 8080)
  workspace : Sets lookup "SCAP_WORKSPACE" currentDirectory.text c.workspace.text
  profile : Gives lookup "SCAP_PROFILE" c.profile
  resultsPath : ∃ text, Sets lookup "SCAP_RESULTS_PATH" "openscap/results/arf.xml" text ∧
    c.resultsPath = c.workspace.join ⟨text⟩

/-- The configuration that the variables describe with a profile and a port. -/
def described (lookup : String → Option String) (currentDirectory : Path) (profile : String)
    (port : Nat) : Config :=
  let workspace : Path := match value? lookup workspaceVariable with
    | some w => ⟨w⟩
    | none => currentDirectory
  { host := (value? lookup hostVariable).getD defaultHost
    port := port
    workspace := workspace
    profile := profile
    resultsPath := workspace.join (match value? lookup resultsPathVariable with
      | some p => ⟨p⟩
      | none => defaultResults) }

/-- The configuration before it is validated. -/
def draft (lookup : String → Option String) (currentDirectory : Path) :
    Except ConfigError Config :=
  match value? lookup profileVariable with
  | none => .error (.missing profileVariable)
  | some profile => (portOf lookup).map (described lookup currentDirectory profile)

/-- A configuration is drafted first and then validated. -/
theorem ofLookup_eq_bind (lookup : String → Option String) (currentDirectory : Path) :
    ofLookup lookup currentDirectory =
      (draft lookup currentDirectory).bind fun c => c.validate.map fun _ => c := by
  rw [ofLookup, draft]
  cases value? lookup profileVariable with
  | none => rfl
  | some profile =>
    cases portOf lookup with
    | error e => rfl
    | ok port =>
      dsimp only
      split
      · next e he =>
        have he : (described lookup currentDirectory profile port).validate = .error e := he
        simp only [Except.map, Except.bind, he]
      · next hok =>
        have hok : (described lookup currentDirectory profile port).validate = .ok () := hok
        simp only [Except.map, Except.bind, hok]
        rfl

theorem ofLookup_eq_ok_iff :
    ofLookup lookup currentDirectory = .ok c ↔
      draft lookup currentDirectory = .ok c ∧ c.validate = .ok () := by
  rw [ofLookup_eq_bind]
  cases draft lookup currentDirectory with
  | error e => simp [Except.bind]
  | ok drafted =>
    change (drafted.validate.map fun _ => drafted) = .ok c ↔ _
    rw [Except.ok.injEq]
    constructor
    · intro h
      cases hvalid : drafted.validate with
      | error e =>
        rw [hvalid] at h
        cases h
      | ok =>
        rw [hvalid] at h
        obtain rfl := Except.ok.inj h
        exact ⟨rfl, hvalid⟩
    · rintro ⟨rfl, hvalid⟩
      rw [hvalid]
      rfl

theorem validate_eq_ok_iff :
    c.validate = .ok () ↔ c.workspace.text ≠ "" ∧ Text.trim c.profile ≠ "" := by
  rw [validate, ne_eq, ne_eq, Text.trim_eq_empty_iff]
  by_cases hworkspace : c.workspace.text = ""
  · simp [hworkspace]
  · by_cases hprofile : Text.isBlankText c.profile = true
    · simp [hworkspace, hprofile]
    · simp [hworkspace, hprofile]

theorem described_workspace (lookup : String → Option String) (currentDirectory : Path)
    (profile : String) (port : Nat) :
    Sets lookup "SCAP_WORKSPACE" currentDirectory.text
      (described lookup currentDirectory profile port).workspace.text := by
  rw [← getD_value?_eq_iff]
  simp only [described, workspaceVariable]
  cases value? lookup "SCAP_WORKSPACE" <;> rfl

theorem Sets.ne_empty {default : String} (h : Sets lookup name default value)
    (hdefault : default ≠ "") : value ≠ "" := by
  rcases h with hgives | ⟨-, rfl⟩
  · rintro rfl
    exact hgives.2 rfl
  · exact hdefault

theorem isConfigOf_described {profile : String} (hprofile : Gives lookup "SCAP_PROFILE" profile)
    (hport : portOf lookup = .ok port) :
    IsConfigOf lookup currentDirectory (described lookup currentDirectory profile port) where
  host := getD_value?_eq_iff.mp rfl
  port := portOf_eq_ok_iff.mp hport
  workspace := described_workspace lookup currentDirectory profile port
  profile := hprofile
  resultsPath := by
    refine ⟨(value? lookup resultsPathVariable).getD defaultResults.text,
      getD_value?_eq_iff.mp rfl, ?_⟩
    simp only [described]
    cases value? lookup resultsPathVariable <;> rfl

/-- The variables and the current directory leave no choice. -/
theorem IsConfigOf.unique {c' : Config} (h : IsConfigOf lookup currentDirectory c)
    (h' : IsConfigOf lookup currentDirectory c') : c = c' := by
  have hhost : c.host = c'.host := h.host.unique h'.host
  have hworkspace : c.workspace.text = c'.workspace.text := h.workspace.unique h'.workspace
  have hprofile : c.profile = c'.profile := h.profile.unique h'.profile
  have hport : c.port = c'.port :=
    Except.ok.inj ((portOf_eq_ok_iff.mpr h.port).symm.trans (portOf_eq_ok_iff.mpr h'.port))
  obtain ⟨text, htext, hresults⟩ := h.resultsPath
  obtain ⟨text', htext', hresults'⟩ := h'.resultsPath
  rw [htext.unique htext'] at hresults
  obtain ⟨host, port, ⟨workspace⟩, profile, results⟩ := c
  obtain ⟨host', port', ⟨workspace'⟩, profile', results'⟩ := c'
  dsimp only at hhost hworkspace hprofile hport hresults hresults'
  subst hhost hworkspace hprofile hport
  rw [hresults, hresults']

/-- A configuration that follows the variables has a profile, and it has a workspace because the
current directory takes the place of one that is left open. -/
theorem IsConfigOf.validate (hdirectory : currentDirectory.text ≠ "")
    (h : IsConfigOf lookup currentDirectory c) : c.validate = .ok () :=
  validate_eq_ok_iff.mpr ⟨h.workspace.ne_empty hdirectory, h.profile.2⟩

theorem draft_of_gives {profile : String} (h : Gives lookup "SCAP_PROFILE" profile) :
    draft lookup currentDirectory =
      (portOf lookup).map (described lookup currentDirectory profile) := by
  have hvalue : value? lookup profileVariable = some profile := value?_eq_some_iff.mpr h
  rw [draft, hvalue]

theorem draft_of_leavesOpen (h : LeavesOpen lookup "SCAP_PROFILE") :
    draft lookup currentDirectory = .error (.missing "SCAP_PROFILE") := by
  have hvalue : value? lookup profileVariable = none := value?_eq_none_iff.mpr h
  rw [draft, hvalue]
  rfl

theorem draft_eq_ok_iff :
    draft lookup currentDirectory = .ok c ↔ IsConfigOf lookup currentDirectory c := by
  constructor
  · intro h
    rcases exists_gives_or_leavesOpen lookup "SCAP_PROFILE" with ⟨profile, hprofile⟩ | hopen
    · rw [draft_of_gives hprofile] at h
      cases hport : portOf lookup with
      | error e =>
        rw [hport] at h
        cases h
      | ok port =>
        rw [hport] at h
        obtain rfl := Except.ok.inj h
        exact isConfigOf_described hprofile hport
    · rw [draft_of_leavesOpen hopen] at h
      cases h
  · intro h
    have hport : portOf lookup = .ok c.port := portOf_eq_ok_iff.mpr h.port
    rw [draft_of_gives h.profile, hport]
    exact congrArg Except.ok ((isConfigOf_described h.profile hport).unique h)

theorem exists_draft_iff :
    (∃ c, draft lookup currentDirectory = .ok c) ↔
      (∃ profile, Gives lookup "SCAP_PROFILE" profile) ∧
        ∀ text, Gives lookup "PORT" text → IsPort text := by
  rw [← exists_portOf_iff]
  constructor
  · rintro ⟨c, hc⟩
    have h : IsConfigOf lookup currentDirectory c := draft_eq_ok_iff.mp hc
    exact ⟨⟨c.profile, h.profile⟩, c.port, portOf_eq_ok_iff.mpr h.port⟩
  · rintro ⟨⟨profile, hprofile⟩, port, hport⟩
    exact ⟨_, draft_eq_ok_iff.mpr (isConfigOf_described hprofile hport)⟩

/-- Nothing that is drafted fails the validation. -/
theorem ofLookup_eq_draft (hdirectory : currentDirectory.text ≠ "") :
    ofLookup lookup currentDirectory = draft lookup currentDirectory := by
  rw [ofLookup_eq_bind]
  cases h : draft lookup currentDirectory with
  | error e => rfl
  | ok c =>
    change (c.validate.map fun _ => c) = .ok c
    rw [(draft_eq_ok_iff.mp h).validate hdirectory]
    rfl

/-- The names of the variables that are looked up. -/
def variableNames : List String :=
  ["HOST", "PORT", "SCAP_WORKSPACE", "SCAP_PROFILE", "SCAP_RESULTS_PATH"]

theorem ofLookup_congr {lookup' : String → Option String}
    (h : ∀ name ∈ variableNames, ∀ value, Gives lookup' name value ↔ Gives lookup name value) :
    ofLookup lookup' currentDirectory = ofLookup lookup currentDirectory := by
  have hvalue : ∀ name ∈ variableNames, value? lookup' name = value? lookup name := by
    intro name hname
    refine Option.ext fun value => ?_
    rw [value?_eq_some_iff, value?_eq_some_iff, h name hname]
  simp only [variableNames, List.forall_mem_cons] at hvalue
  obtain ⟨hhost, hport, hworkspace, hprofile, hresults, -⟩ := hvalue
  simp only [ofLookup, portOf, hostVariable, portVariable, workspaceVariable, profileVariable,
    resultsPathVariable, hhost, hport, hworkspace, hprofile, hresults]

/-- When the variables describe a configuration.  A profile must be given, which is looked at first,
and a given port must be a number of at most 16 bits, with or without zeros in front.  The
configuration then follows the variables to the letter and is valid, so that the validation at the
end refuses nothing.  A blank variable counts as an absent one, and only `variableNames` matter. -/
theorem ofLookup_eq_ok_iff_isConfigOf (lookup : String → Option String) (currentDirectory : Path)
    (hdirectory : currentDirectory.text ≠ "") :
    ((∃ c, ofLookup lookup currentDirectory = .ok c) ↔
      (∃ profile, Gives lookup "SCAP_PROFILE" profile) ∧
        ∀ text, Gives lookup "PORT" text → IsPort text) ∧
    (∀ c, ofLookup lookup currentDirectory = .ok c ↔ IsConfigOf lookup currentDirectory c) ∧
    (LeavesOpen lookup "SCAP_PROFILE" →
      ofLookup lookup currentDirectory = .error (.missing "SCAP_PROFILE")) ∧
    (∀ profile text, Gives lookup "SCAP_PROFILE" profile → Gives lookup "PORT" text →
      ¬ IsPort text → ofLookup lookup currentDirectory =
        .error (.invalid "PORT" (Text.quoted text ++ " is not a valid port"))) ∧
    (ofLookup lookup currentDirectory =
      (draft lookup currentDirectory).bind fun c => c.validate.map fun _ => c) ∧
    (∀ c, draft lookup currentDirectory = .ok c → c.validate = .ok ()) ∧
    (∀ c, ofLookup lookup currentDirectory = .ok c → c.validate = .ok ()) ∧
    ∀ lookup' : String → Option String,
      (∀ name ∈ variableNames, ∀ value, Gives lookup' name value ↔ Gives lookup name value) →
        ofLookup lookup' currentDirectory = ofLookup lookup currentDirectory := by
  have hvalid (c : Config) (h : draft lookup currentDirectory = .ok c) : c.validate = .ok () :=
    (draft_eq_ok_iff.mp h).validate hdirectory
  refine ⟨?_, ?_, ?_, ?_, ofLookup_eq_bind _ _, hvalid, ?_, fun _ => ofLookup_congr⟩
  · rw [ofLookup_eq_draft hdirectory]
    exact exists_draft_iff
  · intro c
    rw [ofLookup_eq_draft hdirectory, draft_eq_ok_iff]
  · intro hopen
    rw [ofLookup_eq_draft hdirectory, draft_of_leavesOpen hopen]
  · intro profile text hprofile htext hport
    rw [ofLookup_eq_draft hdirectory, draft_of_gives hprofile, portOf_of_not_isPort htext hport]
    rfl
  · intro c h
    rw [ofLookup_eq_draft hdirectory] at h
    exact hvalid c h

/-- Variables with a blank host, no workspace, and blanks in the other values. -/
def sampleVariables (port : String) : String → Option String
  | "HOST" => some " \t"
  | "PORT" => some port
  | "SCAP_PROFILE" => some " cis "
  | "SCAP_RESULTS_PATH" => some "run 2/arf.xml"
  | _ => none

/-- The same variables without a profile. -/
def withoutProfile (lookup : String → Option String) : String → Option String
  | "SCAP_PROFILE" => none
  | name => lookup name

theorem ofLookup_eq_ok_iff_isConfigOf_sample :
    (⟨"/srv"⟩ : Path).text ≠ "" ∧
    ofLookup (sampleVariables "+00065535") ⟨"/srv"⟩ =
      .ok ⟨"127.0.0.1", 65535, ⟨"/srv"⟩, " cis ", ⟨"/srv/run 2/arf.xml"⟩⟩ ∧
    ofLookup (sampleVariables " 80") ⟨"/srv"⟩ =
      .error (.invalid "PORT" "\" 80\" is not a valid port") ∧
    ofLookup (withoutProfile (sampleVariables "65536")) ⟨"/srv"⟩ =
      .error (.missing "SCAP_PROFILE") := by
  have hdirectory : (⟨"/srv"⟩ : Path).text ≠ "" := by decide
  have hprofile (port : String) : Gives (sampleVariables port) "SCAP_PROFILE" " cis " :=
    ⟨rfl, by decide⟩
  have hport (port : String) (h : Text.trim port ≠ "") : Gives (sampleVariables port) "PORT" port :=
    ⟨rfl, h⟩
  refine ⟨hdirectory, ?_, ?_, ?_⟩
  · obtain ⟨-, hok, -⟩ :=
      ofLookup_eq_ok_iff_isConfigOf (sampleVariables "+00065535") ⟨"/srv"⟩ hdirectory
    refine (hok _).mpr ⟨.inr ⟨?_, rfl⟩, .inl ⟨"+00065535", hport _ (by decide), ?_, by decide⟩,
      .inr ⟨?_, rfl⟩, hprofile _, "run 2/arf.xml", .inl ⟨rfl, by decide⟩, by decide⟩
    · intro value hvalue
      obtain rfl := Option.some.inj hvalue
      decide
    · have hdigits : "00065535".toList.all Char.isDigit = true := by decide
      exact ⟨_, by decide, List.all_eq_true.mp hdigits, .inr rfl, by decide⟩
    · intro value hvalue
      cases hvalue
  · obtain ⟨-, -, -, hinvalid, -⟩ :=
      ofLookup_eq_ok_iff_isConfigOf (sampleVariables " 80") ⟨"/srv"⟩ hdirectory
    exact hinvalid _ _ (hprofile _) (hport _ (by decide)) (port?_eq_none_iff.mp (by decide))
  · obtain ⟨-, -, hmissing, -⟩ :=
      ofLookup_eq_ok_iff_isConfigOf (withoutProfile (sampleVariables "65536")) ⟨"/srv"⟩ hdirectory
    refine hmissing fun value hvalue => ?_
    cases hvalue

end PolicyAudit.Service.Config
