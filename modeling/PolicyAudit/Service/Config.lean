import PolicyAudit.Path
import PolicyAudit.Text.Blank
import PolicyAudit.Text.Quoted

/-! # Configuration of the service

The configuration comes from variables.  A variable with a blank value counts as absent.  The
profile must be given; everything else has a default.

Results documents live in the workspace.  `Config.resolve?` takes the path of a request to the path
that is read: a path with a parent component is refused, an absolute one must lie inside the
workspace already, and a relative one is meant from there. -/

namespace PolicyAudit.Service

structure Config where
  host : String
  port : Nat
  /-- The directory of the scanner's outputs. -/
  workspace : Path
  /-- The profile that the scanner evaluated, which is only reported. -/
  profile : String
  /-- The results document that is read when a request names none. -/
  resultsPath : Path
deriving DecidableEq, Repr

inductive ConfigError where
  | missing (name : String)
  | invalid (name reason : String)
deriving DecidableEq, Repr

def ConfigError.message : ConfigError → String
  | missing name => name ++ " must be set"
  | invalid name reason => name ++ " is invalid: " ++ reason

namespace Config

def hostVariable : String := "HOST"
def portVariable : String := "PORT"
def workspaceVariable : String := "SCAP_WORKSPACE"
def profileVariable : String := "SCAP_PROFILE"
def resultsPathVariable : String := "SCAP_RESULTS_PATH"

/-- The place of the results document in the workspace when none is configured. -/
def defaultResults : Path := ⟨"openscap/results/arf.xml"⟩

def defaultHost : String := "127.0.0.1"

def defaultPort : Nat := 8080

def maxPort : Nat := 65535

/-- The configuration of a workspace and a profile, with defaults for the rest. -/
def new (workspace : Path) (profile : String) : Config where
  host := defaultHost
  port := defaultPort
  workspace := workspace
  profile := profile
  resultsPath := workspace.join defaultResults

/-- The number that ASCII digits stand for, if there are any digits and nothing else. -/
def digitsValue? (cs : List Char) : Option Nat :=
  if cs ≠ [] ∧ cs.all fun c => '0' ≤ c && c ≤ '9' then
    some (cs.foldl (fun n c => n * 10 + (c.toNat - 0x30)) 0)
  else none

/-- A port: digits, perhaps behind a plus sign, whose number is not too great. -/
def port? (s : String) : Option Nat :=
  let digits := match s.toList with
    | '+' :: cs => cs
    | cs => cs
  match digitsValue? digits with
  | some n => if n ≤ maxPort then some n else none
  | none => none

/-- A configuration is usable when its workspace is not empty and its profile not blank. -/
def validate (c : Config) : Except ConfigError Unit :=
  if c.workspace.text = "" then .error (.missing workspaceVariable)
  else if Text.isBlankText c.profile then .error (.missing profileVariable)
  else .ok ()

/-- The value of a variable, unless it is blank. -/
def value? (lookup : String → Option String) (name : String) : Option String :=
  (lookup name).filter fun v => !Text.isBlankText v

/-- The configured port. -/
def portOf (lookup : String → Option String) : Except ConfigError Nat :=
  match value? lookup portVariable with
  | none => .ok defaultPort
  | some v =>
    match port? v with
    | some n => .ok n
    | none => .error (.invalid portVariable (Text.quoted v ++ " is not a valid port"))

/-- The configuration that the variables describe. -/
def ofLookup (lookup : String → Option String) (currentDirectory : Path) :
    Except ConfigError Config :=
  match value? lookup profileVariable with
  | none => .error (.missing profileVariable)
  | some profile =>
    match portOf lookup with
    | .error e => .error e
    | .ok port =>
      let workspace : Path := match value? lookup workspaceVariable with
        | some w => ⟨w⟩
        | none => currentDirectory
      let c : Config := {
        host := (value? lookup hostVariable).getD defaultHost
        port := port
        workspace := workspace
        profile := profile
        resultsPath := workspace.join (match value? lookup resultsPathVariable with
          | some p => ⟨p⟩
          | none => defaultResults) }
      match c.validate with
      | .error e => .error e
      | .ok () => .ok c

/-- The address that the service listens on. -/
def bindAddress (c : Config) : String := c.host ++ ":" ++ toString c.port

/-- The path that is read for the path of a request, if that is allowed. -/
def resolve? (c : Config) : Option String → Option Path
  | none => some c.resultsPath
  | some text =>
    let p : Path := ⟨text⟩
    if Path.Component.parent ∈ p.components then none
    else if p.isAbsolute then if p.isInside c.workspace then some p else none
    else some (c.workspace.join p)

end Config
end PolicyAudit.Service
