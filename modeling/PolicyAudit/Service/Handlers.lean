import PolicyAudit.Files
import PolicyAudit.Service.Config
import PolicyAudit.Service.Message
import PolicyAudit.Service.Route

/-! # Answers of the service

The service answers each request from its configuration, the files it can read, the stored policies,
and a `Supply` of what is new in every request: an id, the time, and the order in which the map of
the policies visits its entries.  Creating and deleting a policy change the store; nothing else
does. -/

namespace PolicyAudit.Service

/-- What does not change from request to request. -/
structure Setting where
  config : Config
  files : Files

/-- What a request may draw on: an id for a new policy, readings of the clock, and the order in
which the stored policies are visited. -/
structure Supply where
  newId : Uuid
  clock : Nat → Instant
  visits : Arrangement

/-! ### Policies -/

/-- Stores the policy that the body asks for. -/
def createPolicy (supply : Supply) (store : PolicyStore) (r : Request) :
    Response × PolicyStore :=
  match r.decodeBody CreateRequest.decode with
  | .error e => (e.response, store)
  | .ok request =>
    match request.fault? with
    | some fault => (.ofFault (.ofRequest fault), store)
    | none =>
      let policy := request.toPolicy supply.newId (supply.clock 0)
      match store.save policy with
      | .error e => (.ofFault (.ofStore e), store)
      | .ok store => (.json 201 policy.toJson, store)

/-- The fault of a request about a policy that is not stored. -/
def policyNotFound (id : Uuid) : Fault := .notFound ("Policy " ++ id.text ++ " not found")

def getPolicy (store : PolicyStore) (segment : String) : Response :=
  match readSegment segment with
  | .error e => .text 400 e.message
  | .ok id =>
    match store.get? id with
    | some policy => .json 200 policy.toJson
    | none => .ofFault (policyNotFound id)

def listPolicies (supply : Supply) (store : PolicyStore) : Response :=
  .json 200 (.array ((store.list supply.visits).map Policy.toJson))

def deletePolicy (store : PolicyStore) (segment : String) : Response × PolicyStore :=
  match readSegment segment with
  | .error e => (.text 400 e.message, store)
  | .ok id =>
    match store.delete id with
    | .error e => (.ofFault (.ofStore e), store)
    | .ok store => (.bare 204, store)

/-! ### Results -/

/-- The fault of a results document that cannot be read. -/
def readFault (p : Path) : ReadFailure → Fault
  | .notFound => .notFound ("Results document " ++ p.text ++ " not found")
  | .other reason =>
    .internal ("Failed to read results document " ++ p.text ++ ": " ++ reason)

/-- The report on the document at a path for a policy. -/
def reportOn (files : Files) (clock : Nat → Instant) (policy : Policy) (p : Path) :
    Except Fault Report :=
  match files p with
  | .error e => .error (readFault p e)
  | .ok text =>
    match Scan.ResultsDocument.ofText text p.text with
    | .error e => .error (.ofCorrelation (.unreadable e))
    | .ok document =>
      (Scan.correlate CheckName.ofIdentifier clock document (.ofPolicy policy)).mapError
        Fault.ofCorrelation

/-- The report that a request asks for.  The policy must be stored before the path is looked at, and
the path must be allowed before it is read. -/
def report (setting : Setting) (clock : Nat → Instant) (store : PolicyStore)
    (request : ResultsRequest) : Except Fault Report :=
  match store.get? request.policyId with
  | none => .error (policyNotFound request.policyId)
  | some policy =>
    match setting.config.resolve? request.resultsPath with
    | none => .error (.badRequest
        ("results path must be inside the workspace " ++ setting.config.workspace.text))
    | some p => reportOn setting.files clock policy p

def getResults (setting : Setting) (supply : Supply) (store : PolicyStore) (r : Request) :
    Response :=
  match r.decodeBody ResultsRequest.decode with
  | .error e => e.response
  | .ok request =>
    match report setting supply.clock store request with
    | .error fault => .ofFault fault
    | .ok report => .json 200 report.toJson

/-! ### Requests -/

def health (config : Config) : Response :=
  .json 200 (.object [("status", .string "healthy"), ("service", .string "scap-correlate"),
    ("profile", .string config.profile)])

/-- The answer to a method that the route does not answer to. -/
def methodNotAllowed (route : Route) : Response := ⟨405, .text "", some route.allow⟩

/-- The answer to a method on a route. -/
def dispatch (setting : Setting) (supply : Supply) (store : PolicyStore) (r : Request)
    (route : Route) : Response × PolicyStore :=
  match route, r.method with
  | .health, "GET" => (health setting.config, store)
  | .health, "HEAD" => ((health setting.config).withoutBody, store)
  | .policies, "POST" => createPolicy supply store r
  | .policies, "GET" => (listPolicies supply store, store)
  | .policies, "HEAD" => ((listPolicies supply store).withoutBody, store)
  | .policy segment, "GET" => (getPolicy store segment, store)
  | .policy segment, "HEAD" => ((getPolicy store segment).withoutBody, store)
  | .policy segment, "DELETE" => deletePolicy store segment
  | .results, "POST" => (getResults setting supply store r, store)
  | route, _ => (methodNotAllowed route, store)

/-- The answer to a request, and the store behind it. -/
def answer (setting : Setting) (supply : Supply) (store : PolicyStore) (r : Request) :
    Response × PolicyStore :=
  match Route.ofPath? (Route.pathOf r.target.toList) with
  | none => (.bare 404, store)
  | some route => dispatch setting supply store r route

/-- The answers to requests one after the other, and the store behind them. -/
def run (setting : Setting) (store : PolicyStore) :
    List (Supply × Request) → List Response × PolicyStore
  | [] => ([], store)
  | (supply, r) :: rest =>
    let (response, store) := answer setting supply store r
    let (responses, store) := run setting store rest
    (response :: responses, store)

end PolicyAudit.Service
