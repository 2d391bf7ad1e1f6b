import PolicyAudit.PolicyStore

/-! # Calls to a store

A store that several callers share takes one `Call` at a time and answers it with a `Reply`, whoever
made it.  A call that is refused leaves the store as it is, and so does one that only looks.

A call to list the policies comes with the order in which the map visits its entries at that time.
No caller chooses it, and it may be another one at each call. -/

namespace PolicyAudit.PolicyStore

inductive Call where
  | save (policy : Policy)
  | get (id : Uuid)
  | list (visits : Arrangement)
  | delete (id : Uuid)

inductive Reply where
  /-- The policy that was stored. -/
  | saved (policy : Policy)
  | found (policy : Option Policy)
  | listed (policies : List Policy)
  | deleted
  | refused (cause : StoreError)
deriving DecidableEq

/-- The reply to a call, and the store behind it. -/
def perform (s : PolicyStore) : Call → Reply × PolicyStore
  | .save p =>
    match s.save p with
    | .ok t => (.saved p, t)
    | .error e => (.refused e, s)
  | .get id => (.found (s.get? id), s)
  | .list visits => (.listed (s.list visits), s)
  | .delete id =>
    match s.delete id with
    | .ok t => (.deleted, t)
    | .error e => (.refused e, s)

end PolicyAudit.PolicyStore
