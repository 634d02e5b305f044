import RpcEndpoint.Connection.Reaction

/-!
# Pending requests

The table of the requests that were sent and not answered. An entry leaves the table before its
outcome is handed out, so that no request has two.
-/

namespace RpcEndpoint

/-- When a request runs out of time, and the limit that it had. -/
structure Deadline where
  time : Instant
  timeout : Duration
deriving Repr, DecidableEq

/-- A limit that the clock cannot show is none. -/
def Deadline.after? (now : Instant) (timeout : Duration) : Option Deadline :=
  (now.after? timeout).map fun time => ⟨time, timeout⟩

/-- A request that waits for its outcome. -/
structure PendingRequest (app : Application) where
  id : MessageId
  method : String
  sink : Sink app
  deadline : Option Deadline
  /-- Where the hook of the request hangs. -/
  attachment : Option Attachment

/-- Whether the time of the request is up. -/
def PendingRequest.isDue {app : Application} (now : Instant) (entry : PendingRequest app) : Bool :=
  match entry.deadline with
  | some deadline => deadline.time.nanoseconds ≤ now.nanoseconds
  | none => false

/-- The pending requests, one for each identifier, in no order that matters. -/
abbrev PendingTable (app : Application) := List (PendingRequest app)

namespace PendingTable

variable {app : Application}

/-- Adds a request, in place of one with the same identifier. -/
def insert (entry : PendingRequest app) (table : PendingTable app) : PendingTable app :=
  table.filter (fun held => held.id ≠ entry.id) ++ [entry]

/-- The request of an identifier. -/
def find (id : MessageId) (table : PendingTable app) : Option (PendingRequest app) :=
  table.find? fun held => held.id = id

/-- The table without the request of an identifier. -/
def remove (id : MessageId) (table : PendingTable app) : PendingTable app :=
  table.filter fun held => held.id ≠ id

/-- Requests in ascending order of their identifiers. -/
def inOrder (table : PendingTable app) : List (PendingRequest app) :=
  table.mergeSort fun left right => !right.id.before left.id

/-- The requests whose time is up, in ascending order of their identifiers. -/
def due (now : Instant) (table : PendingTable app) : List (PendingRequest app) :=
  inOrder (table.filter (·.isDue now))

/-- The requests whose time is not up. -/
def notDue (now : Instant) (table : PendingTable app) : PendingTable app :=
  table.filter fun entry => !entry.isDue now

/-- The earliest deadline. -/
def nextDeadline (table : PendingTable app) : Option Instant :=
  ((table.filterMap fun entry => entry.deadline.map (·.time.nanoseconds)).min?).map .mk

end PendingTable

end RpcEndpoint
