import Gallery.Http.Message
import Gallery.ServiceError

-- How an error is told to a client. Where the service is in use by its clients, and for errors of
-- the service itself anywhere, nothing is told of what went wrong inside.

namespace Gallery.Http

structure ErrorReport where
  error : String
  details : Option String
  kind : Option String
  code : String
  recoverable : Bool
  action : Option String
deriving DecidableEq

namespace ErrorReport

-- The report of an error, with details if they are no secret and the place is not one for
-- clients.
def of (inProduction : Bool) (e : ServiceError) : ErrorReport :=
  let p := e.presentation
  let isTold := !inProduction && !p.sensitive
  { error := e.clientMessage
    details := if isTold then some e.details else none
    kind := if isTold then some e.kind else none
    code := p.code
    recoverable := p.recoverable
    action := p.action }

-- The report for a request that was let through without saying who it comes from.
def missingOwner : ErrorReport :=
  ⟨"Missing owner context", none, none, "MISSING_OWNER_CONTEXT", false,
    some "Send a bearer token"⟩

open Json in
def toJson (r : ErrorReport) : Value :=
  .object ([("error", .text r.error)]
    ++ Value.optional "details" (r.details.map .text)
    ++ Value.optional "error_type" (r.kind.map .text)
    ++ [("code", .text r.code), ("recoverable", .boolean r.recoverable)]
    ++ Value.optional "suggested_action" (r.action.map .text))

end ErrorReport

-- The response to a request that ended in an error.
def Response.ofError (inProduction : Bool) (e : ServiceError) : Response :=
  .json e.presentation.status (ErrorReport.of inProduction e).toJson

end Gallery.Http
