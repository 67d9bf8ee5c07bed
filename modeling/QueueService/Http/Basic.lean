import QueueService.Query.Reply

/-!
# Answering over HTTP

The service behind an HTTP endpoint. Two paths tell whether it is up, the same paths with a slash behind
them lead nowhere, and all others are requests to the service, whatever their method.

## Contents
- `Method`, `Target`, `Exchange`, `Answer`: what comes in and what goes out.
- `Route`: where a path leads.
- `Exchange.answer`: the whole endpoint.
-/

namespace QueueService.Http

/-! ## What comes in -/

/-- The methods that some route tells apart. -/
inductive Method
  | get
  | head
  | other (name : String)
  deriving DecidableEq

/-- The method with a given name. -/
def Method.ofText : String → Method
  | "GET" => get
  | "HEAD" => head
  | name => other name

/-- What a request is directed at. -/
structure Target where
  path : String
  query : String
  deriving DecidableEq

/-- Read a target: a path, a query behind the first question mark, and a fragment, which does not
    count. -/
def Target.ofText (text : String) : Target :=
  let cs := text.toList.takeWhile (· != '#')
  { path := String.ofList (cs.takeWhile (· != '?'))
    query := String.ofList ((cs.dropWhile (· != '?')).drop 1) }

/-- A request as it comes in. -/
structure Exchange where
  method : Method
  target : Target
  body : List UInt8
  deriving DecidableEq

/-! ## What goes out -/

/-- An answer. -/
structure Answer where
  status : Nat
  contentType? : Option String
  body : String
  deriving DecidableEq

namespace Answer

/-- An answer without content. -/
def bare (status : Nat) : Answer := { status, contentType? := none, body := "" }

/-- An answer in plain text. -/
def plain (status : Nat) (body : String) : Answer :=
  { status, contentType? := some "text/plain; charset=utf-8", body }

/-- An answer that is an XML document. -/
def xml (status : Nat) (root : Xml) : Answer :=
  { status, contentType? := some "text/xml; charset=utf-8", body := root.document }

/-- The answer to a request that failed. -/
def ofError (caller : Caller) (requestId : String) (e : ServiceError) : Answer :=
  let report := ErrorReport.ofFailure (.ofError e) caller.privileged requestId
  xml report.code.status report.toXml

end Answer

/-! ## Routes -/

/-- Where a path leads. -/
inductive Route
  | health
  | nowhere
  | service
  deriving DecidableEq

/-- The paths that tell whether the service is up. -/
def Route.healthPaths : List String := ["/health", "/_localstack/health"]

/-- The route of a path. -/
def Route.ofPath (path : String) : Route :=
  if healthPaths.contains path then health
  else if (healthPaths.map (· ++ "/")).contains path then nowhere
  else service

/-- What is said of the service's health. -/
def healthText : String := "\x7b\"status\": \"running\", \"services\": [\"sqs\"]\x7d"

/-- The answer about the service's health. Asking for the head alone leaves the body out. -/
def health : Method → Answer
  | .get => .plain 200 healthText
  | .head => .plain 200 ""
  | .other _ => .bare 405

/-! ## The endpoint -/

namespace Exchange

/-- The greatest number of bytes of a body. -/
def maxBodyBytes : Nat := 2097152

/-- The answer to a body that is too long. -/
def bodyTooLong : Answer :=
  .plain 413 "Failed to buffer the request body: length limit exceeded"

/-- What the parameters of a request ask for. -/
def request (x : Exchange) : Except ServiceError Request := do
  let params ← Params.read (Utf8.encode x.target.query) x.body x.target.path
  params.request

/-- Have the service answer a request. -/
def serve (desk : Desk) (caller : Caller) (occasion : Occasion) (requestId : String)
    (x : Exchange) : StateM Backend Answer := do
  match x.request with
  | .error e => return .ofError caller requestId e
  | .ok request =>
    match ← (request.serve desk caller occasion).run with
    | .error e => return .ofError caller requestId e
    | .ok reply => return .xml 200 (reply.toXml request.action requestId)

/-- Answer a request. -/
def answer (desk : Desk) (caller : Caller) (occasion : Occasion) (requestId : String)
    (x : Exchange) : StateM Backend Answer :=
  match Route.ofPath x.target.path with
  | .health => return health x.method
  | .nowhere => return .bare 404
  | .service =>
    if maxBodyBytes < x.body.length then return bodyTooLong
    else x.serve desk caller occasion requestId

end Exchange

end QueueService.Http
