import QueueService.Http.Basic
import QueueService.Settings.Startup
import QueueService.Text.Identifier
import Std.Http
import Std.Time

/-!
# The command line

Starts the service and answers requests over HTTP. All decisions are made elsewhere: here the
environment is read, the clock and the source of random numbers are asked, and bytes go in and out.
-/

namespace QueueService.Main

/-- What the names of variables of the environment start with. -/
def scope : String := "QUEUESERVICE"

/-- The settings file if no other is named, without its ending. -/
def standardConfig : String := "queueservice"

/-- The variables of the environment that have a value, among those named. -/
def valuesOf (names : List String) : IO (List (String × String)) :=
  names.filterMapM fun name => do return (← IO.getEnv name).map fun value => (name, value)

/-- The text of a file, if it exists. -/
def textOf (path : String) : IO (Option String) := do
  try return some (← IO.FS.readFile path)
  catch _ => return none

/-- A fresh identifier. -/
def identifier : IO String := do
  return Identifier.ofBytes (← IO.getRandomBytes 16).toList

/-- What a request takes from the world. No request draws more identifiers than a batch has entries or
    a receive has messages. -/
def occasion : IO Occasion := do
  let now := (← Std.Time.Timestamp.now).toMillisecondsSinceUnixEpoch.val
  let messageIds ← (List.range Service.maxBatchEntries).mapM fun _ => identifier
  let handles ← (List.range Service.maxReceiveMessages).mapM fun _ => identifier
  return { clock := fun _ => now, messageIds := fun i => messageIds.getD i "",
           handles := fun i => handles.getD i "" }

/-- A running service. -/
structure Endpoint where
  startup : Startup
  backend : IO.Ref Backend

/-- Answer one request. -/
def Endpoint.answer (endpoint : Endpoint) (x : Http.Exchange) : IO Http.Answer := do
  let now ← occasion
  let requestId ← identifier
  endpoint.backend.modifyGet fun backend =>
    (x.answer endpoint.startup.desk endpoint.startup.caller now requestId).run backend

/-- The status with a given number. -/
def status : Nat → Std.Http.Status
  | 200 => .ok
  | 400 => .badRequest
  | 403 => .forbidden
  | 404 => .notFound
  | 405 => .methodNotAllowed
  | 413 => .payloadTooLarge
  | _ => .internalServerError

instance : Std.Http.Server.Handler Endpoint where
  ResponseBody := Std.Http.Body.Full
  onRequest endpoint request := do
    let body : ByteArray ← request.body.readAll
    let x : Http.Exchange :=
      { method := .ofText (toString request.line.method)
        target := .ofText (toString request.line.uri)
        body := body.toList }
    let answer ← endpoint.answer x
    let response := Std.Http.Response.withStatus (status answer.status)
    let response :=
      match answer.contentType?.bind Std.Http.Header.Value.ofString? with
      | some value => response.header Std.Http.Header.Name.contentType value
      | none => response
    response.fromBytes answer.body.toUTF8

/-- The options of the environment and the arguments. -/
def options (arguments : List String) : IO Options := do
  let given ← valuesOf (Options.names.map (Options.variableName scope))
  let fromVariables := Options.names.flatMap fun name =>
    match given.lookup (Options.variableName scope name) with
    | some value => ["--" ++ name, value]
    | none => []
  match Options.empty.read (fromVariables ++ arguments) with
  | .ok options => return options
  | .error e => throw (IO.userError e.message)

/-- The start that the options, the settings file and the environment ask for. -/
def startup (options : Options) : IO Startup := do
  let file? ← textOf (options.config?.getD standardConfig ++ ".json")
  match Settings.load scope file? (← valuesOf (Settings.variableNames scope)) with
  | .error _ => throw (IO.userError "the settings cannot be read")
  | .ok settings =>
    match Startup.plan options settings with
    | .ok startup => return startup
    | .error e => throw (IO.userError e.message)

end QueueService.Main

open QueueService in
/-- Start the service and answer requests until it is stopped. -/
def main (arguments : List String) : IO Unit := do
  let startup ← Main.startup (← Main.options arguments)
  match Std.Net.IPv4Addr.ofString startup.host with
  | none => throw (IO.userError ("not an address: " ++ startup.host))
  | some host =>
    let backend ← IO.mkRef (Backend.reliable Store.empty)
    let address := Std.Net.SocketAddress.v4 ⟨host, startup.port.toUInt16⟩
    let endpoint : Main.Endpoint := { startup, backend }
    (do
      let server ← Std.Http.Server.serve address endpoint
      server.waitShutdown : Std.Async.Async Unit).block
