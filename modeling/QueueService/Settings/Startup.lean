import QueueService.Service.Basic
import QueueService.Settings.Basic

/-!
# Starting the service

Options of the command line, which have precedence over the settings, and what the service is started
with once both are known.

## Contents
- `Options`, `Options.read`: the options.
- `Settings.variableNames`: the variables of the environment that settings are read from.
- `Startup.plan`: what the service is started with.
-/

namespace QueueService

/-! ## Options -/

/-- The options of the command line. -/
structure Options where
  port? : Option Nat
  host? : Option String
  region? : Option String
  account? : Option String
  /-- The settings file, without its ending. -/
  config? : Option String
  deriving DecidableEq

namespace Options

/-- The options of a command line without any. -/
def empty : Options :=
  { port? := none, host? := none, region? := none, account? := none, config? := none }

/-- Why options are refused. -/
inductive Error
  | unknown (name : String)
  | valueMissing (name : String)
  | notAPort (text : String)
  deriving DecidableEq

/-- The wording of an error. -/
def Error.message : Error → String
  | .unknown name => "unexpected argument '" ++ name ++ "'"
  | .valueMissing name => "a value is required for '" ++ name ++ "'"
  | .notAPort text => "'" ++ text ++ "' is not a port"

/-- Set an option by its name. -/
def set (options : Options) (name value : String) : Except Error Options :=
  match name with
  | "port" =>
    match Integer.unsigned? 16 value with
    | some n => .ok { options with port? := some n }
    | none => .error (.notAPort value)
  | "host" => .ok { options with host? := some value }
  | "region" => .ok { options with region? := some value }
  | "account-id" => .ok { options with account? := some value }
  | "config" => .ok { options with config? := some value }
  | _ => .error (.unknown name)

/-- The names of the options. -/
def names : List String := ["port", "host", "region", "account-id", "config"]

/-- The name in an argument, and its value if that stands behind an equals sign. -/
def split (argument : String) : Option (String × Option String) :=
  match argument.toList with
  | ['-', 'p'] => some ("port", none)
  | '-' :: '-' :: rest =>
    let name := String.ofList (rest.takeWhile (· != '='))
    match rest.dropWhile (· != '=') with
    | _ :: value => some (name, some (String.ofList value))
    | [] => some (name, none)
  | _ => none

/-- Read arguments over options that are known already. The value of an option stands behind an equals
    sign or is the next argument. -/
def read (options : Options) : List String → Except Error Options
  | [] => .ok options
  | [argument] =>
    match split argument with
    | some (name, some value) => options.set name value
    | some (name, none) =>
      .error (if names.contains name then .valueMissing argument else .unknown argument)
    | none => .error (.unknown argument)
  | argument :: next :: rest =>
    match split argument with
    | some (name, some value) =>
      match options.set name value with
      | .ok options => options.read (next :: rest)
      | .error e => .error e
    | some (name, none) =>
      match options.set name next with
      | .ok options => options.read rest
      | .error e => .error e
    | none => .error (.unknown argument)

/-- The variable of the environment that stands in for an option. -/
def variableName (scope name : String) : String :=
  scope ++ "_" ++ String.ofList (name.toList.map fun c => if c = '-' then '_' else c.toUpper)

end Options

/-! ## Settings from the environment -/

/-- The variables of the environment that settings are read from. -/
def Settings.variableNames (scope : String) : List String :=
  let upper (name : String) : String := String.ofList (name.toList.map Char.toUpper)
  (serverNames.map fun name => scope ++ "__SERVER__" ++ upper name) ++
    (serviceNames.map fun name => scope ++ "__SQS__" ++ upper name) ++
    Limit.all.map fun l => scope ++ "__SQS__LIMITS__" ++ upper l.key

/-! ## Startup -/

/-- What the service is started with. -/
structure Startup where
  host : String
  port : Nat
  desk : Desk
  /-- Every request is served as this caller's. -/
  caller : Caller
  deriving DecidableEq

namespace Startup

/-- Why the service cannot be started. -/
inductive Error
  | noAccount
  | limits (cause : Limits.Error)
  deriving DecidableEq

/-- The wording of an error. -/
def Error.message : Error → String
  | .noAccount => "no accounts configured"
  | .limits cause => cause.message

/-- Plan a start. Requests are served as the account of the options, or else the first one of the
    settings; it exists in any case. -/
def plan (options : Options) (settings : Settings) : Except Error Startup := do
  let port := options.port?.getD settings.port
  let account ←
    match options.account?.or settings.accounts.head? with
    | some account => .ok account
    | none => .error .noAccount
  let accounts :=
    if settings.accounts.contains account then settings.accounts
    else settings.accounts ++ [account]
  let limits ← (Limits.standard.apply settings.limits.entries).mapError .limits
  let endpoint := settings.endpoint?.getD ("http://localhost:" ++ toString port)
  return {
    host := options.host?.getD settings.host
    port
    desk := { limits, addresses := .ofEndpoint endpoint accounts }
    caller :=
      { account, region := options.region?.getD settings.region
        privileged := settings.privileged } }

end Startup

end QueueService
