import PairQuote.Refusal
import PairQuote.Settings.EnvFile
import PairQuote.Settings.Files
import PairQuote.Settings.Path

/-! # The settings of the service

Ten settings in four sections.  Each takes its value from the highest **layer** that sets
it: a well-known variable, for five of them; a variable named after section and setting; a
settings file; a default.  Then each value is taken for what the setting needs, and three
last checks follow: there must be the address of a node, and at least one connection and
one request a minute.
-/
namespace PairQuote.Settings

/-- How log lines are written. -/
inductive LogFormat where
  | text
  | json
  deriving DecidableEq, Repr

/-- The ten settings. -/
inductive Key where
  | host
  | port
  | shutdownTimeout
  | rpcUrl
  | chainId
  | connectionPoolSize
  | requestTimeout
  | requestsPerMinute
  | logLevel
  | logFormat
  deriving DecidableEq, Repr

namespace Key

/-- All settings, in the order of their sections. -/
def all : List Key :=
  [host, port, shutdownTimeout, rpcUrl, chainId, connectionPoolSize, requestTimeout,
    requestsPerMinute, logLevel, logFormat]

/-- The section of a setting. -/
def sectionName : Key → String
  | host | port | shutdownTimeout => "server"
  | rpcUrl | chainId | connectionPoolSize | requestTimeout => "blockchain"
  | requestsPerMinute => "rate_limit"
  | logLevel | logFormat => "logging"

/-- The name of a setting in its section. -/
def name : Key → String
  | host => "host"
  | port => "port"
  | shutdownTimeout => "shutdown_timeout_secs"
  | rpcUrl => "rpc_url"
  | chainId => "chain_id"
  | connectionPoolSize => "connection_pool_size"
  | requestTimeout => "request_timeout_secs"
  | requestsPerMinute => "requests_per_minute"
  | logLevel => "level"
  | logFormat => "format"

/-- Where a setting stands. -/
def path (k : Key) : Path := .child (.name k.sectionName) k.name

/-- The value of a setting that nobody sets. -/
def default : Key → Value
  | host => .text "0.0.0.0"
  | port => .int 1337
  | shutdownTimeout => .int 30
  | rpcUrl => .text ""
  | chainId => .int 1
  | connectionPoolSize => .int 5
  | requestTimeout => .int 30
  | requestsPerMinute => .int 600
  | logLevel => .text "info"
  | logFormat => .text "text"

/-- The well-known variable of a setting. -/
def wellKnown? : Key → Option String
  | rpcUrl => some "ETHEREUM_RPC_URL"
  | host => some "SERVER_HOST"
  | port => some "SERVER_PORT"
  | logLevel => some "LOG_LEVEL"
  | logFormat => some "LOG_FORMAT"
  | _ => none

/-- The value of a setting in a table. -/
def value? (k : Key) (root : Value) : Option Value := root.getIn? k.sectionName k.name

end Key

/-! ### Layers -/

/-- The marker of variables that are named after section and setting, in lower case. -/
def marker : List Char := "v2quote__".toList

/-- A name with points for double underscores. -/
def pointed : List Char → List Char
  | '_' :: '_' :: rest => '.' :: pointed rest
  | c :: rest => c :: pointed rest
  | [] => []

/-- What a variable sets, if it has the marker. -/
def variableEntry? (entry : String × String) : Option (String × Value) :=
  let name := (lowerName entry.1).toList
  if marker.isPrefixOf name then
    some (String.ofList (pointed (name.drop marker.length)), Value.ofVariable entry.2)
  else none

/-- The table of defaults. -/
def defaults : Value :=
  Key.all.foldl (fun root k => k.path.set k.default root) Value.empty

/-- Brings the well-known variables in, as text. -/
def overlayWellKnown (env : Environment) (root : Value) : Value :=
  Key.all.foldl (fun root k =>
    match k.wellKnown?.bind fun name => env.lookup name with
    | some text => k.path.set (.text text) root
    | none => root) root

/-- What a file and the variables say together.  They meet in a table of their own, so that
a section that the file spoils and a variable mends still has its defaults. -/
def collected (env : Environment) (file : List (String × Value)) : List (String × Value) :=
  (Value.overlay (env.filterMap variableEntry?) (Value.overlay file Value.empty)).entries

/-- The table of all layers over what a file says. -/
def layered (env : Environment) (file : List (String × Value)) : Value :=
  overlayWellKnown env (Value.overlay (collected env file) defaults)

end Settings

open Settings

/-- The settings of the service. -/
structure Settings where
  host : String
  port : UInt16
  shutdownTimeoutSecs : UInt32
  rpcUrl : String
  chainId : UInt64
  connectionPoolSize : UInt64
  requestTimeoutSecs : UInt64
  requestsPerMinute : UInt32
  logLevel : String
  logFormat : LogFormat
  deriving DecidableEq, Repr

namespace Settings

/-- Why there are no settings. -/
inductive LoadError where
  /-- The settings file says nothing. -/
  | file (e : FileError)
  /-- A value cannot be taken for what its setting needs. -/
  | unusable
  | noRpcUrl
  | noConnections
  | noRequests
  deriving DecidableEq, Repr

/-- The refusal that an error found by the last checks is. -/
def LoadError.refusal? : LoadError → Option Refusal
  | file _ | unusable => none
  | noRpcUrl => some (.misconfigured "ETHEREUM_RPC_URL not set")
  | noConnections => some (.misconfigured "blockchain.connection_pool_size must be at least 1")
  | noRequests => some (.misconfigured "rate_limit.requests_per_minute must be at least 1")

/-! ### Taking values -/

/-- The way of writing log lines that a text names. -/
def LogFormat.ofText? (text : String) : Option LogFormat :=
  let word := String.ofList (Text.lower text.toList)
  if word = "text" then some .text else if word = "json" then some .json else none

/-- The way of writing log lines that a value names; a table names it by its only name. -/
def LogFormat.ofValue? : Value → Option LogFormat
  | .text s => ofText? s
  | .table [(name, _)] => ofText? name
  | _ => none

/-- The text of a setting. -/
def textAt? (root : Value) (k : Key) : Option String := (k.value? root).bind Value.toText?

/-- The number of `width` bits of a setting. -/
def numberAt? (root : Value) (width : Nat) (k : Key) : Option Nat :=
  (k.value? root).bind (Value.toNumberOf? width)

/-- Takes every setting from a table. -/
def ofTable? (root : Value) : Option Settings := do
  return {
    host := ← textAt? root .host
    port := UInt16.ofNat (← numberAt? root 16 .port)
    shutdownTimeoutSecs := UInt32.ofNat (← numberAt? root 32 .shutdownTimeout)
    rpcUrl := ← textAt? root .rpcUrl
    chainId := UInt64.ofNat (← numberAt? root 64 .chainId)
    connectionPoolSize := UInt64.ofNat (← numberAt? root 64 .connectionPoolSize)
    requestTimeoutSecs := UInt64.ofNat (← numberAt? root 64 .requestTimeout)
    requestsPerMinute := UInt32.ofNat (← numberAt? root 32 .requestsPerMinute)
    logLevel := ← textAt? root .logLevel
    logFormat := ← (Key.value? .logFormat root).bind LogFormat.ofValue? }

/-- The last checks. -/
def validate (s : Settings) : Except LoadError Settings :=
  if s.rpcUrl.isEmpty then .error .noRpcUrl
  else if s.connectionPoolSize = 0 then .error .noConnections
  else if s.requestsPerMinute = 0 then .error .noRequests
  else .ok s

/-- What the settings file of a path says; nothing if there is none. -/
def fileEntries (files : Files) (path : String) : Except FileError (List (String × Value)) :=
  match files.find? path with
  | some (format, text) => format.read text
  | none => .ok []

/-- The settings, with the file of a path. -/
def load (env : Environment) (files : Files) (path : String) : Except LoadError Settings :=
  match fileEntries files path with
  | .error e => .error (.file e)
  | .ok file =>
    match ofTable? (layered env file) with
    | some s => s.validate
    | none => .error .unusable

/-- The path of the settings file where none is chosen. -/
def defaultPath : String := "config.yaml"

/-- The settings, after the file of variables, with the settings file that a variable
chooses. -/
def loadFromEnvironment (env : Environment) (files : Files) : Except LoadError Settings :=
  let env := match files.lookup ".env" with
    | some text => env.withFile text
    | none => env
  load env files ((env.lookup "CONFIG_PATH").getD defaultPath)

end Settings

end PairQuote
