import ThinClient.Error

/-!
# Configuration

Where a server is and how to talk to it, read from an address or from the environment.

An address is `ignite://host[:port][/][?items]`; the items are separated by `&`, empty ones count
for nothing, and of several with one key the last one holds.

* `Config.parse` reads an address or says what is wrong with it.
* `Config.fromEnvironment` falls back to the default, value by value, where the environment says
  nothing that can be read.
* `PoolConfig` adds how many connections a pool may open.
-/

namespace ThinClient

/-- How to reach a server and talk to it. -/
structure Config where
  host : String
  port : UInt16
  version : Version
  /-- Rows per page, unless a query says otherwise. -/
  pageSize : Int32
  /-- Milliseconds an exchange may take. -/
  timeout : Option Nat
  deriving DecidableEq

namespace Config

/-- A server on this machine. -/
def default : Config where
  host := "127.0.0.1"
  port := 10800
  version := .default
  pageSize := 1024
  timeout := none

/-- The scheme of addresses. -/
def scheme : List Char := "ignite".toList

/-- The configuration with one item of an address taken into account. -/
def withItem (config : Config) (item : List Char) : Except AddressError Config :=
  let (key, value) := (Split.atFirst '=' item).getD (item, [])
  if key = "version".toList then
    match Version.read? value with
    | some version => .ok { config with version }
    | none => .error .invalidVersion
  else if key = "page_size".toList then
    match Decimal.readInt32 value with
    | some size =>
      if 0 < size then .ok { config with pageSize := size } else .error .invalidPageSize
    | none => .error .invalidPageSize
  else if key = "timeout_ms".toList then
    match Decimal.readNat64 value with
    | some ms => .ok { config with timeout := some ms }
    | none => .error .invalidTimeout
  else .error (.unknownParameter (String.ofList key))

/-- The configuration with the items of an address taken into account, from left to right. -/
def withItems (config : Config) : List (List Char) → Except AddressError Config
  | [] => .ok config
  | item :: rest =>
    if item.isEmpty then config.withItems rest
    else do (← config.withItem item).withItems rest

/-- The default configuration with the host and port of an address. -/
def ofAuthority (authority : List Char) : Except AddressError Config := do
  let config ←
    match Split.atLast ':' authority with
    | some (host, port) =>
      match Decimal.readUInt16 port with
      | some port => .ok { default with host := String.ofList host, port }
      | none => .error .invalidPort
    | none => .ok { default with host := String.ofList authority }
  if config.host.isEmpty then .error .hostMissing else .ok config

/-- Reads an address. -/
def parse (url : String) : Except AddressError Config := do
  match Split.atWord "://".toList url.toList with
  | none => .error .schemeMissing
  | some (found, rest) =>
    if found ≠ scheme then .error (.unknownScheme (String.ofList found))
    else
      let (authority, query) := (Split.atFirst '?' rest).getD (rest, [])
      let config ← ofAuthority (Split.trimEnd '/' authority)
      config.withItems (Split.all '&' query)

end Config

/-- The variables of the environment that a client reads. -/
structure Environment where
  url : Option String := none
  host : Option String := none
  port : Option String := none
  pageSize : Option String := none
  poolMax : Option String := none

/-- The configuration that the environment describes. A value that cannot be read leaves what was
there before. -/
def Config.fromEnvironment (env : Environment) : Config :=
  let base := (env.url.bind fun url => (Config.parse url).toOption).getD .default
  { base with
    host := env.host.getD base.host
    port := (env.port.bind fun s => Decimal.readUInt16 s.toList).getD base.port
    pageSize := (env.pageSize.bind fun s => Decimal.readInt32 s.toList).getD base.pageSize }

/-- How a pool opens connections, and how many. -/
structure PoolConfig where
  connection : Config
  limit : Nat := 10
  limit_pos : 0 < limit := by decide

namespace PoolConfig

/-- The configuration with another limit, which is raised to one. -/
def withLimit (config : PoolConfig) (limit : Nat) : PoolConfig :=
  { config with limit := max limit 1, limit_pos := by omega }

/-- The configuration of a pool that the environment describes. -/
def fromEnvironment (env : Environment) : PoolConfig :=
  let config : PoolConfig := { connection := .fromEnvironment env }
  match env.poolMax.bind fun s => Decimal.readNat64 s.toList with
  | some limit => config.withLimit limit
  | none => config

/-- The configuration of a pool whose connections are opened at an address. -/
def ofAddress (env : Environment) (url : String) : Except AddressError PoolConfig :=
  (Config.parse url).map fun connection => { fromEnvironment env with connection }

end PoolConfig

end ThinClient
