import EventLoop.Address
import EventLoop.Settings.Field

/-!
The settings of a server. A setter changes one field and leaves the others; forbidden types add
up.
-/
namespace EventLoop

/-- `ServerConfig`: how a server treats its connections. Without a limit on connections every one is
admitted, and without a rate none is slowed down. A throttled connection is tried again after
`retry` milliseconds. -/
structure ServerSettings where
  address : Address := .v4 127 0 0 1 8080
  bufferSize : UInt64 := 8192
  maxConnections : Option UInt64 := none
  noDelay : Bool := true
  readRate : Option UInt64 := none
  retry : UInt64 := 50
  forbidden : List UInt32 := []
deriving DecidableEq, Repr, Inhabited

namespace ServerSettings

/-- `ServerConfigBuilder::address`. -/
def withAddress (address : Address) (settings : ServerSettings) : ServerSettings :=
  { settings with address }
/-- `ServerConfigBuilder::buffer_size`. -/
def withBufferSize (bufferSize : UInt64) (settings : ServerSettings) : ServerSettings :=
  { settings with bufferSize }
/-- `ServerConfigBuilder::max_connections`. -/
def withMaxConnections (limit : UInt64) (settings : ServerSettings) : ServerSettings :=
  { settings with maxConnections := some limit }
/-- `ServerConfigBuilder::no_delay`. -/
def withNoDelay (noDelay : Bool) (settings : ServerSettings) : ServerSettings :=
  { settings with noDelay }
/-- `ServerConfigBuilder::read_rate_bps`. -/
def withReadRate (rate : UInt64) (settings : ServerSettings) : ServerSettings :=
  { settings with readRate := some rate }
/-- `ServerConfigBuilder::throttle_retry_ms`. -/
def withRetry (retry : UInt64) (settings : ServerSettings) : ServerSettings :=
  { settings with retry }
/-- `ServerConfigBuilder::forbid`. -/
def forbid (type : UInt32) (settings : ServerSettings) : ServerSettings :=
  { settings with forbidden := settings.forbidden ++ [type] }
/-- The field `forbidden_protocols` of a `ServerConfig`, as a document gives it. -/
def withForbidden (forbidden : List UInt32) (settings : ServerSettings) : ServerSettings :=
  { settings with forbidden }

/-- An address in its text form. -/
def addressShape : Settings.Shape Address := fun value => do
  let text ← Settings.string value
  match Address.ofText? text with
  | some address => .ok address
  | none => .error (.kind "an address and a port")

/-- `ServerConfig::from_toml_str`: reads settings from a document. -/
def ofText (text : String) : Except Fault ServerSettings := do
  let entries ← Settings.entriesOf text
  let settings ← Settings.field entries "address" addressShape withAddress {}
  let settings ← Settings.field entries "buffer_size" Settings.word withBufferSize settings
  let settings ← Settings.field entries "max_connections" Settings.word withMaxConnections settings
  let settings ← Settings.field entries "no_delay" Settings.flag withNoDelay settings
  let settings ← Settings.field entries "read_rate_bps" Settings.word withReadRate settings
  let settings ← Settings.field entries "throttle_retry_ms" Settings.word withRetry settings
  Settings.field entries "forbidden_protocols" (Settings.list Settings.halfWord) withForbidden
    settings

end ServerSettings

end EventLoop
