import EventLoop.Settings.Field

/-!
The settings of a loop and its workers. A setter changes one field and leaves the others; the last
call of a setter counts.
-/
namespace EventLoop

/-- `ReactorConfig`: how a loop runs. Without a number of workers there is one for each processor,
as `default_workers` counts them. -/
structure LoopSettings where
  capacity : UInt64 := 1024
  pollTimeout : UInt64 := 100
  workers : Option UInt64 := none
deriving DecidableEq, Repr, Inhabited

namespace LoopSettings

/-- `ReactorConfigBuilder::events_capacity`. -/
def withCapacity (capacity : UInt64) (settings : LoopSettings) : LoopSettings :=
  { settings with capacity }
/-- `ReactorConfigBuilder::poll_timeout_ms`. -/
def withPollTimeout (pollTimeout : UInt64) (settings : LoopSettings) : LoopSettings :=
  { settings with pollTimeout }
/-- `ReactorConfigBuilder::workers`. -/
def withWorkers (workers : UInt64) (settings : LoopSettings) : LoopSettings :=
  { settings with workers := some workers }

/-- `ReactorConfig::from_toml_str`: reads settings from a document. -/
def ofText (text : String) : Except Fault LoopSettings := do
  let entries ← Settings.entriesOf text
  let settings ← Settings.field entries "events_capacity" Settings.word withCapacity {}
  let settings ← Settings.field entries "poll_timeout_ms" Settings.word withPollTimeout settings
  Settings.field entries "workers" Settings.word withWorkers settings

end LoopSettings

end EventLoop
