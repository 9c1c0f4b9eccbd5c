import Rehearsal.Error
import Rehearsal.Text.Basic

/-!
The settings of a run.
-/

namespace Rehearsal

structure Config where
  /-- How long a wait for a selector, a text or visibility may take. -/
  timeoutMs : Nat
  /-- How long a wait rests between two probes. -/
  pollIntervalMs : Nat
  captureDir : String
  /-- The element that is searched for a label. -/
  labelTag : String
  deriving DecidableEq, Repr

namespace Config

/-- The settings of one who asks for nothing. -/
def default : Config :=
  { timeoutMs := 5000, pollIntervalMs := 100, captureDir := "./capture", labelTag := "a" }

instance : Inhabited Config := ⟨default⟩

/-- How long a wait for an address may take, whatever the settings say. -/
def urlTimeoutMs : Nat := 5000

/-- Refuses settings under which a run could not go on. -/
def check (config : Config) : Except ConfigFault Config :=
  if config.timeoutMs = 0 then .error .timeoutNotPositive
  else if config.pollIntervalMs = 0 then .error .pollIntervalNotPositive
  else if Text.isBlank config.labelTag then .error .labelTagBlank
  else .ok config

end Config

end Rehearsal
