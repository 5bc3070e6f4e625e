/-
**Settings.**

* `Settings`: where the type checker is and how it is asked, each with its usual value;
* `Settings.Valid`: the bounds that settings from documents keep;
* `Settings.fields`: the settings by name, in the order in which they are written.
-/

import TypeSchema.Text.Blank
import TypeSchema.Yaml.Write

namespace TypeSchema

/-- A double precision number from a decimal fraction. -/
def decimalFraction (coefficient : Nat) (places : Nat) : Binary64 :=
  Binary64.ofDecimal false coefficient (-(places : Int))

/-- How the type checker is asked for types. Times are in seconds. -/
structure Settings where
  /-- The program of the type checker. -/
  flowPath : String := "flow"
  /-- How many processes one question may start. -/
  maxRetries : Nat := 20
  /-- How long the first process runs alone. -/
  retryInterval : Binary64 := decimalFraction 1 1
  /-- How long one process may run. -/
  callTimeout : Option Binary64 := some (decimalFraction 1 0)
  /-- How many exports are resolved at a time. -/
  concurrency : Nat := 3
  /-- How many further modules a name may be followed through. -/
  maxReexportDepth : Nat := 5
  /-- How long the server may take before a notice. -/
  statusNoticeDelay : Binary64 := decimalFraction 1 0
  /-- The first version that answers questions about positions. -/
  minPositionQueryVersion : String := "0.89.0"
deriving DecidableEq

namespace Settings

/-- Whether a number is above zero. -/
def IsPositive (value : Binary64) : Prop := (Binary64.zero false).compare? value = some .lt

instance (value : Binary64) : Decidable (IsPositive value) := inferInstanceAs (Decidable (_ = _))

/-- Whether a number is zero or above. -/
def IsNonnegative (value : Binary64) : Prop :=
  IsPositive value ∨ (Binary64.zero false).compare? value = some .eq

instance (value : Binary64) : Decidable (IsNonnegative value) :=
  inferInstanceAs (Decidable (_ ∨ _))

/-- Whether a text has a character that is no white space. -/
def IsVisible (text : String) : Prop := text.toList.any (fun c => !isBlank c) = true

instance (text : String) : Decidable (IsVisible text) := inferInstanceAs (Decidable (_ = _))

/-- The bounds of settings. -/
structure Valid (settings : Settings) : Prop where
  flowPath : IsVisible settings.flowPath
  maxRetries : 1 ≤ settings.maxRetries
  retryInterval : IsPositive settings.retryInterval
  callTimeout : ∀ limit ∈ settings.callTimeout, IsPositive limit
  concurrency : 1 ≤ settings.concurrency
  statusNoticeDelay : IsNonnegative settings.statusNoticeDelay

/-- The settings by name. -/
def fields (settings : Settings) : List (String × Yaml.Scalar) :=
  [("flow_path", .text settings.flowPath),
   ("max_retries", .number (.int settings.maxRetries)),
   ("retry_interval", .number (.real settings.retryInterval)),
   ("call_timeout",
    match settings.callTimeout with
    | none => .null
    | some limit => .number (.real limit)),
   ("concurrency", .number (.int settings.concurrency)),
   ("max_reexport_depth", .number (.int settings.maxReexportDepth)),
   ("status_notice_delay", .number (.real settings.statusNoticeDelay)),
   ("min_position_query_version", .text settings.minPositionQueryVersion)]

end Settings

end TypeSchema
