import AirLoop.Time.Duration

/-!
# Session configuration (`raop_sender_core::models::config`)

What one session is run with, and which configurations make sense.
-/

namespace AirLoop

/-- Service type under which AirPlay audio receivers announce themselves (`RAOP_SERVICE_TYPE`). -/
def raopServiceType : String := "_raop._tcp.local."

/-- Settings of one session (`SessionConfiguration`). -/
structure Configuration where
  /-- service type to browse for -/
  serviceType : String := raopServiceType
  /-- how long a sweep collects replies -/
  discoveryTimeout : Duration := .ofSeconds 3
  /-- wait between two looks for a quit request -/
  pollInterval : Duration := .ofMillis 100
  /-- width of the level meter in bars -/
  meterWidth : Nat := 50
  deriving DecidableEq

/-- Why a configuration makes no sense. -/
inductive ConfigurationProblem where
  | emptyServiceType
  | unqualifiedServiceType (serviceType : String)
  | zeroTimeout
  | zeroPollInterval
  | meterWidthOutOfRange (width : Nat)
  deriving DecidableEq

/-- Greatest width of the meter (`SessionConfiguration::MAX_METER_WIDTH`). -/
def maxMeterWidth : Nat := 200

/-- The text of a problem. -/
def ConfigurationProblem.message : ConfigurationProblem → String
  | emptyServiceType => "service type must not be empty"
  | unqualifiedServiceType t =>
    "service type must be fully qualified (end in \".local.\"): " ++ t
  | zeroTimeout => "discovery timeout must be positive"
  | zeroPollInterval => "poll interval must be positive"
  | meterWidthOutOfRange w => s!"meter width must be between 1 and {maxMeterWidth}: {w}"

namespace Configuration

/-- A fully qualified service type ends in the local domain. -/
def isQualified (serviceType : String) : Bool :=
  ".local.".toList.isSuffixOf serviceType.toList

/-- The first problem of a configuration, if it has any (`SessionConfiguration::validate`). -/
def problem? (c : Configuration) : Option ConfigurationProblem :=
  if c.serviceType = "" then some .emptyServiceType
  else if !isQualified c.serviceType then some (.unqualifiedServiceType c.serviceType)
  else if c.discoveryTimeout.isZero then some .zeroTimeout
  else if c.pollInterval.isZero then some .zeroPollInterval
  else if c.meterWidth = 0 ∨ maxMeterWidth < c.meterWidth then
    some (.meterWidthOutOfRange c.meterWidth)
  else none

end Configuration

end AirLoop
