import ServiceTemplates.Text.Blank
import ServiceTemplates.Text.LowerCase
import ServiceTemplates.Text.Numeral

/-!
# Settings

The settings of the controller and of its server, read from named texts such as
environment variables. A number or a truth value that is missing or no spelling of its
type has its default; white space around a number does not matter, nor does the case
of a truth value.
-/

namespace ServiceTemplates

abbrev Lookup := String → Option String

structure ControllerSettings where
  /-- How many objects of one kind are looked at at a time. -/
  workerThreads : Nat := 2
  /-- The first retry delay, in milliseconds. -/
  backoffStart : Nat := 1000
  /-- The greatest retry delay, in milliseconds. -/
  backoffMax : Nat := 30000
  /-- The only namespace that is watched; none stands for all. -/
  watchNamespace : Option String := none
  podName : Option String := none
  logLevel : String := "INFO"
  logColor : Bool := false
  enableMetrics : Bool := true
  /-- How long the cache may take to fill, in seconds. -/
  cacheSyncTimeout : Nat := 120
  /-- The resync period, in seconds. -/
  resyncPeriod : Nat := 300
deriving DecidableEq, Inhabited

structure ServerSettings where
  /-- The number of the socket that is listened on. -/
  socket : Nat := 5000
  /-- How long the server may take to start, in seconds. -/
  startupTimeout : Nat := 10
  /-- How often its state is looked at meanwhile, in milliseconds. -/
  pollInterval : Nat := 50
deriving DecidableEq, Inhabited

/-- A number below `bound`, or its default. -/
def numberSetting (lookup : Lookup) (name : String) (bound fallback : Nat) : Nat :=
  ((lookup name).bind fun s => Text.numeral? bound (Text.trim s)).getD fallback

/-- A truth value, or its default if it is missing. -/
def flagSetting (lookup : Lookup) (name : String) (fallback : Bool) : Bool :=
  match lookup name with
  | none => fallback
  | some s => ["true", "1", "yes", "on"].contains (Text.lowerCase s)

/-- A text that is not blank. -/
def textSetting (lookup : Lookup) (name : String) : Option String :=
  (lookup name).filter fun s => !(Text.trim s).isEmpty

namespace ControllerSettings

def ofLookup (lookup : Lookup) : ControllerSettings :=
  let fallback : ControllerSettings := {}
  let word : Nat := 0x10000000000000000
  { workerThreads := Nat.max 1 (numberSetting lookup "WORKER_THREADS" word fallback.workerThreads)
    backoffStart := numberSetting lookup "BACKOFF_START_MS" word fallback.backoffStart
    backoffMax := numberSetting lookup "BACKOFF_MAX_MS" word fallback.backoffMax
    watchNamespace := textSetting lookup "WATCH_NAMESPACE"
    podName := textSetting lookup "POD_NAME"
    logLevel := (lookup "LOG_LEVEL").getD fallback.logLevel
    logColor := flagSetting lookup "LOG_ENABLE_COLOR" fallback.logColor
    enableMetrics := flagSetting lookup "ENABLE_METRICS" fallback.enableMetrics
    cacheSyncTimeout :=
      numberSetting lookup "CACHE_SYNC_TIMEOUT_SECS" word fallback.cacheSyncTimeout
    resyncPeriod := numberSetting lookup "RESYNC_PERIOD_SECS" word fallback.resyncPeriod }

/-- What the log level means to the log filter. -/
def filterDirective (s : ControllerSettings) : String :=
  "svcat_templates=" ++ Text.lowerCase s.logLevel

/-- The periods among the settings, in milliseconds. -/
def durations (s : ControllerSettings) : List Nat :=
  [s.backoffStart, s.backoffMax, s.cacheSyncTimeout * 1000, s.resyncPeriod * 1000]

end ControllerSettings

namespace ServerSettings

def ofLookup (lookup : Lookup) : ServerSettings :=
  let fallback : ServerSettings := {}
  { socket := numberSetting lookup "METRICS_PORT" 0x10000 fallback.socket
    startupTimeout :=
      numberSetting lookup "SERVER_STARTUP_TIMEOUT_SECS" 0x10000000000000000 fallback.startupTimeout
    pollInterval := numberSetting lookup "SERVER_POLL_INTERVAL_MS" 0x10000000000000000 fallback.pollInterval }

/-- The periods among the settings, in milliseconds. -/
def durations (s : ServerSettings) : List Nat := [s.startupTimeout * 1000, s.pollInterval]

end ServerSettings

end ServiceTemplates
