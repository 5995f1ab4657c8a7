import ServiceTemplates.Cache.Basic
import ServiceTemplates.Health
import ServiceTemplates.Settings
import ServiceTemplates.Text.Quoted

/-!
# How parts of the controller are logged

A part of the controller is logged as its name with named fields. Parts that hold more
than they show end with two dots.
-/

namespace ServiceTemplates

/-! ### Values -/

namespace Shown

def flag (b : Bool) : String := if b then "true" else "false"

/-- A text that may be missing. -/
def optionalText : Option String → String
  | none => "None"
  | some s => "Some(" ++ Text.quoted s ++ ")"

def seconds (n : Nat) : String := if n = 0 then "0ns" else toString n ++ "s"

/-- A name with fields, and with dots if there is more that is not shown. -/
def record (name : String) (fields : List (String × String)) (hasMore : Bool) : String :=
  let shown := fields.map fun f => f.1 ++ ": " ++ f.2
  let all := if hasMore then shown ++ [".."] else shown
  name ++ " \x7b " ++ ", ".intercalate all ++ " \x7d"

end Shown

open Shown

/-! ### Parts -/

def ControllerSettings.shown (s : ControllerSettings) : String :=
  record "ControllerConfig"
    [("worker_threads", toString s.workerThreads),
      ("backoff_start_ms", toString s.backoffStart),
      ("backoff_max_ms", toString s.backoffMax),
      ("watch_namespace", optionalText s.watchNamespace),
      ("pod_name", optionalText s.podName),
      ("log_level", Text.quoted s.logLevel),
      ("log_enable_color", flag s.logColor),
      ("enable_metrics", flag s.enableMetrics),
      ("cache_sync_timeout_secs", toString s.cacheSyncTimeout),
      ("resync_period_secs", toString s.resyncPeriod)] false

def ServerSettings.shown (s : ServerSettings) : String :=
  record "ServerConfig"
    [("metrics_port", toString s.socket),
      ("startup_timeout_secs", toString s.startupTimeout),
      ("poll_interval_ms", toString s.pollInterval)] false

/-- The cache as it is logged, with the number of its watches. -/
def Cache.shown (c : Cache) : String :=
  let watches := if c.isStarted then cachedKinds.length else 0
  record "Cache" [("namespace", optionalText c.ns), ("tasks", toString watches)] true

/-- The parts of the controller that show nothing of what they hold. -/
inductive Part where
  | listers
  | clients
  | templateResolver
  | eventRecorder
  | synchronizer
deriving DecidableEq, Inhabited

def Part.shown (p : Part) : String :=
  let name :=
    match p with
    | listers => "Listers"
    | clients => "Clients"
    | templateResolver => "TemplateResolver"
    | eventRecorder => "KubeEventRecorder"
    | synchronizer => "Synchronizer"
  record name [] true

/-- The environment of all passes as it is logged, with the resync period in seconds. -/
def shownContext (resync : Nat) : String := record "Context" [("resync", seconds resync)] true

/-- The outcome of the preparations as it is logged. -/
def shownInitialization (s : ControllerSettings) (server : ServerState) : String :=
  record "InitializationResult"
    [("config", s.shown), ("server_ready", flag server.isReady)] true

end ServiceTemplates
