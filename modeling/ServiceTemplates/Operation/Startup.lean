import ServiceTemplates.Operation.Basic

/-!
# Startup

What has to succeed before the controller works, in order: its server has to listen,
the API server has to be known, and the cache has to be filled. Each failure ends the
program with its wording. How much of all that is logged depends on the log level.
-/

namespace ServiceTemplates

/-! ### Log levels -/

inductive LogLevel where
  | off
  | error
  | warn
  | info
  | debug
  | trace
deriving DecidableEq, Inhabited

namespace LogLevel

/-- The levels from the quietest on. -/
def all : List LogLevel := [.off, .error, .warn, .info, .debug, .trace]

def name : LogLevel → String
  | off => "off"
  | error => "error"
  | warn => "warn"
  | info => "info"
  | debug => "debug"
  | trace => "trace"

/-- The place of a level, the quietest being at zero. -/
def rank : LogLevel → Nat
  | off => 0
  | error => 1
  | warn => 2
  | info => 3
  | debug => 4
  | trace => 5

/-- The level of a name or a rank; no name at all asks for everything. -/
def ofText? (s : String) : Option LogLevel :=
  if s.isEmpty then some trace else all.find? fun l => l.name == s || toString l.rank == s

def logs (l : LogLevel) (message : LogLevel) : Bool := message.rank ≤ l.rank

end LogLevel

/-- The level at which the controller logs; only errors if the setting names none. -/
def ControllerSettings.level (s : ControllerSettings) : LogLevel :=
  (LogLevel.ofText? (Text.lowerCase s.logLevel)).getD .error

/-! ### Failures -/

/-- What the controller finds around it. -/
structure Surroundings where
  /-- Whether the address of its server is free. -/
  isAddressFree : Bool := true
  /-- Whether it is told where the API server is. -/
  isClusterKnown : Bool := true
deriving DecidableEq, Inhabited

/-- Why the program ends early. -/
inductive StartupFailure where
  | server
  /-- The server was not there in time, a number of seconds. -/
  | serverLate (limit : Nat)
  /-- There is no client of the API server. -/
  | client
  | cache (cause : CacheError)
deriving DecidableEq

namespace StartupFailure

def message : StartupFailure → String
  | server => "HTTP server failed to start"
  | serverLate limit =>
    "HTTP server failed to become ready within " ++ toString limit ++ " seconds"
  | client => "failed to create Kubernetes client"
  | cache cause => cause.message

/-- The level of the most severe message before a failure. -/
def severity : StartupFailure → LogLevel
  | server => .error
  | serverLate _ => .info
  | client => .info
  | cache _ => .info

end StartupFailure

/-- The failure that ends the program, if any, given the controller as it starts. A
server that is given no time at all is late. -/
def startupFailure? (around : Surroundings) (settings : ServerSettings) (o : Operation) :
    Option StartupFailure :=
  if settings.startupTimeout = 0 then some (.serverLate 0)
  else if !around.isAddressFree then some .server
  else if !around.isClusterKnown then some .client
  else o.failure.map .cache

/-- Whether anything is logged before the program ends. -/
def isLogged (level : LogLevel) (failure : Option StartupFailure) : Bool :=
  level.logs ((failure.map StartupFailure.severity).getD .info)

end ServiceTemplates
