import PhoneTree.Http.Endpoint
import PhoneTree.Server.LogFilter
import PhoneTree.Settings.Environment
import PhoneTree.Tree.Folder

namespace PhoneTree

/-- One line of the log. -/
structure LogLine where
  level : LogLevel
  message : String
  trees : Option (List String) := none
  deriving DecidableEq, Inhabited

/-- Why the server did not start. -/
structure StartupError where
  message : String
  cause : Option String := none
  deriving DecidableEq, Inhabited

/-- What becomes of an attempt to reach a database. -/
inductive DatabaseState
  | unreachable
  | ready
  | migrationFails
  deriving DecidableEq, Inhabited

/-- All that the server finds around it when it starts. -/
structure Surroundings where
  environment : Environment.Variables
  variableFile : Option String
  folder : String → Option (List FolderEntry)
  database : DatabaseSettings → DatabaseState
  canListen : SocketAddress → Bool

/-- What has been done so far. In production the log is written as JSON. -/
structure StartupProgress where
  filter : LogFilter := ⟨[]⟩
  jsonLog : Bool := false
  lines : List LogLine := []
  migrated : Bool := false
  deriving Inhabited

/-- A server that has started. -/
structure Server where
  settings : Settings
  registry : Registry
  address : SocketAddress

abbrev Startup (α : Type) := ExceptT StartupError (StateM StartupProgress) α

namespace Startup

def logTarget : String :=
  "callflow"

/-- Writes a line to the log if the filter shows it. -/
def log (level : LogLevel) (message : String) (trees : Option (List String) := none) :
    Startup Unit :=
  modify fun progress =>
    if progress.filter.shows logTarget level then
      { progress with lines := progress.lines ++ [⟨level, message, trees⟩] }
    else progress

def environment (around : Surroundings) : Environment.Variables :=
  match around.variableFile with
  | some text => Environment.withFile around.environment (Environment.ofFile text)
  | none => around.environment

def loadSettings (environment : Environment.Variables) : Startup Settings :=
  match Environment.settings? environment with
  | none => throw { message := "Failed to load configuration" }
  | some settings =>
      match settings.check with
      | .ok () => pure settings
      | .error error => throw { message := "Invalid configuration", cause := error.text }

/-- Takes the filter of the log from its variable if that is well formed, else from the settings. -/
def openLog (environment : Environment.Variables) (settings : Settings) : Startup Unit :=
  let given := (environment.lookup "RUST_LOG").bind LogFilter.parse?
  modify fun progress =>
    { progress with
      filter := given.getD (LogFilter.parse settings.server.logLevel)
      jsonLog := settings.isProduction }

/-- The cause of a failure to load trees; what a reader or the system said is left out. -/
def treesCause : TreeError → Option String
  | .unreadable | .unavailable => none
  | error => some error.text

/-- Loads the trees of the folder and tells their names. -/
def loadTrees (around : Surroundings) (settings : Settings) : Startup Registry := do
  let loaded := match around.folder settings.treesFolder with
    | some entries => treesOfFolder entries
    | none => .error .unavailable
  match loaded with
  | .error error =>
      throw
        { message := s!"Failed to load trees from {settings.treesFolder}"
          cause := treesCause error }
  | .ok trees =>
      match ({} : Registry).registerAll trees with
      | (_, some error) => throw { message := error.text }
      | (registry, none) =>
          log .info "Trees registered" (some registry.names)
          return registry

/-- Reaches the database and brings it up to date, or goes on without one. A pool without room or
time for a connection never gets one. -/
def openStore (around : Surroundings) (settings : Settings) : Startup Unit := do
  match settings.database with
  | none => log .warn "No database configured; calls are kept in memory"
  | some database =>
      let state := around.database database
      if state = .unreachable || database.maxConnections = 0 || database.acquireSeconds = 0 then
        throw { message := "Failed to connect to database" }
      if database.runMigrations then
        modify fun progress => { progress with migrated := true }
        if state = .migrationFails then throw { message := "Failed to run migrations" }

def listen (around : Surroundings) (settings : Settings) : Startup SocketAddress :=
  match settings.server.address with
  | .error error => throw { message := error.text }
  | .ok address => do
      if around.canListen address then
        log .info "Callflow listening"
        return address
      else throw { message := s!"Failed to bind {address.text}" }

/-- Starts the server; the first step that fails ends it. -/
def start (around : Surroundings) : Startup Server := do
  let environment := environment around
  let settings ← loadSettings environment
  openLog environment settings
  let registry ← loadTrees around settings
  openStore around settings
  let address ← listen around settings
  return { settings, registry, address }

/-- Runs the server until it is stopped from outside. -/
def runUntilStopped (around : Surroundings) : Startup Server := do
  let server ← start around
  log .info "Shutting down"
  return server

end Startup

namespace Server

/-- What the handlers need of the settings. -/
def account (server : Server) : Service.Account :=
  { publicHost := server.settings.telephony.publicHost
    outgoingNumber := server.settings.telephony.outgoingNumber
    attachRecordings := server.settings.telephony.attachRecordings }

def respond (server : Server) (request : Http.Request) :
    Dialogue Question Question.Answer Http.Response :=
  Http.respond server.settings.telephony.accountSid server.account server.registry request

end Server

end PhoneTree
