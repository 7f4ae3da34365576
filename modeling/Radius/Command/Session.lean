-- SUMMARY: What the program does with its arguments and files: what it prints and logs, what it writes, and how it ends.
import Radius.Command.Arguments
import Radius.Config.Form
import Radius.Log.Filter
import Radius.Log.Warning
import Radius.Server.Run
import Radius.Text.Terminal

/-!
# Sessions of the command

A session is one run of the program over a snapshot of files. Checking a
configuration prints its settings or its fault. Serving needs a valid configuration:
if there is no file for it a sample is written, and any other fault ends the session.
Everything that serving says goes to the log, unless the filter of the log cannot be
made: then the session breaks off.
-/

namespace Radius

/-- How a session ends. -/
inductive Ending where
  | exit (code : UInt8)
  /-- The server is set up and waits for datagrams. -/
  | serving (server : Server)

structure Session where
  ending : Ending
  /-- Lines for the standard output, besides the log. -/
  output : List String
  /-- Lines for the standard error output. -/
  faults : List String
  log : List LogEntry
  filter : LogFilter
  files : FileTree

namespace Session

def programName : String := "radius-endpoint"
def programVersion : String := "0.1.0"

def helpLines : List String := [
  "Deduplicating RADIUS server endpoint", "",
  "Usage: radius-endpoint [OPTIONS] [CONFIG]", "",
  "Arguments:",
  "  [CONFIG]  Path to configuration file [default: config.json]", "",
  "Options:",
  "  -v, --validate  Validate configuration and exit (doesn't start server)",
  "  -h, --help      Print help",
  "  -V, --version   Print version"]

/-- The entries of the log that are shown. -/
def shownLog (session : Session) : List LogEntry := session.log.filter session.filter.shows

/-- The lines that a terminal shows of the log. An entry takes more than one line if there are line
feeds in it. -/
def logLines (session : Session) : List String :=
  session.shownLog.flatMap (fun entry =>
    (Terminal.lines (entry.line ++ "\n").toList).map String.ofList)

/-- A session that ends with an exit code. -/
def ended (files : FileTree) (code : UInt8) (output faults : List String) : Session :=
  ⟨.exit code, output, faults, [], LogFilter.ofLevel .info, files⟩

/-! ## Checking a configuration -/

/-- What checking a valid configuration prints. -/
def settings (config : Config) : List String := [
  "Configuration validated successfully",
  s!"  Listen: {config.listenAddress}:{config.listenPort.toNat}",
  s!"  Clients: {config.clients.length}",
  s!"  Users: {config.users.length}",
  s!"  Dedup timeout: {config.dedupSeconds.toNat}s",
  "  Dictionary: " ++ config.dictionaryPath.getD "(built-in)"]

def check (files : FileTree) (path : String) : Session :=
  match Config.load files path with
  | .ok config   => ended files 0 (settings config) []
  | .error fault => ended files 1 [] ["Configuration validation failed: " ++ fault.message]

/-! ## Serving -/

/-- An entry of the program itself. -/
def entry (level : LogLevel) (message : String) : LogEntry := ⟨level, "radius_endpoint", message, []⟩

/-- Write a sample configuration where there is none. -/
def writeSample (files : FileTree) (path : String) (fault : ConfigError) : Session :=
  let log := [
    entry .warn s!"Could not load config file from {path}: {fault.message}",
    entry .info s!"Creating example configuration at: {path}"]
  match Config.sample.save files path with
  | .ok files =>
      { ended files 0 [] [] with
        log := log ++ [entry .info s!"Please edit {path} and restart the server"] }
  | .error fault =>
      { ended files 1 [] [] with
        log := log ++ [entry .error s!"Error creating example config: {fault.message}"] }

/-- What the log says about the clients of a configuration. -/
def clientEntries (config : Config) : List LogEntry :=
  if config.clients.isEmpty then
    [entry .warn "No authorized clients configured; accepting requests from any address"]
  else
    (config.clients.filter (·.enabled)).map (fun client =>
      { entry .info "Authorized client" with
        fields := [("address", .plain client.address),
          ("name", .quoted (client.name.getD "(unnamed)"))] })

/-- Set the server of a valid configuration up, with what its log shows. -/
def start (files : FileTree) (path : String) (config : Config) (filter : LogFilter) : Session :=
  let log :=
    [entry .info s!"{programName} v{programVersion}",
      entry .info s!"Loaded configuration from: {path}"]
    ++ config.users.map (fun account => entry .info s!"Added user: {account.userName}")
    ++ clientEntries config
  let session (ending : Ending) (later : List LogEntry) : Session :=
    ⟨ending, [], [], log ++ later, filter, files⟩
  match Server.ofConfig config files.source (Users.ofAccounts config.users) with
  | .error fault =>
      session (.exit 1)
        [entry .error s!"Invalid configuration: {(ServerError.config fault).message}"]
  | .ok (server, remarks) =>
      session (.serving server) (remarks.map LoadRemark.entry ++
        [⟨.info, "radius_endpoint::server",
          s!"RADIUS server listening on {server.endpoint.toText}", []⟩])

def serve (files : FileTree) (path : String) : Session :=
  match Config.load files path with
  | .ok config =>
      match LogFilter.ofText? (config.logLevel.getD "info") with
      | some filter => start files path config filter
      | none        => ended files 101 [] ["error: a log rule breaks inside a character"]
  | .error fault =>
      if fault.isNotFound then writeSample files path fault
      else
        { ended files 1 [] [] with
          log := [entry .error s!"Invalid configuration in {path}: {fault.message}"] }

/-! ## All command lines -/

/-- The session of a command line. -/
def run (files : FileTree) (arguments : List String) : Session :=
  match CommandRequest.ofArguments arguments with
  | .misuse  => ended files 2 [] ["error: unexpected argument"]
  | .help    => ended files 0 helpLines []
  | .version => ended files 0 [s!"{programName} {programVersion}"] []
  | .run invocation =>
      if invocation.validateOnly then check files invocation.configPath
      else serve files invocation.configPath

end Session
end Radius
