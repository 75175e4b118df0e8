import PhoneTree.Server.Offline

namespace PhoneTree.CommandLine

/-- The variables of the environment that are looked at. -/
def variableNames : List String :=
  ["RUST_LOG", "CALLFLOW__SERVER__HOST", "CALLFLOW__SERVER__PORT", "CALLFLOW__SERVER__ENVIRONMENT",
    "CALLFLOW__SERVER__LOG_LEVEL", "CALLFLOW__SERVER__REQUEST_TIMEOUT_SECS",
    "CALLFLOW__DATABASE__URL", "CALLFLOW__DATABASE__MIN_CONNECTIONS",
    "CALLFLOW__DATABASE__MAX_CONNECTIONS", "CALLFLOW__DATABASE__ACQUIRE_TIMEOUT_SECS",
    "CALLFLOW__DATABASE__RUN_MIGRATIONS", "CALLFLOW__TELEPHONY__ACCOUNT_SID",
    "CALLFLOW__TELEPHONY__AUTH_TOKEN", "CALLFLOW__TELEPHONY__PUBLIC_HOST",
    "CALLFLOW__TELEPHONY__DEFAULT_OUTGOING_NUMBER", "CALLFLOW__TELEPHONY__API_BASE_URL",
    "CALLFLOW__TELEPHONY__ATTACH_RECORDINGS", "CALLFLOW__TELEPHONY__RECORDINGS_DIR",
    "CALLFLOW__TREES__DIR"]

def environment : IO Environment.Variables :=
  variableNames.filterMapM fun name => do
    return (← IO.getEnv name).map fun value => (name, value)

def printLines (output : IO.FS.Stream) (lines : List String) : IO Unit := do
  for line in lines do
    output.putStrLn line
  output.flush

/-- Answers one request after another until the input ends. -/
partial def serve (server : Server) (world : World) : IO Unit := do
  let line ← (← IO.getStdin).getLine
  if line.isEmpty then pure ()
  else
    match Http.Request.ofLine? line with
    | none => serve server world
    | some request =>
        let (response, world) := server.handle request world
        printLines (← IO.getStdout) response.lines
        serve server world

/-- Starts the server and answers the requests of the input. -/
def run (documents : List String) : IO UInt32 := do
  let around := Surroundings.offline (← environment) documents
  let (result, progress) := (Startup.start around).run.run {}
  let errorOutput ← IO.getStderr
  printLines errorOutput (progress.lines.map (·.text))
  match result with
  | .error error =>
      printLines errorOutput error.lines
      return 1
  | .ok server =>
      serve server {}
      return 0

end PhoneTree.CommandLine

def main (documents : List String) : IO UInt32 :=
  PhoneTree.CommandLine.run documents
