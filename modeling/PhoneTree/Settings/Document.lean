import PhoneTree.Call.Json
import PhoneTree.Settings.Basic

namespace PhoneTree

/-- How the single values of settings are read. -/
structure ValueReaders where
  text : Datum → Option String
  number : Nat → Datum → Option Nat
  truth : Datum → Option Bool
  stage : Datum → Option Stage

namespace ValueReaders

/-- The readers of a document in JSON. -/
def json : ValueReaders where
  text := Datum.text? .json
  number := Datum.natural? .json
  truth := Datum.truth?
  stage := Datum.word? Stage.parse?

end ValueReaders

def ServerSettings.read? (readers : ValueReaders) (datum : Datum) : Option ServerSettings := do
  let record ← Record.read? .json
    ["host", "port", "environment", "log_level", "request_timeout_secs"] false datum
  let default : ServerSettings := {}
  return {
    host := ← record.withDefault "host" default.host readers.text
    port := ← record.withDefault "port" default.port (readers.number 16)
    stage := ← record.withDefault "environment" default.stage readers.stage
    logLevel := ← record.withDefault "log_level" default.logLevel readers.text
    timeoutSeconds :=
      ← record.withDefault "request_timeout_secs" default.timeoutSeconds (readers.number 64) }

def DatabaseSettings.read? (readers : ValueReaders) (datum : Datum) : Option DatabaseSettings := do
  let record ← Record.read? .json
    ["url", "min_connections", "max_connections", "acquire_timeout_secs", "run_migrations"] false
    datum
  let default : DatabaseSettings := {}
  return {
    url := ← record.required "url" readers.text
    minConnections :=
      ← record.withDefault "min_connections" default.minConnections (readers.number 32)
    maxConnections :=
      ← record.withDefault "max_connections" default.maxConnections (readers.number 32)
    acquireSeconds :=
      ← record.withDefault "acquire_timeout_secs" default.acquireSeconds (readers.number 64)
    runMigrations := ← record.withDefault "run_migrations" default.runMigrations readers.truth }

def TelephonySettings.read? (readers : ValueReaders) (datum : Datum) :
    Option TelephonySettings := do
  let record ← Record.read? .json
    ["account_sid", "auth_token", "public_host", "default_outgoing_number", "api_base_url",
      "attach_recordings", "recordings_dir"] false datum
  let settings : TelephonySettings := {
    accountSid := ← record.required "account_sid" readers.text
    authToken := ← record.required "auth_token" readers.text
    publicHost := ← record.required "public_host" readers.text
    outgoingNumber := ← record.required "default_outgoing_number" readers.text }
  return { settings with
    apiUrl := ← record.withDefault "api_base_url" settings.apiUrl readers.text
    attachRecordings :=
      ← record.withDefault "attach_recordings" settings.attachRecordings readers.truth
    recordingsFolder :=
      ← record.withDefault "recordings_dir" settings.recordingsFolder readers.text }

def readTreesFolder? (readers : ValueReaders) (default : String) (datum : Datum) :
    Option String := do
  let record ← Record.read? .json ["dir"] false datum
  record.withDefault "dir" default readers.text

/-- Reads all settings; a part that is left out has its defaults. -/
def Settings.read? (readers : ValueReaders) (datum : Datum) : Option Settings := do
  let record ← Record.read? .json ["server", "database", "telephony", "trees"] false datum
  let server ← record.withDefault "server" {} (ServerSettings.read? readers)
  let database ← record.withDefault "database" none
    (Datum.optional? (DatabaseSettings.read? readers))
  let telephony ← record.required "telephony" (TelephonySettings.read? readers)
  let settings : Settings := { server, database, telephony }
  return { settings with
    treesFolder :=
      ← record.withDefault "trees" settings.treesFolder
        (readTreesFolder? readers settings.treesFolder) }

end PhoneTree
