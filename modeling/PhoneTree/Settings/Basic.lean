import PhoneTree.PhoneNumber
import PhoneTree.Settings.SocketAddress

namespace PhoneTree

/-- Where the server runs. -/
inductive Stage
  | development
  | staging
  | production
  deriving DecidableEq, Inhabited

namespace Stage

def text : Stage → String
  | development => "development"
  | staging => "staging"
  | production => "production"

def name : Stage → String
  | development => "Development"
  | staging => "Staging"
  | production => "Production"

def parse? (word : String) : Option Stage :=
  [development, staging, production].find? fun stage => stage.text == word

end Stage

/-- Which rule of settings is broken. -/
inductive SettingsError
  | missing (setting : String)
  | badAddress (address : String)
  | badPort
  | badTimeout
  | badDatabaseUrl
  | badPoolSize
  | poolTooLarge
  | badAccountSid
  | badPublicHost
  | insecurePublicHost
  | badOutgoingNumber
  deriving DecidableEq, Inhabited

/-- The text of a broken rule. -/
def SettingsError.text : SettingsError → String
  | missing setting => s!"Required configuration missing: {setting}"
  | badAddress address => s!"Invalid socket address: {address}"
  | badPort => "Invalid port number"
  | badTimeout => "Invalid request timeout"
  | badDatabaseUrl => "Invalid database URL format"
  | badPoolSize => "Pool min_connections exceeds max_connections"
  | poolTooLarge => "Pool size exceeds maximum allowed (100)"
  | badAccountSid => "Invalid provider account id format"
  | badPublicHost => "Public host must be an http(s) URL"
  | insecurePublicHost => "Public host must use HTTPS in production"
  | badOutgoingNumber => "Outgoing number must be formatted +1XXXXXXXXXX"

/-- How the server listens and logs. -/
structure ServerSettings where
  host : String := "0.0.0.0"
  port : Nat := 8080
  stage : Stage := .development
  logLevel : String := "info,callflow=debug,sqlx=warn"
  timeoutSeconds : Nat := 10
  deriving DecidableEq, Inhabited

namespace ServerSettings

/-- The address to listen at. -/
def address (settings : ServerSettings) : Except SettingsError SocketAddress :=
  let text := s!"{settings.host}:{Text.Decimal.text settings.port}"
  match SocketAddress.parse? text with
  | some address => .ok address
  | none => .error (.badAddress text)

/-- Checks the settings of the server; the first fault is reported. -/
def check (settings : ServerSettings) : Except SettingsError Unit := do
  if settings.port = 0 then throw .badPort
  if settings.timeoutSeconds = 0 || 300 < settings.timeoutSeconds then throw .badTimeout
  let _ ← settings.address

end ServerSettings

/-- How the database is reached. -/
structure DatabaseSettings where
  url : String := ""
  minConnections : Nat := 2
  maxConnections : Nat := 10
  acquireSeconds : Nat := 5
  runMigrations : Bool := true
  deriving DecidableEq, Inhabited

def DatabaseSettings.check (settings : DatabaseSettings) : Except SettingsError Unit := do
  if settings.url.isEmpty then throw (.missing "DATABASE__URL")
  if !settings.url.startsWith "postgres://" && !settings.url.startsWith "postgresql://" then
    throw .badDatabaseUrl
  if settings.maxConnections < settings.minConnections then throw .badPoolSize
  if 100 < settings.maxConnections then throw .poolTooLarge

/-- The account at the provider, and how it reaches the server. -/
structure TelephonySettings where
  accountSid : String
  authToken : String
  publicHost : String
  outgoingNumber : String
  apiUrl : String := "https://api.twilio.com"
  attachRecordings : Bool := true
  recordingsFolder : String := "recordings"
  deriving DecidableEq, Inhabited

/-- Checks the settings of the provider. Callbacks may have to go over a secure connection. -/
def TelephonySettings.check (settings : TelephonySettings) (needsHttps : Bool) :
    Except SettingsError Unit := do
  if Text.isBlank settings.accountSid then throw (.missing "TELEPHONY__ACCOUNT_SID")
  if !settings.accountSid.startsWith "AC" then throw .badAccountSid
  if Text.isBlank settings.authToken then throw (.missing "TELEPHONY__AUTH_TOKEN")
  if !settings.publicHost.startsWith "http://" && !settings.publicHost.startsWith "https://" then
    throw .badPublicHost
  if needsHttps && !settings.publicHost.startsWith "https://" then throw .insecurePublicHost
  if !PhoneNumber.isCanonical settings.outgoingNumber then throw .badOutgoingNumber

/-- All settings. Without a database calls are kept in memory. -/
structure Settings where
  server : ServerSettings := {}
  database : Option DatabaseSettings := none
  telephony : TelephonySettings
  treesFolder : String := "trees"
  deriving DecidableEq, Inhabited

namespace Settings

def isProduction (settings : Settings) : Bool :=
  settings.server.stage == .production

/-- Checks all settings, those of the server first. A server in production needs a database and
callbacks over a secure connection. -/
def check (settings : Settings) : Except SettingsError Unit := do
  settings.server.check
  match settings.database with
  | some database => database.check
  | none => if settings.isProduction then throw (.missing "DATABASE__URL")
  settings.telephony.check settings.isProduction

end Settings

end PhoneTree
