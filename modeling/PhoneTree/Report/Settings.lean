import PhoneTree.Report.Error
import PhoneTree.Settings.Basic

namespace PhoneTree.Report

def settingsErrorName : SettingsError → String
  | .missing _ => "MissingRequired"
  | .badAddress _ => "InvalidAddress"
  | .badPort => "InvalidPort"
  | .badTimeout => "InvalidTimeout"
  | .badDatabaseUrl => "InvalidDatabaseUrl"
  | .badPoolSize => "InvalidPoolSize"
  | .poolTooLarge => "PoolSizeTooLarge"
  | .badAccountSid => "InvalidAccountSid"
  | .badPublicHost => "InvalidPublicHost"
  | .insecurePublicHost => "PublicHostMustBeHttps"
  | .badOutgoingNumber => "InvalidOutgoingNumber"

def checked {α : Type} (write : α → Json) (result : Except SettingsError α) : Json :=
  match result with
  | .ok value => write value
  | .error error => failure (settingsErrorName error) (some error.text)

def check (result : Except SettingsError Unit) : Json :=
  checked (fun _ => .text "ok") result

def serverSettings (settings : ServerSettings) : Json :=
  .object
    [("host", .text settings.host), ("port", .ofNat settings.port),
      ("environment", .text settings.stage.name), ("log_level", .text settings.logLevel),
      ("timeout", .ofNat settings.timeoutSeconds),
      ("address", checked (fun address => .text address.text) settings.address)]

def databaseSettings (settings : DatabaseSettings) : Json :=
  .object
    [("url", .text settings.url), ("min", .ofNat settings.minConnections),
      ("max", .ofNat settings.maxConnections), ("acquire", .ofNat settings.acquireSeconds),
      ("migrate", .bool settings.runMigrations)]

def telephonySettings (settings : TelephonySettings) : Json :=
  .object
    [("account_sid", .text settings.accountSid), ("auth_token", .text settings.authToken),
      ("public_host", .text settings.publicHost), ("outgoing", .text settings.outgoingNumber),
      ("api", .text settings.apiUrl), ("attach", .bool settings.attachRecordings),
      ("recordings_dir", .text settings.recordingsFolder)]

def settings (settings : Settings) : Json :=
  .object
    [("server", serverSettings settings.server),
      ("database", .ofOption databaseSettings settings.database),
      ("telephony", telephonySettings settings.telephony), ("trees", .text settings.treesFolder),
      ("production", .bool settings.isProduction), ("validate", check settings.check)]

end PhoneTree.Report
