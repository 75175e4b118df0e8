import PhoneTree.Script.Provider
import PhoneTree.Server.Startup

namespace PhoneTree.Script

/-- The port that is put in its place. -/
def port : String :=
  "54321"

def databasePlace : String :=
  "/run/database"

def fillPlaces (value : String) : String :=
  (value.replace "\x7bPORT\x7d" port).replace "\x7bDB\x7d" databasePlace

/-- The parts of a relative path, which must stay in its folder. -/
def pathParts? (path : String) : Option (List String) :=
  if path.isEmpty || path.startsWith "/" then none
  else (path.splitOn "/").foldlM (fun parts part =>
    if part == "" || part == "." then some parts
    else if part == ".." then (if parts.isEmpty then none else some parts.dropLast)
    else some (parts ++ [part])) []

def files (script : Json) : List (List String × List UInt8) :=
  (script.listAt "files").filterMap fun file =>
    (pathParts? (file.textAt "name")).map fun parts => (parts, bytes file "content")

/-- The entries of a folder; a folder of trees is always there. -/
def folder (script : Json) (path : String) : Option (List FolderEntry) := do
  let parts ← pathParts? path
  let inside := (files script).filter fun file =>
    parts.isPrefixOf file.1 && parts.length < file.1.length
  if inside.isEmpty && parts != [] && parts != ["trees"] then none
  else some (inside.map fun file =>
    match file.1.drop parts.length with
    | [name] => ⟨name, some file.2⟩
    | rest => ⟨rest.headD "", none⟩)

/-- What becomes of an attempt to reach a database. -/
def databaseState (script : Json) (settings : DatabaseSettings) : DatabaseState :=
  if (settings.url.splitOn databasePlace).length < 2 then .unreachable
  else
    match script.textAt "database" with
    | "ok" => .ready
    | "migration_error" => .migrationFails
    | _ => .unreachable

def isLocal : IpAddress → Bool
  | .v4 bytes => bytes.head? == some 127 || bytes == [0, 0, 0, 0]
  | .v6 groups _ => groups == [0, 0, 0, 0, 0, 0, 0, 0] || groups == [0, 0, 0, 0, 0, 0, 0, 1]

/-- The surroundings that a script describes. -/
def surroundings (script : Json) : Surroundings where
  environment := (script.pairsAt "vars").map fun (name, value) => (name, fillPlaces value)
  variableFile := ((files script).lookup [".env"]).map fun bytes =>
    fillPlaces (Text.Utf8.decodeLossy bytes)
  folder := folder script
  database := databaseState script
  canListen address :=
    isLocal address.ip && !(script.boolAt "busy" && Text.Decimal.text address.port == port)

def hidePort (text : String) : String :=
  text.replace port "PORT"

end PhoneTree.Script
