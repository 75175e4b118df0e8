import PhoneTree.Memory.World
import PhoneTree.Server.Startup
import PhoneTree.Service.Jobs

namespace PhoneTree

/-- Reads a request from a line: the method, the target and, for a form, the content. What follows a
question mark in the target is the query. -/
def Http.Request.ofLine? (line : String) : Option Http.Request :=
  match Text.Percent.splitOn ' ' (Text.trimEnd line.toList) with
  | method :: target :: content =>
      some {
        method := .ofList method
        path := .ofList (target.takeWhile (· != '?'))
        query := Text.Utf8.encodeChars ((target.dropWhile (· != '?')).drop 1)
        contentType := some "application/x-www-form-urlencoded"
        body := Text.Utf8.encodeChars (List.intercalate [' '] content) }
  | _ => none

def Http.Response.lines (response : Http.Response) : List String :=
  [Text.Decimal.text response.status, response.content]

def LogLine.text (line : LogLine) : String :=
  s!"{line.level.name} {line.message}"

def StartupError.lines (error : StartupError) : List String :=
  error.message :: error.cause.toList

def FolderEntry.ofDocuments (documents : List String) : List FolderEntry :=
  documents.zipIdx.map fun (document, index) =>
    ⟨.ofList (Text.Decimal.padded 8 index) ++ ".yaml", some (Text.Utf8.encode document)⟩

/-- Surroundings without files, a database or other programs. -/
def Surroundings.offline (environment : Environment.Variables) (documents : List String) :
    Surroundings where
  environment := environment
  variableFile := none
  folder _ := some (FolderEntry.ofDocuments documents)
  database _ := .unreachable
  canListen _ := true

namespace Server

/-- Does the jobs that wait, each of them once. -/
def settle (server : Server) (world : World) : World :=
  world.scheduled.foldl
    (fun world (job, _) => (world.perform (Service.runJob server.registry job)).2)
    { world with scheduled := [] }

/-- Answers a request and does the work that it leaves for later. -/
def handle (server : Server) (request : Http.Request) (world : World) : Http.Response × World :=
  let (response, world) := (server.respond request).run World.answer world
  (response, server.settle world)

end Server

end PhoneTree
