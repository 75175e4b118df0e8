import PhoneTree.Json.Value
import PhoneTree.Server.Startup
import PhoneTree.Text.Outline

namespace PhoneTree.Report

def logLine (format : String) (line : LogLine) : Json :=
  let trees := line.trees.map fun names => (Text.Outline.list (names.map .ofText)).text
  .list
    [.text format, .text line.level.name, .text line.message, .ofOption .text trees]

def startup (show_ : String → String) (result : Except StartupError Server)
    (progress : StartupProgress) : Json :=
  let failed : Option StartupError := match result with
    | .ok _ => none
    | .error error => some error
  .object
    [("exit", .ofNat (if failed.isSome then 1 else 0)),
      ("error", .ofOption (fun error => .text (show_ error.message)) failed),
      ("cause", .ofOption (fun cause => .text (show_ cause)) (failed.bind (·.cause))),
      ("listening", .bool failed.isNone), ("migrated", .bool progress.migrated),
      ("log", .list (progress.lines.map (logLine (if progress.jsonLog then "json" else "text"))))]

end PhoneTree.Report
