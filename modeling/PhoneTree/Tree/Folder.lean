import PhoneTree.Text.Utf8
import PhoneTree.Tree.Document

namespace PhoneTree

/-- A file of a folder, or a folder without bytes in it. -/
structure FolderEntry where
  name : String
  bytes : Option (List UInt8)
  deriving Inhabited

namespace FolderEntry

/-- What stands after the last dot of a name, unless the dot begins the name. -/
def suffixOf (name : List Char) : Option (List Char) :=
  let suffix := (name.reverse.takeWhile (· != '.')).reverse
  let stem := name.take (name.length - suffix.length - 1)
  if suffix.length < name.length && !stem.isEmpty then some suffix else none

/-- Whether an entry is a file that is named as a document. -/
def isDocument (entry : FolderEntry) : Bool :=
  entry.bytes.isSome
    && (suffixOf entry.name.toList).any fun suffix =>
      ["yaml", "yml", "json"].any fun known => known.toList == suffix

/-- The tree of a file, read by the suffix of its name. -/
def tree (entry : FolderEntry) : Except TreeError Tree := do
  let some source := entry.bytes.bind Text.Utf8.decode? | throw .unavailable
  let doc ←
    if suffixOf entry.name.toList == some "json".toList then TreeDoc.ofJson source
    else TreeDoc.ofYaml source
  doc.compile

end FolderEntry

/-- The trees of the documents in a folder, in the order of the names. -/
def treesOfFolder (entries : List FolderEntry) : Except TreeError (List Tree) :=
  let documents := entries.filter (·.isDocument)
  (documents.mergeSort fun a b => decide (a.name ≤ b.name)).mapM (·.tree)

end PhoneTree
