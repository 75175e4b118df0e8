import PhoneTree.Action

namespace PhoneTree

/-- A folder: its entries by name, files with their bytes and folders without. -/
structure AudioFolder where
  path : String := ""
  blocked : Bool := false
  entries : List (String × Option (List UInt8)) := []
  deriving DecidableEq, Inhabited

namespace AudioFolder

/-- The suffix of a file by the type of its audio, `wav` where the type says nothing. -/
def suffixOf (contentType : Option String) : String :=
  match contentType.map fun type => Text.trim (.ofList (type.toList.takeWhile (· != ';'))) with
  | some "audio/mpeg" | some "audio/mp3" => "mp3"
  | _ => "wav"

/-- The name of the file with the audio of a recording. -/
def fileName (recording : RecordingId) (suffix : String) : String :=
  s!"{recording.uuid.text}.{suffix}"

def isFolder (folder : AudioFolder) (name : String) : Bool :=
  folder.entries.contains (name, none)

/-- Puts an entry into the folder, in the place of one with its name. -/
def put (folder : AudioFolder) (name : String) (entry : Option (List UInt8)) : AudioFolder :=
  { folder with entries := (name, entry) :: folder.entries.filter fun other => other.1 != name }

def remove (folder : AudioFolder) (name : String) : AudioFolder :=
  { folder with entries := folder.entries.filter fun other => other.1 != name }

def makeFolder (folder : AudioFolder) (name : String) : AudioFolder :=
  if folder.blocked then folder else folder.put name none

/-- Keeps audio; where it is kept, or why it is not. The file is written under another name first,
so that it is whole as soon as it has its own. -/
def store (folder : AudioFolder) (recording : RecordingId) (media : Media) :
    Except StorageError String × AudioFolder :=
  let part := fileName recording "part"
  let name := fileName recording (suffixOf media.contentType)
  if folder.blocked then (.error ⟨"Not a directory (os error 20)"⟩, folder)
  else if folder.isFolder part then (.error ⟨"Is a directory (os error 21)"⟩, folder)
  else
    let written := folder.put part (some media.bytes)
    if folder.isFolder name then (.error ⟨"Is a directory (os error 21)"⟩, written)
    else (.ok s!"{folder.path}/{name}", (written.remove part).put name (some media.bytes))

/-- Whether the audio of a recording is there, of whichever type. -/
def isKept (folder : AudioFolder) (recording : RecordingId) : Except StorageError Bool :=
  if folder.blocked then .error ⟨"Not a directory (os error 20)"⟩
  else .ok (["wav", "mp3"].any fun suffix =>
    folder.entries.any fun entry => entry.1 == fileName recording suffix)

/-- The entries in the order of their names. -/
def sortedEntries (folder : AudioFolder) : List (String × Option (List UInt8)) :=
  folder.entries.mergeSort fun a b => decide (a.1 ≤ b.1)

end AudioFolder

end PhoneTree
