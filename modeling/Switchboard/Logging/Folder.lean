import Switchboard.Logging.File
import Switchboard.Path
import Switchboard.Text.Quoted

/-!
# Folders of log files

The folder of a log file is made before the file is opened, with all the folders above it that are missing.
What was made stays even if the rest cannot be.
-/

namespace Switchboard.Logging

/-- What there is besides the contents of log files: the folders that were made for them. -/
abbrev Folders := List Path.Place

/-- Why a folder or a file is not there to be used. -/
inductive PathFault where
  /-- The folder of a file is a file. -/
  | folderIsFile (path : String)
  /-- Above the folder of a file is a file. -/
  | notAFolder (path : String)
  /-- The file is a folder. -/
  | fileIsFolder (path : String)
  | nameTooLong (path : String)
  /-- There is a null character in the path. -/
  | nullCharacter
  /-- Too many folders above one another are missing. -/
  | tooManyMissing
deriving DecidableEq, Repr

/-- What is said of a log file that cannot be opened. -/
def PathFault.message : PathFault → String
  | .folderIsFile path => "[Errno 17] File exists: " ++ Text.quoted path
  | .notAFolder path => "[Errno 20] Not a directory: " ++ Text.quoted path
  | .fileIsFolder path => "[Errno 21] Is a directory: " ++ Text.quoted path
  | .nameTooLong path => "[Errno 36] File name too long: " ++ Text.quoted path
  | .nullCharacter => "embedded null byte"
  | .tooManyMissing => "maximum recursion depth exceeded while calling a Python object"

namespace Folders

/-- Whether a folder or a file stands at a place, if anything does. -/
def isFolder? (folders : Folders) (files : LogFiles) (place : Path.Place) : Option Bool :=
  if place.isAbove || folders.contains place then some true
  else if Entries.has place.path files then some false
  else none

/-- Makes one folder where there is nothing, at the end of parts that are given backwards. A missing folder
above it is no fault and no answer. -/
def makeOne (folders : Folders) (files : LogFiles) (path : String) :
    List String → Option (Except PathFault Folders)
  | [] => some (.error (.folderIsFile path))
  | last :: before =>
    if Path.pathLimit < path.utf8ByteSize then some (.error (.nameTooLong path)) else
    match Path.follow (folders.isFolder? files) [] before.reverse with
    | .missing => none
    | .blocked | .file _ => some (.error (.notAFolder path))
    | .nameTooLong => some (.error (.nameTooLong path))
    | .folder above =>
      if Path.nameLimit < last.utf8ByteSize then some (.error (.nameTooLong path))
      else if (folders.isFolder? files (above.step last)).isSome then
        some (.error (.folderIsFile path))
      else some (.ok (folders ++ [above.step last]))

/-- A refusal counts for nothing where a folder stands already. -/
def settle (folders : Folders) (files : LogFiles) (path : String) (backwards : List String)
    (outcome : Option (Except PathFault Folders)) : Folders × Except PathFault Unit :=
  match outcome with
  | some (.ok made) => (made, .ok ())
  | some (.error fault) =>
    match Path.follow (folders.isFolder? files) [] backwards.reverse with
    | .folder _ => (folders, .ok ())
    | .nameTooLong => (folders, .error (.nameTooLong path))
    | _ => (folders, .error fault)
  | none => (folders, .error (.notAFolder path))

/-- How many folders above one another may be missing. -/
def missingLimit : Nat := 984

/-- Makes the folder at the end of parts that are given backwards, and those above it, if there is room for as
many missing ones. -/
def make (folders : Folders) (files : LogFiles) :
    (room : Nat) → List String → Folders × Except PathFault Unit
  | _, [] => (folders, .ok ())
  | 0, _ => (folders, .error .tooManyMissing)
  | room + 1, last :: before =>
    let backwards := last :: before
    let path := String.intercalate "/" backwards.reverse
    match makeOne folders files path backwards with
    | none =>
      match make folders files room before with
      | (made, .ok ()) => settle made files path backwards (makeOne made files path backwards)
      | failed => failed
    | outcome => settle folders files path backwards outcome

end Folders

end Switchboard.Logging
