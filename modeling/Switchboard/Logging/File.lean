import Switchboard.Entries
import Switchboard.Logging.Line

/-!
# Log files

Lines are added at the end of a file. A file with a limit is put away before a line that would bring it to
the limit: the earlier files of the same path move up by one number, the last of them is dropped, the file
itself gets number one, and a new one is begun. A file of which none is kept just grows.
-/

namespace Switchboard.Logging

/-- What is written in a file, with marks for the times. -/
structure LogFile where
  text : String := ""
  unwritten : Nat := 0
deriving DecidableEq, Repr

/-- The size of a file in bytes, with its times. -/
def LogFile.size (file : LogFile) : Nat := file.text.utf8ByteSize + file.unwritten

/-- The log files by their paths. -/
abbrev LogFiles := Entries String LogFile

namespace LogFiles

/-- An opened file exists from then on. -/
def ensure (path : String) (files : LogFiles) : LogFiles :=
  if Entries.has path files then files else Entries.put path {} files

/-- The files in the working folder. -/
def inside (files : LogFiles) : LogFiles :=
  files.filter fun file => !(file.1.startsWith "../" || file.1.startsWith "/")

/-- Writes a line at the end of a file. -/
def append (path : String) (line : Line) (files : LogFiles) : LogFiles :=
  let file := (Entries.get? path files).getD {}
  Entries.put path ⟨file.text ++ line.text, file.unwritten + line.unwritten⟩ files

/-- Gives a file another path, in place of what is there. -/
def move (source target : String) (files : LogFiles) : LogFiles :=
  match Entries.get? source files with
  | none => files
  | some file => Entries.put target file (Entries.erase source files)

/-- The path of a file that was put away. -/
def putAway (path : String) (number : Nat) : String := s!"{path}.{number}"

/-- Moves the files that were put away up by one number, from the given number down. -/
def shift (path : String) : (number : Nat) → LogFiles → LogFiles
  | 0, files => files
  | number + 1, files =>
    shift path number (move (putAway path (number + 1)) (putAway path (number + 2)) files)

/-- Puts a file away and begins a new one, keeping as many as `backups` says. -/
def rotate (path : String) (backups : Nat) (files : LogFiles) : LogFiles :=
  match backups with
  | 0 => files
  | kept + 1 => Entries.put path {} (move path (putAway path 1) (shift path kept files))

/-- Whether a file has to be put away before a line. -/
def isFull (path : String) (limit : Int) (line : Line) (files : LogFiles) : Bool :=
  0 < limit && limit ≤ ((Entries.get? path files).getD {}).size + line.length

end LogFiles

/-- How many files a setting says to keep; what is not above zero keeps none. No answer for what is no whole
number. -/
def backupCount? : Value → Option Nat
  | .int number => some number.toNat
  | .bool answer => some (if answer then 1 else 0)
  | .float number => if number.isNonPositive || number.isNotANumber then some 0 else none
  | _ => none

/-- Writes a line to a file. Where the number of files to keep is none, a full file takes no more lines. -/
def LogFiles.write (path : String) (limit : Int) (backups : Value) (line : Line)
    (files : LogFiles) : LogFiles :=
  if isFull path limit line files then
    match backupCount? backups with
    | some kept => append path line (rotate path kept files)
    | none => files
  else append path line files

end Switchboard.Logging
