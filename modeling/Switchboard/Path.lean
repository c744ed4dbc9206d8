import Switchboard.Text.Split

/-!
# Paths

A path is written with slashes. Parts that name nothing — empty ones and a single point — are left out, and
two points lead back to the folder above. A place is where a path leads from the working folder, as the names
from there; a place above the working folder begins with two points.

A path is followed part by part: it leads on from folders only, and a name that is too long is refused when it
is met.
-/

namespace Switchboard.Path

/-- The parts of a path that name something. -/
def parts (path : String) : List String :=
  ((Text.pieces '/' path.toList).map String.ofList).filter fun part => part ≠ "" && part ≠ "."

/-- A path without the parts that name nothing. Two leading slashes stay two; more are one. -/
def plain (path : String) : String :=
  let root :=
    match path.toList with
    | '/' :: '/' :: '/' :: _ => "/"
    | '/' :: '/' :: _ => "//"
    | '/' :: _ => "/"
    | _ => ""
  let joined := root ++ String.intercalate "/" (parts path)
  if joined = "" then "." else joined

/-- The ending of a name from its last point on, if something stands before and after that point. -/
def suffix (path : String) : String :=
  let name := ((parts path).getLast?.getD "").toList
  let ending := name.reverse.takeWhile (· ≠ '.')
  let stem := name.length - ending.length - 1
  if ending.isEmpty || stem = 0 then "" else String.ofList (name.drop stem)

/-- Where a path leads that does not start in the working folder. -/
def isRooted (path : String) : Bool := path.startsWith "/"

/-- Where a folder or file is, by the names on the way to it from the top. -/
abbrev Place := List String

namespace Place

/-- The name of the folder around. -/
def above : String := ".."

/-- One part further. -/
def step (place : Place) (part : String) : Place :=
  if part ≠ above then place ++ [part]
  else if place.all (· = above) then place ++ [above]
  else place.dropLast

/-- The places that a path comes by, the last one being where it leads. -/
def along (place : Place) : List String → List Place
  | [] => []
  | part :: rest => place.step part :: along (place.step part) rest

/-- Where the parts of a path lead from the working folder. -/
def ofParts (parts : List String) : Place := parts.foldl step []

/-- Whether a place is the working folder, above it, or above all folders. -/
def isAbove (place : Place) : Bool := place.all (· = above) || place = ["/"]

/-- A place as it is written. -/
def path (place : Place) : String := String.intercalate "/" place

end Place

/-- The longest name in bytes. -/
def nameLimit : Nat := 255

/-- The longest path in bytes. -/
def pathLimit : Nat := 4095

/-- What is found when a path is followed. -/
inductive Sight where
  | folder (place : Place)
  | file (place : Place)
  /-- A name on the way stands for nothing. -/
  | missing
  /-- A name in front of the last one stands for a file. -/
  | blocked
  | nameTooLong
deriving DecidableEq, Repr

/-- Follows parts from a place; `isFolder?` tells folders from files, and has no answer where nothing is. -/
def follow (isFolder? : Place → Option Bool) (place : Place) : List String → Sight
  | [] =>
    match isFolder? place with
    | some true => .folder place
    | some false => .file place
    | none => .missing
  | part :: rest =>
    match isFolder? place with
    | some true =>
      if nameLimit < part.utf8ByteSize then .nameTooLong
      else follow isFolder? (place.step part) rest
    | some false => .blocked
    | none => .missing

end Switchboard.Path
