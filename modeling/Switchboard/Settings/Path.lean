import Switchboard.Entries
import Switchboard.Text.Split
import Switchboard.Value.Tree

/-!
# Paths into settings

A path is a list of keys, followed through nested maps. A dotted key is a path of texts with a point between
them; a point at either end or two in a row make an empty text, which is a key like any other.

Reading stops where a key is missing or the value met is not a map. Writing makes the maps it needs and
replaces what stands in their place.
-/

namespace Switchboard

/-- A map of settings, at the top or nested. -/
abbrev Section := List (Scalar × Value)

/-- The value at the end of a path. -/
def Value.at? : Value → List Scalar → Option Value
  | value, [] => some value
  | .map entries, key :: rest =>
    match Entries.get? key entries with
    | some item => item.at? rest
    | none => none
  | _, _ :: _ => none

namespace Section

/-- The value at a path, if it leads to one. -/
def at? (settings : Section) (path : List Scalar) : Option Value :=
  (Value.map settings).at? path

/-- The map under a key, empty when there is none. -/
def below (key : Scalar) (settings : Section) : Section :=
  match Entries.get? key settings with
  | some (.map entries) => entries
  | _ => []

/-- Writes a value at a path. The empty path leads nowhere and leaves the settings alone. -/
def write : List Scalar → Value → Section → Section
  | [], _, settings => settings
  | [key], item, settings => Entries.put key item settings
  | key :: next :: rest, item, settings =>
    Entries.put key (.map (write (next :: rest) item (below key settings))) settings

end Section

/-- The path that a dotted key stands for. -/
def dottedPath (dotted : String) : List Scalar :=
  (Text.pieces '.' dotted.toList).map fun key => .text (String.ofList key)

namespace Section

/-- The value at a dotted key, or a default where there is none. A null that is present is the answer. -/
def get (settings : Section) (dotted : String) (default : Value) : Value :=
  (settings.at? (dottedPath dotted)).getD default

/-- Writes a value at a dotted key. -/
def set (settings : Section) (dotted : String) (item : Value) : Section :=
  settings.write (dottedPath dotted) item

end Section

/-- The value at a dotted key, or a default where there is none. -/
def Graph.get (graph : Graph) (dotted : String) (default : Value) : Value :=
  ((graph.at? (dottedPath dotted)).map Graph.value).getD default

end Switchboard
