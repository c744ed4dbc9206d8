import Switchboard.Json.Reader
import Switchboard.Path
import Switchboard.Settings.Path
import Switchboard.Text.Case
import Switchboard.Text.Encoding
import Switchboard.Text.Quoted
import Switchboard.Trace
import Switchboard.Value.Literal
import Switchboard.Value.Relabelling
import Switchboard.Yaml.Assembly

/-!
# Settings files

A file is read in the format that the ending of its name asks for. A missing file says nothing, and neither
does a file of an unknown format, which is warned about; but a file is opened before its format is looked at.
-/

namespace Switchboard.Settings

/-- What stands under a name in the file system. -/
inductive Content where
  | bytes (content : List UInt8)
  /-- A file that writes exactly one value in the format of its name. -/
  | value (content : Value)
  | directory

/-- The files and folders by their places. -/
abbrev Files := Entries Path.Place Content

namespace Files

/-- Whether a folder or a file stands at a place, if anything does. -/
def isFolder? (files : Files) (place : Path.Place) : Option Bool :=
  if place.isAbove then some true
  else
    (Entries.get? place files).map fun
      | .directory => true
      | _ => false

/-- A folder stands at a place from then on, unless something does already. -/
def makeFolder (files : Files) (place : Path.Place) : Files :=
  if place.isAbove || Entries.has place files then files
  else Entries.put place .directory files

/-- Puts something where a path leads, and makes the folders that the path comes by. -/
def place (files : Files) (path : String) (content : Content) : Files :=
  let parts := Path.parts path
  Entries.put (Path.Place.ofParts parts) content
    ((Path.Place.along [] parts.dropLast).foldl makeFolder files)

/-- What is found at a path. Nothing is found at a path with a null character. -/
def look (files : Files) (path : String) : Path.Sight :=
  if path.contains '\x00' then .missing
  else if Path.pathLimit < path.utf8ByteSize then .nameTooLong
  else if Path.isRooted path then
    if (Path.parts path).head?.any (Path.nameLimit < ·.utf8ByteSize) then .nameTooLong else .missing
  else Path.follow files.isFolder? [] (Path.parts path)

end Files

/-- Why settings are not read or not taken. -/
inductive Fault where
  | isDirectory (path : String)
  | nameTooLong (path : String)
  | malformedFile (path : String)
  | undecodable
  /-- A list or map stands inside too many others; in JSON it is told which. -/
  | tooDeep (kind : Option Kind)
  /-- Two maps to be merged hold maps without end. -/
  | endless
  /-- A scalar is not made. -/
  | scalar (fault : Yaml.ScalarFault)
  | number (fault : Numeral.Fault)
  | layer (misuse : Misuse)
  | refused (messages : List String)
  /-- A message about settings is not made. -/
  | unwritable (obstacle : Unwritable)
deriving DecidableEq, Repr

/-- What is said of a layer that cannot be read. -/
def Fault.message : Fault → String
  | .isDirectory path =>
    s!"Error loading config file {path}: [Errno 21] Is a directory: " ++ Text.quoted path
  | .nameTooLong path => "[Errno 36] File name too long: " ++ Text.quoted path
  | .malformedFile path => s!"Error loading config file {path}"
  | .undecodable => ""
  | .tooDeep none => "maximum recursion depth exceeded"
  | .tooDeep (some kind) =>
    "maximum recursion depth exceeded while decoding a JSON " ++
      (if kind = .map then "object" else "array") ++ " from a unicode string"
  | .endless => "maximum recursion depth exceeded while calling a Python object"
  | .scalar fault => fault.message
  | .number fault => fault.message
  | .layer misuse => misuse.message
  | .refused messages =>
    "Configuration validation failed: " ++ String.intercalate "; " messages
  | .unwritable obstacle => obstacle.message

/-- The logger of everything that concerns settings. -/
def logger : String := "callroute.core.config"

/-- How a file is written. -/
inductive Format where
  | yaml | json
deriving DecidableEq, Repr

/-- The format that an ending in any letter case asks for. -/
def Format.ofPath? (path : String) : Option Format :=
  let ending := Text.lower (Path.suffix path)
  if ending = ".yaml" || ending = ".yml" then some .yaml
  else if ending = ".json" then some .json
  else none

/-- The fault of a file with a text that is not read. -/
def Fault.ofYaml (path : String) : Yaml.Fault → Fault
  | .malformed | .unclosed => .malformedFile path
  | .undecodable => .undecodable
  | .tooDeep => .tooDeep none
  | .scalar fault => .scalar fault

/-- From which source a layer is read, and when. -/
structure Occasion where
  moment : Nat
  source : Nat

namespace Occasion

/-- A graph that comes into being on an occasion. -/
def stamp (occasion : Occasion) (graph : Graph) : Graph :=
  graph.relabel { moment := fun _ => occasion.moment, source := fun _ => occasion.source }

/-- The graph of a value that comes into being on an occasion. -/
def grow (occasion : Occasion) (value : Value) : Graph :=
  occasion.stamp { root := Tree.grow (.made 0) [] value }

end Occasion

/-- The graph that bytes write in a format. JSON is decoded as a whole first. -/
def Format.read (format : Format) (occasion : Occasion) (path : String) (bytes : List UInt8) :
    Except Fault Graph :=
  match format with
  | .yaml =>
    ((Yaml.read (.ofBytes bytes)).map occasion.stamp).mapError (Fault.ofYaml path)
  | .json =>
    match (Text.decode? bytes).map Json.read with
    | none => .error .undecodable
    | some (.ok value) => .ok (occasion.grow value)
    | some (.error .malformed) => .error (.malformedFile path)
    | some (.error (.number fault)) => .error (.number fault)
    | some (.error (.tooDeep kind)) => .error (.tooDeep (some kind))

/-- In YAML everything that counts as false says nothing. -/
def Format.settle (format : Format) (graph : Graph) : Graph :=
  match format with
  | .yaml => if graph.isTruthy then graph else .ofValue (.map [])
  | .json => graph

/-- Reads what stands at a path. -/
def readContent (format : Format) (occasion : Occasion) (path : String) :
    Content → Except Fault Graph
  | .directory => .error (.isDirectory path)
  | .value value => .ok (format.settle (occasion.grow value))
  | .bytes bytes => (format.read occasion path bytes).map format.settle

/-- Reads the file at a path. -/
def readLayer (files : Files) (occasion : Occasion) (path : String) : Traced Fault Graph :=
  let plain := Path.plain path
  let nothing := Graph.ofValue (.map [])
  match files.look plain with
  | .missing | .blocked => .ok nothing
  | .nameTooLong => .fail (.nameTooLong plain)
  | .folder _ => .fail (.isDirectory plain)
  | .file place =>
    match Format.ofPath? plain with
    | some format =>
      .lift (((Entries.get? place files).map (readContent format occasion plain)).getD (.ok nothing))
    | none => do
      Traced.log .warning logger s!"Unsupported config file format: {plain}"
      return nothing

end Switchboard.Settings
