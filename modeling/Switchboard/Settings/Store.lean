import Switchboard.Settings.Check
import Switchboard.Settings.Environment
import Switchboard.Settings.Tree

/-!
# The settings in force

Settings are loaded in layers: the built-in settings, the file of defaults, the local file and the variables,
each laid over the ones before. Where no other layer touches a nested map of the built-in settings, the
settings in force and the built-in settings share it: writing into such a map changes the built-in settings
as well, and the change outlasts the next load. Every other write is gone with the next load.

What is written is either a value that nobody else holds (`Store.set`), or a part of the settings that goes on to
stand where it stood (`Store.share`). Only the latter puts one map in two places of the built-in settings.

A load that fails while reading or merging changes nothing. Settings that are refused by the check are in
force nevertheless.
-/

namespace Switchboard.Settings

/-- Refuses settings that break a rule, and settings that are no map and cannot be searched for sections. A
rule whose message cannot be written is not reported as such. -/
def validate (config : Graph) : Except Fault Unit := do
  let found ← (problems config).mapError .layer
  if let some obstacle := found.findSome? Problem.obstacle? then throw (.unwritable obstacle)
  if !found.isEmpty then throw (.refused (found.map Problem.message))

/-- A store of settings, read from the files of one folder. -/
structure Store where
  folder : String
  builtin : Branches := growBranches (.made 0) [] Settings.builtin
  current : Branches := []
  /-- What stands in several places of the settings in force. -/
  shelf : Shelf := []

/-- What a load reads. -/
structure Surroundings where
  files : Files := {}
  environment : Environment := []

namespace Store

/-- The settings in force. -/
def settings (store : Store) : Graph := { root := .map .alone store.current, shelf := store.shelf }

/-- The path of a file in the folder. -/
def filePath (store : Store) (name : String) : String :=
  if store.folder = "" || store.folder.endsWith "/" then Path.plain (store.folder ++ name)
  else Path.plain (store.folder ++ "/" ++ name)

/-- Layers that lie over one another. -/
structure Layers where
  branches : Branches := []
  shelf : Shelf := []

/-- The branches of a layer, which must be a map. -/
def layerBranches (layer : Graph) : Except Misuse Branches :=
  match layer.root.map? layer.shelf with
  | some (_, branches) => .ok branches
  | none => .error (.lacksOperation layer.kind "items")

/-- A layer over what lies below it. A layer that counts as false is passed over without a word. -/
def addLayer (moment : Nat) (name : String) (layer : Graph) (below : Layers) :
    Traced Fault Layers :=
  if layer.isTruthy then do
    let above ← Traced.lift ((layerBranches layer).mapError .layer)
    let shelf := layer.shelf ++ below.shelf
    match mergeBranches? shelf moment below.branches above with
    | none => Traced.fail .endless
    | some branches =>
      Traced.log .debug logger s!"Loaded configuration from {name}"
      return { branches, shelf }
  else .ok below

/-- The settings merged from all layers at a moment. -/
def assemble (store : Store) (moment : Nat) (surroundings : Surroundings) :
    Traced Fault Layers := do
  let layerOf (source : Nat) (name : String) : Traced Fault Graph :=
    readLayer surroundings.files ⟨moment, source⟩ (store.filePath name)
  Traced.log .info logger "Loading configuration from all sources"
  let base ← addLayer moment "defaults" { root := .map .alone store.builtin } {}
  let withDefaults ← addLayer moment "default_config" (← layerOf 0 "default.yaml") base
  let withLocal ← addLayer moment "local_config" (← layerOf 1 "config.yaml") withDefaults
  let environmentLayer ← readEnvironment surroundings.environment
  addLayer moment "environment" (Occasion.grow ⟨moment, 2⟩ (.map environmentLayer)) withLocal

/-- Loads the settings anew at a moment. -/
def load (store : Store) (moment : Nat) (surroundings : Surroundings) : Store × Traced Fault Unit :=
  let assembled := store.assemble moment surroundings
  match assembled.result with
  | .error fault => (store, ⟨.error fault, assembled.trace⟩)
  | .ok layers =>
    let loaded := { store with current := layers.branches, shelf := layers.shelf }
    match validate loaded.settings with
    | .ok () =>
      (loaded, ⟨.ok (), assembled.trace ++
        [.logged ⟨.info, logger, "Configuration loaded successfully"⟩]⟩)
    | .error fault => (loaded, ⟨.error fault, assembled.trace⟩)

/-- The store after a write into one of its maps. -/
def amend (store : Store) (edit : Edit) : Store :=
  { store with
    builtin := amendBranches edit store.builtin
    current := amendBranches edit store.current
    shelf := store.shelf.amend edit }

/-- Writes at a dotted key. Unless the write changes the settings at their top, it is a write into a map that
others may share. -/
def write (store : Store) (put : Planting) (dotted : String) : Store × Option Edit :=
  match writeAt store.shelf put (dottedPath dotted) store.current with
  | .top branches => ({ store with current := branches }, none)
  | .inner edit => (store.amend edit, some edit)

/-- Writes a value at a dotted key, at a moment. The value is nobody else's: its maps are made at this moment
and stand where they are written. -/
def set (store : Store) (moment : Nat) (dotted : String) (item : Value) : Store × Option Edit :=
  store.write (plant moment item) dotted

/-- Writes a tree at a dotted key that stands elsewhere as well, such as one of the settings in force: from
then on its maps stand in both places. It is taken not to hold the map that it is written into, and to name
nothing on the shelf. -/
def share (store : Store) (moment : Nat) (dotted : String) (tree : Tree) : Store × Option Edit :=
  store.write (hang moment tree) dotted

/-- The value at a dotted key, or a default. -/
def get (store : Store) (dotted : String) (default : Value) : Value :=
  store.settings.get dotted default

/-- How long the authority is waited for; a map is the one that is set. -/
def timeout (store : Store) : Graph :=
  (store.settings.at? (dottedPath timeoutKey)).getD (.ofValue defaultTimeout)

end Store

end Switchboard.Settings
