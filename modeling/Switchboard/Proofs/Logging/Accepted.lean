import Switchboard.Proofs.Logging.SettingUp
import Switchboard.Proofs.Settings.Acceptance

/-!
# Logging under accepted settings

The check of settings sees to the level of the package. It looks at nothing else that a setup of
logging asks for, and a section that is no map passes it too. So the settings that a load accepts
set up logging exactly where their section about logging is a map that suits (`setUp_of_load_iff`).
-/

namespace Switchboard

namespace Tree

variable {shelf : Shelf} (collections : ∀ entry ∈ shelf, entry.2.isCollection = true)
  {fuel : Nat} {around : List Origin} {tree : Tree}
include collections

/-- A tree whose value is a map is one, and its entries are the values of its branches. -/
theorem exists_map?_of_valueWith {fields : List (Scalar × Value)}
    (isMap : tree.valueWith (shelf.value fuel around) = .map fields) :
    ∃ owner below deeper within, tree.map? shelf = some (owner, below) ∧
      branchesWith (shelf.value deeper within) below = fields := by
  cases tree with
  | map owner below => exact ⟨owner, below, fuel, around, rfl, by simpa [valueWith] using isMap⟩
  | shelved origin =>
    have isCollection := Shelf.take_isCollection collections origin
    cases fuel with
    | zero => simp [valueWith, Shelf.value] at isMap
    | succ fuel =>
      rw [valueWith, Shelf.value] at isMap
      split at isMap
      next => contradiction
      next =>
        -- On a shelf stand collections, so what is named is no name again.
        cases opened : shelf.take origin with
        | map owner below =>
          rw [opened, valueWith] at isMap
          exact ⟨owner, below, fuel, origin :: around, by simp [map?, Tree.opened, opened],
            Value.map.inj isMap⟩
        | _ => simp [opened, valueWith, Tree.isCollection] at isMap isCollection
  | _ => simp [valueWith] at isMap

/-- A tree whose value is a scalar is that scalar. -/
theorem eq_scalar_of_valueWith {content : Scalar}
    (isScalar : tree.valueWith (shelf.value fuel around) = .scalar content) :
    tree = .scalar content := by
  cases tree with
  | scalar other => simpa [valueWith] using isScalar
  | shelved origin =>
    have isCollection := Shelf.value_isCollection collections fuel around origin
    rw [valueWith] at isScalar
    rw [isScalar] at isCollection
    cases content <;> contradiction
  | _ => simp [valueWith] at isScalar

end Tree

namespace Logging.Setup

open Settings

/-- The name of a level is a text. -/
theorem exists_text_of_isLevelName {value : Value} (isName : isLevelName value = true) :
    ∃ written, value = .text written := by
  unfold isLevelName at isName
  split at isName
  next written => exact ⟨written, rfl⟩
  next => contradiction

/-- The levels that the check lets pass are levels. -/
theorem namesLevel_of_isLevelName {value : Value} (isName : isLevelName value = true) :
    NamesLevel value := by
  have listed : ∀ name ∈ levelNames, name ∈ Level.names.map Prod.fst := by decide
  obtain ⟨written, rfl⟩ := exists_text_of_isLevelName isName
  exact namesLevel_iff.mpr ⟨written, rfl, listed _ (by simpa [isLevelName] using isName)⟩

/-- The section of settings that keep the rules names a level. -/
theorem namesLevel_of_sound {config : Graph} (sound : Sound config)
    (collections : ∀ entry ∈ config.shelf, entry.2.isCollection = true)
    {fields : List (Scalar × Value)} (known : sectionOf? config.value = some fields) :
    NamesLevel (entry "level" (.text "INFO") fields) := by
  have usual : NamesLevel (.text "INFO") := namesLevel_of_isLevelName (by decide +kernel)
  obtain ⟨entries, isMap, isSection⟩ := sectionOf?_eq_some_iff.mp known
  obtain ⟨_, branches, _, _, opened, rfl⟩ := Tree.exists_map?_of_valueWith collections isMap
  rw [entry, get?_branchesWith] at isSection
  cases logging : Entries.get? (.text "logging") branches with
  | none =>
    obtain rfl : [] = fields := by simpa [logging] using isSection
    exact usual
  | some tree =>
    rw [logging, Option.map_some, Option.getD_some] at isSection
    obtain ⟨_, below, _, _, openedBelow, rfl⟩ :=
      Tree.exists_map?_of_valueWith collections isSection
    rw [entry, get?_branchesWith]
    cases level : Entries.get? (.text "level") below with
    | none => exact usual
    | some leaf =>
      -- The check finds the same level at its key.
      have path : dottedPath logLevelKey = [.text "logging", .text "level"] := by rfl
      have found : config.get logLevelKey (.text "INFO") = leaf.value config.shelf := by
        simp [Graph.get, Graph.at?, path, Tree.at?, opened, logging, openedBelow, level, Graph.value]
      have isName := sound.level
      rw [found] at isName
      obtain ⟨written, isText⟩ := exists_text_of_isLevelName isName
      obtain rfl := Tree.eq_scalar_of_valueWith collections isText
      simpa [isText, Tree.valueWith] using namesLevel_of_isLevelName isName

end Logging.Setup

open Logging Setup

variable {store : Settings.Store} {moment : Nat} {surroundings : Settings.Surroundings}
  {journal : Journal}

/-- Settings that a load accepts set up logging exactly where their section about logging is a map
that suits, as long as the files and folders permit the log file, which must have a name without halves of
pairs. -/
theorem Settings.Store.setUp_of_load_iff
    (accepted : (store.load moment surroundings).2.result = .ok ())
    (permits : ∀ fields, sectionOf? (store.load moment surroundings).1.settings.value = some fields →
      Permits journal (entry "file" .null fields)) :
    (journal.setUp (store.load moment surroundings).1.settings.value).2 = .ok () ↔
      ∃ fields, sectionOf? (store.load moment surroundings).1.settings.value = some fields ∧
        Suits fields := by
  obtain ⟨layers, assembled, checked⟩ := load_eq_ok_iff.mp accepted
  rw [Journal.setUp_eq_ok_iff permits]
  refine exists_congr fun fields => and_congr_right fun known => and_iff_right ?_
  rw [settings_load_of_ok assembled] at known
  exact namesLevel_of_sound (validate_eq_ok_iff.mp checked) (assemble_collections assembled) known

/-! Sections of a local file over the built-in settings. -/

namespace Settings.Store.Local

/-- A fresh store. -/
def fresh : Settings.Store := { folder := "config" }

/-- A local file with a section about logging. -/
def around (logging : Value) : Settings.Surroundings where
  files := Files.place [] "config/config.yaml" (.value (.record [("logging", logging)]))

/-- A local file with a section about logging. -/
def localFile (logging : Value) : Graph :=
  Occasion.grow ⟨1, 1⟩ (.record [("logging", logging)])

/-- What is read of the file. -/
theorem reads (logging : Value) :
    fresh.Reads 1 (around logging) (.ofValue (.map [])) (localFile logging) [] where
  ofDefaults := readLayer_of_missing ((look_default rfl _).trans (by rfl))
  ofLocal := by
    rw [readLayer_local rfl rfl rfl]
    rfl
  ofVariables := by rfl

/-- A section that asks for a file, a level of the console and one of a service. -/
def asking : Value := .record
  [ ("file", .text "logs/calls.log"), ("max_size", .text "2mb"), ("console_level", .text "warning"),
    ("services", .record [("call_manager", .text "debug")]) ]

/-- The section over the built-in one. -/
def asked : Section :=
  [ (.text "level", .text "INFO"), (.text "file", .text "logs/calls.log"),
    (.text "max_size", .text "2mb"), (.text "backup_count", .int 5), (.text "console", .bool true),
    (.text "services", .record [("call_manager", .text "debug")]),
    (.text "console_level", .text "warning") ]

/-- What is asked for suits a setup. -/
theorem asked_suits : Suits asked where
  console := by
    intro found known
    obtain rfl : .text "warning" = found := Option.some.inj known
    exact ⟨⟨_, rfl⟩, fun _ => namesLevel_iff.mpr ⟨_, rfl, by decide +kernel⟩⟩
  file := fun _ => ⟨rfl, 2097152, by rfl⟩
  services := by
    refine ⟨_, rfl, fun service member => ?_⟩
    obtain rfl := List.mem_singleton.mp member
    exact ⟨rfl, namesLevel_iff.mpr ⟨_, rfl, by decide +kernel⟩⟩

/-- The section is accepted, and in force as it was asked for. -/
theorem load_asking : (fresh.load 1 (around asking)).2.result = .ok () ∧
    sectionOf? (fresh.load 1 (around asking)).1.settings.value = some asked := by
  have assembled : (fresh.assemble 1 (around asking)).result = .ok _ :=
    assemble_eq_ok_iff.mpr ⟨_, _, _, _, _, _, rfl, reads asking, rfl, rfl, rfl⟩
  rw [settings_load_of_ok assembled]
  exact ⟨load_eq_ok_iff.mpr ⟨_, assembled, by rfl⟩, by rfl⟩

/-- The folder is made, and there is nothing in it that is in the way of the file. -/
theorem permits_asked : Permits {} (entry "file" .null asked) := by
  have parts : partsOf "logs/calls.log" = ["logs", "calls.log"] := by decide +kernel
  have make : Folders.make [] [] Folders.missingLimit ["logs"] = ([["logs"]], .ok ()) := by rfl
  have made : folderStep ["logs", "calls.log"] {} = ({ folders := [["logs"]] }, .ok ()) := by
    simp [folderStep, String.contains_char_eq, make]
  have place : Path.Place.ofParts ["logs", "calls.log"] = ["logs", "calls.log"] := by
    decide +kernel
  have nothing : Folders.isFolder? [["logs"]] [] ["logs", "calls.log"] = none := by decide +kernel
  have short : ["logs", "calls.log"].any (Path.nameLimit < ·.utf8ByteSize) = false := by
    decide +kernel
  refine fun _ _ => ⟨"logs/calls.log", rfl, ?_, ?_⟩
  · rw [parts, made]
  · simp [parts, made, openFault?, place, String.contains_char_eq, nothing, short]

/-- A setup by the accepted section succeeds. -/
theorem setUp_of_load_asking :
    (fresh.load 1 (around asking)).2.result = .ok () ∧ Permits {} (entry "file" .null asked) ∧
      (({} : Journal).setUp (fresh.load 1 (around asking)).1.settings.value).2 = .ok () := by
  obtain ⟨accepted, known⟩ := load_asking
  have permits : ∀ fields,
      sectionOf? (fresh.load 1 (around asking)).1.settings.value = some fields →
        Permits {} (entry "file" .null fields) := by
    intro fields also
    obtain rfl : asked = fields := Option.some.inj (known.symm.trans also)
    exact permits_asked
  exact ⟨accepted, permits_asked,
    (setUp_of_load_iff accepted permits).mpr ⟨asked, known, asked_suits⟩⟩

/-- A section that is null is accepted, and logging is not set up from it. -/
theorem setUp_of_load_null :
    (fresh.load 1 (around .null)).2.result = .ok () ∧
      (({} : Journal).setUp (fresh.load 1 (around .null)).1.settings.value).2 =
        .error (.misuse (.lacksOperation .null "get")) := by
  have assembled : (fresh.assemble 1 (around .null)).result = .ok _ :=
    assemble_eq_ok_iff.mpr ⟨_, _, _, _, _, _, rfl, reads .null, rfl, rfl, rfl⟩
  rw [settings_load_of_ok assembled]
  exact ⟨load_eq_ok_iff.mpr ⟨_, assembled, by rfl⟩, by rfl⟩

end Settings.Store.Local

end Switchboard
