import Switchboard.Entries
import Switchboard.Value.Key

/-!
# Merging layers

A layer laid over another one adds and replaces entries; where both hold a map under one key, the two maps
are merged in turn. Keys keep the place that the lower layer gave them, and new keys follow in the order of
the upper layer.
-/

namespace Switchboard.Settings

mutual

/-- The upper value over the lower one: maps are merged, anything else is replaced. -/
def merge : Value → Value → Value
  | .map lower, .map upper =>
    .map (mergeEntries lower upper ++ upper.filter fun entry => !Entries.has entry.1 lower)
  | _, upper => upper
termination_by structural lower => lower

/-- The entries of the lower map, each merged with what the upper map holds under its key. -/
def mergeEntries : List (Scalar × Value) → List (Scalar × Value) → List (Scalar × Value)
  | [], _ => []
  | (key, item) :: rest, upper =>
    (key, match Entries.get? key upper with
          | none => item
          | some above => merge item above) :: mergeEntries rest upper
termination_by structural lower => lower

end

/-- Lays one value over another where neither need be a map. A list takes an empty layer only. -/
def overlay (lower upper : Value) : Except Misuse Value :=
  match lower, upper with
  | .map entries, .map others => .ok (merge (.map entries) (.map others))
  | .list items, .map [] => .ok (.list items)
  | .list _, .map ((key, _) :: _) => .error (.notAnIndex key.kind)
  | .map _, other | .list _, other => .error (.lacksOperation other.kind "items")
  | other, _ => .error (.lacksOperation other.kind "copy")

end Switchboard.Settings
