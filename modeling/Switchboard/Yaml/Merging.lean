import Switchboard.Yaml.Node

/-!
# Mappings merged into mappings

A key of a mapping may ask that another mapping, or each mapping of a sequence, be merged into it. What is
merged comes before the pairs of the mapping itself, so that those win; of a sequence the earlier mappings
win, so they come last. Each such key is gone once it is followed, in whatever places its mapping stands.
-/

namespace Switchboard.Yaml.Document

/-- The node with a number. -/
def nodeAt (nodes : Array Node) (number : Nat) : Node := nodes.getD number default

/-- The pairs of a mapping. -/
def pairsOf (nodes : Array Node) (number : Nat) : List (Nat × Nat) :=
  match (nodeAt nodes number).content with
  | .mapping pairs => pairs
  | _ => []

/-- The nodes with other pairs in a mapping. -/
def withPairs (nodes : Array Node) (number : Nat) (pairs : List (Nat × Nat)) : Array Node :=
  nodes.modify number fun node => { node with content := .mapping pairs }

/-- Whether the key of a pair asks for its mapping to be merged. -/
def asksToMerge (nodes : Array Node) (pair : Nat × Nat) : Bool :=
  (nodeAt nodes pair.1).tag = .merge

/-- A key that would stand in for its mapping is a text once the mapping is made. -/
def withPlainKeys (nodes : Array Node) (pairs : List (Nat × Nat)) : Array Node :=
  pairs.foldl (fun known pair =>
    known.modify pair.1 fun node => if node.tag = .standIn then { node with tag := .text } else node)
    nodes

/-- Merges into each of some mappings what it asks for, and answers with their pairs, those of the last one
first. -/
def mergeEach (mergeInto : Nat → Array Node → Except Fault (Array Node)) :
    List Nat → Array Node → Except Fault (Array Node × List (Nat × Nat))
  | [], nodes => .ok (nodes, [])
  | number :: rest, nodes =>
    match (nodeAt nodes number).content with
    | .mapping _ => do
      let known ← mergeInto number nodes
      let own := pairsOf known number
      let (last, others) ← mergeEach mergeInto rest known
      return (last, others ++ own)
    | _ => .error .malformed

/-- Merges into a mapping what it asks for, from the pair at an index on; `merged` was merged before. Every key
that is followed takes one from the fuel. -/
def mergeFrom : (fuel : Nat) → (number index : Nat) → (merged : List (Nat × Nat)) → Array Node →
    Except Fault (Array Node)
  | 0, _, _, _, nodes => .ok nodes
  | fuel + 1, number, index, merged, nodes => do
    let pairs := pairsOf nodes number
    let passed := (pairs.drop index).takeWhile (!asksToMerge nodes ·)
    let next := index + passed.length
    let plain := withPlainKeys nodes passed
    match pairs.drop next with
    | [] => return withPairs plain number (merged ++ pairs)
    | (_, source) :: rest =>
      let left := withPairs plain number (pairs.take next ++ rest)
      let mergeInto (other : Nat) (known : Array Node) : Except Fault (Array Node) :=
        mergeFrom fuel other 0 [] known
      let (known, added) ←
        match (nodeAt left source).content with
        | .mapping _ => mergeEach mergeInto [source] left
        | .sequence items => mergeEach mergeInto items left
        | .scalar _ => throw .malformed
      mergeFrom fuel number next (merged ++ added) known

/-- How many keys ask for something to be merged. A key that is followed is gone, and what is merged has none, so
there are never more of them later. -/
def mergeCount (nodes : Array Node) : Nat :=
  nodes.foldl (fun count node =>
    match node.content with
    | .mapping pairs => count + pairs.countP (asksToMerge nodes)
    | _ => count) 0

/-- Merges into a mapping what it asks for, in a document where at most `count` keys do. -/
def mergeInto (count number : Nat) (nodes : Array Node) : Except Fault (Array Node) :=
  mergeFrom (count + 2) number 0 [] nodes

end Switchboard.Yaml.Document
