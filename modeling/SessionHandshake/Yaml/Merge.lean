import SessionHandshake.Fault.Basic
import SessionHandshake.Yaml.Node

namespace SessionHandshake

namespace Yaml

/-!
# Merge keys

A merge key brings the entries of another mapping, or of several, into its own
mapping, in front of the mapping's own entries, so that they count less.  Of
several mappings the first counts most.  Merging changes the nodes themselves:
the merge keys are gone afterwards, and a key that is a default sign is a text.

A mapping may be merged into itself.  Every step removes a merge key, so the
number of merge keys in a graph bounds the number of steps.
-/

/-- Changing a graph, which may turn out to be malformed. -/
abbrev Merging := StateT Graph (Except Fault)

namespace Graph

/-- The number of merge keys of a mapping. -/
def mergeKeysOf (graph : Graph) (node : Node) : Nat :=
  match node.content with
  | .mapping entries =>
      (entries.filter fun entry => graph.tagAt entry.1 = .merge).length
  | _ =>
      0

/-- The number of merge keys. -/
def mergeKeys (graph : Graph) : Nat :=
  graph.nodes.toList.foldl (fun count node => count + graph.mergeKeysOf node) 0

end Graph

namespace Merging

/-- The entries of the mapping at a place. -/
def entriesAt (place : Place) : Merging (List (Place × Place)) := do
  return (← get).entriesAt place

/-- The first merge key of a mapping is removed; what it names is left. -/
def takeMerge (place : Place) : Merging (Option Place) := do
  let graph ← get
  let entries := graph.entriesAt place
  let (own, others) := entries.span fun entry => graph.tagAt entry.1 ≠ .merge
  match others with
  | [] =>
      return none
  | (_, source) :: later =>
      set (graph.setContent place (.mapping (own ++ later)))
      return some source

/-- A node must be a mapping. -/
def checkMapping (graph : Graph) (place : Place) : Except Fault Unit :=
  if (graph.entriesAt? place).isSome then
    .ok ()
  else
    .error .badConfiguration

/-- The mappings that a merge key names, the one that counts most first. -/
def sourcesAt (place : Place) : Merging (List Place) := do
  let graph ← get
  match graph.contentAt place with
  | .mapping _ =>
      return [place]
  | .list items =>
      items.forM fun item => liftM (checkMapping graph item)
      return items
  | .scalar _ =>
      throw .badConfiguration

/-- A key that is a default sign is made a text. -/
def retag (graph : Graph) (entry : Place × Place) : Graph :=
  if graph.tagAt entry.1 = .value then
    graph.setTag entry.1 .text
  else
    graph

/-- A mapping without merge keys gets the entries that they have brought in. -/
def settle (place : Place) (merged : List (Place × Place)) : Merging Unit :=
  modify fun graph =>
    let entries := graph.entriesAt place
    let graph := entries.foldl retag graph
    if merged.isEmpty then
      graph
    else
      graph.setContent place (.mapping (merged ++ entries))

/-- The entries that the merge keys of a mapping bring in; the keys are removed. -/
def takeMerged : Nat → Place → Merging (List (Place × Place))
  | 0, _ =>
      return []
  | fuel + 1, place => do
      match ← takeMerge place with
      | none =>
          return []
      | some source =>
          let brought ← (← sourcesAt source).mapM fun source => do
            settle source (← takeMerged fuel source)
            entriesAt source
          let later ← takeMerged fuel place
          return brought.reverse.flatten ++ later

end Merging

/-- A graph in which the mapping at a place has no merge keys. -/
def Graph.merge (graph : Graph) (place : Place) : Except Fault Graph := do
  let merging : Merging Unit := do
    Merging.settle place (← Merging.takeMerged (graph.mergeKeys + 1) place)
  let (_, graph) ← merging.run graph
  return graph

end Yaml

end SessionHandshake
