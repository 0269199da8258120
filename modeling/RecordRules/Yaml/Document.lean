import RecordRules.Value.Mapping
import RecordRules.Yaml.Node
import RecordRules.Yaml.Scalar

/-!
# Documents of YAML

The value that a document denotes. Keys of a mapping must be values that can be keys; of two
equal keys the later one gives the value. The key `<<` brings in the entries of other mappings,
which the mapping's own entries override.
-/

namespace RecordRules.Yaml

namespace Node

/-- Whether a node is a plain scalar with some text. -/
def isPlain (text : String) : Node → Bool
  | .scalar s true => s == text
  | _ => false

mutual

/-- The pairs that the value of a merging key brings in, of several mappings the first one last.
    The first argument bounds the depth. -/
def mergedPairs : Nat → Node → Option (List (Node × Node))
  | 0, _ => none
  | depth + 1, .mapping pairs => pairsInForce depth pairs
  | depth + 1, .sequence items => do
    let lists ← items.mapM fun
      | Node.mapping pairs => pairsInForce depth pairs
      | _ => none
    return lists.reverse.flatten
  | _ + 1, .scalar _ _ => none

/-- The pairs of a mapping: those that merging keys bring in, and then its own. -/
def pairsInForce : Nat → List (Node × Node) → Option (List (Node × Node))
  | 0, _ => none
  | depth + 1, pairs => do
    let merging := pairs.filter fun (key, _) => key.isPlain "<<"
    let merged ← merging.mapM fun (_, value) => mergedPairs depth value
    return merged.flatten ++ pairs.filter fun (key, _) => !key.isPlain "<<"

end

/-- The value of a scalar, and nothing for a collection. -/
def scalar? : Node → Except Fault (Option Value)
  | .scalar text true => (resolve text).map some
  | .scalar text false => .ok (some (.text text))
  | _ => .ok none

/-- A node in a list if it is a collection, once its value is known to exist if it is a scalar. -/
def collected (node : Node) : Except Fault (List Node) := do
  return if (← node.scalar?).isSome then [] else [node]

/-- The key that a node denotes. -/
def keyOf (key : Node) : Except Fault Value := do
  if key.isPlain "=" then return .text "="
  match ← key.scalar? with
  | some k => return k
  | none => throw .document

/-- The collections among the parts of a collection, whose scalars and keys must denote values. -/
def inner (depth : Nat) : Node → Except Fault (List Node)
  | .scalar _ _ => .ok []
  | .sequence items => do return (← items.mapM collected).flatten
  | .mapping pairs => do
    let some pairs := pairsInForce depth pairs | throw .document
    let parts ← pairs.mapM fun (key, value) => do
      let _ ← keyOf key
      collected value
    return parts.flatten

/-- Checks collections and all within them, those that lie deeper later. The first argument bounds
    the depth. -/
def check (depth : Nat) : Nat → List Node → Except Fault Unit
  | 0, _ => .error .document
  | _ + 1, [] => .ok ()
  | levels + 1, nodes => do check depth levels (← nodes.mapM (inner depth)).flatten

end Node

mutual

/-- The value that a node denotes. The first argument bounds the depth. -/
def valueOf : Nat → Node → Except Fault Value
  | 0, _ => .error .document
  | _ + 1, .scalar text plain => if plain then resolve text else .ok (.text text)
  | depth + 1, .sequence items => do return .list (← valuesOf depth items)
  | depth + 1, .mapping pairs => do
    let some pairs := Node.pairsInForce depth pairs | throw .document
    return .dict (← entriesOf depth [] pairs)

/-- The value of each of several nodes. -/
def valuesOf : Nat → List Node → Except Fault (List Value)
  | 0, _ => .error .document
  | _ + 1, [] => .ok []
  | depth + 1, node :: rest => do
    let v ← valueOf depth node
    return v :: (← valuesOf depth rest)

/-- The entries that pairs of nodes denote, after some others. -/
def entriesOf : Nat → Entries → List (Node × Node) → Except Fault Entries
  | 0, _, _ => .error .document
  | _ + 1, entries, [] => .ok entries
  | depth + 1, entries, (key, value) :: rest => do
    let k ← key.keyOf
    let v ← valueOf depth value
    entriesOf depth (entries.put k v) rest

end

/-- The value that a text denotes; nothing for a text without a document. Of several faults in it
    the one counts that lies in the fewest collections, and of those the first. -/
def read (s : String) : Except Fault Value := do
  let ts ← tokens s
  match ← Node.single? ts with
  | none => return .null
  | some node =>
    let depth := 2 * ts.length + 2
    Node.check depth depth (← node.collected)
    valueOf depth node

end RecordRules.Yaml
