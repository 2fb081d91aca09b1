import Issuance.Encoding.Base64
import Issuance.Yaml.Datum
import Issuance.Yaml.Node
import Issuance.Yaml.Scalar

/-! Reading a YAML text as data. Only data of the known kinds is taken. -/

namespace Issuance.Yaml

namespace Node

mutual

/-- The text of a scalar, or of what stands in for a mapping. -/
def scalarText : Node → Outcome String
  | .scalar _ text => .ok text
  | .mapping _ entries => standInText entries
  | _ => .error .malformed

/-- The text under the key that stands in for a mapping. -/
def standInText : List (Node × Node) → Outcome String
  | [] => .error .malformed
  | (key, value) :: rest =>
    match key with
    | .scalar .standIn _ => scalarText value
    | _ => standInText rest

end

/-- The bytes that a text of ASCII characters says in base 64, other characters than digits among them. -/
def bytesOf (text : String) : Outcome Bytes :=
  if !text.toList.all (·.toNat < 128) then .error .malformed
  else match Base64.decodeLoose? text.toList with
    | some bytes => .ok bytes
    | none => .error .malformed

/-- The data of a scalar of a kind. -/
def scalarDatum (tag : Tag) (text : String) : Outcome Datum :=
  match tag with
  | .null => .ok .null
  | .bool => Datum.bool <$> Scalar.bool text
  | .int => Datum.int <$> Scalar.int text
  | .float => Datum.float <$> Scalar.float text
  | .text => .ok (.text text)
  | .bytes => Datum.bytes <$> bytesOf text
  | .moment => do
    match ← Scalar.timestamp text with
    | .date day => return .date day
    | .moment moment => return .moment moment
  | _ => .error .malformed

/-- The mapping of entries in order, which need keys without parts; a later value wins. -/
def mappingOf (entries : List (Datum × Datum)) : Outcome (List (Datum × Datum)) :=
  entries.foldlM (fun found (key, value) =>
    if key.isKey then .ok (Datum.put key value found) else .error .malformed) []

mutual

/-- The data of a node. -/
def datum : Node → Outcome Datum
  | .scalar tag text => scalarDatum tag text
  | .sequence tag items =>
    match tag with
    | .sequence => Datum.list <$> data items
    | .pairs => Datum.pairs <$> pairs items
    | _ => .error .malformed
  | .mapping tag entries =>
    match tag with
    | .mapping => do
      let (merged, own) ← entryData entries
      -- What is merged in comes first, so that own entries win over it.
      return .mapping (← mappingOf (merged ++ own))
    | .set => do
      let (merged, own) ← entryData entries
      return .set ((← mappingOf (merged ++ own)).map (·.1))
    | .null | .bool | .int | .float | .text | .bytes => do
      scalarDatum tag (← standInText entries)
    | _ => .error .malformed
  | .loop isSequence => .ok (.loop isSequence)

/-- The data of several nodes. -/
def data : List Node → Outcome (List Datum)
  | [] => .ok []
  | item :: rest => do
    let first ← datum item
    return first :: (← data rest)

/-- The data of mappings of one entry each. -/
def pairs : List Node → Outcome (List (Datum × Datum))
  | [] => .ok []
  | .mapping _ [(key, value)] :: rest => do
    let first ← datum key
    let second ← datum value
    return (first, second) :: (← pairs rest)
  | _ => .error .malformed

/-- The entries that a mapping takes from others, and its own. -/
def entryData : List (Node × Node) → Outcome (List (Datum × Datum) × List (Datum × Datum))
  | [] => .ok ([], [])
  | (key, value) :: rest =>
    match key with
    | .scalar .merge _ => do
      let first ← mergedFrom value
      let (merged, own) ← entryData rest
      return (first ++ merged, own)
    | .scalar .standIn text => do
      let second ← datum value
      let (merged, own) ← entryData rest
      return (merged, (.text text, second) :: own)
    | _ => do
      let first ← datum key
      let second ← datum value
      let (merged, own) ← entryData rest
      return (merged, (first, second) :: own)

/-- The entries merged in from a mapping, or from a sequence of them, where an earlier one wins. -/
def mergedFrom : Node → Outcome (List (Datum × Datum))
  | .mapping _ entries => do
    let (merged, own) ← entryData entries
    return merged ++ own
  | .sequence _ items => mergedFromAll items
  | .loop false => .ok []
  | _ => .error .malformed

/-- The entries merged in from several mappings, those of the last one first. -/
def mergedFromAll : List Node → Outcome (List (Datum × Datum))
  | [] => .ok []
  | .mapping _ entries :: rest => do
    let (merged, own) ← entryData entries
    return (← mergedFromAll rest) ++ merged ++ own
  | .loop false :: rest => mergedFromAll rest
  | _ => .error .malformed

end

end Node

/-- The data of a text's one document; none if it has no document. -/
def read (text : List Char) : Outcome (Option Datum) := do
  match ← Node.ofTokens? (← tokens text) with
  | some node => some <$> node.datum
  | none => return none

end Issuance.Yaml
