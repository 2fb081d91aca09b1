import Issuance.Yaml.Tag
import Issuance.Yaml.Token

/-! The data of a YAML text as a tree of tagged nodes, put together from its tokens. -/

namespace Issuance.Yaml

/-- A node of the tree. -/
inductive Node where
  | scalar (tag : Tag) (text : String)
  | sequence (tag : Tag) (items : List Node)
  | mapping (tag : Tag) (entries : List (Node × Node))
  /-- An alias for the sequence, or else the mapping, that it stands in itself. -/
  | loop (isSequence : Bool)
  deriving Inhabited

/-- What an anchor names. -/
inductive Anchored where
  | finished (node : Node)
  /-- A sequence or mapping that is still being put together. -/
  | unfinished (isSequence : Bool)

/-- How far the nodes of a text have been put together. -/
structure Assembly where
  tokens : List Token
  handles : List (String × String)
  anchors : List (String × Anchored) := []

/-- A step that puts nodes together. -/
abbrev Assembling := StateT Assembly Outcome

namespace Assembling

/-- The next token. -/
def peek : Assembling (Option Token) := do return (← get).tokens.head?

/-- Passes over some tokens. -/
def drop (count : Nat) : Assembling Unit :=
  modify fun assembly => { assembly with tokens := assembly.tokens.drop count }

/-- Gives up on the text. -/
def malformed {α : Type} : Assembling α := throw .malformed

/-- Passes over a token if it comes next, and says whether it did. -/
def take? (token : Token) : Assembling Bool := do
  if (← peek) = some token then do
    drop 1
    return true
  else return false

/-- Passes over a token that has to come next. -/
def expect (token : Token) : Assembling Unit := do
  if !(← take? token) then malformed

/-- The full name of a tag, its handle written out. -/
def tagName (handle : Option String) (ending : String) : Assembling String :=
  match handle with
  | none => return ending
  | some handle => do
    match (← get).handles.lookup handle with
    | some meaning => return meaning ++ ending
    | none => malformed

/-- The anchor and the tag in front of a node, in either order. -/
def properties : Assembling (Option String × Option String) := do
  match (← get).tokens with
  | .anchor name :: .tag handle ending :: _
  | .tag handle ending :: .anchor name :: _ =>
    drop 2
    return (some name, some (← tagName handle ending))
  | .anchor name :: _ =>
    drop 1
    return (some name, none)
  | .tag handle ending :: _ =>
    drop 1
    return (none, some (← tagName handle ending))
  | _ => return (none, none)

/-- The tag of a scalar: the one it is given, else told from its text if that is plain. -/
def scalarTag (given : Option String) (plain : Bool) (text : String) : Tag :=
  match given with
  | none => if plain then .ofPlain text else .text
  | some name => if name = "!" then .ofPlain text else .ofName name

/-- The tag of a sequence or mapping: the one it is given, else the usual one. -/
def collectionTag (given : Option String) (usual : Tag) : Tag :=
  match given with
  | none => usual
  | some name => if name = "!" then usual else .ofName name

/-- Lets an anchor name something. -/
def bind (anchor : Option String) (what : Anchored) : Assembling Unit :=
  match anchor with
  | none => return ()
  | some name =>
    modify fun assembly => { assembly with anchors := (name, what) :: assembly.anchors }

/-- What an alias names, which has to have come before it. -/
def named (name : String) : Assembling Node := do
  match (← get).anchors.lookup name with
  | none => malformed
  | some (.finished node) => return node
  | some (.unfinished isSequence) => return .loop isSequence

/-- Names a node that is put together from parts, which may refer to it. -/
def binding (anchor : Option String) (isSequence : Bool) (parts : Assembling Node) : Assembling Node := do
  -- The name is bound before the parts are read, so that they can refer to the whole.
  bind anchor (.unfinished isSequence)
  let node ← parts
  bind anchor (.finished node)
  return node

/-- The node of a place where nothing stands. -/
def absent : Node := .scalar .null ""

mutual

/-- A node. Outside brackets it may be a block; a sequence that is a value need not be indented. -/
def node (inBlock mayHang : Bool) : Nat → Assembling Node
  | 0 => malformed
  | fuel + 1 => do
    match ← peek with
    | some (.reference name) =>
      drop 1
      named name
    | _ =>
      let (anchor, tag) ← properties
      -- An anchor names one node only.
      if anchor.any ((← get).anchors.lookup · |>.isSome) then malformed
      match ← peek, inBlock, mayHang with
      | some .blockEntry, _, true =>
        binding anchor true do return .sequence (collectionTag tag .sequence) (← hangingItems fuel)
      | some (.scalar text plain), _, _ =>
        drop 1
        let found := Node.scalar (scalarTag tag plain text) text
        bind anchor (.finished found)
        return found
      | some .flowSequenceStart, _, _ =>
        drop 1
        binding anchor true do return .sequence (collectionTag tag .sequence) (← flowItems true fuel)
      | some .flowMappingStart, _, _ =>
        drop 1
        binding anchor false do return .mapping (collectionTag tag .mapping) (← flowEntries true fuel)
      | some .blockSequenceStart, true, _ =>
        drop 1
        binding anchor true do return .sequence (collectionTag tag .sequence) (← blockItems fuel)
      | some .blockMappingStart, true, _ =>
        drop 1
        binding anchor false do return .mapping (collectionTag tag .mapping) (← blockEntries fuel)
      | _, _, _ =>
        if anchor.isNone && tag.isNone then malformed
        let found := Node.scalar (scalarTag tag true "") ""
        bind anchor (.finished found)
        return found

/-- A node, unless a token comes next that shows that nothing stands there. -/
def nodeUnless (ends : List Token) (inBlock mayHang : Bool) : Nat → Assembling Node
  | 0 => malformed
  | fuel + 1 => do
    if (← peek).any ends.contains then return absent else node inBlock mayHang fuel

/-- The value behind a key, if a colon comes next. -/
def valueUnless (ends : List Token) (inBlock mayHang : Bool) : Nat → Assembling Node
  | 0 => malformed
  | fuel + 1 => do
    if ← take? .value then nodeUnless ends inBlock mayHang fuel else return absent

/-- The items of a sequence in brackets; a pair among them is a mapping of its own. -/
def flowItems (first : Bool) : Nat → Assembling (List Node)
  | 0 => malformed
  | fuel + 1 => do
    if ← take? .flowSequenceEnd then return []
    if !first then expect .flowEntry
    if ← take? .key then
      let key ← nodeUnless [.value, .flowEntry, .flowSequenceEnd] false false fuel
      let value ← valueUnless [.flowEntry, .flowSequenceEnd] false false fuel
      return .mapping .mapping [(key, value)] :: (← flowItems false fuel)
    else if ← take? .flowSequenceEnd then return []
    else
      let item ← node false false fuel
      return item :: (← flowItems false fuel)

/-- The entries of a mapping in braces; a key may stand there without a value. -/
def flowEntries (first : Bool) : Nat → Assembling (List (Node × Node))
  | 0 => malformed
  | fuel + 1 => do
    if ← take? .flowMappingEnd then return []
    if !first then expect .flowEntry
    if ← take? .key then
      let key ← nodeUnless [.value, .flowEntry, .flowMappingEnd] false false fuel
      let value ← valueUnless [.flowEntry, .flowMappingEnd] false false fuel
      return (key, value) :: (← flowEntries false fuel)
    else if ← take? .flowMappingEnd then return []
    else
      let key ← node false false fuel
      return (key, absent) :: (← flowEntries false fuel)

/-- The items of an indented sequence. -/
def blockItems : Nat → Assembling (List Node)
  | 0 => malformed
  | fuel + 1 => do
    if ← take? .blockEntry then
      let item ← nodeUnless [.blockEntry, .blockEnd] true false fuel
      return item :: (← blockItems fuel)
    else
      expect .blockEnd
      return []

/-- The items of a sequence that is not indented further than the mapping it stands in. -/
def hangingItems : Nat → Assembling (List Node)
  | 0 => malformed
  | fuel + 1 => do
    if ← take? .blockEntry then
      let item ← nodeUnless [.blockEntry, .key, .value, .blockEnd] true false fuel
      return item :: (← hangingItems fuel)
    else return []

/-- The entries of an indented mapping. -/
def blockEntries : Nat → Assembling (List (Node × Node))
  | 0 => malformed
  | fuel + 1 => do
    if ← take? .key then
      let key ← nodeUnless [.key, .value, .blockEnd] true true fuel
      let value ← valueUnless [.key, .value, .blockEnd] true true fuel
      return (key, value) :: (← blockEntries fuel)
    else
      expect .blockEnd
      return []

end

/-- The handles of tags that need no directive. -/
def usualHandles : List (String × String) := [("!", "!"), ("!!", Tag.namespaceName)]

/-- The handles told by directives: each once, and one version at most, which is a first one. -/
def directives (versions : Nat) (told : List (String × String)) :
    List Token → Outcome (List (String × String) × List Token)
  | .version major :: rest =>
    if versions = 0 ∧ major = 1 then directives 1 told rest else .error .malformed
  | .tagHandle handle meaning :: rest =>
    if (told.lookup handle).isSome then .error .malformed
    else directives versions ((handle, meaning) :: told) rest
  | .otherDirective :: rest => directives versions told rest
  | .documentStart :: rest => .ok (told ++ usualHandles, .documentStart :: rest)
  | _ => .error .malformed

/-- Whether a token opens a document of its own accord. -/
def opensDocument : Token → Bool
  | .version _ | .tagHandle .. | .otherDirective | .documentStart => true
  | _ => false

/-- The node of a document, behind its start if that is marked. -/
def document (marked : Bool) (fuel : Nat) : Assembling Node := do
  if !marked then node true false fuel
  else
    expect .documentStart
    match ← peek with
    | none => return absent
    | some token =>
      if opensDocument token || token == .documentEnd then return absent else node true false fuel

end Assembling

/-- The node of a text's one document; none if it has no document. -/
def Node.ofTokens? (tokens : List Token) : Outcome (Option Node) :=
  match tokens with
  | [] => .ok none
  | first :: _ => do
    let marked := Assembling.opensDocument first
    let (handles, tokens) ←
      if marked then Assembling.directives 0 [] tokens else pure (Assembling.usualHandles, tokens)
    -- At most three steps nest between one token that is taken and the next.
    let (node, left) ← (Assembling.document marked (3 * tokens.length + 3)).run { tokens, handles }
    if left.tokens.all (· == .documentEnd) then return some node else throw .malformed

end Issuance.Yaml
