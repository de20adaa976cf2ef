import ApiContract.Yaml.Token

/-
The tree of nodes that the tokens of a YAML text describe.

Aliases and anchors are numbered in the tree.  An anchor takes for its number the count of names
that have been anchored before it, and an alias has the number of the last anchor of its name; when
a name is anchored twice, a later anchor can therefore come to share a number with it, and the node
with the last anchor of a number is the one that aliases with the number stand for.

Main definitions:

* `ApiContract.Yaml.Node` — nodes;
* `ApiContract.Yaml.Composer` — reading of nodes from tokens;
* `ApiContract.Yaml.document?` — the only document of a text; it may have no node at all.
-/

set_option autoImplicit false

namespace ApiContract.Yaml

/-- A node. -/
inductive Node where
  /-- Text with its tag; plain text without a tag may stand for something other than text. -/
  | scalar (tag : Option String) (text : String) (isPlain : Bool)
  | sequence (tag : Option String) (items : List Node)
  | mapping (tag : Option String) (entries : List (Node × Node))
  /-- The node with the last anchor of this number. -/
  | aliasOf (number : Nat)
  /-- A node with an anchor of this number. -/
  | anchored (number : Nat) (node : Node)

/-- The node where nothing is written. -/
def Node.nothing : Node := .scalar none "" true

/-- What is left to read, and the names anchored so far with their last numbers. -/
structure Progress where
  tokens : List Token
  names : List (String × Nat)
  /-- What the handles of tags stand for. -/
  handles : List (String × String)

/-- Reading of nodes. -/
abbrev Composer := StateT Progress Option

namespace Composer

/-- The tokens ahead. -/
def ahead : Composer (List Token) := do return (← get).tokens

/-- Goes on behind the next token. -/
def skip : Composer Unit := modify fun p => { p with tokens := p.tokens.drop 1 }

/-- The number of a new anchor. -/
def newAnchor (name : String) : Composer Nat := do
  let p ← get
  let number := p.names.length
  let names :=
    if p.names.any fun n => n.1 = name then
      p.names.map fun n => if n.1 = name then (name, number) else n
    else p.names ++ [(name, number)]
  set { p with names }
  return number

/-- The number of the last anchor of a name. -/
def lastAnchor (name : String) : Composer Nat := do
  StateT.lift ((← get).names.lookup name)

/-- A tag with its handle spelled out. -/
def fullTag (handle suffix : String) : Composer String := do
  if handle = "" then return suffix
  else
    let target ← StateT.lift ((← get).handles.lookup handle)
    return target ++ suffix

/-- An anchor, if one is ahead. -/
def anchor? : Composer (Option Nat) := do
  match ← ahead with
  | .anchor name :: _ =>
    skip
    return some (← newAnchor name)
  | _ => return none

/-- A tag, if one is ahead. -/
def tag? : Composer (Option String) := do
  match ← ahead with
  | .tag handle suffix :: _ =>
    skip
    return some (← fullTag handle suffix)
  | _ => return none

/-- Anchor and tag, in either order, each if it is there. -/
def properties : Composer (Option Nat × Option String) := do
  match ← anchor? with
  | some number => return (some number, ← tag?)
  | none =>
    match ← tag? with
    | some tag => return (← anchor?, some tag)
    | none => return (none, none)

/-- Whether the next entry of a block sequence or its end is ahead. -/
def atItemEnd : List Token → Bool
  | .blockEntry :: _ => true
  | .blockEnd :: _ => true
  | _ => false

/-- Whether the next part of a block mapping or its end is ahead. -/
def atPartEnd : List Token → Bool
  | .key :: _ => true
  | .value :: _ => true
  | .blockEnd :: _ => true
  | _ => false

/-- Whether the next part of a flow collection or its end is ahead. -/
def atFlowEnd : List Token → Bool
  | .flowEntry :: _ => true
  | .flowSequenceEnd :: _ => true
  | .flowMappingEnd :: _ => true
  | _ => false

/-- Whether the value of a flow key is ahead. -/
def atValue : List Token → Bool
  | .value :: _ => true
  | _ => false

/-- Whether a pair in a flow sequence has an empty key: its value, a comma or the end of the
sequence is ahead, and that token is taken with the key. -/
def atEmptyKey : List Token → Bool
  | .value :: _ => true
  | .flowEntry :: _ => true
  | .flowSequenceEnd :: _ => true
  | _ => false

/-- The kinds of places where a node can stand. -/
inductive Position where
  /-- Within a flow collection. -/
  | flow
  /-- Within a block sequence, or at the top. -/
  | block
  /-- Within a block mapping, where the dashes of a sequence need no indentation. -/
  | mapped
  deriving DecidableEq, Repr

mutual

/-- Reads a node.  The first argument bounds the depth of the reading. -/
def node : Nat → Position → Composer Node
  | 0, _ => failure
  | depth + 1, position => do
    match ← ahead with
    | .aliasOf name :: _ =>
      skip
      return .aliasOf (← lastAnchor name)
    | _ =>
      let (number, tag) ← properties
      let content ← content depth position tag number.isSome
      match number with
      | some number => return .anchored number content
      | none => return content

/-- Reads what stands behind anchor and tag. -/
def content : Nat → Position → (tag : Option String) → (hasAnchor : Bool) → Composer Node
  | 0, _, _, _ => failure
  | depth + 1, position, tag, hasAnchor => do
    match ← ahead with
    | .blockEntry :: _ =>
      if position = .mapped then return .sequence tag (← flatItems depth)
      else if tag.isSome ∨ hasAnchor then return .scalar tag "" true
      else failure
    | .scalar text isPlain :: _ =>
      skip
      return .scalar tag text isPlain
    | .flowSequenceStart :: _ =>
      skip
      return .sequence tag (← flowItems depth true)
    | .flowMappingStart :: _ =>
      skip
      return .mapping tag (← flowEntries depth true)
    | .blockSequenceStart :: _ =>
      if position ≠ .flow then
        skip
        return .sequence tag (← items depth)
      else if tag.isSome ∨ hasAnchor then return .scalar tag "" true
      else failure
    | .blockMappingStart :: _ =>
      if position ≠ .flow then
        skip
        return .mapping tag (← entries depth)
      else if tag.isSome ∨ hasAnchor then return .scalar tag "" true
      else failure
    | _ => if tag.isSome ∨ hasAnchor then return .scalar tag "" true else failure

/-- Reads the items of a block sequence up to its end. -/
def items : Nat → Composer (List Node)
  | 0 => failure
  | depth + 1 => do
    match ← ahead with
    | .blockEntry :: rest =>
      skip
      let item ← if atItemEnd rest then pure Node.nothing else node depth .block
      return item :: (← items depth)
    | .blockEnd :: _ =>
      skip
      return []
    | _ => failure

/-- Reads the items of a sequence that is indented no further than the mapping it is in. -/
def flatItems : Nat → Composer (List Node)
  | 0 => failure
  | depth + 1 => do
    match ← ahead with
    | .blockEntry :: rest =>
      skip
      let item ← if atItemEnd rest ∨ atPartEnd rest then pure Node.nothing else node depth .block
      return item :: (← flatItems depth)
    | _ => return []

/-- Reads the entries of a block mapping up to its end. -/
def entries : Nat → Composer (List (Node × Node))
  | 0 => failure
  | depth + 1 => do
    match ← ahead with
    | .key :: rest =>
      skip
      let key ← if atPartEnd rest then pure Node.nothing else node depth .mapped
      let value ← mappedValue depth
      return (key, value) :: (← entries depth)
    | .blockEnd :: _ =>
      skip
      return []
    | _ => failure

/-- Reads the value of an entry of a block mapping, if there is one. -/
def mappedValue : Nat → Composer Node
  | 0 => failure
  | depth + 1 => do
    match ← ahead with
    | .value :: rest =>
      skip
      if atPartEnd rest then return Node.nothing else node depth .mapped
    | _ => return Node.nothing

/-- Reads the items of a flow sequence up to its end. -/
def flowItems : Nat → (first : Bool) → Composer (List Node)
  | 0, _ => failure
  | depth + 1, first => do
    match ← ahead with
    | .flowSequenceEnd :: _ =>
      skip
      return []
    | .flowEntry :: _ => if first then flowItem depth else skip; flowItem depth
    | _ => if first then flowItem depth else failure

/-- Reads an item of a flow sequence and the items after it, or the end behind a last comma. -/
def flowItem : Nat → Composer (List Node)
  | 0 => failure
  | depth + 1 => do
    match ← ahead with
    | .flowSequenceEnd :: _ =>
      skip
      return []
    | .key :: rest =>
      skip
      let key ←
        if atEmptyKey rest then
          skip
          pure Node.nothing
        else node depth .flow
      let value ← flowValue depth
      return .mapping none [(key, value)] :: (← flowItems depth false)
    | _ =>
      let item ← node depth .flow
      return item :: (← flowItems depth false)

/-- Reads the value behind a key in a flow collection, if there is one. -/
def flowValue : Nat → Composer Node
  | 0 => failure
  | depth + 1 => do
    match ← ahead with
    | .value :: rest =>
      skip
      if atFlowEnd rest then return Node.nothing else node depth .flow
    | _ => return Node.nothing

/-- Reads the entries of a flow mapping up to its end. -/
def flowEntries : Nat → (first : Bool) → Composer (List (Node × Node))
  | 0, _ => failure
  | depth + 1, first => do
    match ← ahead with
    | .flowMappingEnd :: _ =>
      skip
      return []
    | .flowEntry :: _ => if first then flowEntry depth else skip; flowEntry depth
    | _ => if first then flowEntry depth else failure

/-- Reads an entry of a flow mapping and the entries after it, or the end behind a last comma. -/
def flowEntry : Nat → Composer (List (Node × Node))
  | 0 => failure
  | depth + 1 => do
    match ← ahead with
    | .flowMappingEnd :: _ =>
      skip
      return []
    | .key :: rest =>
      skip
      let key ← if atValue rest ∨ atFlowEnd rest then pure Node.nothing else node depth .flow
      let value ← flowValue depth
      return (key, value) :: (← flowEntries depth false)
    | _ =>
      let key ← node depth .flow
      return (key, Node.nothing) :: (← flowEntries depth false)

end

/-! ### Documents -/

/-- The handles that need no directive. -/
def standardHandles : List (String × String) := [("!", "!"), ("!!", "tag:yaml.org,2002:")]

/-- Reads directives.  There is at most one for the version, which must be 1.1 or 1.2, and at most
one for a handle. -/
def directives (version : Bool) (handles : List (String × String)) :
    List Token → Option (List (String × String) × List Token)
  | .directive (.version major minor) :: rest =>
    if version ∨ major ≠ 1 ∨ ¬ (minor = 1 ∨ minor = 2) then none
    else directives true handles rest
  | .directive (.tag handle target) :: rest =>
    if handles.any fun h => h.1 = handle then none
    else directives version (handles ++ [(handle, target)]) rest
  | rest => some (handles, rest)

/-- Whether nothing of a document is ahead. -/
def atDocumentEnd : List Token → Bool
  | [] => true
  | .directive _ :: _ => true
  | .documentStart :: _ => true
  | .documentEnd :: _ => true
  | _ => false

/-- Whether a document begins here with a directive or a marker. -/
def isExplicit : List Token → Bool
  | .directive _ :: _ => true
  | .documentStart :: _ => true
  | _ => false

end Composer

open Composer in
/-- The root node of the only document that the tokens describe, if the document has one. -/
def document? (tokens : List Token) : Option (Option Node) := do
  if tokens.isEmpty then return none
  let depth := 4 * tokens.length + 4
  let (root, rest) ←
    if isExplicit tokens then do
      let (handles, rest) ← directives false [] tokens
      match rest with
      | .documentStart :: rest =>
        if atDocumentEnd rest then some (Node.nothing, rest)
        else
          let (root, p) ← (node depth .block).run ⟨rest, [], handles ++ standardHandles⟩
          some (root, p.tokens)
      | _ => none
    else do
      let (root, p) ← (node depth .block).run ⟨tokens, [], standardHandles⟩
      some (root, p.tokens)
  match rest.dropWhile fun t => match t with | .documentEnd => true | _ => false with
  | [] => return some root
  | _ => none

end ApiContract.Yaml
