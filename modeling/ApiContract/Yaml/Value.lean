import ApiContract.Text.Decimal
import ApiContract.Yaml.Node

/-
What YAML nodes stand for.

Plain text without a tag may be null, a truth value, an integer or a double; all other text is
text.  Keys are always text.  Integers may be written with base two, eight or sixteen, and a row of
digits with a leading zero is text.  A container may hold 127 further levels of containers; an
alias counts as what it stands for, and there is a limit to how many aliases are replaced.

Main definitions:

* `ApiContract.Yaml.scalar?` — the value of a scalar;
* `ApiContract.Yaml.Source` — a root node with the anchored nodes;
* `ApiContract.Yaml.Source.ofText?` — what a text writes;
* `ApiContract.Yaml.Source.toJson?` — the value of the root.
-/

set_option autoImplicit false

namespace ApiContract.Yaml

/-! ### Integers -/

/-- The number that digits write in a base. -/
def natInBase? (base : Nat) (cs : List Char) : Option Nat :=
  if cs = [] then none
  else cs.foldlM (fun n c => do
    let d ← Json.hexDigit? c
    if d < base then some (base * n + d) else none) 0

/-- The number that digits write, the base sixteen, eight or two after `0x`, `0o` or `0b`. -/
def magnitude? (cs : List Char) : Option Nat :=
  match cs with
  | '0' :: 'x' :: ds => natInBase? 16 ds
  | '0' :: 'o' :: ds => natInBase? 8 ds
  | '0' :: 'b' :: ds => natInBase? 2 ds
  | ds => natInBase? 10 ds

/-- Whether the text is a row of digits, after a sign or not, with a leading zero. -/
def hasLeadingZero (cs : List Char) : Bool :=
  match (Text.Decimal.sign cs).2 with
  | '0' :: d :: ds => (d :: ds).all Char.isDigit
  | _ => false

/-- The integer that plain text writes. -/
def integer? (cs : List Char) : Option Int :=
  if hasLeadingZero cs then none
  else
    let (negative, ds) := Text.Decimal.sign cs
    (magnitude? ds).map fun n => if negative then -(n : Int) else n

/-- Whether an integer is wider than 128 bits, signed or unsigned. -/
def isWide (n : Int) : Bool := Nat.pow 2 128 ≤ n.toNat || Nat.pow 2 127 < (-n).toNat

/-- The value of an integer that is not wide; it must fit into 64 bits, signed or unsigned. -/
def integerValue? (n : Int) : Option Json :=
  if (-n).toNat ≤ Nat.pow 2 63 ∧ n.toNat < Nat.pow 2 64 then some (.int n) else none

/-! ### Doubles -/

/-- Text without a plus sign in front of anything but a sign. -/
def dropPlus? : List Char → Option (List Char)
  | '+' :: '+' :: _ => none
  | '+' :: '-' :: _ => none
  | '+' :: cs => some cs
  | cs => some cs

/-- The value of a double; neither infinity nor what is no number has one but null. -/
def double? (cs : List Char) : Option Json := do
  let positive ← dropPlus? cs
  if [".inf", ".Inf", ".INF"].contains (String.ofList positive) then some .null
  else if ["-.inf", "-.Inf", "-.INF", ".nan", ".NaN", ".NAN"].contains (String.ofList cs) then
    some .null
  else return .double (← (← Text.Decimal.read? positive).double?)

/-! ### Scalars -/

/-- The words for null. -/
def isNull (text : String) : Bool := ["null", "Null", "NULL", "~"].contains text

/-- The words for truth values. -/
def truth? (text : String) : Option Bool :=
  if ["true", "True", "TRUE"].contains text then some true
  else if ["false", "False", "FALSE"].contains text then some false
  else none

/-- The value of plain text without a tag.  There is none for an integer that fits into 128 bits
and not into 64. -/
def plainValue? (text : String) : Option Json :=
  if text = "" ∨ isNull text then some .null
  else
    match truth? text with
    | some b => some (.bool b)
    | none =>
      let cs := text.toList
      let asText := if hasLeadingZero cs then .text text else (double? cs).getD (.text text)
      match integer? cs with
      | some n => if isWide n then some asText else integerValue? n
      | none => some asText

/-- The tag of a standard type. -/
def standardTag (name : String) : String := "tag:yaml.org,2002:" ++ name

/-- Whether a tag is one of the author's own. -/
def isLocal (tag : String) : Bool := tag.toList.head? = some '!'

/-- The value of a scalar.  There is none under a tag of the author's own, nor where text does not
write a value of the type that its tag names. -/
def scalar? (tag : Option String) (text : String) (isPlain : Bool) : Option Json :=
  match tag with
  | none => if isPlain then plainValue? text else some (.text text)
  | some tag =>
    if isLocal tag then none
    else if tag = standardTag "bool" then (truth? text).map .bool
    else if tag = standardTag "int" then
      (integer? text.toList).bind fun n => if isWide n then none else integerValue? n
    else if tag = standardTag "float" then double? text.toList
    else if tag = standardTag "null" then if isNull text then some .null else none
    else some (.text text)

/-! ### Nodes -/

namespace Node

mutual

/-- The anchored nodes of a tree with their numbers, in order. -/
def anchors : Node → List (Nat × Node)
  | scalar _ _ _ => []
  | aliasOf _ => []
  | anchored number node => (number, node) :: anchors node
  | sequence _ items => itemAnchors items
  | mapping _ entries => entryAnchors entries

/-- The anchored nodes of the items of a sequence. -/
def itemAnchors : List Node → List (Nat × Node)
  | [] => []
  | item :: rest => anchors item ++ itemAnchors rest

/-- The anchored nodes of the entries of a mapping. -/
def entryAnchors : List (Node × Node) → List (Nat × Node)
  | [] => []
  | (key, value) :: rest => anchors key ++ anchors value ++ entryAnchors rest

end

mutual

/-- The size of a tree: scalars and aliases count once, collections twice. -/
def weight : Node → Nat
  | scalar _ _ _ => 1
  | aliasOf _ => 1
  | anchored _ node => weight node
  | sequence _ items => 2 + itemsWeight items
  | mapping _ entries => 2 + entriesWeight entries

/-- The size of the items of a sequence. -/
def itemsWeight : List Node → Nat
  | [] => 0
  | item :: rest => weight item + itemsWeight rest

/-- The size of the entries of a mapping. -/
def entriesWeight : List (Node × Node) → Nat
  | [] => 0
  | (key, value) :: rest => weight key + weight value + entriesWeight rest

end

end Node

/-- A root node with the anchored nodes. -/
structure Source where
  /-- Absent when the text has no node. -/
  root : Option Node
  /-- The anchored nodes with their numbers, the last one first. -/
  anchored : List (Nat × Node)
  /-- The number of aliases that may be replaced. -/
  aliasLimit : Nat

namespace Source

/-- Reads the only document of a text. -/
def ofText? (s : String) : Option Source := do
  let root ← document? (← tokens? s.toList)
  match root with
  | none => return ⟨none, [], 0⟩
  | some node => return ⟨root, node.anchors.reverse, 100 * node.weight⟩

/-- Replaces an alias and takes away an anchor; the state counts the aliases. -/
def target (s : Source) : Node → StateT Nat Option Node
  | .aliasOf number => do
    modify (· + 1)
    if s.aliasLimit < (← get) then failure
    StateT.lift (s.anchored.lookup number)
  | .anchored _ node => return node
  | node => return node

/-- The text of a node that is a scalar. -/
def text (s : Source) (node : Node) : StateT Nat Option String := do
  match ← s.target node with
  | .scalar _ text _ => return text
  | _ => failure

/-- The tag of a collection is none of the author's own. -/
def isStandard (tag : Option String) : Bool :=
  match tag with
  | some tag => !isLocal tag
  | none => true

/-- The value of a node with at most `depth` levels of containers. -/
def value (s : Source) : (depth : Nat) → Node → StateT Nat Option Json
  | 0, node => do
    match ← s.target node with
    | .scalar tag text isPlain => StateT.lift (scalar? tag text isPlain)
    | _ => failure
  | depth + 1, node => do
    match ← s.target node with
    | .scalar tag text isPlain => StateT.lift (scalar? tag text isPlain)
    | .sequence tag items =>
      if isStandard tag then return .array (← items.mapM (s.value depth)) else failure
    | .mapping tag entries =>
      if isStandard tag then
        let fields ← entries.mapM fun (key, v) => do return (← s.text key, ← s.value depth v)
        return .object (Fields.ofEntries fields)
      else failure
    | _ => failure

/-- The number of levels of containers that a value may have. -/
def maxDepth : Nat := 128

/-- The value of the root; a text without a node is null. -/
def toJson? (s : Source) : Option Json :=
  match s.root with
  | none => some .null
  | some node => (s.value maxDepth node).run' 0

end Source

end ApiContract.Yaml
