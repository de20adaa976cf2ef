import ApiContract.Toml.Text

/-
TOML documents: tables of keys and values.

A key can be written once only, and where a table has been written says who may still add to it:
headers may add sub-tables to any table, but dotted keys only to tables that dotted keys or nothing
but longer headers made, and nobody to a value.  A table to which a dotted key has added can have
no header of its own any more.  Into an array of tables, headers and dotted keys lead to the last
table, but a dotted key must lead further than that.

Main definitions:

* `ApiContract.Toml.Item` — values, tables, and arrays of tables;
* `ApiContract.Toml.value?` — a value; of those that are no text only the outline is kept;
* `ApiContract.Toml.ofText?` — the root table of a document.
-/

set_option autoImplicit false

namespace ApiContract.Toml

/-- How a table came to be. -/
inductive Origin where
  /-- By a header of a table below it. -/
  | implied
  /-- By its own header. -/
  | header
  /-- By a dotted key. -/
  | dotted
  deriving DecidableEq, Repr

/-- What stands under a key. -/
inductive Item where
  | text (value : String)
  /-- A number, a truth value, a date or a time. -/
  | word
  /-- An array with this number of items. -/
  | array (size : Nat)
  /-- A table between braces, to which nothing can be added. -/
  | inline (entries : List (String × Item))
  | table (origin : Origin) (entries : List (String × Item))
  /-- An array of tables, the last one first. -/
  | tables (elements : List (List (String × Item)))

/-- Whether an item is an array or a table with nothing in it. -/
def Item.isEmpty : Item → Bool
  | .array size => size = 0
  | .inline entries => entries.isEmpty
  | .table _ entries => entries.isEmpty
  | _ => false

/-- The entries of a table. -/
abbrev Entries := List (String × Item)

namespace Entries

/-- Puts an item under a key, in place of what is there. -/
def put (entries : Entries) (key : String) (item : Item) : Entries :=
  if entries.any fun e => e.1 = key then
    entries.map fun e => if e.1 = key then (key, item) else e
  else entries ++ [(key, item)]

/-- Writes a value under a dotted key. -/
def assign? (entries : Entries) (key : List String) (item : Item) : Option Entries :=
  match key with
  | [] => none
  | [k] => if (entries.lookup k).isNone then some (entries ++ [(k, item)]) else none
  | k :: key =>
    match entries.lookup k with
    | none => do return put entries k (.table .dotted (← assign? [] key item))
    | some (.table origin inner) =>
      if origin = .header then none
      else do return put entries k (.table .dotted (← assign? inner key item))
    | some (.tables (last :: others)) =>
      if key.length = 1 then none
      else do return put entries k (.tables ((← assign? last key item) :: others))
    | some _ => none

/-- Adds to the table under a path of headers what `add?` makes of its entries. -/
def within? (add? : Entries → Option Entries) (entries : Entries) :
    List String → Option Entries
  | [] => add? entries
  | k :: path =>
    match entries.lookup k with
    | none => do return put entries k (.table .implied (← within? add? [] path))
    | some (.table origin inner) => do
      return put entries k (.table origin (← within? add? inner path))
    | some (.tables (last :: others)) => do
      return put entries k (.tables ((← within? add? last path) :: others))
    | some _ => none

/-- Opens a table with its own header. -/
def openTable? (key : String) (entries : Entries) : Option Entries :=
  match entries.lookup key with
  | none => some (put entries key (.table .header []))
  | some (.table .implied inner) => some (put entries key (.table .header inner))
  | some _ => none

/-- Opens a further table of an array of tables. -/
def openElement? (key : String) (entries : Entries) : Option Entries :=
  match entries.lookup key with
  | none => some (put entries key (.tables [[]]))
  | some (.tables elements) => some (put entries key (.tables ([] :: elements)))
  | some _ => none

/-- Writes a value under a dotted key of an opened table. -/
def assignIn? (key : List String) (item : Item) (entries : Entries) : Option Entries :=
  entries.assign? key item

end Entries

/-! ### Values -/

/-- The number of parts that a dotted key may have, and the number of arrays and tables between
braces that may stand one in the other. -/
def nestingLimit : Nat := 80

/-- The parts of a dotted key, at most `count` of them. -/
def parts? : (count : Nat) → List Char → Option (List String × List Char)
  | 0, _ => none
  | count + 1, cs => do
    let (k, rest) ← key? (dropBlanks cs)
    match dropBlanks rest with
    | '.' :: rest =>
      let (ks, rest) ← parts? count rest
      return (k :: ks, rest)
    | rest => return ([k], rest)

/-- The parts of a dotted key. -/
def dottedKey? (cs : List Char) : Option (List String × List Char) := parts? nestingLimit cs

/-- The dotted key of an entry and the characters behind its equals sign. -/
def entryKey? (cs : List Char) : Option (List String × List Char) := do
  match ← dottedKey? cs with
  | (key, '=' :: rest) => return (key, dropBlanks rest)
  | _ => none

/-- The dotted key of an entry between braces, where lines may be broken on both sides of the equals
sign, and the characters behind it. -/
def inlineKey? (cs : List Char) : Option (List String × List Char) := do
  let (key, rest) ← dottedKey? cs
  match ← dropGap? (rest.length + 1) rest with
  | '=' :: rest => return (key, ← dropGap? (rest.length + 1) rest)
  | _ => none

mutual

/-- Reads a value, inside of which `nesting` more may be nested; `count` bounds the steps. -/
def value : (count nesting : Nat) → List Char → Option (Item × List Char)
  | 0, _, _ => none
  | _, _, [] => none
  | count + 1, nesting, c :: cs =>
    match c, nesting with
    | '[', nesting + 1 => do
      let (size, rest) ← items count nesting 0 cs
      return (.array size, rest)
    | '\x7b', nesting + 1 => do
      let (entries, rest) ← entries count nesting [] cs
      return (.inline entries, rest)
    | c, _ =>
      if c = '"' ∨ c = '\'' then (string? (c :: cs)).map fun (s, rest) => (.text s, rest)
      else
        let (word, rest) := wordSpan (c :: cs)
        if isWord word then some (.word, rest) else none

/-- Reads the items of an array up to its end, after `size` others. -/
def items : (count nesting size : Nat) → List Char → Option (Nat × List Char)
  | 0, _, _, _ => none
  | count + 1, nesting, size, cs => do
    match ← dropGap? (cs.length + 1) cs with
    | ']' :: rest => return (size, rest)
    | cs =>
      let (_, rest) ← value count nesting cs
      match ← dropGap? (rest.length + 1) rest with
      | ',' :: rest => items count nesting (size + 1) rest
      | ']' :: rest => return (size + 1, rest)
      | _ => none

/-- Reads the entries of a table between braces up to its end, after others. -/
def entries : (count nesting : Nat) → Entries → List Char → Option (Entries × List Char)
  | 0, _, _, _ => none
  | count + 1, nesting, acc, cs => do
    match ← dropGap? (cs.length + 1) cs with
    | '\x7d' :: rest => return (acc, rest)
    | cs =>
      let (key, rest) ← inlineKey? cs
      let (item, rest) ← value count nesting rest
      let acc ← acc.assign? key item
      match ← dropGap? (rest.length + 1) rest with
      | ',' :: rest => entries count nesting acc rest
      | '\x7d' :: rest => return (acc, rest)
      | _ => none

end

/-- Reads a value. -/
def value? (cs : List Char) : Option (Item × List Char) :=
  value (2 * cs.length + 2) nestingLimit cs

/-! ### Documents -/

/-- A document in part: the path of the table that is open, and the root. -/
structure Document where
  path : List String
  root : Entries

/-- Reads a header, from behind its first bracket. -/
def header? (d : Document) (cs : List Char) : Option (Document × List Char) := do
  let (element, cs) := match cs with | '[' :: rest => (true, rest) | _ => (false, cs)
  let (path, rest) ← dottedKey? cs
  let open? := if element then Entries.openElement? else Entries.openTable?
  let root ← d.root.within? (open? (path.getLast?.getD "")) path.dropLast
  match element, rest with
  | true, ']' :: ']' :: rest => return (⟨path, root⟩, ← lineEnd? rest)
  | false, ']' :: rest => return (⟨path, root⟩, ← lineEnd? rest)
  | _, _ => none

/-- Reads an entry of the open table. -/
def entry? (d : Document) (cs : List Char) : Option (Document × List Char) := do
  let (key, rest) ← entryKey? cs
  let (item, rest) ← value? rest
  let root ← d.root.within? (Entries.assignIn? key item) d.path
  return (⟨d.path, root⟩, ← lineEnd? rest)

/-- Reads the lines of a document, at most `count` of them. -/
def lines? : (count : Nat) → Document → List Char → Option Entries
  | 0, _, _ => none
  | count + 1, d, cs => do
    match ← dropGap? (cs.length + 1) cs with
    | [] => return d.root
    | '[' :: rest =>
      let (d, rest) ← header? d rest
      lines? count d rest
    | cs =>
      let (d, rest) ← entry? d cs
      lines? count d rest

/-- The root table of a document; a byte order mark in front is no part of it. -/
def ofText? (s : String) : Option Entries :=
  let cs := match s.toList with | '\ufeff' :: rest => rest | cs => cs
  lines? (cs.length + 1) ⟨[], []⟩ cs

end ApiContract.Toml
