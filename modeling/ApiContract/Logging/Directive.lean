import ApiContract.Logging.Condition
import ApiContract.Logging.Level
import ApiContract.Text.Bytes

/-
Log directives: a level, and what it holds for.

A directive holds for everything, or for a target and the targets that begin with it; in brackets
it may be bound to a span, and in braces inside them to a field of the span:
`target[span{field=value}]=level`.  Each of the parts may be missing, and without a level
everything is let through.

Main definitions:

* `ApiContract.Logging.Scope` — what a directive holds for, `ApiContract.Logging.Scope.compare`;
* `ApiContract.Logging.Directive` — a scope and a level, `ApiContract.Logging.Directive.ofText?`.
-/

set_option autoImplicit false

namespace ApiContract.Logging

/-! ### Scopes -/

/-- What a directive holds for. -/
structure Scope where
  target : Option String
  span : Option String
  condition : Option Condition
  deriving DecidableEq, Repr

namespace Scope

/-- A target, or everything, without regard to spans. -/
def plain (target : Option String) : Scope := ⟨target, none, none⟩

/-- Whether a scope needs no more than the place of an event: it names no span and asks for no
value. -/
def isStatic (s : Scope) : Bool :=
  s.span.isNone && s.condition.all fun c => c.value.isNone

/-- Whether a scope is about spans. -/
def isDynamic (s : Scope) : Bool := s.span.isSome || s.condition.isSome

/-- The text of a scope. -/
def text (s : Scope) : String :=
  let condition := match s.condition with | some c => "\x7b" ++ c.text ++ "\x7d" | none => ""
  let span := if s.isDynamic then "[" ++ s.span.getD "" ++ condition ++ "]" else ""
  s.target.getD "" ++ span

/-- The order of two parts that may be missing, those that are come first. -/
def orderParts {α : Type} (order : α → α → Ordering) : Option α → Option α → Ordering
  | none, none => .eq
  | none, some _ => .lt
  | some _, none => .gt
  | some a, some b => order a b

/-- The order of two scopes, the more general first: by the lengths of their targets, by whether
they name a span and a field, and then by the texts of target, span and condition. -/
def compare (s t : Scope) : Ordering :=
  (orderParts Ord.compare (s.target.map String.utf8ByteSize)
      (t.target.map String.utf8ByteSize)).then <|
    (Ord.compare s.span.isSome.toNat t.span.isSome.toNat).then <|
      (Ord.compare s.condition.isSome.toNat t.condition.isSome.toNat).then <|
        (orderParts order s.target t.target).then <|
          (orderParts order s.span t.span).then <|
            orderParts Condition.compare s.condition t.condition

end Scope

/-! ### Directives -/

/-- A level for a scope. -/
structure Directive where
  scope : Scope
  level : Level
  deriving DecidableEq, Repr

namespace Directive

/-- The text of a directive. -/
def text (d : Directive) : String :=
  let scope := d.scope.text
  if d.scope.target.isNone ∧ ¬ d.scope.isDynamic then d.level.name
  else scope ++ "=" ++ d.level.name

/-- Whether a directive may begin with a character. -/
def isStart (c : Char) : Bool :=
  c = '[' || c = '-' || c = ':' || c = '_' || Text.isAlphanumeric c

/-- A level as it is written behind the equals sign; nothing at all lets everything through. -/
def level? (cs : List Char) : Option Level :=
  if cs = [] then some .trace else Level.ofWord? (String.ofList cs)

/-- Where the parts of a directive end that has brackets, in bytes. -/
structure Bounds where
  /-- The end of the target, where the opening bracket stands. -/
  target : Nat
  /-- The end of the span. -/
  span : Nat
  /-- The end of the field, if there is one. -/
  field : Option Nat
  /-- The beginning of the level, if there is one. -/
  level : Option Nat

namespace Bounds

/-- Measures a directive after its closing bracket. -/
def close? (b : Bounds) (stop : Nat) : List Char → Option Bounds
  | [] => some b
  | '=' :: _ => some { b with level := some (stop + 1) }
  | _ => none

/-- Measures a directive after its opening bracket. -/
def ofInner? (target : Nat) (cs : List Char) : Option Bounds :=
  let inside := fun c => c ≠ ']' ∧ c ≠ '\x7b'
  let span := target + 1 + Text.byteLength (cs.takeWhile inside)
  match cs.dropWhile inside with
  | ']' :: cs => close? ⟨target, span, none, none⟩ (span + 1) cs
  | _ :: cs =>
    let field := span + 1 + Text.byteLength (cs.takeWhile (· ≠ '\x7d'))
    match cs.dropWhile (· ≠ '\x7d') with
    | _ :: ']' :: cs => close? ⟨target, span, some field, none⟩ (field + 2) cs
    | _ => none
  | [] => none

/-- The directive whose parts lie between the bounds. -/
def directive? (b : Bounds) (cs : List Char) : Option Directive :=
  let part := fun start stop => String.ofList (Text.byteRange start stop cs)
  let target := if b.target = 0 then none else some (part 0 b.target)
  let span := part (b.target + 1) b.span
  let level := level? (match b.level with | some start => Text.dropBytes start cs | none => [])
  match b.field with
  | none => level.map fun level => ⟨⟨target, some span, none⟩, level⟩
  | some stop =>
    let field := part (b.span + 1) stop
    if field = "" then none
    else
      (Condition.ofText? field).bind fun condition =>
        let span := if span = "" then none else some span
        level.map fun level => ⟨⟨target, span, some condition⟩, level⟩

end Bounds

/-- Reads a directive.  A word that is a level is that level for everything; every other word is a
target.

White space around a directive counts for nothing as long as its parts are measured, and still
they are cut from the text as it stands: at its beginning, it moves the parts away from what they
were measured for. -/
def ofText? (text : String) : Option Directive :=
  let cs := text.toList
  let body := Text.trimWhere Text.isBlank cs
  let head := body.takeWhile fun c => c ≠ '=' ∧ c ≠ '['
  let stop := Text.byteLength head
  if ¬ body.head?.any isStart then none
  else
    match body.drop head.length with
    | [] =>
      match Level.ofWord? text with
      | some level => some ⟨.plain none, level⟩
      | none => some ⟨.plain (some text), .trace⟩
    | '=' :: _ =>
      (level? (Text.dropBytes (stop + 1) cs)).map fun level =>
        ⟨.plain (some (String.ofList (Text.takeBytes stop cs))), level⟩
    | _ :: inner => (Bounds.ofInner? stop inner).bind (·.directive? cs)

end Directive

end ApiContract.Logging
