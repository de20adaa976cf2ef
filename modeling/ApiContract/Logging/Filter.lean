import ApiContract.Logging.Directive
import ApiContract.Text.Segments

/-
Log filters: the directives that decide what is written.

A filter keeps one directive for a scope.  Its directives stand in the order in which they are
tried: longer targets first, targets of one length in descending order, and the directive without a
target last.  Directives whose scope needs no more than the place of an event stand apart from
those that depend on the spans around it.

Main definitions:

* `ApiContract.Logging.Filter` — directives, `ApiContract.Logging.Filter.add`;
* `ApiContract.Logging.Filter.ofText?` — filters from text, `ApiContract.Logging.Filter.addText`;
* `ApiContract.Logging.Filter.level?` — the level of a target.
-/

set_option autoImplicit false

namespace ApiContract.Logging

namespace Directive

/-! ### Directives in order -/

/-- Puts a directive among others in their order, in place of the one of its rank if there is
one. -/
def insert (d : Directive) : List Directive → List Directive
  | [] => [d]
  | e :: rest =>
    match d.scope.compare e.scope with
    | .eq => d :: rest
    | .gt => d :: e :: rest
    | .lt => e :: insert d rest

/-- The level of a scope among directives. -/
def levelOf? (ds : List Directive) (scope : Scope) : Option Level :=
  (ds.find? fun d => d.scope = scope).map Directive.level

end Directive

/-! ### Filters -/

/-- Directives in the order in which they are tried, one for a scope. -/
structure Filter where
  /-- The directives that need no more than the place of an event. -/
  static : List Directive
  /-- The directives that depend on the spans around an event. -/
  dynamic : List Directive
  deriving DecidableEq, Repr

namespace Filter

/-- Adds a directive, in place of the one with its scope if there is one. -/
def add (f : Filter) (d : Directive) : Filter :=
  if d.scope.isStatic then { f with static := d.insert f.static }
  else { f with dynamic := d.insert f.dynamic }

/-- The level of a target. -/
def level? (f : Filter) (target : Option String) : Option Level :=
  Directive.levelOf? f.static (.plain target)

/-- Directives put in their order, one after the other. -/
def sort (ds : List Directive) : List Directive := ds.foldl (fun ds d => d.insert ds) []

/-- The filter of a list of directives.  One that names no span, and asks for a field but not for a
value, belongs to both kinds. -/
def ofDirectives (ds : List Directive) : Filter :=
  let (dynamic, plain) := ds.partition fun d => d.scope.isDynamic
  ⟨sort (plain ++ dynamic.filter fun d => d.scope.isStatic), sort dynamic⟩

/-- Reads directives between commas; an empty piece is none. -/
def ofText? (text : String) : Option Filter :=
  (((Text.segments ',' text).filter (· ≠ "")).mapM Directive.ofText?).map ofDirectives

/-- Adds the directives between commas that can be read; blank pieces are none. -/
def addText (f : Filter) (text : String) : Filter :=
  let pieces := ((Text.segments ',' text).map Text.trim).filter (· ≠ "")
  (pieces.filterMap Directive.ofText?).foldl add f

/-- The text of a filter. -/
def text (f : Filter) : String :=
  String.intercalate "," ((f.static ++ f.dynamic).map Directive.text)

end Filter

end ApiContract.Logging
