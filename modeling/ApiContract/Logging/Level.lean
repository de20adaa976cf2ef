import ApiContract.Text.Case

/-
Levels: how much is written, from nothing at all to every detail.

Main definitions:

* `ApiContract.Logging.Level` — the levels;
* `ApiContract.Logging.Level.ofWord?` — the level that a word stands for.
-/

set_option autoImplicit false

namespace ApiContract.Logging

/-- How much is written. -/
inductive Level where
  | off
  | error
  | warn
  | info
  | debug
  | trace
  deriving DecidableEq, Repr

namespace Level

/-- The name of a level. -/
def name : Level → String
  | off => "off"
  | error => "error"
  | warn => "warn"
  | info => "info"
  | debug => "debug"
  | trace => "trace"

/-- The levels, in the order of their numbers. -/
def all : List Level := [off, error, warn, info, debug, trace]

/-- The level that a word or a number stands for, letter case apart. -/
def ofWord? (word : String) : Option Level :=
  match all.find? fun l => Text.eqIgnoringCase l.name word with
  | some l => some l
  | none =>
    let cs := match word.toList with | '+' :: ds => ds | ds => ds
    if cs ≠ [] ∧ cs.all Char.isDigit then
      all[cs.foldl (fun n d => 10 * n + (d.toNat - '0'.toNat)) 0]?
    else none

/-- The name of a level stands for it. -/
@[simp] theorem ofWord?_name (l : Level) : ofWord? l.name = some l := by
  cases l <;> decide +kernel

end Level

end ApiContract.Logging
