import ApiContract.Logging.Filter
import ApiContract.Settings.Source

/-
Log settings: level, layout and filter of what the program writes about its own work.

Main definitions:

* `ApiContract.Logging.Settings` — the settings, `ApiContract.Logging.Settings.ofEnvironment`;
* `ApiContract.Logging.Settings.filter` — the filter that they amount to.
-/

set_option autoImplicit false

namespace ApiContract.Logging

/-- How events are laid out. -/
inductive Layout where
  | json
  | pretty
  deriving DecidableEq, Repr

namespace Layout

/-- The name of a layout. -/
def name : Layout → String
  | json => "json"
  | pretty => "pretty"

/-- The layout that a word stands for, letter case apart; every other word stands for JSON. -/
def ofWord (word : String) : Layout := if Text.lower word = "pretty" then pretty else json

end Layout

/-- Log settings. -/
structure Settings where
  /-- The level, as it was written. -/
  levelWord : String
  layout : Layout
  /-- Whether events are written in the background. -/
  background : Bool
  /-- Further directives, as they were written. -/
  targets : Option String
  /-- Whether events tell their place in the source. -/
  places : Bool
  deriving DecidableEq, Repr

namespace Settings

/-- The settings for development. -/
def development : Settings := ⟨"debug", .pretty, false, none, true⟩

/-- The settings for production. -/
def production : Settings := ⟨"info", .json, true, none, false⟩

/-- Whether a variable is set to `true`. -/
def flag (environment : Environment) (name : String) : Bool := environment name = some "true"

/-- Settings from environment variables. -/
def ofEnvironment (environment : Environment) : Settings where
  levelWord := (environment "OARV_LOG_LEVEL").getD "info"
  layout := Layout.ofWord ((environment "OARV_LOG_FORMAT").getD "json")
  background := flag environment "OARV_LOG_ASYNC"
  targets := environment "OARV_LOG_TARGET_FILTER"
  places := flag environment "OARV_LOG_INCLUDE_LOCATION"

/-- The level that the settings name; it is `info` unless the word is one of the other four. -/
def level (s : Settings) : Level :=
  let word := Text.lower s.levelWord
  if word = "trace" then .trace
  else if word = "debug" then .debug
  else if word = "warn" then .warn
  else if word = "error" then .error
  else .info

/-- The filter without further directives: the one of the environment, if it is there and can be
read, or else the level. -/
def baseFilter (s : Settings) (environment : Environment) : Filter :=
  ((environment "RUST_LOG").bind Filter.ofText?).getD
    (Filter.ofDirectives [⟨.plain none, s.level⟩])

/-- The filter that the settings amount to. -/
def filter (s : Settings) (environment : Environment) : Filter :=
  (s.baseFilter environment).addText (s.targets.getD "")

end Settings

end ApiContract.Logging
