import ApiContract.Files
import ApiContract.Settings.Basic
import ApiContract.Toml.Table
import ApiContract.Yaml.Value

/-
Where settings come from: the environment, or a file in TOML or YAML.

Fields that are absent have their defaults, and fields that are unknown are passed over.  In TOML a
field must be text, or for the mode a table with one empty field; in YAML any scalar is taken as
text.

Main definitions:

* `ApiContract.Settings.ofEnvironment` — settings from environment variables;
* `ApiContract.Settings.ofToml?`, `ApiContract.Settings.ofYaml?` — settings from text;
* `ApiContract.Settings.ofFile` — settings from a file, `ApiContract.SettingsError` otherwise.
-/

set_option autoImplicit false

namespace ApiContract

/-- Environment variables. -/
abbrev Environment := String → Option String

/-- Why a settings file is of no use. -/
inductive SettingsError where
  | unreadable (path : String)
  | unparsable (path : String)
  deriving DecidableEq, Repr

/-- The wording of the error. -/
def SettingsError.message : SettingsError → String
  | unreadable path => "Failed to read validator config: " ++ path
  | unparsable path => "Failed to parse validator config: " ++ path

namespace Settings

/-- Settings from environment variables.  A word for no mode counts as the default. -/
def ofEnvironment (environment : Environment) : Settings where
  pathPrefix := (environment "OARV_PATH_PREFIX").getD ""
  version := (environment "OARV_API_VERSION").getD ""
  binding := ((environment "OARV_PATH_BINDING").bind PathBinding.ofWord?).getD .template

/-! ### TOML -/

/-- The text under a key, or the empty one if the key is absent. -/
def tomlText? (entries : Toml.Entries) (key : String) : Option String :=
  match entries.lookup key with
  | none => some ""
  | some (.text s) => some s
  | some _ => none

/-- The mode that a table names, whose only key is the name, with nothing under it. -/
def tomlTableBinding? : Toml.Entries → Option PathBinding
  | [(name, item)] => if item.isEmpty then PathBinding.ofName? name else none
  | _ => none

/-- The mode under a key, or the default if the key is absent. -/
def tomlBinding? (entries : Toml.Entries) (key : String) : Option PathBinding :=
  match entries.lookup key with
  | none => some .template
  | some (.text s) => PathBinding.ofName? s
  | some (.inline inner) => tomlTableBinding? inner
  | some (.table _ inner) => tomlTableBinding? inner
  | some _ => none

/-- Settings from TOML text. -/
def ofToml? (text : String) : Option Settings := do
  let entries ← Toml.ofText? text
  return {
    pathPrefix := ← tomlText? entries "path_prefix"
    version := ← tomlText? entries "version"
    binding := ← tomlBinding? entries "path_binding" }

/-! ### YAML -/

/-- A mode, written as the text of a scalar or as the tag of an empty one. -/
def yamlBinding (source : Yaml.Source) (node : Yaml.Node) : StateT Nat Option PathBinding := do
  match ← source.target node with
  | .scalar tag text isPlain =>
    match tag.filter Yaml.isLocal with
    | some tag =>
      if isPlain ∧ (text = "" ∨ Yaml.isNull text) then
        StateT.lift (PathBinding.ofName? (String.ofList (tag.toList.drop 1)))
      else failure
    | none => StateT.lift (PathBinding.ofName? text)
  | _ => failure

/-- Reads the fields of a mapping, each known one at most once. -/
def yamlFields (source : Yaml.Source) :
    (pathPrefix version : Option String) → (binding : Option PathBinding) →
      List (Yaml.Node × Yaml.Node) → StateT Nat Option Settings
  | pathPrefix, version, binding, [] =>
    return ⟨pathPrefix.getD "", version.getD "", binding.getD .template⟩
  | pathPrefix, version, binding, (key, node) :: rest => do
    let key ← source.text key
    if key = "path_prefix" then
      if pathPrefix.isSome then failure
      yamlFields source (some (← source.text node)) version binding rest
    else if key = "version" then
      if version.isSome then failure
      yamlFields source pathPrefix (some (← source.text node)) binding rest
    else if key = "path_binding" then
      if binding.isSome then failure
      yamlFields source pathPrefix version (some (← yamlBinding source node)) rest
    else yamlFields source pathPrefix version binding rest

/-- Settings from YAML text.  Where there is no mapping, nothing may be written at all. -/
def ofYaml? (text : String) : Option Settings := do
  let source ← Yaml.Source.ofText? text
  match source.root with
  | none => return default
  | some root =>
    (do
      match ← source.target root with
      | .mapping _ entries => yamlFields source none none none entries
      | .scalar _ "" true => return default
      | _ => failure : StateT Nat Option Settings).run' 0

/-! ### Files -/

/-- Settings from a file; the extension tells TOML from YAML. -/
def ofFile (files : Files) (path : String) : Except SettingsError Settings :=
  match files.text? path with
  | none => .error (.unreadable path)
  | some text =>
    match if hasExtension "toml" path then ofToml? text else ofYaml? text with
    | some settings => .ok settings
    | none => .error (.unparsable path)

end Settings

end ApiContract
