import ApiContract.Settings.Basic

/-
The command line: what it may say, and what it asks for.

There are three commands.  Options have a short and a long name, and their values stand in the same
argument or in the next.  An argument that begins with a hyphen is never the value of the option
before it.

Main definitions:

* `ApiContract.Command` — what a command line asks for;
* `ApiContract.UsageError` — why it asks for nothing, help and version included;
* `ApiContract.Command.ofArguments` — reads a command line.
-/

set_option autoImplicit false

namespace ApiContract

/-- What the command `check` is to check. -/
structure CheckArguments where
  spec : String
  method : String
  url : String
  body : Option String
  pathPrefix : Option String
  version : Option String
  binding : Option PathBinding
  config : Option String
  deriving DecidableEq, Repr

/-- What a command line asks for. -/
inductive Command where
  /-- Checks a request. -/
  | check (arguments : CheckArguments)
  /-- Lists the issues of a document. -/
  | lint (spec : String)
  /-- Lists the documented operations. -/
  | routes (spec : String)
  deriving DecidableEq, Repr

/-- Why a command line is not carried out. -/
inductive UsageError where
  /-- It asks for help. -/
  | help
  /-- It asks for the version. -/
  | version
  /-- It is empty. -/
  | noCommand
  | unknownCommand
  | unknownArgument
  /-- A required option is missing. -/
  | missingOption
  /-- An option is given twice. -/
  | repeatedOption
  /-- An option has no value, or an empty one where a path is due. -/
  | missingValue
  /-- The value of an option is none of the words that it may be. -/
  | invalidWord
  /-- A value is given where none is due. -/
  | uselessValue
  deriving DecidableEq, Repr

/-- The exit status for a command line that is not carried out. -/
def UsageError.status : UsageError → Nat
  | help => 0
  | version => 0
  | _ => 2

/-- The answer to a question for the version. -/
def versionLine : String := "oarv 0.1.0-alpha.1\n"

namespace Command

/-! ### Options -/

/-- The options. -/
inductive Opt where
  | spec
  | method
  | url
  | body
  | pathPrefix
  | version
  | binding
  | config
  deriving DecidableEq, Repr

namespace Opt

/-- The name behind two hyphens. -/
def long : Opt → String
  | spec => "spec"
  | method => "method"
  | url => "url"
  | body => "body"
  | pathPrefix => "prefix"
  | version => "api-version"
  | binding => "path-binding"
  | config => "config"

/-- The letter behind one hyphen. -/
def short? : Opt → Option Char
  | spec => some 's'
  | method => some 'm'
  | url => some 'u'
  | body => some 'b'
  | config => some 'c'
  | _ => none

/-- All options. -/
def all : List Opt := [spec, method, url, body, pathPrefix, version, binding, config]

/-- Whether the value is a path, which must not be empty. -/
def isPath : Opt → Bool
  | spec => true
  | body => true
  | config => true
  | _ => false

/-- What is wrong with a value, if anything. -/
def valueError? (o : Opt) (value : String) : Option UsageError :=
  if o.isPath ∧ value = "" then some .missingValue
  else if o = .binding ∧ (PathBinding.ofWord? value).isNone then some .invalidWord
  else none

end Opt

/-- A name, and the value behind an equals sign if there is one. -/
def parted (cs : List Char) : String × Option String :=
  (String.ofList (cs.takeWhile (· ≠ '=')),
    match cs.dropWhile (· ≠ '=') with
    | [] => none
    | _ :: value => some (String.ofList value))

/-! ### The arguments of a command -/

/-- A command line in part: options with their values, and the option that was read last, whose
value may still be to come. -/
structure Reading where
  given : List (Opt × String)
  pending : Option (Opt × Option String)

namespace Reading

/-- Takes an option with its value. -/
def take (r : Reading) (o : Opt) (value : String) : Except UsageError Reading :=
  if r.given.any fun g => g.1 = o then .error .repeatedOption
  else
    match o.valueError? value with
    | some e => .error e
    | none => .ok ⟨r.given ++ [(o, value)], none⟩

/-- Takes the option that was read last. -/
def settle (r : Reading) : Except UsageError Reading :=
  match r.pending with
  | none => .ok r
  | some (_, none) => .error .missingValue
  | some (o, some value) => ({ r with pending := none } : Reading).take o value

/-- Reads the name of an option, perhaps with a value behind it. -/
def name (r : Reading) (o : Opt) (value : Option String) : Except UsageError Reading := do
  let r ← r.settle
  match value with
  | some v => r.take o v
  | none => return { r with pending := some (o, none) }

/-- The help that is asked for between other arguments. -/
def help (r : Reading) : Except UsageError Reading := do
  let _ ← r.settle
  throw .help

/-- Reads an argument with two hyphens; `cs` is what follows them. -/
def longArgument (options : List Opt) (r : Reading) (cs : List Char) :
    Except UsageError Reading :=
  let (front, value) := parted cs
  if front = "help" then if value.isSome then .error .uselessValue else r.help
  else
    match options.find? fun o => o.long = front with
    | some o => r.name o value
    | none => .error .unknownArgument

/-- Reads an argument with one hyphen; `c` is the letter behind it and `cs` is what follows. -/
def shortArgument (options : List Opt) (r : Reading) (c : Char) (cs : List Char) :
    Except UsageError Reading :=
  if c = 'h' then r.help
  else
    match options.find? fun o => o.short? = some c with
    | some o =>
      match cs with
      | [] => r.name o none
      | '=' :: v => r.name o (some (String.ofList v))
      | v => r.name o (some (String.ofList v))
    | none => .error .unknownArgument

/-- Reads an argument. -/
def argument (options : List Opt) (r : Reading) (a : String) : Except UsageError Reading :=
  match a.toList with
  | '-' :: '-' :: cs => longArgument options r cs
  | '-' :: c :: cs => shortArgument options r c cs
  | _ =>
    match r.pending with
    | some (o, none) => .ok { r with pending := some (o, some a) }
    | _ => .error .unknownArgument

/-- Reads arguments.  Behind a bare `--` none may follow. -/
def arguments (options : List Opt) : Reading → List String → Except UsageError Reading
  | r, [] => r.settle
  | r, "--" :: rest => if rest.isEmpty then r.settle else .error .unknownArgument
  | r, a :: rest => do arguments options (← r.argument options a) rest

/-- The value of an option. -/
def value? (r : Reading) (o : Opt) : Option String := r.given.lookup o

/-- The value of a required option. -/
def required (r : Reading) (o : Opt) : Except UsageError String :=
  match r.value? o with
  | some v => .ok v
  | none => .error .missingOption

end Reading

/-- The command `check` with its arguments. -/
def readCheck (arguments : List String) : Except UsageError Command := do
  let r ← Reading.arguments Opt.all ⟨[], none⟩ arguments
  return .check {
    spec := ← r.required .spec
    url := ← r.required .url
    method := (r.value? .method).getD "GET"
    body := r.value? .body
    pathPrefix := r.value? .pathPrefix
    version := r.value? .version
    binding := (r.value? .binding).bind PathBinding.ofWord?
    config := r.value? .config }

/-- The document that a command with no other option is about. -/
def readSpec (arguments : List String) : Except UsageError String := do
  (← Reading.arguments [.spec] ⟨[], none⟩ arguments).required .spec

/-! ### Whole command lines -/

/-- The names of commands. -/
def names : List String := ["check", "lint", "routes", "help"]

/-- The error for a question for help with a command. -/
def helpFor : List String → UsageError
  | [] => .help
  | [name] => if names.contains name then .help else .unknownCommand
  | _ => .unknownCommand

/-- Reads a command line. -/
def ofArguments (arguments : List String) : Except UsageError Command :=
  match arguments with
  | [] => .error .noCommand
  | "check" :: rest => readCheck rest
  | "lint" :: rest => do return .lint (← readSpec rest)
  | "routes" :: rest => do return .routes (← readSpec rest)
  | "help" :: rest => .error (helpFor rest)
  | "--" :: rest =>
    match rest with
    | [] => .error .noCommand
    | name :: _ => .error (if names.contains name then .unknownArgument else .unknownCommand)
  | a :: _ =>
    match a.toList with
    | '-' :: '-' :: cs =>
      match parted cs with
      | ("help", none) => .error .help
      | ("version", none) => .error .version
      | ("help", some _) => .error .uselessValue
      | ("version", some _) => .error .uselessValue
      | _ => .error .unknownArgument
    | '-' :: c :: _ =>
      if c = 'h' then .error .help
      else if c = 'V' then .error .version
      else .error .unknownArgument
    | _ => .error .unknownCommand

end Command

end ApiContract
