import ApiContract.Document.Issue
import ApiContract.Files
import ApiContract.Json.Reader
import ApiContract.Yaml.Value

/-
Where documents come from: text in JSON or YAML, and files of such text.

Main definitions:

* `ApiContract.Format` — the two formats, `ApiContract.Format.ofPath`;
* `ApiContract.Document.ofText` — a document from text; `ApiContract.TextError` otherwise;
* `ApiContract.Document.ofFile` — a document from a file;
* `ApiContract.Document.load` — the same for a document without issues; `ApiContract.LoadError`
  otherwise.
-/

set_option autoImplicit false

namespace ApiContract

/-- The format of a specification text. -/
inductive Format where
  | yaml
  | json
  deriving DecidableEq, Repr

/-- The format that the extension of a path tells; it is YAML unless the extension is `json`. -/
def Format.ofPath (path : String) : Format := if hasExtension "json" path then .json else .yaml

/-- The name of a format. -/
def Format.name : Format → String
  | yaml => "YAML"
  | json => "JSON"

/-- The value that a text writes. -/
def Format.value? : Format → String → Option Json
  | json, text => Json.ofText? text
  | yaml, text => (Yaml.Source.ofText? text).bind Yaml.Source.toJson?

/-- Why a text is no document. -/
inductive TextError where
  /-- It is malformed. -/
  | malformed (format : Format)
  /-- It writes a value that is no document. -/
  | faulty (fault : Fault)
  deriving DecidableEq, Repr

/-- The wording of the error. -/
def TextError.message : TextError → String
  | malformed format => s!"invalid {format.name} specification"
  | faulty fault => fault.message

/-- Why a file is of no use. -/
inductive LoadError where
  | unreadable (path : String)
  | unparsable (path : String) (cause : TextError)
  /-- The document in it has issues. -/
  | defective (path : String) (issues : List Issue)
  deriving DecidableEq, Repr

/-- The wording of the error. -/
def LoadError.message : LoadError → String
  | unreadable path => "Failed to read specification: " ++ path
  | unparsable path _ => "Failed to parse specification: " ++ path
  | defective path issues =>
    s!"specification {path} has {issues.length} issue(s):\n{Issue.report issues}"

/-- What lies behind the error, if it is no error of its own. -/
def LoadError.cause? : LoadError → Option TextError
  | unparsable _ cause => some cause
  | _ => none

namespace Document

/-- The document that a text writes. -/
def ofText (format : Format) (text : String) : Except TextError Document :=
  match format.value? text with
  | none => .error (.malformed format)
  | some v =>
    match ofJson v with
    | .ok d => .ok d
    | .error fault => .error (.faulty fault)

/-- The document in a file. -/
def ofFile (files : Files) (path : String) : Except LoadError Document :=
  match files.text? path with
  | none => .error (.unreadable path)
  | some text =>
    match ofText (Format.ofPath path) text with
    | .ok d => .ok d
    | .error cause => .error (.unparsable path cause)

/-- The document in a file, if it has no issues. -/
def load (files : Files) (path : String) : Except LoadError Document := do
  let d ← ofFile files path
  if d.issues.isEmpty then return d else throw (.defective path d.issues)

end Document

end ApiContract
