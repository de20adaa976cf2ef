import ApiContract.Command.Arguments
import ApiContract.Conformance.Request
import ApiContract.Document.Listing
import ApiContract.Document.Source
import ApiContract.Settings.Source

/-
Carrying out commands, as a function of the files and of the environment.

Main definitions:

* `ApiContract.Report` — exit status and output of a command;
* `ApiContract.CommandError` — why a command has no report;
* `ApiContract.Command.run` — the report of a command;
* `ApiContract.Command.paths` — the files on which the report depends.
-/

set_option autoImplicit false

namespace ApiContract

/-- Exit status and output of a command. -/
structure Report where
  /-- Zero if all is well, one if a request is refused or a document has issues, two if a fault of
  the document was met. -/
  status : Nat
  output : String
  deriving DecidableEq, Repr

/-- Why a command has no report. -/
inductive CommandError where
  | settings (cause : SettingsError)
  | document (cause : LoadError)
  | invalidMethod (word : String)
  | unreadableBody (path : String)
  deriving DecidableEq, Repr

namespace CommandError

/-- The wording of the error. -/
def message : CommandError → String
  | settings cause => cause.message
  | document cause => cause.message
  | invalidMethod word => "Invalid HTTP method: " ++ word
  | unreadableBody path => "Failed to read request body: " ++ path

/-- What lies behind the error, if it is no error of its own. -/
def cause? : CommandError → Option TextError
  | document cause => cause.cause?
  | _ => none

end CommandError

namespace Command

/-- Settings of a check: each field from the command line if it is given there, or else from the
settings file if one is given, or else from the environment. -/
def settings (files : Files) (environment : Environment) (a : CheckArguments) :
    Except CommandError Settings := do
  let base ←
    match a.config with
    | none => pure (Settings.ofEnvironment environment)
    | some path =>
      match Settings.ofFile files path with
      | .ok s => pure s
      | .error cause => throw (.settings cause)
  return {
    pathPrefix := a.pathPrefix.getD base.pathPrefix
    version := a.version.getD base.version
    binding := a.binding.getD base.binding }

/-- The document in a file, if it has no issues. -/
def loadDocument (files : Files) (path : String) : Except CommandError Document :=
  match Document.load files path with
  | .ok d => .ok d
  | .error cause => .error (.document cause)

/-- The request of a check. -/
def request (files : Files) (a : CheckArguments) : Except CommandError Http.Request := do
  let some method := Http.Method.ofString? (Text.upper a.method) | throw (.invalidMethod a.method)
  let request := Http.Request.ofPathAndQuery method a.url
  match a.body with
  | none => return request
  | some path =>
    match files path with
    | some bytes => return request.withBody bytes
    | none => throw (.unreadableBody path)

/-- The report of a verdict. -/
def verdictReport : Except Fault Verdict → Report
  | .ok .valid => ⟨0, "VALID\n"⟩
  | .ok (.invalid r) => ⟨1, s!"{r.kind.name} ({r.status}): {r.message}\n"⟩
  | .error fault => ⟨2, fault.message ++ "\n"⟩

/-- The report of a check. -/
def runCheck (files : Files) (environment : Environment) (a : CheckArguments) :
    Except CommandError Report := do
  let settings ← settings files environment a
  let document ← loadDocument files a.spec
  let request ← request files a
  return verdictReport (validate settings document request)

/-- The report on the issues of a document. -/
def issueReport (path : String) (issues : List Issue) : Report :=
  if issues.isEmpty then ⟨0, s!"No issues found in {path}\n"⟩
  else ⟨1, Issue.report issues ++ s!"{issues.length} issue(s) found\n"⟩

/-- The report of a command. -/
def run (files : Files) (environment : Environment) : Command → Except CommandError Report
  | .check a => runCheck files environment a
  | .lint path =>
    match Document.ofFile files path with
    | .ok d => .ok (issueReport path d.issues)
    | .error cause => .error (.document cause)
  | .routes path => do
    let document ← loadDocument files path
    return ⟨0, document.listing.text⟩

/-- The files on which the report of a command depends. -/
def paths : Command → List String
  | .check a => a.spec :: (a.config.toList ++ a.body.toList)
  | .lint path => [path]
  | .routes path => [path]

end Command

end ApiContract
