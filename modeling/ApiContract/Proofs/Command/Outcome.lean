import ApiContract.Command.Run
import ApiContract.Proofs.Document.History
import ApiContract.Proofs.Settings.Provenance

/-
What becomes of a command.

A check reads its settings, its document and its request, in this order, and fails at the first that
is of no use; then there is no report.  Otherwise the report tells the verdict.  The command that
lists issues reads a document without asking whether it has any, the others ask; still all of them
agree on what a document in good order is.

Main definitions:

* `ApiContract.Command.Effective` — the settings of a check, field by field;
* `ApiContract.Command.Asks` — the request of a check;
* `ApiContract.Command.Checks` — the outcome of a check;
* `ApiContract.Command.LintsClean` — a file in which no issues are found.

Main results:

* `ApiContract.Command.settings_eq_ok_iff`, `request_eq_ok_iff` and their counterparts — what each
  part of a check gives, and how it fails;
* `ApiContract.Command.lintsClean_iff_exists_load` — the documents without issues are those that are
  loaded;
* `ApiContract.Command.run_check_iff` — **what every check comes to**.
-/

set_option autoImplicit false

namespace ApiContract

open FirstFailure

namespace Http.Method

variable {m : Method} {name : String}

theorem ofString?_eq_some_iff : ofString? name = some m ↔ m.name = name := by
  unfold ofString?
  constructor
  · intro h
    split at h
    · split at h
      · cases h
        rfl
      · cases h
    · cases h
  · rintro rfl
    rw [dif_pos m.nonempty, dif_pos m.token]

/-- A text is no method if it is empty, or if a character in it stands in no token. -/
theorem ofString?_eq_none_iff :
    ofString? name = none ↔ name = "" ∨ ∃ c ∈ name.toList, isTokenChar c = false := by
  unfold ofString?
  by_cases hne : name = ""
  · simp [hne]
  · by_cases htoken : name.toList.all isTokenChar = true
    · rw [dif_pos hne, dif_pos htoken]
      simpa [hne] using htoken
    · rw [dif_pos hne, dif_neg htoken]
      simpa [hne] using htoken

end Http.Method

namespace Command

variable {files : Files} {environment : Environment} {a : CheckArguments} {e : CommandError}

/-! ### Settings -/

/-- The fields of the settings that a command line gives. -/
def given (a : CheckArguments) : Settings.Given := ⟨a.pathPrefix, a.version, a.binding⟩

/-- The settings of a check: each field as the command line gives it, or else as the settings file
does if there is one, or else as the environment does, or else its default. -/
inductive Effective (files : Files) (environment : Environment) (a : CheckArguments) :
    Settings → Prop
  | environment :
      a.config = none →
      Effective files environment a ((given a).or (.ofEnvironment environment)).settings
  | file {path : String} {g : Settings.Given} :
      a.config = some path → Settings.FileGives files path g →
      Effective files environment a ((given a).or g).settings

theorem settings_or (g : Settings.Given) :
    ((given a).or g).settings =
      ⟨a.pathPrefix.getD g.settings.pathPrefix, a.version.getD g.settings.version,
        a.binding.getD g.settings.binding⟩ := by
  simp [given, Settings.Given.or, Settings.Given.settings, Option.getD_or]

theorem settings_of_config_eq_none (h : a.config = none) :
    settings files environment a = .ok ((given a).or (.ofEnvironment environment)).settings := by
  rw [settings_or, Settings.Given.settings_ofEnvironment, settings, h]
  rfl

theorem settings_of_config_eq_some {path : String} (h : a.config = some path) :
    settings files environment a =
      match Settings.ofFile files path with
      | .ok base => .ok ⟨a.pathPrefix.getD base.pathPrefix, a.version.getD base.version,
          a.binding.getD base.binding⟩
      | .error cause => .error (.settings cause) := by
  rw [settings, h]
  dsimp only
  cases Settings.ofFile files path <;> rfl

theorem settings_eq_ok_iff {s : Settings} :
    settings files environment a = .ok s ↔ Effective files environment a s := by
  constructor
  · intro h
    cases hconfig : a.config with
    | none =>
      rw [settings_of_config_eq_none hconfig] at h
      cases h
      exact .environment hconfig
    | some path =>
      rw [settings_of_config_eq_some hconfig] at h
      split at h
      · next base hfile =>
          obtain ⟨g, hg, rfl⟩ := Settings.ofFile_eq_ok_iff.1 hfile
          cases h
          rw [← settings_or]
          exact .file hconfig hg
      · cases h
  · intro h
    cases h with
    | environment hconfig => exact settings_of_config_eq_none hconfig
    | @file path g hconfig hg =>
      rw [settings_of_config_eq_some hconfig, Settings.ofFile_eq_ok_iff.2 ⟨g, hg, rfl⟩, settings_or]

/-- The settings of a check fail with the settings file. -/
theorem settings_eq_error_iff :
    settings files environment a = .error e ↔
      ∃ path cause, a.config = some path ∧ Settings.Unusable files path cause ∧
        e = .settings cause := by
  constructor
  · intro h
    cases hconfig : a.config with
    | none =>
      rw [settings_of_config_eq_none hconfig] at h
      cases h
    | some path =>
      rw [settings_of_config_eq_some hconfig] at h
      split at h
      · cases h
      · next cause hfile =>
          cases h
          exact ⟨path, cause, rfl, Settings.ofFile_eq_error_iff.1 hfile, rfl⟩
  · rintro ⟨path, cause, hconfig, hunusable, rfl⟩
    rw [settings_of_config_eq_some hconfig, Settings.ofFile_eq_error_iff.2 hunusable]

/-! ### Requests -/

/-- The request of a check: its method in capitals, and the contents of a file as its payload if
there is one. -/
inductive Asks (files : Files) (a : CheckArguments) : Http.Request → Prop
  | empty {method : Http.Method} :
      method.name = Text.upper a.method → a.body = none →
      Asks files a (.ofPathAndQuery method a.url)
  | payload {method : Http.Method} {path : String} {bytes : ByteArray} :
      method.name = Text.upper a.method → a.body = some path → files path = some bytes →
      Asks files a ((Http.Request.ofPathAndQuery method a.url).withBody bytes)

/-- Why a check has no request. -/
inductive Unasked (files : Files) (a : CheckArguments) : CommandError → Prop
  | method :
      (Text.upper a.method = "" ∨ ∃ c ∈ (Text.upper a.method).toList, Http.isTokenChar c = false) →
      Unasked files a (.invalidMethod a.method)
  | body {method : Http.Method} {path : String} :
      method.name = Text.upper a.method → a.body = some path → files path = none →
      Unasked files a (.unreadableBody path)

theorem request_of_method_eq_none (h : Http.Method.ofString? (Text.upper a.method) = none) :
    request files a = .error (.invalidMethod a.method) := by
  rw [request, h]
  rfl

theorem request_of_method_eq_some {method : Http.Method}
    (h : Http.Method.ofString? (Text.upper a.method) = some method) :
    request files a =
      match a.body with
      | none => .ok (.ofPathAndQuery method a.url)
      | some path =>
        match files path with
        | some bytes => .ok ((Http.Request.ofPathAndQuery method a.url).withBody bytes)
        | none => .error (.unreadableBody path) := by
  rw [request, h]
  dsimp only
  cases a.body with
  | none => rfl
  | some path => cases hfile : files path <;> simp [hfile] <;> rfl

theorem request_eq_ok_iff {r : Http.Request} : request files a = .ok r ↔ Asks files a r := by
  constructor
  · intro h
    cases hmethod : Http.Method.ofString? (Text.upper a.method) with
    | none =>
      rw [request_of_method_eq_none hmethod] at h
      cases h
    | some method =>
      have hname := Http.Method.ofString?_eq_some_iff.1 hmethod
      rw [request_of_method_eq_some hmethod] at h
      split at h
      · next hbody =>
          cases h
          exact .empty hname hbody
      · next path hbody =>
          split at h
          · next bytes hfile =>
              cases h
              exact .payload hname hbody hfile
          · cases h
  · intro h
    cases h with
    | empty hname hbody =>
      rw [request_of_method_eq_some (Http.Method.ofString?_eq_some_iff.2 hname), hbody]
    | payload hname hbody hfile =>
      rw [request_of_method_eq_some (Http.Method.ofString?_eq_some_iff.2 hname), hbody]
      simp only [hfile]

theorem request_eq_error_iff : request files a = .error e ↔ Unasked files a e := by
  constructor
  · intro h
    cases hmethod : Http.Method.ofString? (Text.upper a.method) with
    | none =>
      rw [request_of_method_eq_none hmethod] at h
      cases h
      exact .method (Http.Method.ofString?_eq_none_iff.1 hmethod)
    | some method =>
      have hname := Http.Method.ofString?_eq_some_iff.1 hmethod
      rw [request_of_method_eq_some hmethod] at h
      split at h
      · cases h
      · next path hbody =>
          split at h
          · cases h
          · next hfile =>
              cases h
              exact .body hname hbody hfile
  · intro h
    cases h with
    | method hmethod =>
      exact request_of_method_eq_none (Http.Method.ofString?_eq_none_iff.2 hmethod)
    | body hname hbody hfile =>
      rw [request_of_method_eq_some (Http.Method.ofString?_eq_some_iff.2 hname), hbody]
      simp only [hfile]

/-! ### Outcomes of a check -/

/-- The outcome of a check.  It fails, in this order, with the settings file, with the document, or
with the request; otherwise it reports the verdict. -/
inductive Checks (files : Files) (environment : Environment) (a : CheckArguments) :
    Except CommandError Report → Prop
  | settings {path : String} {cause : SettingsError} :
      a.config = some path → Settings.Unusable files path cause →
      Checks files environment a (.error (.settings cause))
  | document {s : Settings} {cause : LoadError} :
      Effective files environment a s → Document.Unusable files a.spec cause →
      Checks files environment a (.error (.document cause))
  | request {s : Settings} {d : Document} {e : CommandError} :
      Effective files environment a s → Document.ofFile files a.spec = .ok d → d.issues = [] →
      Unasked files a e → Checks files environment a (.error e)
  | valid {s : Settings} {d : Document} {r : Http.Request} :
      Effective files environment a s → Document.ofFile files a.spec = .ok d → d.issues = [] →
      Asks files a r → validate s d r = .ok .valid →
      Checks files environment a (.ok ⟨0, "VALID\n"⟩)
  | invalid {s : Settings} {d : Document} {r : Http.Request} {refusal : Refusal} :
      Effective files environment a s → Document.ofFile files a.spec = .ok d → d.issues = [] →
      Asks files a r → validate s d r = .ok (.invalid refusal) →
      Checks files environment a
        (.ok ⟨1, s!"{refusal.kind.name} ({refusal.status}): {refusal.message}\n"⟩)
  | fault {s : Settings} {d : Document} {r : Http.Request} {fault : Fault} :
      Effective files environment a s → Document.ofFile files a.spec = .ok d → d.issues = [] →
      Asks files a r → validate s d r = .error fault →
      Checks files environment a (.ok ⟨2, fault.message ++ "\n"⟩)

theorem loadDocument_eq_ok_iff {path : String} {d : Document} :
    loadDocument files path = .ok d ↔ Document.ofFile files path = .ok d ∧ d.issues = [] := by
  rw [← Document.load_eq_ok_iff, loadDocument]
  cases Document.load files path <;> simp

theorem loadDocument_eq_error_iff {path : String} :
    loadDocument files path = .error e ↔
      ∃ cause, Document.Unusable files path cause ∧ e = .document cause := by
  simp only [← Document.load_eq_error_iff, loadDocument]
  cases Document.load files path <;> simp [eq_comm]

/-- With settings, a document in good order and a request, a check reports the verdict. -/
theorem runCheck_eq_ok {s : Settings} {d : Document} {r : Http.Request}
    (hs : Effective files environment a s) (hfile : Document.ofFile files a.spec = .ok d)
    (hissues : d.issues = []) (hr : Asks files a r) :
    runCheck files environment a = .ok (verdictReport (validate s d r)) := by
  rw [runCheck, settings_eq_ok_iff.2 hs, loadDocument_eq_ok_iff.2 ⟨hfile, hissues⟩,
    request_eq_ok_iff.2 hr]
  rfl

/-- **The outcome of a check**, whatever the command line, the files and the environment are. -/
theorem runCheck_eq_iff {outcome : Except CommandError Report} :
    runCheck files environment a = outcome ↔ Checks files environment a outcome := by
  constructor
  · rintro rfl
    rw [runCheck]
    cases hs : settings files environment a with
    | error e =>
      obtain ⟨path, cause, hconfig, hunusable, rfl⟩ := settings_eq_error_iff.1 hs
      exact .settings hconfig hunusable
    | ok s =>
      have hs := settings_eq_ok_iff.1 hs
      cases hd : loadDocument files a.spec with
      | error e =>
        obtain ⟨cause, hunusable, rfl⟩ := loadDocument_eq_error_iff.1 hd
        exact .document hs hunusable
      | ok d =>
        obtain ⟨hfile, hissues⟩ := loadDocument_eq_ok_iff.1 hd
        cases hr : request files a with
        | error e => exact .request hs hfile hissues (request_eq_error_iff.1 hr)
        | ok r =>
          have hr := request_eq_ok_iff.1 hr
          show Checks files environment a (.ok (verdictReport (validate s d r)))
          cases hv : validate s d r with
          | error fault => exact .fault hs hfile hissues hr hv
          | ok verdict =>
            cases verdict with
            | valid => exact .valid hs hfile hissues hr hv
            | invalid refusal => exact .invalid hs hfile hissues hr hv
  · intro h
    cases h with
    | @settings path cause hconfig hunusable =>
      rw [runCheck, settings_eq_error_iff.2 ⟨path, cause, hconfig, hunusable, rfl⟩]
      rfl
    | @document s cause hs hunusable =>
      rw [runCheck, settings_eq_ok_iff.2 hs, loadDocument_eq_error_iff.2 ⟨cause, hunusable, rfl⟩]
      rfl
    | request hs hfile hissues hunasked =>
      rw [runCheck, settings_eq_ok_iff.2 hs, loadDocument_eq_ok_iff.2 ⟨hfile, hissues⟩,
        request_eq_error_iff.2 hunasked]
      rfl
    | valid hs hfile hissues hr hv =>
      rw [runCheck_eq_ok hs hfile hissues hr, hv]
      rfl
    | invalid hs hfile hissues hr hv =>
      rw [runCheck_eq_ok hs hfile hissues hr, hv]
      rfl
    | fault hs hfile hissues hr hv =>
      rw [runCheck_eq_ok hs hfile hissues hr, hv]
      rfl

/-! ### Files without issues -/

/-- The command that lists issues finds none in the file. -/
def LintsClean (files : Files) (environment : Environment) (path : String) : Prop :=
  ∃ output, run files environment (.lint path) = .ok ⟨0, output⟩

variable {path : String}

theorem status_issueReport (path : String) (issues : List Issue) :
    (issueReport path issues).status = 0 ↔ issues = [] := by
  cases issues <;> simp [issueReport]

/-- No issues are found in a file exactly if the document in it is loaded. -/
theorem lintsClean_iff_exists_load :
    LintsClean files environment path ↔ ∃ d, loadDocument files path = .ok d := by
  simp only [loadDocument_eq_ok_iff, LintsClean, run]
  constructor
  · rintro ⟨output, h⟩
    split at h
    · next d hfile =>
        have hstatus : (issueReport path d.issues).status = 0 := by rw [Except.ok.inj h]
        exact ⟨d, hfile, (status_issueReport path d.issues).1 hstatus⟩
    · cases h
  · rintro ⟨d, hfile, hissues⟩
    rw [hfile]
    simp [issueReport, hissues]

theorem not_lintsClean_iff :
    ¬ LintsClean files environment path ↔ ∃ cause, Document.Unusable files path cause := by
  rw [lintsClean_iff_exists_load]
  constructor
  · intro h
    cases hload : loadDocument files path with
    | ok d => exact absurd ⟨d, hload⟩ h
    | error e =>
      obtain ⟨cause, hunusable, -⟩ := loadDocument_eq_error_iff.1 hload
      exact ⟨cause, hunusable⟩
  · rintro ⟨cause, hunusable⟩ ⟨d, hload⟩
    rw [loadDocument_eq_error_iff.2 ⟨cause, hunusable, rfl⟩] at hload
    cases hload

/-- The operations of a file are listed exactly if no issues are found in it. -/
theorem exists_run_routes_iff :
    (∃ report, run files environment (.routes path) = .ok report) ↔
      LintsClean files environment path := by
  rw [lintsClean_iff_exists_load, run]
  simp only [bind_eq_ok_iff]
  constructor
  · rintro ⟨report, d, hload, -⟩
    exact ⟨d, hload⟩
  · rintro ⟨d, hload⟩
    exact ⟨_, d, hload, rfl⟩

/-- A check whose settings are of use fails with its document exactly if that has issues, or cannot
be read. -/
theorem exists_run_check_eq_document_iff :
    (∃ cause, run files environment (.check a) = .error (.document cause)) ↔
      (∃ s, Effective files environment a s) ∧ ¬ LintsClean files environment a.spec := by
  simp only [run, runCheck_eq_iff, not_lintsClean_iff]
  constructor
  · rintro ⟨cause, h⟩
    cases h with
    | document hs hunusable => exact ⟨⟨_, hs⟩, cause, hunusable⟩
    | request _ _ _ hunasked => cases hunasked
  · rintro ⟨⟨s, hs⟩, cause, hunusable⟩
    exact ⟨cause, .document hs hunusable⟩

/-- **What every check comes to.**  It fails with the settings file, the document, the method or the
payload, in this order, and then reports nothing; otherwise it reports what validation says of its
request, with the settings that are put together field by field.  And it gets past its document, as
the listing of operations does, exactly if the command that lists issues finds none. -/
theorem run_check_iff (files : Files) (environment : Environment) (a : CheckArguments) :
    (∀ outcome, run files environment (.check a) = outcome ↔ Checks files environment a outcome) ∧
      ((∃ cause, run files environment (.check a) = .error (.document cause)) ↔
        (∃ s, Effective files environment a s) ∧ ¬ LintsClean files environment a.spec) ∧
      ((∃ report, run files environment (.routes a.spec) = .ok report) ↔
        LintsClean files environment a.spec) :=
  ⟨fun _ => runCheck_eq_iff, exists_run_check_eq_document_iff, exists_run_routes_iff⟩

example :
    run (fun _ => none) (fun _ => none)
      (.check ⟨"api.yaml", "get", "/", none, none, none, none, some "settings.toml"⟩) =
      .error (.settings (.unreadable "settings.toml")) := by
  decide +kernel

end Command

end ApiContract
