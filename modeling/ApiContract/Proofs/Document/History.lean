import ApiContract.Document.Store
import ApiContract.Proofs.FirstFailure
import Mathlib.Data.List.Induction

/-
The history of a store: which document is active, and what becomes of snapshots.

A history is a list of steps, each with the files as they are when it is taken; between two steps
the files may change in any way.  A step that fails leaves the store as it is, since it does nothing
to it before it has found a document.  What is active after a history is told by the last step that
put a document in, and a snapshot is what was active when it was taken, whatever comes later.

Main definitions:

* `ApiContract.Document.Unusable` — why a file gives no document without issues;
* `ApiContract.Store.Event`, `ApiContract.Store.run` — a step with its files, and a run of them;
* `ApiContract.Store.Puts`, `ApiContract.Store.Takes` — an event puts a document in, or takes a
  snapshot, after others;
* `ApiContract.Store.Since` — something has held since something else did.

Main results:

* `ApiContract.Document.load_eq_ok_iff`, `load_eq_error_iff` — when a file is loaded, and why not;
* `ApiContract.Store.run_step_eq_ok_iff` — what a step that succeeds does;
* `ApiContract.Store.eq_of_run_step_eq_error` — a step that fails does nothing;
* `ApiContract.Store.active_run_iff` — **the active document is the one that was put in last**;
* `ApiContract.Store.snapshots_suffix_run`, `snapshot?_run_iff` — snapshots stay, and are what was
  active;
* `ApiContract.Store.exists_active_run_of_files` — with files alone, it has no issues;
* `ApiContract.Store.run_history` — **what every history comes to**.
-/

set_option autoImplicit false

namespace ApiContract

open FirstFailure

/-! ### Loading a file -/

namespace Document

variable {files : Files} {path : String} {d : Document} {cause : LoadError}

/-- Why a file gives no document without issues. -/
inductive Unusable (files : Files) (path : String) : LoadError → Prop
  /-- The file cannot be read, or is no text. -/
  | unreadable : files.text? path = none → Unusable files path (.unreadable path)
  /-- The text writes no value. -/
  | unparsable {text : String} :
      files.text? path = some text → (Format.ofPath path).value? text = none →
      Unusable files path (.unparsable path (.malformed (Format.ofPath path)))
  /-- The sections of the value are malformed. -/
  | faulty {text : String} {v : Json} {fault : Fault} :
      files.text? path = some text → (Format.ofPath path).value? text = some v →
      ofJson v = .error fault → Unusable files path (.unparsable path (.faulty fault))
  /-- The document has issues. -/
  | defective {d : Document} :
      ofFile files path = .ok d → d.issues ≠ [] → Unusable files path (.defective path d.issues)

/-- A file is loaded when it is a document without issues. -/
theorem load_eq_ok_iff : load files path = .ok d ↔ ofFile files path = .ok d ∧ d.issues = [] := by
  unfold load
  rw [bind_eq_ok_iff]
  constructor
  · rintro ⟨found, hfile, h⟩
    split at h
    · next hissues =>
        cases h
        exact ⟨hfile, List.isEmpty_iff.1 hissues⟩
    · cases h
  · rintro ⟨hfile, hissues⟩
    exact ⟨d, hfile, by rw [if_pos (List.isEmpty_iff.2 hissues)]; rfl⟩

theorem ofText_eq_error_iff {format : Format} {text : String} {reason : TextError} :
    ofText format text = .error reason ↔
      (format.value? text = none ∧ reason = .malformed format) ∨
        ∃ v fault, format.value? text = some v ∧ ofJson v = .error fault ∧
          reason = .faulty fault := by
  unfold ofText
  cases hvalue : format.value? text with
  | none => simp [eq_comm]
  | some v => cases hsplit : ofJson v <;> simp [eq_comm, hsplit]

theorem ofFile_eq_error_iff :
    ofFile files path = .error cause ↔
      (files.text? path = none ∧ cause = .unreadable path) ∨
        ∃ text reason, files.text? path = some text ∧
          ofText (Format.ofPath path) text = .error reason ∧ cause = .unparsable path reason := by
  unfold ofFile
  cases htext : files.text? path with
  | none => simp [eq_comm]
  | some text => cases hread : ofText (Format.ofPath path) text <;> simp [eq_comm, hread]

theorem toOption_load_eq_some_iff :
    (load files path).toOption = some d ↔ load files path = .ok d := by
  cases load files path <;> simp [Except.toOption]

/-- A file is not loaded for exactly one of the reasons there are. -/
theorem load_eq_error_iff : load files path = .error cause ↔ Unusable files path cause := by
  unfold load
  rw [bind_eq_error_iff, ofFile_eq_error_iff]
  constructor
  · rintro ((⟨htext, rfl⟩ | ⟨text, reason, htext, hreason, rfl⟩) | ⟨d, hfile, h⟩)
    · exact .unreadable htext
    · rcases ofText_eq_error_iff.1 hreason with ⟨hvalue, rfl⟩ | ⟨v, fault, hvalue, hfault, rfl⟩
      · exact .unparsable htext hvalue
      · exact .faulty htext hvalue hfault
    · split at h
      · cases h
      · next hissues =>
          cases h
          exact .defective hfile fun hnil => hissues (List.isEmpty_iff.2 hnil)
  · intro h
    cases h with
    | unreadable htext => exact .inl (.inl ⟨htext, rfl⟩)
    | unparsable htext hvalue =>
        exact .inl (.inr ⟨_, _, htext, ofText_eq_error_iff.2 (.inl ⟨hvalue, rfl⟩), rfl⟩)
    | faulty htext hvalue hfault =>
        exact .inl (.inr ⟨_, _, htext,
          ofText_eq_error_iff.2 (.inr ⟨_, _, hvalue, hfault, rfl⟩), rfl⟩)
    | defective hfile hissues =>
        refine .inr ⟨_, hfile, ?_⟩
        rw [if_neg fun hempty => hissues (List.isEmpty_iff.1 hempty)]
        rfl

end Document

namespace Store

/-! ### Events and runs -/

/-- A step, with the files as they are when it is taken. -/
structure Event where
  files : Files
  step : Step

namespace Event

/-- The document that the event is given, or loads; a snapshot has none. -/
def document? (e : Event) : Option Document :=
  match e.step with
  | .new d | .replace d => some d
  | .openFile path | .reload path => (Document.load e.files path).toOption
  | .snapshot _ => none

/-- The event needs no store that has begun. -/
def Begins (e : Event) : Prop := (∃ d, e.step = .new d) ∨ ∃ path, e.step = .openFile path

theorem document?_eq_some_of_load {e : Event} {path : String} {d : Document}
    (hstep : e.step = .openFile path ∨ e.step = .reload path)
    (hload : Document.load e.files path = .ok d) : e.document? = some d := by
  rcases hstep with hstep | hstep <;> rw [document?, hstep] <;>
    exact Document.toOption_load_eq_some_iff.2 hload

/-- A document that is not given is loaded. -/
theorem exists_load_of_document? {e : Event} {d : Document} (hdocument : e.document? = some d)
    (h : ∀ d, e.step ≠ .new d ∧ e.step ≠ .replace d) :
    ∃ path, (e.step = .openFile path ∨ e.step = .reload path) ∧
      Document.load e.files path = .ok d := by
  cases hstep : e.step with
  | new d' => exact absurd hstep (h d').1
  | replace d' => exact absurd hstep (h d').2
  | snapshot name => simp [document?, hstep] at hdocument
  | openFile path | reload path =>
      rw [document?, hstep] at hdocument
      exact ⟨path, by simp, Document.toOption_load_eq_some_iff.1 hdocument⟩

end Event

/-- The store after an event, whether that succeeds or fails. -/
def after (s : Store) (e : Event) : Store :=
  match (step e.files e.step).run s with
  | .ok _ s' | .error _ s' => s'

/-- The store after some events, from nothing. -/
def run (events : List Event) : Store := events.foldl after empty

/-- The event succeeds after the others. -/
def Succeeds (before : List Event) (e : Event) : Prop :=
  ∃ s, (step e.files e.step).run (run before) = .ok () s

/-- The event succeeds after the others, and the document is the one that it puts in. -/
def Puts (before : List Event) (e : Event) (d : Document) : Prop :=
  Succeeds before e ∧ e.document? = some d

/-- The event takes a snapshot, after the others, of the document under the name. -/
def Takes (before : List Event) (e : Event) (name : String) (d : Document) : Prop :=
  e.step = .snapshot name ∧ (run before).active = some d

variable {events before later : List Event} {e : Event} {s s' : Store} {d : Document}
  {name path : String}

theorem run_concat (events : List Event) (e : Event) :
    run (events ++ [e]) = (run events).after e := by
  rw [run, List.foldl_append]
  rfl

theorem after_of_ok (h : (step e.files e.step).run s = .ok () s') : s.after e = s' := by
  rw [after, h]

/-! ### What a step does -/

theorem run_ofExcept {α : Type} (x : Except StepError α) (s : Store) :
    (ofExcept x : EStateM StepError Store α).run s =
      match x with
      | .ok a => .ok a s
      | .error err => .error err s := by
  cases x <;> rfl

/-- A step that succeeds puts its document in, or takes a snapshot of the active one. -/
theorem run_step_eq_ok_iff :
    (step e.files e.step).run s = .ok () s' ↔
      (e.Begins ∨ s.active ≠ none) ∧
        ((∃ d, e.document? = some d ∧ s.activate d = s') ∨
          ∃ name d, e.step = .snapshot name ∧ s.active = some d ∧ s.keep name d = s') := by
  obtain ⟨files, step⟩ := e
  cases step with
  | new d => simp [Store.step, Event.Begins, Event.document?]
  | openFile path =>
      cases hload : Document.load files path <;>
        simp [Store.step, run_ofExcept, load, Event.Begins, Event.document?, Except.toOption, hload]
  | replace d =>
      cases hactive : s.active <;>
        simp [Store.step, run_ofExcept, current, Event.Begins, Event.document?, hactive]
  | reload path =>
      cases hactive : s.active <;> cases hload : Document.load files path <;>
        simp [Store.step, run_ofExcept, current, load, Event.Begins, Event.document?,
          Except.toOption, hactive, hload]
  | snapshot name =>
      cases hactive : s.active <;>
        simp [Store.step, run_ofExcept, current, Event.Begins, Event.document?, hactive]

/-- A step that fails leaves the store as it is: nothing is done to it before it succeeds. -/
theorem eq_of_run_step_eq_error {files : Files} {st : Step} {err : StepError}
    (h : (step files st).run s = .error err s') : s' = s := by
  cases st with
  | new d => simp [Store.step] at h
  | openFile path =>
      cases hload : load files path <;> simp_all [Store.step, run_ofExcept]
  | replace d | snapshot name =>
      cases hcurrent : s.current <;> simp_all [Store.step, run_ofExcept]
  | reload path =>
      cases hcurrent : s.current <;> cases hload : load files path <;>
        simp_all [Store.step, run_ofExcept]

/-- Once a store has begun, a reload fails as its file does. -/
theorem run_reload_eq_error_iff {files : Files} {err : StepError} (hbegun : s.active ≠ none) :
    (step files (.reload path)).run s = .error err s' ↔
      s' = s ∧ ∃ cause, Document.load files path = .error cause ∧ err = .notLoaded cause := by
  obtain ⟨d, hactive⟩ := Option.ne_none_iff_exists'.1 hbegun
  cases hload : Document.load files path <;>
    simp [Store.step, run_ofExcept, current, load, hactive, hload, eq_comm, and_comm]

/-! ### What an event does after others -/

theorem puts_iff :
    Puts before e d ↔ e.document? = some d ∧ (e.Begins ∨ (run before).active ≠ none) := by
  constructor
  · rintro ⟨⟨s, hrun⟩, hdocument⟩
    exact ⟨hdocument, (run_step_eq_ok_iff.1 hrun).1⟩
  · rintro ⟨hdocument, hbegun⟩
    exact ⟨⟨_, run_step_eq_ok_iff.2 ⟨hbegun, .inl ⟨d, hdocument, rfl⟩⟩⟩, hdocument⟩

theorem Puts.run_eq (h : Puts before e d) : run (before ++ [e]) = (run before).activate d := by
  obtain ⟨hdocument, hbegun⟩ := puts_iff.1 h
  have hrun : (step e.files e.step).run (run before) = .ok () ((run before).activate d) :=
    run_step_eq_ok_iff.2 ⟨hbegun, .inl ⟨d, hdocument, rfl⟩⟩
  rw [run_concat, after_of_ok hrun]

theorem Takes.run_eq (h : Takes before e name d) :
    run (before ++ [e]) = (run before).keep name d := by
  obtain ⟨hstep, hactive⟩ := h
  have hbegun : (run before).active ≠ none := by simp [hactive]
  have hrun : (step e.files e.step).run (run before) = .ok () ((run before).keep name d) :=
    run_step_eq_ok_iff.2 ⟨.inr hbegun, .inr ⟨name, d, hstep, hactive, rfl⟩⟩
  rw [run_concat, after_of_ok hrun]

/-- An event that fails leaves the store as it is. -/
theorem run_of_not_succeeds (h : ¬Succeeds before e) : run (before ++ [e]) = run before := by
  rw [run_concat, after]
  cases hrun : (step e.files e.step).run (run before) with
  | ok _ s => exact absurd ⟨s, hrun⟩ h
  | error err s => exact eq_of_run_step_eq_error hrun

/-- An event puts a document in, takes a snapshot, or fails. -/
theorem puts_or_takes_or_not_succeeds (before : List Event) (e : Event) :
    (∃ d, Puts before e d) ∨ (∃ name d, Takes before e name d) ∨ ¬Succeeds before e := by
  by_cases h : Succeeds before e
  · obtain ⟨s, hrun⟩ := h
    rcases (run_step_eq_ok_iff.1 hrun).2 with ⟨d, hdocument, -⟩ | ⟨name, d, hname, hactive, -⟩
    · exact .inl ⟨d, ⟨s, hrun⟩, hdocument⟩
    · exact .inr (.inl ⟨name, d, hname, hactive⟩)
  · exact .inr (.inr h)

theorem Takes.not_puts (h : Takes before e name d) (d' : Document) : ¬Puts before e d' := by
  rintro ⟨-, hdocument⟩
  simp [Event.document?, h.1] at hdocument

/-! ### Since -/

/-- At some event of the run the first held, and at all events since the second has held; both look
at the events before theirs. -/
inductive Since (P Q : List Event → Event → Prop) : List Event → Prop
  | now {before : List Event} {e : Event} : P before e → Since P Q (before ++ [e])
  | still {before : List Event} {e : Event} :
      Since P Q before → Q before e → Since P Q (before ++ [e])

theorem not_since_nil {P Q : List Event → Event → Prop} : ¬Since P Q [] := by
  intro h
  generalize hnil : ([] : List Event) = events at h
  cases h <;> simp at hnil

theorem since_concat_iff {P Q : List Event → Event → Prop} :
    Since P Q (before ++ [e]) ↔ P before e ∨ (Since P Q before ∧ Q before e) := by
  constructor
  · intro h
    generalize hevents : before ++ [e] = events at h
    cases h with
    | now hP =>
        obtain ⟨rfl, rfl⟩ := List.append_singleton_inj.1 hevents
        exact .inl hP
    | still hsince hQ =>
        obtain ⟨rfl, rfl⟩ := List.append_singleton_inj.1 hevents
        exact .inr ⟨hsince, hQ⟩
  · rintro (hP | ⟨hsince, hQ⟩)
    · exact .now hP
    · exact .still hsince hQ

/-- What each event brings about, or leaves as it was, goes back to the last event that brought it
about. -/
theorem iff_since {P Q : List Event → Event → Prop} (holds : List Event → Prop)
    (hnil : ¬holds [])
    (hconcat : ∀ before e, holds (before ++ [e]) ↔ P before e ∨ (holds before ∧ Q before e))
    (events : List Event) : holds events ↔ Since P Q events := by
  induction events using List.reverseRecOn with
  | nil => exact iff_of_false hnil not_since_nil
  | append_singleton before e ih => rw [hconcat, since_concat_iff, ih]

/-! ### The active document -/

/-- What an event makes of the active document. -/
theorem active_run_concat_iff :
    (run (before ++ [e])).active = some d ↔
      Puts before e d ∨ ((run before).active = some d ∧ ∀ d', ¬Puts before e d') := by
  rcases puts_or_takes_or_not_succeeds before e with ⟨d', hputs⟩ | ⟨name, d', htakes⟩ | hfails
  · have honly : Puts before e d ↔ d' = d :=
      ⟨fun h => Option.some.inj (hputs.2.symm.trans h.2), fun h => h ▸ hputs⟩
    simp only [hputs.run_eq, activate_active, honly, Option.some.injEq]
    exact ⟨.inl, fun h => h.elim id fun h => absurd hputs (h.2 d')⟩
  · simp [htakes.run_eq, htakes.not_puts]
  · have hnone : ∀ d', ¬Puts before e d' := fun d' h => hfails h.1
    simp [run_of_not_succeeds hfails, hnone]

/-- The active document is the one that was put in last. -/
theorem active_run_iff (events : List Event) :
    (run events).active = some d ↔
      Since (Puts · · d) (fun before e => ∀ d', ¬Puts before e d') events :=
  iff_since (fun events => (run events).active = some d) (by simp [run, empty])
    (fun _ _ => active_run_concat_iff) events

/-- Once a file has been opened, and while only files are opened and reloaded, the active document
is without issues and is what its file held when it was last put in. -/
theorem exists_active_run_of_files {events : List Event}
    (h : Since (fun _ e => ∃ path d, e.step = .openFile path ∧ Document.load e.files path = .ok d)
      (fun _ e => ∀ d, e.step ≠ .new d ∧ e.step ≠ .replace d) events) :
    ∃ d, (run events).active = some d ∧ d.issues = [] ∧
      Since (fun before e => Puts before e d ∧ ∃ path,
          (e.step = .openFile path ∨ e.step = .reload path) ∧ Document.ofFile e.files path = .ok d)
        (fun before e => ∀ d', ¬Puts before e d') events := by
  -- on the events since the file was opened: each of them loads a document or puts none in
  induction h with
  | @now before e hopened =>
      obtain ⟨path, d, hstep, hload⟩ := hopened
      obtain ⟨hfile, hissues⟩ := Document.load_eq_ok_iff.1 hload
      have hputs : Puts before e d := puts_iff.2
        ⟨Event.document?_eq_some_of_load (.inl hstep) hload, .inl (.inr ⟨path, hstep⟩)⟩
      exact ⟨d, active_run_concat_iff.2 (.inl hputs), hissues,
        .now ⟨hputs, path, .inl hstep, hfile⟩⟩
  | @still before e _ hkind ih =>
      by_cases h : ∃ d, Puts before e d
      · obtain ⟨d, hputs⟩ := h
        obtain ⟨path, hstep, hload⟩ := Event.exists_load_of_document? hputs.2 hkind
        obtain ⟨hfile, hissues⟩ := Document.load_eq_ok_iff.1 hload
        exact ⟨d, active_run_concat_iff.2 (.inl hputs), hissues,
          .now ⟨hputs, path, hstep, hfile⟩⟩
      · obtain ⟨d, hactive, hissues, hlast⟩ := ih
        have hnone : ∀ d', ¬Puts before e d' := fun d' hputs => h ⟨d', hputs⟩
        exact ⟨d, active_run_concat_iff.2 (.inr ⟨hactive, hnone⟩), hissues, .still hlast hnone⟩

/-! ### Snapshots -/

/-- An event that takes no snapshot leaves the snapshots as they are. -/
theorem snapshots_run_concat_of_forall (h : ∀ name d, ¬Takes before e name d) :
    (run (before ++ [e])).snapshots = (run before).snapshots := by
  rcases puts_or_takes_or_not_succeeds before e with ⟨d', hputs⟩ | ⟨name, d', htakes⟩ | hfails
  · rw [hputs.run_eq, activate_snapshots]
  · exact absurd htakes (h name d')
  · rw [run_of_not_succeeds hfails]

/-- Snapshots stay where they are; later ones come before them. -/
theorem snapshots_suffix_run (before later : List Event) :
    (run before).snapshots <:+ (run (before ++ later)).snapshots := by
  induction later using List.reverseRecOn with
  | nil => simp
  | append_singleton later e ih =>
      rw [← List.append_assoc]
      refine ih.trans ?_
      by_cases h : ∃ name d, Takes (before ++ later) e name d
      · obtain ⟨name, d, htakes⟩ := h
        rw [htakes.run_eq]
        exact List.suffix_cons _ _
      · exact (snapshots_run_concat_of_forall fun name d htakes => h ⟨name, d, htakes⟩) ▸
          List.suffix_rfl

/-- What an event makes of the snapshot with a name. -/
theorem snapshot?_run_concat_iff :
    (run (before ++ [e])).snapshot? name = some d ↔
      Takes before e name d ∨
        ((run before).snapshot? name = some d ∧ ∀ d', ¬Takes before e name d') := by
  by_cases h : ∃ taken d', Takes before e taken d'
  · obtain ⟨taken, d', htakes⟩ := h
    have honly : ∀ name d, Takes before e name d ↔ name = taken ∧ d' = d := fun name d =>
      ⟨fun h => ⟨by simpa [htakes.1] using h.1.symm, Option.some.inj (htakes.2.symm.trans h.2)⟩,
        fun ⟨hname, hd⟩ => hname ▸ hd ▸ htakes⟩
    simp only [htakes.run_eq, snapshot?, keep_snapshots, List.lookup_cons, honly]
    by_cases hname : name = taken
    · simp [hname]
    · simp [hname, beq_false_of_ne hname]
  · have hnone : ∀ d', ¬Takes before e name d' := fun d' htakes => h ⟨name, d', htakes⟩
    rw [snapshot?, snapshots_run_concat_of_forall fun name d' htakes => h ⟨name, d', htakes⟩]
    simp [hnone, snapshot?]

/-- A snapshot is the document that was active when it was last taken. -/
theorem snapshot?_run_iff (events : List Event) :
    (run events).snapshot? name = some d ↔
      Since (Takes · · name d) (fun before e => ∀ d', ¬Takes before e name d') events :=
  iff_since (fun events => (run events).snapshot? name = some d)
    (by simp [run, empty, snapshot?]) (fun _ _ => snapshot?_run_concat_iff) events

/-- A snapshot stays where it was put, over those taken before it. -/
theorem Takes.suffix_run (h : Takes before e name d) (later : List Event) :
    (name, d) :: (run before).snapshots <:+ (run (before ++ e :: later)).snapshots := by
  have hlater := snapshots_suffix_run (before ++ [e]) later
  rwa [h.run_eq, keep_snapshots, List.append_assoc, List.singleton_append] at hlater

/-! ### Histories -/

/-- **What every history comes to**, with the files changing in any way between its steps.  The
active document is the one that was put in last, whatever has failed since; a reload fails as its
file does, and then changes nothing; a snapshot is what was active when it was taken. -/
theorem run_history (events : List Event) :
    -- Which events put a document in, and which document is active for it.
    (∀ e d, Puts events e d ↔
      e.document? = some d ∧ (e.Begins ∨ (run events).active ≠ none)) ∧
    (∀ d, (run events).active = some d ↔
      Since (Puts · · d) (fun before e => ∀ d', ¬Puts before e d') events) ∧
    -- An event that fails; a reload does so exactly when its file is of no use.
    (∀ e, ¬Succeeds events e → run (events ++ [e]) = run events) ∧
    ((run events).active ≠ none → ∀ files path err s,
      ((step files (.reload path)).run (run events) = .error err s ↔
        s = run events ∧
          ∃ cause, Document.load files path = .error cause ∧ err = .notLoaded cause)) ∧
    (∀ files path cause,
      Document.load files path = .error cause ↔ Document.Unusable files path cause) ∧
    -- Snapshots stay, and are found by name until one of the same name is taken.
    (∀ before e later name d, events = before ++ e :: later → Takes before e name d →
      (name, d) :: (run before).snapshots <:+ (run events).snapshots) ∧
    (∀ name d, (run events).snapshot? name = some d ↔
      Since (Takes · · name d) (fun before e => ∀ d', ¬Takes before e name d') events) ∧
    -- A file has been opened, and only files have been opened and reloaded since.
    (Since (fun _ e => ∃ path d, e.step = .openFile path ∧ Document.load e.files path = .ok d)
        (fun _ e => ∀ d, e.step ≠ .new d ∧ e.step ≠ .replace d) events →
      ∃ d, (run events).active = some d ∧ d.issues = [] ∧
        Since (fun before e => Puts before e d ∧ ∃ path,
            (e.step = .openFile path ∨ e.step = .reload path) ∧
              Document.ofFile e.files path = .ok d)
          (fun before e => ∀ d', ¬Puts before e d') events) := by
  refine ⟨fun e d => puts_iff, fun d => active_run_iff events, fun e => run_of_not_succeeds,
    fun hbegun files path err s => run_reload_eq_error_iff hbegun,
    fun files path cause => Document.load_eq_error_iff, ?_, fun name d => snapshot?_run_iff events,
    exists_active_run_of_files⟩
  rintro before e later name d rfl htakes
  exact htakes.suffix_run later

end Store

end ApiContract
