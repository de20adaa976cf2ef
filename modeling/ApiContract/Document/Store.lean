import ApiContract.Document.Source

/-
A store that holds the active document, and snapshots of it that outlive a replacement.

Main definitions:

* `ApiContract.Store` — the active document and the snapshots;
* `ApiContract.Store.Step` — what can be done to a store;
* `ApiContract.Store.step` — the effect of a step on a store, when it succeeds and when it fails.
-/

set_option autoImplicit false

namespace ApiContract

/-- The active document, unless none has been put in, and the named snapshots, latest first. -/
structure Store where
  active : Option Document
  snapshots : List (String × Document)

namespace Store

/-- A store into which nothing has been put. -/
def empty : Store := ⟨none, []⟩

/-- What can be done to a store. -/
inductive Step where
  /-- Begins with a document. -/
  | new (d : Document)
  /-- Begins with the document in a file. -/
  | openFile (path : String)
  /-- Replaces the active document. -/
  | replace (d : Document)
  /-- Replaces the active document by the one in a file. -/
  | reload (path : String)
  /-- Keeps the active document under a name. -/
  | snapshot (name : String)

/-- Why a step fails. -/
inductive StepError where
  /-- Nothing has been put in yet. -/
  | noStore
  | notLoaded (cause : LoadError)

/-- The store with another active document. -/
def activate (s : Store) (d : Document) : Store := { s with active := some d }

/-- The store with one snapshot more. -/
def keep (s : Store) (name : String) (d : Document) : Store :=
  { s with snapshots := (name, d) :: s.snapshots }

@[simp] theorem activate_active (s : Store) (d : Document) : (s.activate d).active = some d := rfl

@[simp] theorem activate_snapshots (s : Store) (d : Document) :
    (s.activate d).snapshots = s.snapshots := rfl

@[simp] theorem keep_active (s : Store) (name : String) (d : Document) :
    (s.keep name d).active = s.active := rfl

@[simp] theorem keep_snapshots (s : Store) (name : String) (d : Document) :
    (s.keep name d).snapshots = (name, d) :: s.snapshots := rfl

/-- The active document. -/
def current (s : Store) : Except StepError Document :=
  match s.active with
  | some d => .ok d
  | none => .error .noStore

/-- The document in a file, if it has no issues. -/
def load (files : Files) (path : String) : Except StepError Document :=
  match Document.load files path with
  | .ok d => .ok d
  | .error cause => .error (.notLoaded cause)

/-- The effect of a step on a store.  What has been done to the store before a failure stays done;
a document is loaded before it becomes active. -/
def step (files : Files) : Step → EStateM StepError Store Unit
  | .new d => modify (activate · d)
  | .openFile path => do
    let d ← ofExcept (load files path)
    modify (activate · d)
  | .replace d => do
    let _ ← ofExcept (← get).current
    modify (activate · d)
  | .reload path => do
    let _ ← ofExcept (← get).current
    let d ← ofExcept (load files path)
    modify (activate · d)
  | .snapshot name => do
    let d ← ofExcept (← get).current
    modify (keep · name d)

/-- The snapshot with a name. -/
def snapshot? (s : Store) (name : String) : Option Document := s.snapshots.lookup name

end Store

end ApiContract
