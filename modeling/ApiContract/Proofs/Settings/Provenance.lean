import Mathlib.Data.Option.Basic
import ApiContract.Settings.Source

/-
Where the fields of settings come from.

A source gives some of the fields, and those that it does not give have their defaults.  Of two
sources one comes first: its fields count, and the other fills in what it leaves open.  A file in
TOML gives the keys of its root table, a file in YAML the keys of its root mapping, none of them
twice; other keys count for nothing.

Main definitions:

* `ApiContract.Settings.Given` — the fields that a source gives, `Given.or` and `Given.settings`;
* `ApiContract.Settings.YamlGives`, `TomlGives` — what the entries of a file give;
* `ApiContract.Settings.FileGives` — what a file gives.

Main results:

* `ApiContract.Settings.run_yamlFields_eq_some_iff` — **a run through the entries of a mapping**;
* `ApiContract.Settings.ofFile_eq_ok_iff`, `ofFile_eq_error_iff` — the settings of a file are what
  it gives, and the file is of no use if it cannot be read or gives nothing.
-/

set_option autoImplicit false

namespace ApiContract.Settings

/-! ### Fields that are given -/

/-- The fields that a source of settings gives. -/
structure Given where
  pathPrefix : Option String
  version : Option String
  binding : Option PathBinding

namespace Given

/-- No field at all. -/
def nothing : Given := ⟨none, none, none⟩

/-- The fields of the first source, and of the second one what the first leaves open. -/
def or (g h : Given) : Given :=
  ⟨g.pathPrefix.or h.pathPrefix, g.version.or h.version, g.binding.or h.binding⟩

/-- The settings with the fields that are given, all others having their defaults. -/
def settings (g : Given) : Settings where
  pathPrefix := g.pathPrefix.getD default.pathPrefix
  version := g.version.getD default.version
  binding := g.binding.getD default.binding

/-- No field is given by both sources. -/
structure Apart (g h : Given) : Prop where
  pathPrefix : g.pathPrefix = none ∨ h.pathPrefix = none
  version : g.version = none ∨ h.version = none
  binding : g.binding = none ∨ h.binding = none

variable {g h k : Given}

@[simp] theorem or_nothing (g : Given) : g.or nothing = g := by simp [or, nothing]

@[simp] theorem nothing_or (g : Given) : nothing.or g = g := by simp [or, nothing]

theorem or_assoc (g h k : Given) : (g.or h).or k = g.or (h.or k) := by simp [or, Option.or_assoc]

theorem Apart.nothing (g : Given) : g.Apart .nothing := ⟨.inr rfl, .inr rfl, .inr rfl⟩

theorem Apart.of_nothing (g : Given) : Given.nothing.Apart g := ⟨.inl rfl, .inl rfl, .inl rfl⟩

theorem once_or_iff {α : Type} (x y z : Option α) :
    (x = none ∨ y = none) ∧ (x.or y = none ∨ z = none) ↔
      (y = none ∨ z = none) ∧ (x = none ∨ y.or z = none) := by
  cases x <;> cases y <;> cases z <;> simp

/-- Of three sources no two give one field, in whatever order they are put together. -/
theorem apart_or_iff : g.Apart h ∧ (g.or h).Apart k ↔ h.Apart k ∧ g.Apart (h.or k) := by
  have hprefix := once_or_iff g.pathPrefix h.pathPrefix k.pathPrefix
  have hversion := once_or_iff g.version h.version k.version
  have hbinding := once_or_iff g.binding h.binding k.binding
  constructor
  · rintro ⟨hgh, hk⟩
    have h₁ := hprefix.1 ⟨hgh.pathPrefix, hk.pathPrefix⟩
    have h₂ := hversion.1 ⟨hgh.version, hk.version⟩
    have h₃ := hbinding.1 ⟨hgh.binding, hk.binding⟩
    exact ⟨⟨h₁.1, h₂.1, h₃.1⟩, ⟨h₁.2, h₂.2, h₃.2⟩⟩
  · rintro ⟨hhk, hg⟩
    have h₁ := hprefix.2 ⟨hhk.pathPrefix, hg.pathPrefix⟩
    have h₂ := hversion.2 ⟨hhk.version, hg.version⟩
    have h₃ := hbinding.2 ⟨hhk.binding, hg.binding⟩
    exact ⟨⟨h₁.1, h₂.1, h₃.1⟩, ⟨h₁.2, h₂.2, h₃.2⟩⟩

/-- What environment variables give; a word for no mode gives none. -/
def ofEnvironment (environment : Environment) : Given where
  pathPrefix := environment "OARV_PATH_PREFIX"
  version := environment "OARV_API_VERSION"
  binding := (environment "OARV_PATH_BINDING").bind PathBinding.ofWord?

theorem settings_ofEnvironment (environment : Environment) :
    (ofEnvironment environment).settings = Settings.ofEnvironment environment := rfl

end Given

/-! ### YAML -/

section Yaml

variable {α β : Type} {source : Yaml.Source} {n m : Nat}

theorem run_bind_eq_some_iff {x : StateT Nat Option α} {f : α → StateT Nat Option β} {b : β} :
    (x >>= f).run n = some (b, m) ↔
      ∃ a k, x.run n = some (a, k) ∧ (f a).run k = some (b, m) := by
  rw [StateT.run_bind]
  cases x.run n with
  | none => simp
  | some result =>
    obtain ⟨a, k⟩ := result
    simp only [Option.some.injEq, Prod.mk.injEq]
    constructor
    · exact fun h => ⟨a, k, ⟨rfl, rfl⟩, h⟩
    · rintro ⟨_, _, ⟨rfl, rfl⟩, h⟩
      exact h

/-- A field is read if it was not given before. -/
theorem run_once_eq_some_iff {given : Option α} {read : StateT Nat Option α}
    {next : α → StateT Nat Option β} {b : β} :
    (if given.isSome then do failure; next (← read) else do next (← read)).run n = some (b, m) ↔
      given = none ∧ ∃ a k, read.run n = some (a, k) ∧ (next a).run k = some (b, m) := by
  cases given with
  | none =>
    rw [Option.isSome_none, if_neg nofun, run_bind_eq_some_iff]
    exact ⟨fun h => ⟨rfl, h⟩, And.right⟩
  | some a =>
    rw [Option.isSome_some, if_pos rfl, run_bind_eq_some_iff]
    constructor
    · rintro ⟨_, _, hfailure, _⟩
      cases hfailure
    · rintro ⟨⟨⟩, -⟩

/-- What one entry of a mapping gives; `n` and the last number count the aliases that are replaced
before and after. -/
inductive EntryGives (source : Yaml.Source) (n : Nat) (key node : Yaml.Node) : Given → Nat → Prop
  | pathPrefix {k l : Nat} {value : String} :
      (source.text key).run n = some ("path_prefix", k) →
      (source.text node).run k = some (value, l) →
      EntryGives source n key node ⟨some value, none, none⟩ l
  | version {k l : Nat} {value : String} :
      (source.text key).run n = some ("version", k) →
      (source.text node).run k = some (value, l) →
      EntryGives source n key node ⟨none, some value, none⟩ l
  | binding {k l : Nat} {value : PathBinding} :
      (source.text key).run n = some ("path_binding", k) →
      (yamlBinding source node).run k = some (value, l) →
      EntryGives source n key node ⟨none, none, some value⟩ l
  /-- Any other key is passed over, and what stands under it is not read. -/
  | other {k : Nat} {name : String} :
      (source.text key).run n = some (name, k) →
      name ≠ "path_prefix" → name ≠ "version" → name ≠ "path_binding" →
      EntryGives source n key node .nothing k

/-- What the entries of a mapping give, if none of them gives a field again. -/
inductive YamlGives (source : Yaml.Source) :
    Nat → List (Yaml.Node × Yaml.Node) → Given → Nat → Prop
  | nil {n : Nat} : YamlGives source n [] .nothing n
  | cons {n k m : Nat} {key node : Yaml.Node} {rest : List (Yaml.Node × Yaml.Node)} {g h : Given} :
      EntryGives source n key node g k → YamlGives source k rest h m → g.Apart h →
      YamlGives source n ((key, node) :: rest) (g.or h) m

/-- One entry adds what it gives to what was given before, if that is not given again. -/
theorem run_yamlFields_cons {key node : Yaml.Node} {rest : List (Yaml.Node × Yaml.Node)} {h : Given}
    {s : Settings} :
    (yamlFields source h.pathPrefix h.version h.binding ((key, node) :: rest)).run n = some (s, m) ↔
      ∃ g k, EntryGives source n key node g k ∧ h.Apart g ∧
        (yamlFields source (h.or g).pathPrefix (h.or g).version (h.or g).binding rest).run k =
          some (s, m) := by
  simp only [yamlFields, run_bind_eq_some_iff]
  constructor
  · rintro ⟨name, k, hname, hrun⟩
    split at hrun
    · next heq =>
        obtain ⟨hnone, value, l, hread, hrun⟩ := run_once_eq_some_iff.1 hrun
        exact ⟨_, l, .pathPrefix (heq ▸ hname) hread, ⟨.inl hnone, .inr rfl, .inr rfl⟩,
          by simpa [Given.or, hnone] using hrun⟩
    next hprefix =>
    split at hrun
    · next heq =>
        obtain ⟨hnone, value, l, hread, hrun⟩ := run_once_eq_some_iff.1 hrun
        exact ⟨_, l, .version (heq ▸ hname) hread, ⟨.inr rfl, .inl hnone, .inr rfl⟩,
          by simpa [Given.or, hnone] using hrun⟩
    next hversion =>
    split at hrun
    · next heq =>
        obtain ⟨hnone, value, l, hread, hrun⟩ := run_once_eq_some_iff.1 hrun
        exact ⟨_, l, .binding (heq ▸ hname) hread, ⟨.inr rfl, .inr rfl, .inl hnone⟩,
          by simpa [Given.or, hnone] using hrun⟩
    · next hbinding =>
        exact ⟨.nothing, k, .other hname hprefix hversion hbinding, .nothing h,
          by simpa [Given.or, Given.nothing] using hrun⟩
  · rintro ⟨g, k, hentry, hapart, hrun⟩
    cases hentry with
    | pathPrefix hname hread =>
      have hnone : h.pathPrefix = none := hapart.pathPrefix.resolve_right nofun
      refine ⟨_, _, hname, ?_⟩
      rw [if_pos rfl, run_once_eq_some_iff]
      exact ⟨hnone, _, _, hread, by simpa [Given.or, hnone] using hrun⟩
    | version hname hread =>
      have hnone : h.version = none := hapart.version.resolve_right nofun
      refine ⟨_, _, hname, ?_⟩
      rw [if_neg (by decide), if_pos rfl, run_once_eq_some_iff]
      exact ⟨hnone, _, _, hread, by simpa [Given.or, hnone] using hrun⟩
    | binding hname hread =>
      have hnone : h.binding = none := hapart.binding.resolve_right nofun
      refine ⟨_, _, hname, ?_⟩
      rw [if_neg (by decide), if_neg (by decide), if_pos rfl, run_once_eq_some_iff]
      exact ⟨hnone, _, _, hread, by simpa [Given.or, hnone] using hrun⟩
    | other hname hprefix hversion hbinding =>
      refine ⟨_, _, hname, ?_⟩
      rw [if_neg hprefix, if_neg hversion, if_neg hbinding]
      simpa [Given.or, Given.nothing] using hrun

/-- **A run through the entries of a mapping** adds what they give to what was given before, if no
field is given twice. -/
theorem run_yamlFields_eq_some_iff {entries : List (Yaml.Node × Yaml.Node)} {h : Given}
    {s : Settings} :
    (yamlFields source h.pathPrefix h.version h.binding entries).run n = some (s, m) ↔
      ∃ g, YamlGives source n entries g m ∧ h.Apart g ∧ s = (h.or g).settings := by
  induction entries generalizing n h with
  | nil =>
    have hrun : (yamlFields source h.pathPrefix h.version h.binding []).run n =
        some ((h.or .nothing).settings, n) := by
      rw [Given.or_nothing]
      rfl
    rw [hrun]
    constructor
    · rintro ⟨⟩
      exact ⟨.nothing, .nil, .nothing h, rfl⟩
    · rintro ⟨g, hg, -, rfl⟩
      cases hg
      rfl
  | cons entry rest ih =>
    obtain ⟨key, node⟩ := entry
    rw [run_yamlFields_cons]
    constructor
    · rintro ⟨g, k, hentry, hapart, hrun⟩
      obtain ⟨g', hrest, hapart', rfl⟩ := ih.1 hrun
      obtain ⟨hlater, hboth⟩ := Given.apart_or_iff.1 ⟨hapart, hapart'⟩
      exact ⟨g.or g', .cons hentry hrest hlater, hboth, by rw [Given.or_assoc]⟩
    · rintro ⟨g, hg, hboth, rfl⟩
      cases hg with
      | @cons _ k _ _ _ _ e g hentry hrest hlater =>
        obtain ⟨hapart, hapart'⟩ := Given.apart_or_iff.2 ⟨hlater, hboth⟩
        exact ⟨e, k, hentry, hapart, ih.2 ⟨g, hrest, hapart', by rw [Given.or_assoc]⟩⟩

/-- What a text in YAML gives: nothing where it has no node or a blank one, or else what the
entries of its mapping give. -/
inductive YamlTextGives (text : String) : Given → Prop
  | empty {source : Yaml.Source} :
      Yaml.Source.ofText? text = some source → source.root = none → YamlTextGives text .nothing
  | blank {source : Yaml.Source} {root : Yaml.Node} {tag : Option String} {n : Nat} :
      Yaml.Source.ofText? text = some source → source.root = some root →
      (source.target root).run 0 = some (.scalar tag "" true, n) → YamlTextGives text .nothing
  | mapping {source : Yaml.Source} {root : Yaml.Node} {tag : Option String} {n m : Nat}
      {entries : List (Yaml.Node × Yaml.Node)} {g : Given} :
      Yaml.Source.ofText? text = some source → source.root = some root →
      (source.target root).run 0 = some (.mapping tag entries, n) →
      YamlGives source n entries g m → YamlTextGives text g

theorem run'_eq_some_iff {x : StateT Nat Option α} {a : α} :
    x.run' n = some a ↔ ∃ m, x.run n = some (a, m) := by
  rw [StateT.run'_eq, Option.map_eq_map, Option.map_eq_some_iff]
  simp

theorem ofYaml?_eq_some_iff {text : String} {s : Settings} :
    ofYaml? text = some s ↔ ∃ g, YamlTextGives text g ∧ s = g.settings := by
  unfold ofYaml?
  rw [Option.bind_eq_bind, Option.bind_eq_some_iff]
  constructor
  · rintro ⟨source, hsource, h⟩
    split at h
    · next hroot =>
        cases h
        exact ⟨.nothing, .empty hsource hroot, rfl⟩
    · next root hroot =>
        obtain ⟨m, hrun⟩ := run'_eq_some_iff.1 h
        obtain ⟨node, n, htarget, hrun⟩ := run_bind_eq_some_iff.1 hrun
        split at hrun
        · obtain ⟨g, hg, -, rfl⟩ := (run_yamlFields_eq_some_iff (h := .nothing)).1 hrun
          exact ⟨g, .mapping hsource hroot htarget hg, by rw [Given.nothing_or]⟩
        · cases hrun
          exact ⟨.nothing, .blank hsource hroot htarget, rfl⟩
        · cases hrun
  · rintro ⟨g, hg, rfl⟩
    cases hg with
    | @empty source hsource hroot => exact ⟨source, hsource, by rw [hroot]; rfl⟩
    | @blank source root tag n hsource hroot htarget =>
      refine ⟨source, hsource, ?_⟩
      rw [hroot]
      exact run'_eq_some_iff.2 ⟨n, run_bind_eq_some_iff.2 ⟨_, n, htarget, rfl⟩⟩
    | @mapping source root tag n m entries g hsource hroot htarget hgives =>
      refine ⟨source, hsource, ?_⟩
      rw [hroot]
      refine run'_eq_some_iff.2 ⟨m, run_bind_eq_some_iff.2 ⟨_, n, htarget, ?_⟩⟩
      exact (run_yamlFields_eq_some_iff (h := .nothing)).2
        ⟨g, hgives, .of_nothing g, by rw [Given.nothing_or]⟩

end Yaml

/-! ### TOML -/

/-- The text that an item is. -/
def itemText? : Toml.Item → Option String
  | .text s => some s
  | _ => none

/-- The mode that an item names: a text, or a table with one empty item under the name. -/
def itemBinding? : Toml.Item → Option PathBinding
  | .text s => PathBinding.ofName? s
  | .inline inner | .table _ inner => tomlTableBinding? inner
  | _ => none

/-- What a table gives for a key: nothing if it is absent, or else what its item is read as. -/
inductive TomlGives {α : Type} (read : Toml.Item → Option α) (entries : Toml.Entries)
    (key : String) : Option α → Prop
  | absent : entries.lookup key = none → TomlGives read entries key none
  | present {item : Toml.Item} {value : α} :
      entries.lookup key = some item → read item = some value →
      TomlGives read entries key (some value)

/-- What a text in TOML gives, by the keys of its root table. -/
def TomlTextGives (text : String) (g : Given) : Prop :=
  ∃ entries, Toml.ofText? text = some entries ∧
    TomlGives itemText? entries "path_prefix" g.pathPrefix ∧
    TomlGives itemText? entries "version" g.version ∧
    TomlGives itemBinding? entries "path_binding" g.binding

section Toml

variable {α : Type} {read : Toml.Item → Option α} {entries : Toml.Entries} {key : String}

/-- The item under a key as it is read, or a default if the key is absent. -/
theorem lookup_eq_some_iff {fallback value : α} :
    (match entries.lookup key with
      | none => some fallback
      | some item => read item) = some value ↔
      ∃ given, TomlGives read entries key given ∧ value = given.getD fallback := by
  constructor
  · intro h
    split at h
    · next hlookup => exact ⟨none, .absent hlookup, (Option.some.inj h).symm⟩
    · next item hlookup => exact ⟨some value, .present hlookup h, rfl⟩
  · rintro ⟨given, hgiven, rfl⟩
    cases hgiven with
    | absent hlookup => rw [hlookup]; rfl
    | present hlookup hread => rw [hlookup]; exact hread

theorem tomlText?_eq_some_iff {value : String} :
    tomlText? entries key = some value ↔
      ∃ given, TomlGives itemText? entries key given ∧ value = given.getD "" := by
  rw [← lookup_eq_some_iff, tomlText?]
  cases entries.lookup key with
  | none => rfl
  | some item => cases item <;> rfl

theorem tomlBinding?_eq_some_iff {value : PathBinding} :
    tomlBinding? entries key = some value ↔
      ∃ given, TomlGives itemBinding? entries key given ∧ value = given.getD .template := by
  rw [← lookup_eq_some_iff, tomlBinding?]
  cases entries.lookup key with
  | none => rfl
  | some item => cases item <;> rfl

theorem ofToml?_eq_some_iff {text : String} {s : Settings} :
    ofToml? text = some s ↔ ∃ g, TomlTextGives text g ∧ s = g.settings := by
  simp only [ofToml?, Option.bind_eq_bind, Option.bind_eq_some_iff, tomlText?_eq_some_iff,
    tomlBinding?_eq_some_iff]
  constructor
  · rintro ⟨entries, hentries, _, ⟨pathPrefix, hprefix, rfl⟩, _, ⟨version, hversion, rfl⟩, _,
      ⟨binding, hbinding, rfl⟩, ⟨⟩⟩
    exact ⟨⟨pathPrefix, version, binding⟩, ⟨entries, hentries, hprefix, hversion, hbinding⟩, rfl⟩
  · rintro ⟨g, ⟨entries, hentries, hprefix, hversion, hbinding⟩, rfl⟩
    exact ⟨entries, hentries, _, ⟨_, hprefix, rfl⟩, _, ⟨_, hversion, rfl⟩, _, ⟨_, hbinding, rfl⟩,
      rfl⟩

end Toml

/-! ### Files -/

/-- What a settings file gives; the extension tells TOML from YAML. -/
inductive FileGives (files : Files) (path : String) (g : Given) : Prop
  | toml {text : String} :
      files.text? path = some text → hasExtension "toml" path = true → TomlTextGives text g →
      FileGives files path g
  | yaml {text : String} :
      files.text? path = some text → hasExtension "toml" path = false → YamlTextGives text g →
      FileGives files path g

/-- Why a file gives no settings. -/
inductive Unusable (files : Files) (path : String) : SettingsError → Prop
  /-- The file cannot be read, or is no text. -/
  | unreadable : files.text? path = none → Unusable files path (.unreadable path)
  /-- The text is malformed, or a field in it is, or is given twice. -/
  | unparsable {text : String} :
      files.text? path = some text → (∀ g, ¬ FileGives files path g) →
      Unusable files path (.unparsable path)

variable {files : Files} {path : String} {s : Settings} {cause : SettingsError}

theorem read_eq_some_iff {text : String} (htext : files.text? path = some text) :
    (if hasExtension "toml" path then ofToml? text else ofYaml? text) = some s ↔
      ∃ g, FileGives files path g ∧ s = g.settings := by
  cases hext : hasExtension "toml" path with
  | true =>
    rw [if_pos rfl, ofToml?_eq_some_iff]
    refine exists_congr fun g => and_congr_left fun _ => ⟨.toml htext hext, ?_⟩
    rintro (⟨htext', -, hg⟩ | ⟨-, hext', -⟩)
    · exact Option.some.inj (htext.symm.trans htext') ▸ hg
    · cases hext.symm.trans hext'
  | false =>
    rw [if_neg nofun, ofYaml?_eq_some_iff]
    refine exists_congr fun g => and_congr_left fun _ => ⟨.yaml htext hext, ?_⟩
    rintro (⟨-, hext', -⟩ | ⟨htext', -, hg⟩)
    · cases hext.symm.trans hext'
    · exact Option.some.inj (htext.symm.trans htext') ▸ hg

theorem FileGives.exists_text {g : Given} (h : FileGives files path g) :
    ∃ text, files.text? path = some text := by
  cases h with
  | toml htext _ _ => exact ⟨_, htext⟩
  | yaml htext _ _ => exact ⟨_, htext⟩

/-- The settings of a file are what it gives, and the defaults of what it does not give. -/
theorem ofFile_eq_ok_iff :
    ofFile files path = .ok s ↔ ∃ g, FileGives files path g ∧ s = g.settings := by
  unfold ofFile
  cases htext : files.text? path with
  | none =>
    constructor
    · nofun
    · rintro ⟨g, hg, -⟩
      obtain ⟨text, htext'⟩ := hg.exists_text
      cases htext.symm.trans htext'
  | some text =>
    rw [← read_eq_some_iff htext]
    dsimp only
    split <;> simp_all

/-- A settings file is of no use if it cannot be read, or if its text gives nothing that settings
could be made of. -/
theorem ofFile_eq_error_iff : ofFile files path = .error cause ↔ Unusable files path cause := by
  unfold ofFile
  cases htext : files.text? path with
  | none =>
    constructor
    · rintro ⟨⟩
      exact .unreadable htext
    · rintro (_ | ⟨htext', -⟩)
      · rfl
      · cases htext.symm.trans htext'
  | some text =>
    have hread := fun s => read_eq_some_iff (s := s) htext
    dsimp only
    split
    · next s hsome =>
        obtain ⟨g, hg, -⟩ := (hread s).1 hsome
        refine ⟨nofun, ?_⟩
        rintro (htext' | ⟨-, hnone⟩)
        · cases htext.symm.trans htext'
        · exact absurd hg (hnone g)
    · next hnone =>
        constructor
        · rintro ⟨⟩
          refine .unparsable htext fun g hg => ?_
          have hsome := (hread g.settings).2 ⟨g, hg, rfl⟩
          rw [hnone] at hsome
          cases hsome
        · rintro (htext' | ⟨-, -⟩)
          · cases htext.symm.trans htext'
          · rfl

end ApiContract.Settings
