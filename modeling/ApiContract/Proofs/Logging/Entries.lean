import Mathlib.Data.List.Basic
import ApiContract.Proofs.Logging.Canonical

/-
The entries of a target filter.

A target filter is a text with entries between commas.  A plain entry says one thing: a level for
everything, everything about a target, or a level for a target.  The filter that the settings amount
to is the one that they begin with, amended by what the entries say: the last word on a target
holds, and what no entry speaks of stays as it was.

Main definitions:

* `ApiContract.Logging.Says` — what a plain entry says, by its text;
* `ApiContract.Logging.Idle` — entries that say nothing;
* `ApiContract.Logging.Amended` — a filter after entries;
* `ApiContract.Logging.Settings.Base` — the filter to begin with;
* `ApiContract.Logging.Padded` — entries with idle ones put among them.

Main results:

* `ApiContract.Logging.Directive.ofText?_eq_plain_iff` — the reader of directives against what
  plain entries say;
* `ApiContract.Logging.Filter.amended_foldl` — **a run of entries amends a filter**;
* `ApiContract.Logging.Amended.unique` — what is amended is told by its base and the entries;
* `ApiContract.Logging.Settings.filter_eq_iff_amended` — the filter of the settings is amended by
  their entries; idle ones do not matter, nor does the order of those about different targets.
-/

set_option autoImplicit false

namespace ApiContract.Logging

/-! ### Plain entries -/

/-- A name as it may stand in a plain entry. -/
structure IsName (name : String) : Prop where
  start : name.toList.head?.any Directive.isStart = true
  noEquals : '=' ∉ name.toList
  noBracket : '[' ∉ name.toList

theorem IsName.ne {name : String} (h : IsName name) : ∀ c ∈ name.toList, c ≠ '=' ∧ c ≠ '[' :=
  fun _ hc => ⟨fun heq => h.noEquals (heq ▸ hc), fun heq => h.noBracket (heq ▸ hc)⟩

theorem IsName.toList_ne_nil {name : String} (h : IsName name) : name.toList ≠ [] := fun hnil => by
  have hstart := h.start
  rw [hnil] at hstart
  cases hstart

theorem isName_ofList {name : List Char} (hstart : name.head?.any Directive.isStart = true)
    (hne : ∀ c ∈ name, c ≠ '=' ∧ c ≠ '[') : IsName (String.ofList name) where
  start := by rwa [String.toList_ofList]
  noEquals := by rw [String.toList_ofList]; exact fun hc => (hne _ hc).1 rfl
  noBracket := by rw [String.toList_ofList]; exact fun hc => (hne _ hc).2 rfl

/-- What a plain entry says: a level for a target, or for everything where no target is named. -/
inductive Says : String → Option String → Level → Prop
  /-- A word for a level stands for everything. -/
  | everything {word : String} {level : Level} :
      IsName word → Level.ofWord? word = some level → Says word none level
  /-- Every other name is a target, of which everything is let through. -/
  | target {name : String} :
      IsName name → Level.ofWord? name = none → Says name (some name) .trace
  /-- A level may stand behind an equals sign; where there is none, everything is let through. -/
  | level {name word : String} {level : Level} :
      IsName name → Directive.level? word.toList = some level →
      Says (name ++ "=" ++ word) (some name) level

/-- An entry that says nothing: it is blank, or it cannot be read. -/
def Idle (entry : String) : Prop :=
  Text.trim entry = "" ∨ Directive.ofText? (Text.trim entry) = none

/-- An entry has a word on a target. -/
def Mentions (entry : String) (target : Option String) : Prop :=
  ∃ level, Says (Text.trim entry) target level

theorem trim_trim (s : String) : Text.trim (Text.trim s) = Text.trim s := by
  rw [← String.toList_inj, Text.toList_trim, Text.toList_trim, Text.trimWhere_trimWhere]

namespace Directive

variable {name rest cs : List Char} {text : String} {target : Option String} {level : Level}

/-- A directive with brackets is about spans. -/
theorem scope_ne_plain_of_directive? {b : Bounds} {d : Directive} (h : b.directive? cs = some d) :
    d.scope ≠ .plain target := by
  intro hscope
  simp only [Bounds.directive?] at h
  split at h
  · obtain ⟨level, -, rfl⟩ := Option.map_eq_some_iff.1 h
    simp [Scope.plain] at hscope
  · split at h
    · cases h
    · obtain ⟨condition, -, h⟩ := Option.bind_eq_some_iff.1 h
      obtain ⟨level, -, rfl⟩ := Option.map_eq_some_iff.1 h
      simp [Scope.plain] at hscope

/-- What is read of a text is told by what stands before its first equals sign or bracket, and by
what follows. -/
theorem ofText?_split (name rest : List Char)
    (htrim : Text.trimWhere Text.isBlank (name ++ rest) = name ++ rest)
    (hname : ∀ c ∈ name, c ≠ '=' ∧ c ≠ '[') (hrest : ∀ c ∈ rest.head?, c = '=' ∨ c = '[') :
    ofText? (String.ofList (name ++ rest)) =
      if ¬ (name ++ rest).head?.any isStart then none
      else match rest with
        | [] =>
          match Level.ofWord? (String.ofList name) with
          | some level => some ⟨.plain none, level⟩
          | none => some ⟨.plain (some (String.ofList name)), .trace⟩
        | '=' :: word =>
          (level? word).map fun level => ⟨.plain (some (String.ofList name)), level⟩
        | _ :: inner =>
          (Bounds.ofInner? (Text.byteLength name) inner).bind (·.directive? (name ++ rest)) := by
  have htake : (name ++ rest).takeWhile (fun c => c ≠ '=' ∧ c ≠ '[') = name := by
    rw [List.takeWhile_append_of_pos fun c hc => decide_eq_true (hname c hc)]
    cases rest with
    | nil => exact List.append_nil name
    | cons c rest =>
      have hc : ¬ (c ≠ '=' ∧ c ≠ '[') := fun hne => (hrest c rfl).elim hne.1 hne.2
      rw [List.takeWhile_cons_of_neg (by simpa using hc), List.append_nil]
  have hdrop (c : Char) (word : List Char) (hc : c.utf8Size = 1) :
      Text.dropBytes (Text.byteLength name + 1) (name ++ c :: word) = word := by
    have h := Text.dropBytes_append (name ++ [c]) word
    rwa [Text.byteLength_append, Text.byteLength_cons, hc, List.append_assoc] at h
  unfold ofText?
  simp only [String.toList_ofList, htrim, htake, List.drop_left]
  split
  · rfl
  · cases rest with
    | nil =>
      cases hword : Level.ofWord? (String.ofList name) <;> simp only [List.append_nil, hword]
    | cons c word =>
      rcases hrest c rfl with rfl | rfl
      · simp only [hdrop '=' word rfl, Text.takeBytes_append]
      · rfl

theorem ofText?_name (h : IsName text) (htrim : Text.trim text = text) :
    ofText? text = match Level.ofWord? text with
      | some level => some ⟨.plain none, level⟩
      | none => some ⟨.plain (some text), .trace⟩ := by
  have hbody : Text.trimWhere Text.isBlank (text.toList ++ []) = text.toList ++ [] := by
    rw [List.append_nil, ← Text.toList_trim, htrim]
  have hread := ofText?_split text.toList [] hbody h.ne (by simp)
  simpa [h.start] using hread

theorem toList_append_level (name word : String) :
    (name ++ "=" ++ word).toList = name.toList ++ '=' :: word.toList := by simp

theorem ofText?_level {name word : String} (h : IsName name)
    (htrim : Text.trim (name ++ "=" ++ word) = name ++ "=" ++ word) :
    ofText? (name ++ "=" ++ word) =
      (level? word.toList).map fun level => ⟨.plain (some name), level⟩ := by
  have hbody : Text.trimWhere Text.isBlank (name.toList ++ '=' :: word.toList) =
      name.toList ++ '=' :: word.toList := by
    rw [← toList_append_level, ← Text.toList_trim, htrim]
  have hread := ofText?_split name.toList ('=' :: word.toList) hbody h.ne (by simp)
  have hstart : (name.toList ++ '=' :: word.toList).head?.any isStart = true := by
    rw [List.head?_append_of_ne_nil name.toList h.toList_ne_nil]
    exact h.start
  rw [← toList_append_level, String.ofList_toList, toList_append_level, if_neg (not_not.2 hstart),
    String.ofList_toList] at hread
  exact hread

/-- A text is cut before its first equals sign or bracket. -/
theorem exists_cut (cs : List Char) :
    ∃ name rest, cs = name ++ rest ∧ (∀ c ∈ name, c ≠ '=' ∧ c ≠ '[') ∧
      ∀ c ∈ rest.head?, c = '=' ∨ c = '[' := by
  induction cs with
  | nil => exact ⟨[], [], rfl, nofun, nofun⟩
  | cons c cs ih =>
    by_cases hc : c = '=' ∨ c = '['
    · exact ⟨[], c :: cs, rfl, nofun, fun d hd => Option.some.inj hd ▸ hc⟩
    · obtain ⟨name, rest, rfl, hname, hrest⟩ := ih
      exact ⟨c :: name, rest, rfl, List.forall_mem_cons.2 ⟨not_or.1 hc, hname⟩, hrest⟩

/-- A plain directive is read of a name, or of a name with a level behind it. -/
theorem exists_name_of_ofText? {d : Directive} (h : ofText? text = some d)
    (htrim : Text.trim text = text) (hplain : d.scope = .plain target) :
    IsName text ∨ ∃ name word, IsName name ∧ text = name ++ "=" ++ word := by
  obtain ⟨name, rest, hcut, hname, hrest⟩ := exists_cut text.toList
  have htext : text = String.ofList (name ++ rest) := by rw [← hcut, String.ofList_toList]
  have hbody : Text.trimWhere Text.isBlank (name ++ rest) = name ++ rest := by
    rw [← hcut, ← Text.toList_trim, htrim]
  rw [htext, ofText?_split name rest hbody hname hrest] at h
  split at h
  · cases h
  next hstart =>
    rw [not_not] at hstart
    cases rest with
    | nil =>
      rw [List.append_nil] at htext hstart
      exact .inl (htext ▸ isName_ofList hstart hname)
    | cons c word =>
      rcases hrest c rfl with rfl | rfl
      · -- an equals sign does not begin a directive, so there is a name before it
        have hequals : isStart '=' = false := by decide +kernel
        have hnonempty : name ≠ [] := by rintro rfl; simp [hequals] at hstart
        rw [List.head?_append_of_ne_nil name hnonempty] at hstart
        refine .inr ⟨_, String.ofList word, isName_ofList hstart hname, ?_⟩
        rw [htext, ← String.toList_inj, toList_append_level]
        simp
      · obtain ⟨b, -, h⟩ := Option.bind_eq_some_iff.1 h
        exact absurd hplain (scope_ne_plain_of_directive? h)

theorem plain_inj {target target' : Option String} {level level' : Level} :
    (⟨.plain target, level⟩ : Directive) = ⟨.plain target', level'⟩ ↔
      target = target' ∧ level = level' := by
  simp [Scope.plain]

/-- **The reader of directives gives a plain directive for what a plain entry says.** -/
theorem ofText?_eq_plain_iff (htrim : Text.trim text = text) :
    ofText? text = some ⟨.plain target, level⟩ ↔ Says text target level := by
  constructor
  · intro h
    rcases exists_name_of_ofText? h htrim rfl with hname | ⟨name, word, hname, rfl⟩
    · rw [ofText?_name hname htrim] at h
      split at h
      · next hword =>
          obtain ⟨rfl, rfl⟩ := plain_inj.1 (Option.some.inj h)
          exact .everything hname hword
      · next hword =>
          obtain ⟨rfl, rfl⟩ := plain_inj.1 (Option.some.inj h)
          exact .target hname hword
    · rw [ofText?_level hname htrim] at h
      obtain ⟨level', hlevel, heq⟩ := Option.map_eq_some_iff.1 h
      obtain ⟨rfl, rfl⟩ := plain_inj.1 heq
      exact .level hname hlevel
  · intro h
    cases h with
    | everything hname hword => rw [ofText?_name hname htrim, hword]
    | target hname hword => rw [ofText?_name hname htrim, hword]
    | level hname hlevel => rw [ofText?_level hname htrim, hlevel]; rfl

end Directive

theorem mentions_iff {entry : String} {target : Option String} :
    Mentions entry target ↔
      ∃ level, Directive.ofText? (Text.trim entry) = some ⟨.plain target, level⟩ := by
  simp only [Mentions, Directive.ofText?_eq_plain_iff (trim_trim entry)]

theorem idle_iff {entry : String} :
    Idle entry ↔ Directive.ofText? (Text.trim entry) = none := by
  constructor
  · rintro (hblank | hread)
    · rw [hblank]; rfl
    · exact hread
  · exact .inr

/-- An entry is plain, or it says nothing. -/
def Clear (entry : String) : Prop := (∃ target, Mentions entry target) ∨ Idle entry

/-- The last entry with a word on a target, if there is one. -/
theorem exists_last_mention (entries : List String) (target : Option String) :
    (∀ entry ∈ entries, ¬ Mentions entry target) ∨
      ∃ before entry after, entries = before ++ entry :: after ∧ Mentions entry target ∧
        ∀ later ∈ after, ¬ Mentions later target := by
  induction entries with
  | nil => exact .inl nofun
  | cons entry rest ih =>
    rcases ih with hnone | ⟨before, last, after, rfl, hlast⟩
    · by_cases hm : Mentions entry target
      · exact .inr ⟨[], entry, rest, rfl, hm, hnone⟩
      · exact .inl (List.forall_mem_cons.2 ⟨hm, hnone⟩)
    · exact .inr ⟨entry :: before, last, after, rfl, hlast⟩

/-! ### Filters after entries -/

/-- A filter after entries: on a target the last word holds, and what no entry speaks of is as it
is in the filter to begin with. -/
structure Amended (base : Filter) (entries : List String) (f : Filter) : Prop where
  canonical : Directive.Canonical f.static
  dynamic : f.dynamic = base.dynamic
  mentioned : ∀ {before after : List String} {entry : String} {target : Option String}
    {level : Level}, entries = before ++ entry :: after → Says (Text.trim entry) target level →
    (∀ later ∈ after, ¬ Mentions later target) → f.level? target = some level
  unmentioned : ∀ {scope : Scope},
    (∀ entry ∈ entries, ∀ target, Mentions entry target → scope ≠ .plain target) →
    Directive.levelOf? f.static scope = Directive.levelOf? base.static scope

namespace Filter

variable {f base : Filter} {entry : String} {entries : List String} {target : Option String}
  {level : Level}

theorem level?_eq_levelOf? (f : Filter) (target : Option String) :
    f.level? target = Directive.levelOf? f.static (.plain target) := rfl

/-- Adds what an entry says. -/
def addEntry (f : Filter) (entry : String) : Filter :=
  match Directive.ofText? (Text.trim entry) with
  | some d => f.add d
  | none => f

/-- The entries of a text are added one after the other. -/
theorem addText_eq_foldl (f : Filter) (text : String) :
    f.addText text = (Text.segments ',' text).foldl addEntry f := by
  simp only [addText]
  generalize Text.segments ',' text = entries
  induction entries generalizing f with
  | nil => rfl
  | cons entry rest ih =>
    rw [List.foldl_cons, ← ih, List.map_cons]
    by_cases hblank : Text.trim entry = ""
    · have hidle : f.addEntry entry = f := by rw [addEntry, idle_iff.1 (.inl hblank)]
      rw [List.filter_cons_of_neg (by simpa using hblank), hidle]
    · rw [List.filter_cons_of_pos (by simpa using hblank), List.filterMap_cons, addEntry]
      cases Directive.ofText? (Text.trim entry) <;> rfl

theorem addEntry_of_idle (h : Idle entry) : f.addEntry entry = f := by
  rw [addEntry, idle_iff.1 h]

theorem addEntry_of_plain (h : Says (Text.trim entry) target level) :
    f.addEntry entry = { f with static := Directive.insert ⟨.plain target, level⟩ f.static } := by
  rw [addEntry, (Directive.ofText?_eq_plain_iff (trim_trim entry)).2 h]
  rfl

/-- What an entry keeps of a filter: the order, the directives about spans, and the levels of the
scopes that it does not speak of. -/
theorem addEntry_keeps (hf : Directive.Canonical f.static) (h : Clear entry) :
    Directive.Canonical (f.addEntry entry).static ∧ (f.addEntry entry).dynamic = f.dynamic ∧
      ∀ scope, (∀ target, Mentions entry target → scope ≠ .plain target) →
        Directive.levelOf? (f.addEntry entry).static scope =
          Directive.levelOf? f.static scope := by
  rcases h with ⟨target, level, hsays⟩ | hidle
  · rw [addEntry_of_plain hsays]
    refine ⟨hf.insert rfl, rfl, fun scope hscope => ?_⟩
    rw [hf.levelOf?_insert rfl, if_neg (hscope target ⟨level, hsays⟩).symm]
  · rw [addEntry_of_idle hidle]
    exact ⟨hf, rfl, fun _ _ => rfl⟩

/-- A run of entries keeps what each of them keeps. -/
theorem foldl_addEntry_keeps (hf : Directive.Canonical f.static)
    (h : ∀ entry ∈ entries, Clear entry) :
    Directive.Canonical (entries.foldl addEntry f).static ∧
      (entries.foldl addEntry f).dynamic = f.dynamic ∧
      ∀ scope, (∀ entry ∈ entries, ∀ target, Mentions entry target → scope ≠ .plain target) →
        Directive.levelOf? (entries.foldl addEntry f).static scope =
          Directive.levelOf? f.static scope := by
  induction entries generalizing f with
  | nil => exact ⟨hf, rfl, fun _ _ => rfl⟩
  | cons entry rest ih =>
    obtain ⟨hentry, hrest⟩ := List.forall_mem_cons.1 h
    obtain ⟨hcanonical, hdynamic, hlevel⟩ := addEntry_keeps hf hentry
    obtain ⟨hcanonical', hdynamic', hlevel'⟩ := ih hcanonical hrest
    rw [List.foldl_cons]
    refine ⟨hcanonical', hdynamic'.trans hdynamic, fun scope hscope => ?_⟩
    obtain ⟨hhead, htail⟩ := List.forall_mem_cons.1 hscope
    exact (hlevel' scope htail).trans (hlevel scope hhead)

/-- **A run of entries amends a filter.** -/
theorem amended_foldl (hbase : Directive.Canonical base.static)
    (h : ∀ entry ∈ entries, Clear entry) :
    Amended base entries (entries.foldl addEntry base) := by
  obtain ⟨hcanonical, hdynamic, hlevel⟩ := foldl_addEntry_keeps hbase h
  refine ⟨hcanonical, hdynamic, ?_, fun {scope} hscope => hlevel scope hscope⟩
  rintro before after entry target level rfl hsays hlast
  obtain ⟨hbefore, hrest⟩ := List.forall_mem_append.1 h
  have hcanonical := (foldl_addEntry_keeps hbase hbefore).1
  have hentry := (addEntry_keeps hcanonical (.inl ⟨target, level, hsays⟩)).1
  obtain ⟨-, -, hafter⟩ := foldl_addEntry_keeps hentry (List.forall_mem_cons.1 hrest).2
  have hsilent : ∀ later ∈ after, ∀ other, Mentions later other →
      Scope.plain target ≠ .plain other := fun later hlater other hother heq => by
    obtain rfl : target = other := congrArg Scope.target heq
    exact hlast later hlater hother
  rw [level?_eq_levelOf?, List.foldl_append, List.foldl_cons, hafter _ hsilent,
    addEntry_of_plain hsays, hcanonical.levelOf?_insert rfl, if_pos rfl]

end Filter

namespace Amended

variable {base f f' : Filter} {entries entries' : List String}

/-- What is amended is told by the filter to begin with and the entries. -/
theorem unique (h : Amended base entries f) (h' : Amended base entries f') : f = f' := by
  have hstatic : f.static = f'.static := by
    refine h.canonical.eq_of_levelOf?_eq h'.canonical fun scope => ?_
    by_cases hplain : ∃ target, scope = .plain target ∧ ∃ entry ∈ entries, Mentions entry target
    · obtain ⟨target, rfl, entry, hentry, hm⟩ := hplain
      rcases exists_last_mention entries target with
        hnone | ⟨before, last, after, heq, hlast, hafter⟩
      · exact absurd hm (hnone entry hentry)
      · obtain ⟨level, hsays⟩ := hlast
        rw [← Filter.level?_eq_levelOf?, ← Filter.level?_eq_levelOf?,
          h.mentioned heq hsays hafter, h'.mentioned heq hsays hafter]
    · have hnone : ∀ entry ∈ entries, ∀ target, Mentions entry target → scope ≠ .plain target :=
        fun entry hentry target hm heq => hplain ⟨target, heq, entry, hentry, hm⟩
      rw [h.unmentioned hnone, h'.unmentioned hnone]
  have hdynamic : f.dynamic = f'.dynamic := h.dynamic.trans h'.dynamic.symm
  cases f
  cases f'
  simp_all

/-- Where each target is spoken of once, the order of the entries does not matter. -/
theorem of_perm (h : Amended base entries f) (hperm : entries'.Perm entries)
    (hdistinct : entries.Pairwise fun e e' => ∀ target, Mentions e target → ¬ Mentions e' target) :
    Amended base entries' f := by
  refine ⟨h.canonical, h.dynamic, ?_, fun hscope =>
    h.unmentioned fun entry hentry => hscope entry (hperm.mem_iff.2 hentry)⟩
  rintro before after entry target level rfl hsays -
  obtain ⟨before', after', rfl⟩ := List.append_of_mem (hperm.mem_iff.1 (by simp : entry ∈ _))
  have hentry := (List.pairwise_cons.1 (List.pairwise_append.1 hdistinct).2.1).1
  exact h.mentioned rfl hsays fun later hlater => hentry later hlater target ⟨level, hsays⟩

end Amended

/-- Entries with idle ones put among them. -/
inductive Padded : List String → List String → Prop
  | nil : Padded [] []
  | keep {entry : String} {entries entries' : List String} :
      Padded entries entries' → Padded (entry :: entries) (entry :: entries')
  | idle {entry : String} {entries entries' : List String} :
      Idle entry → ',' ∉ entry.toList → Padded entries entries' → Padded entries (entry :: entries')

theorem Padded.foldl_addEntry {entries entries' : List String} (h : Padded entries entries')
    (f : Filter) : entries'.foldl Filter.addEntry f = entries.foldl Filter.addEntry f := by
  induction h generalizing f with
  | nil => rfl
  | keep _ ih => rw [List.foldl_cons, List.foldl_cons, ih]
  | idle hidle _ _ ih => rw [List.foldl_cons, Filter.addEntry_of_idle hidle, ih]

theorem Padded.not_mem {entries entries' : List String} (h : Padded entries entries')
    (hentries : ∀ entry ∈ entries, ',' ∉ entry.toList) :
    ∀ entry ∈ entries', ',' ∉ entry.toList := by
  induction h with
  | nil => exact hentries
  | keep _ ih =>
    obtain ⟨hentry, hrest⟩ := List.forall_mem_cons.1 hentries
    exact List.forall_mem_cons.2 ⟨hentry, ih hrest⟩
  | idle _ hcomma _ ih => exact List.forall_mem_cons.2 ⟨hcomma, ih hentries⟩

/-! ### The filter of settings -/

namespace Settings

variable {s : Settings} {environment : Environment} {base : Filter}

/-- The entries of the target filter. -/
def entries (s : Settings) : List String :=
  match s.targets with
  | some text => Text.segments ',' text
  | none => []

/-- The settings with a target filter of these entries. -/
def withEntries (s : Settings) (entries : List String) : Settings :=
  { s with targets := some (Text.join ',' entries) }

/-- The filter to begin with: the one of the environment, if it is there and can be read, or else
the level for everything. -/
inductive Base (s : Settings) (environment : Environment) : Filter → Prop
  | environment {text : String} {f : Filter} :
      environment "RUST_LOG" = some text → Filter.ofText? text = some f → Base s environment f
  | level : (∀ text, environment "RUST_LOG" = some text → Filter.ofText? text = none) →
      Base s environment ⟨[⟨.plain none, s.level⟩], []⟩

theorem base_iff : Base s environment base ↔ s.baseFilter environment = base := by
  unfold baseFilter
  constructor
  · rintro (⟨henv, htext⟩ | hnone)
    · rw [henv, Option.bind_some, htext, Option.getD_some]
    · have hread : (environment "RUST_LOG").bind Filter.ofText? = none :=
        Option.bind_eq_none_iff.2 hnone
      rw [hread]
      rfl
  · rintro rfl
    cases hread : (environment "RUST_LOG").bind Filter.ofText? with
    | none => exact .level (Option.bind_eq_none_iff.1 hread)
    | some f =>
      obtain ⟨text, henv, htext⟩ := Option.bind_eq_some_iff.1 hread
      exact .environment henv htext

theorem segments_empty : Text.segments ',' "" = [""] := rfl

theorem foldl_blank (f : Filter) : [""].foldl Filter.addEntry f = f := by
  have hidle : Idle "" := .inl (by decide)
  rw [List.foldl_cons, List.foldl_nil, Filter.addEntry_of_idle hidle]

theorem filter_eq_foldl (s : Settings) (environment : Environment) :
    s.filter environment = s.entries.foldl Filter.addEntry (s.baseFilter environment) := by
  rw [filter, Filter.addText_eq_foldl, entries]
  cases s.targets with
  | none => rw [Option.getD_none, segments_empty, foldl_blank, List.foldl_nil]
  | some text => rw [Option.getD_some]

theorem filter_withEntries {entries : List String} (h : ∀ entry ∈ entries, ',' ∉ entry.toList) :
    (s.withEntries entries).filter environment =
      entries.foldl Filter.addEntry (s.baseFilter environment) := by
  have hbase : (s.withEntries entries).baseFilter environment = s.baseFilter environment := rfl
  rw [filter_eq_foldl, hbase]
  cases entries with
  | nil => exact foldl_blank _
  | cons entry rest =>
    have hentries : (s.withEntries (entry :: rest)).entries = entry :: rest :=
      Text.segments_join (List.cons_ne_nil entry rest) h
    rw [hentries]

theorem not_mem_of_mem_entries {entry : String} (h : entry ∈ s.entries) : ',' ∉ entry.toList := by
  unfold entries at h
  split at h
  · exact Text.not_mem_of_mem_segments h
  · cases h

/-- **The filter of the settings.**  It is the filter to begin with, amended by the entries of the
target filter: a target has the level of the last word on it, and everything else is as it was.
Entries that say nothing may stand anywhere among the others, and where each target is spoken of
once the entries may stand in any order. -/
theorem filter_eq_iff_amended (h : ∀ entry ∈ s.entries, Clear entry) :
    (∀ f, s.filter environment = f ↔ ∃ base, Base s environment base ∧ Amended base s.entries f) ∧
      (∀ entries, Padded s.entries entries →
        (s.withEntries entries).filter environment = s.filter environment) ∧
      ∀ entries, entries.Perm s.entries →
        (s.entries.Pairwise fun e e' => ∀ target, Mentions e target → ¬ Mentions e' target) →
        (s.withEntries entries).filter environment = s.filter environment := by
  have hcanonical := s.canonical_baseFilter environment
  have hamended := Filter.amended_foldl hcanonical h
  refine ⟨fun f => ?_, fun entries hpadded => ?_, fun entries hperm hdistinct => ?_⟩
  · rw [filter_eq_foldl]
    constructor
    · rintro rfl
      exact ⟨_, base_iff.2 rfl, hamended⟩
    · rintro ⟨base, hbase, hf⟩
      obtain rfl := base_iff.1 hbase
      exact hamended.unique hf
  · rw [filter_withEntries (hpadded.not_mem fun _ => not_mem_of_mem_entries),
      hpadded.foldl_addEntry, filter_eq_foldl]
  · have hcomma : ∀ entry ∈ entries, ',' ∉ entry.toList := fun entry hentry =>
      not_mem_of_mem_entries (hperm.mem_iff.1 hentry)
    have hclear : ∀ entry ∈ entries, Clear entry := fun entry hentry =>
      h entry (hperm.mem_iff.1 hentry)
    rw [filter_withEntries hcomma, filter_eq_foldl]
    exact (Filter.amended_foldl hcanonical hclear).unique (hamended.of_perm hperm hdistinct)

theorem filter_eq_iff_amended_last_word :
    (∀ entry ∈ (development.withEntries ["a=warn", " ", "=[x", "info", "a=error"]).entries,
      Clear entry) ∧
    ∃ base,
      Base (development.withEntries ["a=warn", " ", "=[x", "info", "a=error"])
        (fun name => if name = "RUST_LOG" then some "b=debug,warn" else none) base ∧
      Amended base (development.withEntries ["a=warn", " ", "=[x", "info", "a=error"]).entries
        ⟨[⟨.plain (some "b"), .debug⟩, ⟨.plain (some "a"), .error⟩, ⟨.plain none, .info⟩], []⟩ := by
  have hclear : ∀ entry ∈
      (development.withEntries ["a=warn", " ", "=[x", "info", "a=error"]).entries,
      Clear entry := by
    have hentries : (development.withEntries ["a=warn", " ", "=[x", "info", "a=error"]).entries =
        ["a=warn", " ", "=[x", "info", "a=error"] := by decide +kernel
    simp only [hentries, List.forall_mem_cons]
    exact ⟨.inl ⟨some "a", mentions_iff.2 ⟨.warn, by decide +kernel⟩⟩,
      .inr (.inl (by decide +kernel)), .inr (.inr (by decide +kernel)),
      .inl ⟨none, mentions_iff.2 ⟨.info, by decide +kernel⟩⟩,
      .inl ⟨some "a", mentions_iff.2 ⟨.error, by decide +kernel⟩⟩, nofun⟩
  exact ⟨hclear, ((filter_eq_iff_amended hclear).1 _).1 (by decide +kernel)⟩

end Settings

end ApiContract.Logging
