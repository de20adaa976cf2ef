import ApiContract.Proofs.Routing.Selection

/-
The text of a rule, and what an engine for regular expressions makes of it.

A rule is carried out by an expression that is written as a text and given to an engine.  The
resource is what the requester has written, so it may hold any character; each one with a meaning of
its own is therefore written behind a backslash.  Of the engine no more is taken for granted than
its documentation says: which characters have a meaning, how the few forms that occur in the text of
a rule are read, and what is found by them anywhere in a text.

Main definitions:

* `ApiContract.Routing.Expression.read?` — the items of an expression, from its text;
* `ApiContract.Routing.Expression.found` — whether a text has a place where all items match;
* `ApiContract.Routing.Expression.escape` — a text written so that it stands for itself;
* `ApiContract.Routing.Engine`, `Engine.Documented` — an engine, and one that does as documented;
* `ApiContract.Routing.Rule.text` — the text of a rule.

Main results:

* `ApiContract.Routing.Expression.tokens?_escape` — **an escaped text is read as itself**;
* `ApiContract.Routing.Expression.found_anchored` — items between anchors match whole texts;
* `ApiContract.Routing.Rule.read?_text` — the text of a rule is read as its pattern;
* `ApiContract.Routing.Rule.selects_by_text` — **rules without expressions**.
-/

set_option autoImplicit false

namespace ApiContract.Routing

open Text

/-! ### Expressions -/

namespace Expression

/-- What a single character is compared with. -/
inductive Symbol where
  /-- The character itself. -/
  | literal (c : Char)
  /-- Every character but this one. -/
  | other (c : Char)
  deriving DecidableEq, Repr

/-- Whether a symbol stands for a character. -/
def Symbol.holds : Symbol → Char → Bool
  | literal c, d => c = d
  | other c, d => d ≠ c

/-- One item of an expression. -/
inductive Item where
  /-- The beginning of the text. -/
  | start
  /-- The end of the text. -/
  | finish
  /-- One character. -/
  | one (s : Symbol)
  /-- Any number of characters, none included. -/
  | many (s : Symbol)
  deriving DecidableEq, Repr

/-- Goes on at some place that is reached over characters of a class.  The flag tells whether a
place is the beginning of the text. -/
def across (holds : Char → Bool) (next : Bool → List Char → Bool) : Bool → List Char → Bool
  | atStart, [] => next atStart []
  | atStart, c :: cs => next atStart (c :: cs) || (holds c && across holds next false cs)

/-- Whether the items match from a place on; they need not come to the end of the text. -/
def matchesAt : List Item → Bool → List Char → Bool
  | [] => fun _ _ => true
  | .start :: items => fun atStart cs => atStart && matchesAt items atStart cs
  | .finish :: items => fun atStart cs => cs.isEmpty && matchesAt items atStart cs
  | .one s :: items => fun _ cs =>
    match cs with
    | [] => false
    | c :: cs => s.holds c && matchesAt items false cs
  | .many s :: items => across s.holds (matchesAt items)

/-- Whether the text has a place from which on the items match. -/
def found (items : List Item) (cs : List Char) : Bool :=
  across (fun _ => true) (matchesAt items) true cs

/-! ### Texts of expressions -/

/-- Whether a character has a meaning of its own in the text of an expression. -/
def isMeta (c : Char) : Bool := "\\.+*?()|[]\x7b\x7d^$#&-~".toList.contains c

/-- The text for just these characters. -/
def escape (cs : List Char) : List Char := cs.flatMap fun c => if isMeta c then ['\\', c] else [c]

/-- A part of the text of an expression. -/
inductive Token where
  | start
  | finish
  | star
  | symbol (s : Symbol)
  deriving DecidableEq, Repr

/-- The parts of a text: anchors, stars, and symbols.  A dot stands for every character but the line
feed, and brackets with a caret for every character but the one behind it.  Other characters with a
meaning are not read. -/
def tokens? : List Char → Option (List Token)
  | [] => some []
  | '^' :: cs => (tokens? cs).map (.start :: ·)
  | '$' :: cs => (tokens? cs).map (.finish :: ·)
  | '*' :: cs => (tokens? cs).map (.star :: ·)
  | '.' :: cs => (tokens? cs).map (.symbol (.other '\n') :: ·)
  | '\\' :: c :: cs => if isMeta c then (tokens? cs).map (.symbol (.literal c) :: ·) else none
  | '[' :: '^' :: c :: ']' :: cs =>
    if isMeta c then none else (tokens? cs).map (.symbol (.other c) :: ·)
  | c :: cs => if isMeta c then none else (tokens? cs).map (.symbol (.literal c) :: ·)

/-- The items of the parts: a star belongs to the symbol before it. -/
def items? : List Token → Option (List Item)
  | [] => some []
  | .start :: tokens => (items? tokens).map (.start :: ·)
  | .finish :: tokens => (items? tokens).map (.finish :: ·)
  | .symbol s :: .star :: tokens => (items? tokens).map (.many s :: ·)
  | .symbol s :: tokens => (items? tokens).map (.one s :: ·)
  | .star :: _ => none

/-- The items of an expression, unless its text has other forms. -/
def read? (cs : List Char) : Option (List Item) := (tokens? cs).bind items?

variable {c : Char} {cs rest : List Char} {tokens : List Token} {items : List Item}

theorem tokens?_of_not_isMeta (hc : isMeta c = false) :
    tokens? (c :: rest) = (tokens? rest).map (.symbol (.literal c) :: ·) := by
  rw [tokens?, if_neg (by simp [hc])]
  -- the other forms begin with characters that have a meaning
  all_goals
    intros
    subst_vars
    exact absurd hc (by decide)

theorem tokens?_of_isMeta (hc : isMeta c = true) :
    tokens? ('\\' :: c :: rest) = (tokens? rest).map (.symbol (.literal c) :: ·) := by
  rw [tokens?, if_pos hc]

/-- **An escaped text is read as itself**, wherever it stands. -/
theorem tokens?_escape (cs rest : List Char) :
    tokens? (escape cs ++ rest) =
      (tokens? rest).map (cs.map (fun c => .symbol (.literal c)) ++ ·) := by
  induction cs with
  | nil => simp [escape]
  | cons c cs ih =>
      have hmap : ∀ tokens : Option (List Token),
          (tokens.map (cs.map (fun c => .symbol (.literal c)) ++ ·)).map
            (.symbol (.literal c) :: ·) =
          tokens.map ((c :: cs).map (fun c => .symbol (.literal c)) ++ ·) := by
        intro tokens
        rw [Option.map_map]
        rfl
      rw [escape, List.flatMap_cons, ← escape, ← hmap, ← ih]
      cases hc : isMeta c with
      | true => exact tokens?_of_isMeta hc
      | false => exact tokens?_of_not_isMeta hc

/-- Characters that stand for themselves are items of their own, unless a star comes after them. -/
theorem items?_literals (hstar : tokens.head? ≠ some .star) (cs : List Char) :
    items? (cs.map (fun c => .symbol (.literal c)) ++ tokens) =
      (items? tokens).map (cs.map (fun c => .one (.literal c)) ++ ·) := by
  induction cs with
  | nil => simp
  | cons c cs ih =>
      have hhead : (cs.map (fun c => Token.symbol (.literal c)) ++ tokens).head? ≠ some .star := by
        cases cs <;> simp [hstar]
      rw [List.map_cons, List.cons_append, items?, ih]
      · cases items? tokens <;> rfl
      · intro tokens' heq
        exact hhead (by rw [heq]; rfl)

/-! ### Items between anchors -/

/-- The symbol for the characters of a class. -/
def Symbol.ofClass : RunClass → Symbol
  | .withinSegment => .other '/'
  | .withinLine => .other '\n'

/-- The item for a piece of a pattern. -/
def Item.ofPiece : Piece → Item
  | .literal c => .one (.literal c)
  | .run k => .many (.ofClass k)

theorem Symbol.holds_ofClass (k : RunClass) (c : Char) : (ofClass k).holds c = k.holds c := by
  cases k <;> rfl

theorem across_eq_accepts {pieces : List Piece} {next : Bool → List Char → Bool}
    (hnext : ∀ atStart cs, next atStart cs = accepts pieces cs) (k : RunClass) (atStart : Bool)
    (cs : List Char) :
    across (Symbol.ofClass k).holds next atStart cs = accepts (.run k :: pieces) cs := by
  induction cs generalizing atStart with
  | nil => rw [across, accepts, hnext]
  | cons c cs ih => rw [across, accepts, hnext, Symbol.holds_ofClass, ih]

/-- With an anchor at the end, items match what the pieces describe. -/
theorem matchesAt_pieces (pieces : List Piece) (atStart : Bool) (cs : List Char) :
    matchesAt (pieces.map .ofPiece ++ [.finish]) atStart cs = accepts pieces cs := by
  induction pieces generalizing atStart cs with
  | nil => simp [matchesAt, accepts]
  | cons piece pieces ih =>
      cases piece with
      | literal c =>
          cases cs with
          | nil => simp [Item.ofPiece, matchesAt, accepts]
          | cons d cs => simp [Item.ofPiece, matchesAt, accepts, Symbol.holds, ih]
      | run k => exact across_eq_accepts ih k atStart cs

/-- Beyond its beginning nothing is found in a text by items that begin there. -/
theorem found_start (items : List Item) (cs : List Char) :
    found (.start :: items) cs = matchesAt items true cs := by
  have hbeyond : ∀ cs, across (fun _ => true) (matchesAt (.start :: items)) false cs = false := by
    intro cs
    induction cs with
    | nil => rfl
    | cons c cs ih => rw [across, ih]; rfl
  cases cs with
  | nil => simp [found, across, matchesAt]
  | cons c cs =>
      rw [found, across, hbeyond]
      simp [matchesAt]

/-- Escaped characters and then something that is read as pieces, both behind an anchor. -/
theorem read?_escape {pieces : List Piece} (htokens : tokens? rest = some tokens)
    (hstar : tokens.head? ≠ some .star)
    (hitems : items? tokens = some (pieces.map .ofPiece ++ [.finish])) (cs : List Char) :
    read? ('^' :: (escape cs ++ rest)) =
      some (.start :: ((cs.map Piece.literal ++ pieces).map .ofPiece ++ [.finish])) := by
  rw [read?, tokens?, tokens?_escape, htokens, Option.map_some, Option.map_some, Option.bind_some,
    items?, items?_literals hstar, hitems]
  simp [Item.ofPiece, Function.comp_def]

/-- **Items between anchors match whole texts.** -/
theorem found_anchored (pieces : List Piece) (cs : List Char) :
    found (.start :: (pieces.map .ofPiece ++ [.finish])) cs = accepts pieces cs := by
  rw [found_start, matchesAt_pieces]

end Expression

/-! ### The text of a rule -/

open Expression

/-- An engine for regular expressions. -/
structure Engine where
  /-- What texts are compiled to. -/
  Compiled : Type
  /-- The text of an expression for just the given text. -/
  escape : String → String
  /-- There is none when the text is too long, or no expression. -/
  compile? : String → Option Compiled
  /-- Whether the expression is found in a text. -/
  isMatch : Compiled → String → Bool

/-- The engine does as its documentation says, as far as rules make use of it. -/
structure Engine.Documented (engine : Engine) : Prop where
  escape : ∀ s, (engine.escape s).toList = Expression.escape s.toList
  isMatch : ∀ text compiled items, engine.compile? text = some compiled →
    read? text.toList = some items → ∀ s, engine.isMatch compiled s = found items s.toList

namespace Rule

/-- The text of a rule: a slash and the resource, and then what may follow them, between anchors. -/
def text (rule : Rule) (escape : String → String) : String :=
  "^/" ++ escape rule.resource ++
    (if rule.nested then "/.*" else if rule.resource = "" then "" else "[^/]*") ++ "$"

variable {rule : Rule}

/-- **The text of a rule is read as its pattern.** -/
theorem read?_text {escape : String → String}
    (h : ∀ s, (escape s).toList = Expression.escape s.toList) (rule : Rule) :
    read? (rule.text escape).toList =
      some (.start :: (rule.pattern.map .ofPiece ++ [.finish])) := by
  -- a slash has no meaning of its own
  have htext : (rule.text escape).toList =
      '^' :: (Expression.escape ('/' :: rule.resource.toList) ++
        ((if rule.nested then "/.*" else if rule.resource = "" then "" else "[^/]*").toList ++
          ['$'])) := by
    have hslash : Expression.escape ('/' :: rule.resource.toList) =
        '/' :: Expression.escape rule.resource.toList := rfl
    simp [text, h, hslash]
  rw [htext, pattern]
  by_cases hn : rule.nested = true
  · rw [if_pos hn, if_pos hn]
    have htokens : tokens? ("/.*".toList ++ ['$']) =
        some [.symbol (.literal '/'), .symbol (.other '\n'), .star, .finish] := by decide
    exact read?_escape htokens (by decide) (by decide) _
  · rw [if_neg hn, if_neg hn]
    by_cases hr : rule.resource = ""
    · rw [if_pos hr, if_pos hr]
      have htokens : tokens? ("".toList ++ ['$']) = some [.finish] := by decide
      exact read?_escape htokens (by decide) (by decide) _
    · rw [if_neg hr, if_neg hr]
      have htokens : tokens? ("[^/]*".toList ++ ['$']) =
          some [.symbol (.other '/'), .star, .finish] := by decide
      exact read?_escape htokens (by decide) (by decide) _

/-! ### Rules without expressions -/

theorem resource_ofPath (path : String) :
    (ofPath path).resource = (segments '/' path)[1]?.getD "" := by
  unfold ofPath
  split
  · next hsegments => rw [hsegments]; rfl
  · next hother =>
      rcases hsegments : segments '/' path with _ | ⟨first, _ | ⟨second, further⟩⟩
      · rfl
      · rfl
      · exact absurd hsegments (hother _ _ _)

theorem nested_ofPath_iff (path : String) :
    (ofPath path).nested = true ↔ 3 ≤ (segments '/' path).length := by
  unfold ofPath
  split
  · next further hsegments =>
      rw [hsegments]
      cases further <;> simp
  · next hother =>
      rcases hsegments : segments '/' path with _ | ⟨first, _ | ⟨second, further⟩⟩
      · simp
      · simp
      · exact absurd hsegments (hother _ _ _)

/-- An engine finds the text of a rule in the templates that the rule selects. -/
theorem isMatch_eq_selects {engine : Engine} (hengine : engine.Documented)
    {compiled : engine.Compiled} (h : engine.compile? (rule.text engine.escape) = some compiled)
    (template : String) : engine.isMatch compiled template = rule.selects template := by
  rw [hengine.isMatch _ _ _ h (read?_text hengine.escape rule), found_anchored, selects]

/-- **The rule of a path, told without an expression**, whatever the resource is written in.  With
anything behind the resource, it selects the templates that begin with the very resource between
slashes and go on to the end in one line; without, those of one segment that begin with the
resource; and for the root, the root.  An engine that does as documented finds the text of the rule
in the same templates. -/
theorem selects_by_text {path : String} {rule : Rule} (hrule : ofPath path = rule) :
    (∀ other, ofPath? path = some other → other = rule) ∧
    rule.resource = (segments '/' path)[1]?.getD "" ∧
    (rule.nested = true ↔ 3 ≤ (segments '/' path).length) ∧
    (∀ template,
      (rule.nested = true → (rule.selects template = true ↔
        ∃ line, template.toList = '/' :: (rule.resource.toList ++ '/' :: line) ∧
          '\n' ∉ line)) ∧
      (rule.nested = false → rule.resource ≠ "" → (rule.selects template = true ↔
        ∃ rest, template.toList = '/' :: (rule.resource.toList ++ rest) ∧ '/' ∉ rest)) ∧
      (rule.nested = false → rule.resource = "" →
        (rule.selects template = true ↔ template = "/"))) ∧
    ∀ engine : Engine, engine.Documented → ∀ compiled,
      engine.compile? (rule.text engine.escape) = some compiled →
      ∀ template, engine.isMatch compiled template = rule.selects template := by
  subst hrule
  exact ⟨fun other h => (ofPath?_eq_some_iff.1 h).1.symm, resource_ofPath path,
    nested_ofPath_iff path, fun _ => ⟨selects_nested_iff, selects_flat_iff, selects_root_iff⟩,
    fun _ hengine _ h => isMatch_eq_selects hengine h⟩

/-! ### A resource with characters that have a meaning -/

/-- An engine that knows no other forms than those of rules. -/
def plainEngine : Engine where
  Compiled := List Item
  escape s := String.ofList (Expression.escape s.toList)
  compile? text := read? text.toList
  isMatch items s := found items s.toList

theorem documented_plainEngine : plainEngine.Documented where
  escape _ := String.toList_ofList
  isMatch _ _ _ h hread s := congrArg (found · s.toList) (Option.some.inj (h.symm.trans hread))

/-- The dot and the plus are just that. -/
theorem selects_by_text_versioned :
    ofPath "/v1.0+/users" = ⟨"v1.0+", true⟩ ∧ plainEngine.Documented ∧
    Rule.text ⟨"v1.0+", true⟩ plainEngine.escape = "^/v1\\.0\\+/.*$" ∧
    ∃ compiled, plainEngine.compile? "^/v1\\.0\\+/.*$" = some compiled ∧
      plainEngine.isMatch compiled "/v1.0+/é" = true ∧
      plainEngine.isMatch compiled "/v1x00/é" = false := by
  have hpath : ofPath "/v1.0+/users" = ⟨"v1.0+", true⟩ := by decide
  have htext : Rule.text ⟨"v1.0+", true⟩ plainEngine.escape = "^/v1\\.0\\+/.*$" := by decide
  obtain ⟨-, -, -, hcases, hengine⟩ := selects_by_text hpath
  have hcompiled := read?_text documented_plainEngine.escape ⟨"v1.0+", true⟩
  have hmatch := hengine plainEngine documented_plainEngine _ hcompiled
  rw [htext] at hcompiled
  refine ⟨hpath, documented_plainEngine, htext, _, hcompiled, ?_, ?_⟩
  · rw [hmatch]
    exact ((hcases _).1 rfl).2 ⟨['é'], by decide, by decide⟩
  · rw [hmatch, Bool.eq_false_iff]
    intro hselects
    obtain ⟨line, hline, -⟩ := ((hcases _).1 rfl).1 hselects
    simp at hline

end Rule

end ApiContract.Routing
