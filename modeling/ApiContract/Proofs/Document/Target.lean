import ApiContract.Proofs.Document.Inspection
import ApiContract.Proofs.Document.Walk

/-
What the text of a reference points at.

The name is found by looking for the name of the section among the pieces between slashes, wherever
in the text it stands.  A reference into another file or another section therefore points at a
definition of this document as soon as `definitions` is one of its pieces and is not the last one.
This module states for every text what it points at, and what is made of those that do not begin as
a reference to a definition does.

Main definitions:

* `ApiContract.Spells` — a text has the name of a section, and right after it a name.

Main results:

* `ApiContract.target?_eq_some_iff` — a reference points at the name that it spells;
* `ApiContract.Document.resolve_eq_of_target` — only the name counts for what is made of it;
* `ApiContract.Document.unresolved_as_written_iff` — **a reference that does not begin as one to a
  definition is unresolved exactly if it spells none**, and is followed to the name otherwise.
-/

set_option autoImplicit false

namespace ApiContract

/-! ### The name in a text -/

/-- Among the pieces of the text between slashes, the name comes right after the first one that is
`part`. -/
def Spells (part name reference : String) : Prop :=
  ∃ before after : List String, reference = Text.join '/' (before ++ part :: name :: after) ∧
    (∀ piece ∈ before ++ part :: name :: after, '/' ∉ piece.toList) ∧ part ∉ before ∧ name ≠ ""

variable {part name reference : String}

/-- What is left of a list from the first occurrence of an entry on. -/
theorem dropWhile_ne_eq_cons_iff {a x : String} {pieces rest : List String} :
    pieces.dropWhile (· ≠ a) = x :: rest ↔
      x = a ∧ ∃ before, pieces = before ++ a :: rest ∧ a ∉ before := by
  induction pieces with
  | nil => simp
  | cons piece pieces ih =>
      by_cases hpiece : piece = a
      · subst hpiece
        rw [List.dropWhile_cons_of_neg (by simp), List.cons.injEq]
        constructor
        · rintro ⟨rfl, rfl⟩
          exact ⟨rfl, [], rfl, List.not_mem_nil⟩
        · rintro ⟨rfl, before, hsplit, hbefore⟩
          cases before with
          | nil => exact ⟨rfl, (List.cons.inj hsplit).2⟩
          | cons first before => exact absurd (by simp [(List.cons.inj hsplit).1]) hbefore
      · rw [List.dropWhile_cons_of_pos (by simp [hpiece]), ih]
        refine and_congr_right fun _ => ⟨?_, ?_⟩
        · rintro ⟨before, rfl, hbefore⟩
          exact ⟨piece :: before, rfl, by simp [Ne.symm hpiece, hbefore]⟩
        · rintro ⟨before, hsplit, hbefore⟩
          cases before with
          | nil => exact absurd (List.cons.inj hsplit).1 hpiece
          | cons first before =>
              exact ⟨before, (List.cons.inj hsplit).2, fun hmem => hbefore (by simp [hmem])⟩

/-- **A reference points at the name that it spells.** -/
theorem target?_eq_some_iff : target? part reference = some name ↔ Spells part name reference := by
  constructor
  · intro h
    unfold target? at h
    split at h
    · next first second rest hdrop =>
        split at h
        · cases h
        · next hname =>
            cases h
            obtain ⟨-, before, hpieces, hbefore⟩ := dropWhile_ne_eq_cons_iff.1 hdrop
            refine ⟨before, rest, ?_, fun piece hmem => ?_, hbefore, hname⟩
            · rw [← hpieces, Text.join_segments]
            · rw [← hpieces] at hmem
              exact Text.not_mem_of_mem_segments hmem
    · cases h
  · rintro ⟨before, after, rfl, hpieces, hbefore, hname⟩
    have hdrop : (Text.segments '/' (Text.join '/' (before ++ part :: name :: after))).dropWhile
        (· ≠ part) = part :: name :: after := by
      rw [Text.segments_join (by simp) hpieces]
      exact dropWhile_ne_eq_cons_iff.2 ⟨rfl, before, rfl, hbefore⟩
    simp only [target?, hdrop, if_neg hname]

theorem target?_eq_none_iff :
    target? part reference = none ↔ ∀ name, ¬ Spells part name reference := by
  simp only [← target?_eq_some_iff, Option.eq_none_iff_forall_ne_some, ne_eq]

/-- The pieces of a reference in the usual form. -/
theorem usual_eq_join (part name : String) :
    "#/" ++ part ++ "/" ++ name = Text.join '/' ["#", part, name] := by
  apply String.toList_injective
  rw [Text.toList_join_cons]
  simp

/-- The usual text of a reference to a definition spells its name. -/
theorem Spells.definition (h : Spells part name reference) :
    Spells "definitions" name ("#/definitions/" ++ name) := by
  obtain ⟨before, after, -, hpieces, -, hname⟩ := h
  refine ⟨["#"], [], usual_eq_join "definitions" name, ?_, by decide, hname⟩
  have hslash : '/' ∉ name.toList := hpieces name (by simp)
  simpa using hslash

/-- A reference in the usual form spells the name in its section, and nothing else. -/
theorem Spells.eq_of_usual {other found : String} (hother : other ≠ "#")
    (hpart : '/' ∉ part.toList) (hname : '/' ∉ name.toList)
    (h : Spells other found ("#/" ++ part ++ "/" ++ name)) : other = part ∧ found = name := by
  obtain ⟨before, after, hjoin, hpieces, -, -⟩ := h
  have hsplit : before ++ other :: found :: after = ["#", part, name] := by
    rw [← Text.segments_join (by simp) hpieces, ← hjoin, usual_eq_join,
      Text.segments_join (by simp)]
    simpa using ⟨hpart, hname⟩
  match before, hsplit with
  | [], hsplit => exact absurd (List.cons.inj hsplit).1 hother
  | [_], hsplit =>
      simp only [List.singleton_append, List.cons.injEq] at hsplit
      exact ⟨hsplit.2.1, hsplit.2.2.1⟩
  | _ :: _ :: _, hsplit =>
      have hlength := congrArg List.length hsplit
      simp only [List.length_append, List.length_cons, List.length_nil] at hlength
      omega

namespace Document

variable {d : Document} {schema schema' : Json} {chain : List String}

/-! ### What is made of it -/

/-- Of a reference to a definition only the name counts. -/
theorem resolve_eq_of_target (hs : (reference? schema).bind (target? "definitions") = some name)
    (hs' : (reference? schema').bind (target? "definitions") = some name) :
    d.resolve chain schema = d.resolve chain schema' := by
  by_cases hn : name ∈ chain
  · rw [resolve_of_repeated hs hn, resolve_of_repeated hs' hn]
  · cases hd : d.definitions.get? name with
    | none => rw [resolve_of_undefined hs hn hd, resolve_of_undefined hs' hn hd]
    | some next => rw [resolve_of_alias ⟨hs, hd⟩ hn, resolve_of_alias ⟨hs', hd⟩ hn]

/-- A fault that tells of a reference with a definition as its target has another text. -/
theorem DeadEnd.not_target {text : String} (h : d.DeadEnd chain schema text)
    (htext : ¬ "#/definitions/".toList <+: text.toList) : target? "definitions" text = none := by
  cases h with
  | untargeted _ _ _ ht => exact ht
  | undefined _ _ _ _ _ heq =>
      exact absurd (by simp [heq]) htext

/-- **References that do not begin as one to a definition.**  Such a reference is unresolved, and
reported as it is written, exactly if it spells no definition.  Otherwise it is followed as the
usual reference to that name is, whatever else its text has. -/
theorem unresolved_as_written_iff (d : Document) (hr : reference? schema = some reference)
    (hbegin : ¬ "#/definitions/".toList <+: reference.toList) :
    ((d.resolve [] schema).outcome = .error (.unresolvedReference reference) ↔
      ∀ name, ¬ Spells "definitions" name reference) ∧
    ∀ name, Spells "definitions" name reference →
      d.resolve [] schema = d.resolve [] (referenceNode ("#/definitions/" ++ name)) := by
  constructor
  · rw [← target?_eq_none_iff]
    constructor
    · exact fun h => (unresolved_iff_walk.1 h).not_target hbegin
    · intro ht
      rw [resolve_of_untargeted hr ht]
  · intro name hspells
    have hs : (reference? schema).bind (target? "definitions") = some name := by
      rw [hr, Option.bind_some, target?_eq_some_iff]
      exact hspells
    have hs' : (reference? (referenceNode ("#/definitions/" ++ name))).bind
        (target? "definitions") = some name := by
      rw [reference?_referenceNode, Option.bind_some, target?_eq_some_iff]
      exact hspells.definition
    exact resolve_eq_of_target hs hs'

/-! ### Two references beside the definitions -/

/-- A document with one definition. -/
def oneUser : Document where
  paths := []
  definitions := [("User", .object [("type", .text "object")])]
  parameters := []
  others := []

/-- The first piece with the name of the section has no name after it, and a later one counts for
nothing. -/
theorem resolve_twice_definitions :
    ¬ "#/definitions/".toList <+: "specs/definitions//definitions/User".toList ∧
      (oneUser.resolve [] (referenceNode "specs/definitions//definitions/User")).outcome =
        .error (.unresolvedReference "specs/definitions//definitions/User") := by
  have hbegin : ¬ "#/definitions/".toList <+: "specs/definitions//definitions/User".toList := by
    decide
  refine ⟨hbegin, (unresolved_as_written_iff oneUser rfl hbegin).1.2 ?_⟩
  exact target?_eq_none_iff.1 (by decide)

/-- **A reference into another file is followed to a definition of this document.** -/
theorem resolve_other_file :
    ¬ "#/definitions/".toList <+: "other.yaml#/definitions/User".toList ∧
      ¬ "definitions/".toList <+: "other.yaml#/definitions/User".toList ∧
      (oneUser.resolve [] (referenceNode "other.yaml#/definitions/User")).outcome =
        .ok (.object [("type", .text "object")]) := by
  have hl : oneUser.Leads (referenceNode "other.yaml#/definitions/User") ["User"]
      (.object [("type", .text "object")]) :=
    .step ⟨by decide, rfl⟩ (.content rfl)
  exact ⟨by decide, by decide, by rw [resolve_nil_eq_ok_iff.2 hl]⟩

end Document

end ApiContract
