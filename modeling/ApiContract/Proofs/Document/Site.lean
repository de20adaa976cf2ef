import ApiContract.Document.Issue
import ApiContract.Proofs.FirstFailure

/-
The sites of references: where in a document the objects stand that carry one.

`ApiContract.Json.references` collects references on a walk through a value.  Here the same is told
without the walk.  A site says by numbers where a `$ref` field stands, so that sites are ordered as
their fields are in the text, and it says by keys and indices which object has the field, as
locations do.  The walk is then a list of sites in order: all but those below a field `$ref`, which
it does not enter.

Main definitions:

* `ApiContract.Json.parts` — the items of an array and the fields of an object, in order;
* `ApiContract.Site` — where a reference stands; `ApiContract.Site.Before`, the order of the text;
* `ApiContract.Json.Carries`, `ApiContract.Document.Carries` — an object at any depth carries the
  reference of a site;
* `ApiContract.Site.Exposed` — no field `$ref` is on the way from the section to the object;
* `ApiContract.Site.Lists` — located references are those of some sites, in order.

Main results:

* `ApiContract.Json.lists_references` — the walk through a value;
* `ApiContract.Document.lists_references` — **the references of a document are those of its exposed
  sites, in order**;
* `ApiContract.Document.Carries.eq_of_object` — an object that repeats no key carries one reference.
-/

set_option autoImplicit false

namespace ApiContract

namespace Json

/-- A step from a value to one of its parts. -/
inductive Step where
  | key (name : String)
  | index (number : Nat)
  deriving DecidableEq, Repr

/-- A step as locations name it. -/
def Step.text : Step → String
  | key name => name
  | index number => toString number

/-- The parts of a value, in order, each with the step that leads to it. -/
def parts : Json → List (Step × Json)
  | array items => items.zipIdx.map fun item => (.index item.2, item.1)
  | object fields => fields.map fun field => (.key field.1, field.2)
  | _ => []

end Json

/-- Where a reference stands. -/
structure Site where
  /-- The numbers of the parts that lead to the `$ref` field. -/
  address : List Nat
  /-- The steps that lead to the object with this field. -/
  steps : List Json.Step
  reference : String

namespace Site

/-- The site, as seen from a value in which what it was seen from is a part. -/
def under (number : Nat) (step : Json.Step) (s : Site) : Site :=
  ⟨number :: s.address, step :: s.steps, s.reference⟩

/-- The location of the object, when `place` is that of the value from which the site is seen. -/
def locationFrom (place : String) (s : Site) : String :=
  s.steps.foldl (fun place step => s!"{place}/{step.text}") place

/-- The `$ref` field of one site comes before that of the other in the text. -/
def Before (s s' : Site) : Prop := s.address < s'.address

theorem before_under_iff {number : Nat} {step step' : Json.Step} {s s' : Site} :
    (s.under number step).Before (s'.under number step') ↔ s.Before s' := by
  simp [Before, under]

/-- Parts with different numbers are in the order of the numbers. -/
theorem before_of_numbers {s s' : Site} {number number' : Nat} {rest rest' : List Nat}
    (hs : s.address = number :: rest) (hs' : s'.address = number' :: rest')
    (hlt : number < number') : s.Before s' := by
  rw [Before, hs, hs', List.cons_lt_cons_iff]
  exact .inl hlt

theorem Before.ne {s s' : Site} (h : s.Before s') : s ≠ s' := by
  rintro rfl
  exact List.lt_irrefl s.address h

end Site

/-! ### Carrying a reference -/

/-- An object in the value, at any depth, carries the reference of the site. -/
inductive Json.Carries : Json → Site → Prop
  | here {v : Json} {number : Nat} {reference : String} :
      v.parts[number]? = some (.key "$ref", .text reference) → Carries v ⟨[number], [], reference⟩
  | inside {v w : Json} {number : Nat} {step : Json.Step} {s : Site} :
      v.parts[number]? = some (step, w) → Carries w s → Carries v (s.under number step)

namespace Site

/-- The site belongs to the part with a number: it is the part's own, as a `$ref` field, or stands
inside. -/
inductive OfPart (part : Json.Step × Json) (number : Nat) : Site → Prop
  | own {reference : String} :
      part = (.key "$ref", .text reference) → OfPart part number ⟨[number], [], reference⟩
  | inside {s : Site} : part.2.Carries s → OfPart part number (s.under number part.1)

/-- The located references are those of the sites for which `P` holds, one for each, in order. -/
def Lists (place : String) (P : Site → Prop) (found : List (String × String)) : Prop :=
  ∃ sites : List Site, sites.Pairwise Before ∧ (∀ s, s ∈ sites ↔ P s) ∧
    found = sites.map fun s => (s.locationFrom place, s.reference)

variable {place : String} {P Q : Site → Prop} {found : List (String × String)}

theorem OfPart.address_eq {part : Json.Step × Json} {number : Nat} {s : Site}
    (h : OfPart part number s) : ∃ rest, s.address = number :: rest := by
  cases h with
  | own _ => exact ⟨[], rfl⟩
  | @inside s _ => exact ⟨s.address, rfl⟩

theorem Lists.congr (h : Lists place P found) (hPQ : ∀ s, P s ↔ Q s) : Lists place Q found := by
  obtain ⟨sites, hordered, hmem, hfound⟩ := h
  exact ⟨sites, hordered, fun s => (hmem s).trans (hPQ s), hfound⟩

/-- Sites that are listed from a part are listed from the value. -/
theorem Lists.under (number : Nat) (step : Json.Step)
    (h : Lists s!"{place}/{step.text}" P found) :
    Lists place (fun s => ∃ s', P s' ∧ s = s'.under number step) found := by
  obtain ⟨sites, hordered, hmem, rfl⟩ := h
  refine ⟨sites.map (·.under number step), ?_, fun s => ?_, ?_⟩
  · exact List.pairwise_map.2 (hordered.imp before_under_iff.2)
  · simp only [List.mem_map, hmem, eq_comm]
  · rw [List.map_map]
    exact List.map_congr_left fun s _ => rfl

/-- **What is listed part after part is listed in order.** -/
theorem lists_flatMap {α : Type} (place : String) (entries : List α) (S : α → Nat → Site → Prop)
    {collect : α → List (String × String)}
    (haddress : ∀ a n s, S a n s → ∃ rest, s.address = n :: rest)
    (h : ∀ a ∈ entries, ∀ n, Lists place (S a n) (collect a)) (n : Nat) :
    Lists place (fun s => ∃ i a, entries[i]? = some a ∧ S a (n + i) s)
      (entries.flatMap collect) := by
  induction entries generalizing n with
  | nil => exact ⟨[], .nil, by simp, rfl⟩
  | cons a entries ih =>
      obtain ⟨first, hfirst, hmem, hcollect⟩ := h a (by simp) n
      obtain ⟨rest, hrest, hmem', hcollect'⟩ := ih (fun b hb => h b (by simp [hb])) (n + 1)
      refine ⟨first ++ rest, List.pairwise_append.2 ⟨hfirst, hrest, ?_⟩, fun s => ?_, ?_⟩
      · -- the sites of the first part have its number, which is less than any other
        intro s hs s' hs'
        obtain ⟨_, hs⟩ := haddress _ _ _ ((hmem s).1 hs)
        obtain ⟨i, b, -, hS⟩ := (hmem' s').1 hs'
        obtain ⟨_, hs'⟩ := haddress _ _ _ hS
        exact before_of_numbers hs hs' (by omega)
      · rw [List.mem_append, hmem, hmem']
        constructor
        · rintro (hs | ⟨i, b, hb, hs⟩)
          · exact ⟨0, a, rfl, hs⟩
          · exact ⟨i + 1, b, hb, by rwa [Nat.add_right_comm, Nat.add_assoc] at hs⟩
        · rintro ⟨i, b, hb, hs⟩
          cases i with
          | zero =>
              cases hb
              exact .inl hs
          | succ i => exact .inr ⟨i, b, hb, by rwa [Nat.add_right_comm, Nat.add_assoc]⟩
      · rw [List.flatMap_cons, hcollect, hcollect', List.map_append]

end Site

/-! ### The walk through a value -/

namespace Json

variable {v : Json} {s : Site} {place : String}

theorem carries_iff :
    v.Carries s ↔ ∃ number part, v.parts[number]? = some part ∧ Site.OfPart part number s := by
  constructor
  · intro h
    cases h with
    | here hp => exact ⟨_, _, hp, .own rfl⟩
    | inside hp hs => exact ⟨_, _, hp, .inside hs⟩
  · rintro ⟨number, part, hp, hs⟩
    cases hs with
    | own heq => exact .here (heq ▸ hp)
    | inside hs => exact .inside hp hs

theorem sizeOf_lt_of_mem_parts {part : Step × Json} (h : part ∈ v.parts) :
    sizeOf part.2 < sizeOf v := by
  cases v with
  | array items =>
      obtain ⟨item, hitem, rfl⟩ := List.mem_map.1 h
      have := List.sizeOf_lt_of_mem (List.fst_mem_of_mem_zipIdx hitem)
      simp only [array.sizeOf_spec]
      omega
  | object fields =>
      obtain ⟨⟨key, w⟩, hfield, rfl⟩ := List.mem_map.1 h
      have := List.sizeOf_lt_of_mem hfield
      simp only [object.sizeOf_spec, Prod.mk.sizeOf_spec] at this ⊢
      omega
  | _ => cases h

/-- The references that the walk through a value collects in one of its parts. -/
def partReferences (place : String) (part : Step × Json) : List (String × String) :=
  if part.1 = .key "$ref" then (part.2.text?.map fun r => (place, r)).toList
  else part.2.references s!"{place}/{part.1.text}"

theorem itemReferences_eq_flatMap (place : String) (index : Nat) (items : List Json) :
    itemReferences place index items =
      ((items.zipIdx index).map fun item => (Step.index item.2, item.1)).flatMap
        (partReferences place) := by
  induction items generalizing index with
  | nil => rfl
  | cons v items ih =>
      rw [itemReferences, ih, List.zipIdx_cons, List.map_cons, List.flatMap_cons]
      rfl

theorem fieldReferences_eq_flatMap (place : String) (fields : Fields) :
    fieldReferences place fields =
      (fields.map fun field => (Step.key field.1, field.2)).flatMap (partReferences place) := by
  induction fields with
  | nil => rfl
  | cons field fields ih =>
      obtain ⟨key, v⟩ := field
      rw [fieldReferences, ih, List.map_cons, List.flatMap_cons]
      simp [partReferences, Step.text]

/-- The walk goes through the parts one after the other. -/
theorem references_eq_flatMap (place : String) (v : Json) :
    v.references place = v.parts.flatMap (partReferences place) := by
  cases v with
  | array items => exact itemReferences_eq_flatMap place 0 items
  | object fields => exact fieldReferences_eq_flatMap place fields
  | _ => rfl

/-- One part of a value, when the walk through it is known. -/
theorem lists_partReferences {part : Step × Json}
    (h : ∀ place, Site.Lists place (fun s => part.2.Carries s ∧ .key "$ref" ∉ s.steps)
      (part.2.references place)) (number : Nat) :
    Site.Lists place (fun s => Site.OfPart part number s ∧ .key "$ref" ∉ s.steps)
      (partReferences place part) := by
  obtain ⟨step, w⟩ := part
  by_cases hstep : step = .key "$ref"
  · subst hstep
    -- whatever stands inside has the field on its way
    have hinside : ∀ s, Site.OfPart (.key "$ref", w) number s ∧ .key "$ref" ∉ s.steps ↔
        ∃ reference, w = .text reference ∧ s = ⟨[number], [], reference⟩ := by
      intro s
      constructor
      · rintro ⟨hs, hexposed⟩
        cases hs with
        | own heq => exact ⟨_, (Prod.mk.inj heq).2, rfl⟩
        | inside => exact absurd (by simp [Site.under]) hexposed
      · rintro ⟨reference, rfl, rfl⟩
        exact ⟨.own rfl, List.not_mem_nil⟩
    refine Site.Lists.congr ?_ fun s => (hinside s).symm
    rw [partReferences, if_pos rfl]
    cases w with
    | text reference =>
        exact ⟨[⟨[number], [], reference⟩], List.pairwise_singleton .., by simp, rfl⟩
    | _ => exact ⟨[], .nil, by simp, rfl⟩
  · rw [partReferences, if_neg hstep]
    refine ((h _).under number step).congr fun s => ⟨?_, ?_⟩
    · rintro ⟨s, ⟨hs, hexposed⟩, rfl⟩
      refine ⟨.inside hs, ?_⟩
      rw [Site.under, List.mem_cons, not_or]
      exact ⟨fun heq => hstep heq.symm, hexposed⟩
    · rintro ⟨hs, hexposed⟩
      cases hs with
      | own heq => exact absurd (Prod.mk.inj heq).1 hstep
      | @inside s hs => exact ⟨s, ⟨hs, fun hmem => hexposed (List.mem_cons_of_mem _ hmem)⟩, rfl⟩

/-- **The walk through a value lists the references that are not below a field `$ref`.** -/
theorem lists_references (v : Json) (place : String) :
    Site.Lists place (fun s => v.Carries s ∧ .key "$ref" ∉ s.steps) (v.references place) := by
  induction hsize : sizeOf v using Nat.strongRecOn generalizing v place with
  | _ n ih =>
      subst hsize
      have hparts := Site.lists_flatMap place v.parts
        (fun part number s => Site.OfPart part number s ∧ .key "$ref" ∉ s.steps)
        (fun _ _ _ hs => hs.1.address_eq)
        (fun part hpart number => lists_partReferences
          (fun place => ih _ (sizeOf_lt_of_mem_parts hpart) _ place rfl) number) 0
      rw [references_eq_flatMap]
      refine hparts.congr fun s => ?_
      simp only [Nat.zero_add, carries_iff]
      constructor
      · rintro ⟨number, part, hp, hs, hexposed⟩
        exact ⟨⟨number, part, hp, hs⟩, hexposed⟩
      · rintro ⟨⟨number, part, hp, hs⟩, hexposed⟩
        exact ⟨number, part, hp, hs, hexposed⟩

end Json

/-! ### The walk through a document -/

namespace Document

/-- The sections that are walked through, by name. -/
def sections (d : Document) : List (String × Fields) :=
  [("paths", d.paths), ("definitions", d.definitions), ("parameters", d.parameters)]

/-- An object inside an entry of a section carries the reference of the site. -/
inductive Carries (d : Document) : Site → Prop
  | inside {number index : Nat} {name key : String} {part : Fields} {v : Json} {s : Site} :
      d.sections[number]? = some (name, part) → part[index]? = some (key, v) → v.Carries s →
      Carries d ((s.under index (.key key)).under number (.key name))

end Document

/-- No field `$ref` is on the way from the entry of a section to the object. -/
def Site.Exposed (s : Site) : Prop := .key "$ref" ∉ s.steps.drop 2

namespace Document

variable {d : Document} {s s' : Site}

/-- The references of a section, as seen from the document. -/
theorem lists_sectionReferences (place name : String) (part : Fields) (number : Nat) :
    Site.Lists place (fun s => ∃ (index : Nat) (key : String) (v : Json) (s' : Site),
        part[index]? = some (key, v) ∧ (v.Carries s' ∧ .key "$ref" ∉ s'.steps) ∧
        s = (s'.under index (.key key)).under number (.key name))
      (sectionReferences s!"{place}/{name}" part) := by
  have hentries := Site.lists_flatMap s!"{place}/{name}" part
    (fun entry index s => ∃ s', (entry.2.Carries s' ∧ .key "$ref" ∉ s'.steps) ∧
      s = s'.under index (.key entry.1))
    (fun _ _ _ ⟨s', _, hs⟩ => ⟨s'.address, hs ▸ rfl⟩)
    (fun entry _ index => (entry.2.lists_references _).under index (.key entry.1)) 0
  refine (hentries.under number (.key name)).congr fun s => ⟨?_, ?_⟩
  · rintro ⟨_, ⟨index, ⟨key, v⟩, hentry, s', hs', rfl⟩, rfl⟩
    exact ⟨index, key, v, s', hentry, hs', by rw [Nat.zero_add]⟩
  · rintro ⟨index, key, v, s', hentry, hs', rfl⟩
    exact ⟨_, ⟨index, (key, v), hentry, s', hs', rfl⟩, by rw [Nat.zero_add]⟩

theorem references_eq_flatMap (d : Document) {place : String} (hplace : place = "#") :
    d.references =
      d.sections.flatMap fun part => sectionReferences s!"{place}/{part.1}" part.2 := by
  simp only [references, sections, List.flatMap_cons, List.flatMap_nil, List.append_nil,
    List.append_assoc, hplace]
  rfl

/-- **The references of a document are those of its exposed sites, in order.** -/
theorem lists_references (d : Document) :
    Site.Lists "#" (fun s => d.Carries s ∧ s.Exposed) d.references := by
  have hsections := Site.lists_flatMap "#" d.sections
    (fun part number s => ∃ (index : Nat) (key : String) (v : Json) (s' : Site),
      part.2[index]? = some (key, v) ∧ (v.Carries s' ∧ .key "$ref" ∉ s'.steps) ∧
      s = (s'.under index (.key key)).under number (.key part.1))
    (fun _ _ _ ⟨index, _, _, s', _, _, hs⟩ => ⟨index :: s'.address, hs ▸ rfl⟩)
    (fun part _ number => lists_sectionReferences "#" part.1 part.2 number) 0
  rw [references_eq_flatMap d rfl]
  refine hsections.congr fun s => ⟨?_, ?_⟩
  · rintro ⟨number, ⟨name, part⟩, hpart, index, key, v, s', hentry, ⟨hs', hexposed⟩, rfl⟩
    rw [Nat.zero_add]
    exact ⟨.inside hpart hentry hs', hexposed⟩
  · rintro ⟨⟨hpart, hentry, hs'⟩, hexposed⟩
    exact ⟨_, _, hpart, _, _, _, _, hentry, ⟨hs', hexposed⟩, by rw [Nat.zero_add]⟩

end Document

/-! ### Sites by look-ups -/

namespace Json

variable {v w : Json} {s : Site} {fields : Fields} {name : String}

/-- A field of an object is one of its parts. -/
theorem exists_parts_of_mem (h : (name, w) ∈ fields) :
    ∃ number : Nat, (object fields).parts[number]? = some (.key name, w) := by
  have hpart : (.key name, w) ∈ (object fields).parts := List.mem_map.2 ⟨(name, w), h, rfl⟩
  exact List.getElem?_of_mem hpart

theorem Carries.of_mem_fields (hw : w.Carries s) (h : (name, w) ∈ fields) :
    ∃ number, (object fields).Carries (s.under number (.key name)) := by
  obtain ⟨number, hnumber⟩ := exists_parts_of_mem h
  exact ⟨number, .inside hnumber hw⟩

theorem Carries.of_item {items : List Json} {index : Nat} (hw : w.Carries s)
    (h : items[index]? = some w) : (array items).Carries (s.under index (.index index)) :=
  .inside (by simp [parts, List.getElem?_zipIdx, h]) hw

/-- A node that is a reference is the object of a site. -/
theorem exists_carries_of_reference? {reference : String} (h : reference? v = some reference) :
    ∃ s, v.Carries s ∧ s.steps = [] ∧ s.reference = reference := by
  obtain ⟨w, hw, ht⟩ := Option.bind_eq_some_iff.1 h
  cases v with
  | object fields =>
      cases w with
      | text _ =>
          cases ht
          obtain ⟨number, hnumber⟩ := exists_parts_of_mem (Fields.mem_of_get?_eq_some hw)
          exact ⟨_, .here hnumber, rfl, rfl⟩
      | _ => cases ht
  | _ => cases hw

end Json

/-- What stands in an entry of a section stands in the document. -/
theorem Document.Carries.of_mem {d : Document} {name key : String} {part : Fields} {v : Json}
    {s : Site} (hv : v.Carries s) (hpart : (name, part) ∈ d.sections) (h : (key, v) ∈ part) :
    ∃ number index, d.Carries ((s.under index (.key key)).under number (.key name)) := by
  obtain ⟨number, hnumber⟩ := List.getElem?_of_mem hpart
  obtain ⟨index, hindex⟩ := List.getElem?_of_mem h
  exact ⟨number, index, .inside hnumber hindex hv⟩

/-! ### One reference for an object -/

namespace Json

variable {v : Json} {s s' : Site}

theorem Carries.address_ne_nil (h : v.Carries s) : s.address ≠ [] := by
  cases h <;> simp [Site.under]

/-- The parts of a value that repeats no key repeat none either. -/
theorem KeysDistinct.of_mem_parts {part : Step × Json} (h : v.KeysDistinct)
    (hpart : part ∈ v.parts) : part.2.KeysDistinct := by
  cases v with
  | array items =>
      obtain ⟨item, hitem, rfl⟩ := List.mem_map.1 hpart
      exact keysDistinctItems_iff.1 h _ (List.fst_mem_of_mem_zipIdx hitem)
  | object fields =>
      obtain ⟨field, hfield, rfl⟩ := List.mem_map.1 hpart
      exact h.of_mem hfield
  | _ => cases hpart

/-- Under one key a value that repeats none has one part. -/
theorem KeysDistinct.eq_of_key {name : String} {w w' : Json} {number number' : Nat}
    (h : v.KeysDistinct) (hp : v.parts[number]? = some (.key name, w))
    (hp' : v.parts[number']? = some (.key name, w')) : number = number' ∧ w = w' := by
  cases v with
  | array items =>
      obtain ⟨item, -, heq⟩ := List.mem_map.1 (List.mem_of_getElem? hp)
      cases heq
  | object fields =>
      simp only [parts, List.getElem?_map, Option.map_eq_some_iff, Prod.mk.injEq, Step.key.injEq]
        at hp hp'
      obtain ⟨field, hfield, hkey, hw⟩ := hp
      obtain ⟨field', hfield', hkey', hw'⟩ := hp'
      have hnumber : number = number' := by
        have hlt : number < (fields.map Prod.fst).length := by
          simpa using (List.getElem?_eq_some_iff.1 hfield).1
        refine (List.getElem?_inj hlt h.1).1 ?_
        simp [hfield, hfield', hkey, hkey']
      subst hnumber
      obtain rfl := Option.some.inj (hfield.symm.trans hfield')
      exact ⟨rfl, hw.symm.trans hw'⟩
  | _ => cases hp

/-- **An object that repeats no key carries one reference.** -/
theorem Carries.eq_of_object (h : v.Carries s) (h' : v.Carries s') (hv : v.KeysDistinct)
    (hobject : s.address.dropLast = s'.address.dropLast) : s = s' := by
  induction h generalizing s' with
  | here hp =>
      cases h' with
      | here hp' =>
          obtain ⟨rfl, hw⟩ := hv.eq_of_key hp hp'
          cases hw
          rfl
      | inside _ hs' =>
          simp [Site.under, List.dropLast_cons_of_ne_nil hs'.address_ne_nil] at hobject
  | inside hp hs ih =>
      cases h' with
      | here => simp [Site.under, List.dropLast_cons_of_ne_nil hs.address_ne_nil] at hobject
      | inside hp' hs' =>
          simp only [Site.under, List.dropLast_cons_of_ne_nil hs.address_ne_nil,
            List.dropLast_cons_of_ne_nil hs'.address_ne_nil, List.cons.injEq] at hobject
          obtain ⟨rfl, hobject⟩ := hobject
          cases hp.symm.trans hp'
          rw [ih hs' (hv.of_mem_parts (List.mem_of_getElem? hp)) hobject]

end Json

namespace Document

variable {d : Document} {s s' : Site}

/-- **An object of a document that repeats no key carries one reference.** -/
theorem Carries.eq_of_object (h : d.Carries s) (h' : d.Carries s')
    (hd : ∀ part ∈ d.sections, (Json.object part.2).KeysDistinct)
    (hobject : s.address.dropLast = s'.address.dropLast) : s = s' := by
  cases h with
  | inside hpart hentry hs =>
      cases h' with
      | inside hpart' hentry' hs' =>
          simp only [Site.under, List.dropLast_cons_cons,
            List.dropLast_cons_of_ne_nil hs.address_ne_nil,
            List.dropLast_cons_of_ne_nil hs'.address_ne_nil, List.cons.injEq] at hobject
          obtain ⟨rfl, rfl, hobject⟩ := hobject
          cases hpart.symm.trans hpart'
          cases hentry.symm.trans hentry'
          have hv := (hd _ (List.mem_of_getElem? hpart)).of_mem (List.mem_of_getElem? hentry)
          rw [hs.eq_of_object hs' hv hobject]

end Document

end ApiContract
