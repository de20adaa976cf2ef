import Mathlib.Data.List.Nodup
import ApiContract.Proofs.Document.Sections
import ApiContract.Proofs.FirstFailure

/-
Documents split and put together again.

`ApiContract.Document.ofJson` takes the sections out of an object and lets the last field move into
each gap; `toJson` writes the sections behind the other fields.  What has been put together is split
into the very same document: every gap is then filled by a section, or is at the end, so that the
other fields keep their order.

Main definitions:

* `ApiContract.Document.IsSection` — what stands under the key of a section;
* `ApiContract.Document.otherFields` — the fields that splitting leaves, in its order;
* `ApiContract.Document.writtenSections` — the sections as written behind the other fields;
* `ApiContract.Document.isBlankSection` — definitions or shared parameters with nothing in them.

Main results:

* `ApiContract.Document.ofJson_eq_ok_iff` — when an object is split into a document;
* `ApiContract.Document.toJson_eq` — the object of a document;
* `ApiContract.Document.ofJson_toJson_of_separate` — what is put together is split again;
* `ApiContract.Document.perm_filter_of_ofJson` — nothing but blank sections is lost;
* `ApiContract.Document.ofJson_toJson` — **splitting undoes putting together**.
-/

set_option autoImplicit false

namespace ApiContract

namespace Fields

/-! ### Fields behind others -/

variable {fields rest : Fields} {key : String}

/-- The gap is filled from behind. -/
theorem remove_append_of_not_mem (h : key ∉ fields.keys) :
    remove (fields ++ rest) key = fields ++ rest.remove key := by
  induction fields with
  | nil => rfl
  | cons entry fields ih =>
      obtain ⟨k, v⟩ := entry
      simp only [keys, List.map_cons, List.mem_cons, not_or] at h
      rw [List.cons_append, remove, if_neg (Ne.symm h.1), ih h.2]
      rfl

theorem mem_remove_iff (hn : fields.keys.Nodup) {entry : String × Json} :
    entry ∈ fields.remove key ↔ entry ∈ fields ∧ entry.1 ≠ key := by
  rw [(perm_remove hn).mem_iff]
  simp [delete]

end Fields

namespace Document

variable {fields others rest : Fields} {d : Document} {key : String} {part : Fields}

/-! ### The document of an object -/

/-- The keys of the sections. -/
def sectionKeys : List String := ["paths", "definitions", "parameters"]

/-- The section `part` is what stands under the key; it is empty if nothing or null stands there. -/
inductive IsSection (fields : Fields) (key : String) (part : Fields) : Prop
  | present : fields.get? key = some (.object part) → IsSection fields key part
  | absent : fields.get? key = none → part = [] → IsSection fields key part
  | null : fields.get? key = some .null → part = [] → IsSection fields key part

theorem isSection_iff : IsSection fields key part ↔
    ∃ found, sectionFields key (fields.get? key) = .ok found ∧ part = found.getD [] := by
  constructor
  · intro h
    cases h with
    | present h => exact ⟨some part, by rw [h]; rfl, rfl⟩
    | absent h hp => exact ⟨none, by rw [h]; rfl, hp⟩
    | null h hp => exact ⟨none, by rw [h]; rfl, hp⟩
  · rintro ⟨found, hfound, rfl⟩
    unfold sectionFields at hfound
    split at hfound
    · next h => cases hfound; exact .absent h rfl
    · next h => cases hfound; exact .null h rfl
    · next h => cases hfound; exact .present h
    · cases hfound

theorem sectionFields_eq_ok_some_iff {found : Option Json} :
    sectionFields key found = .ok (some part) ↔ found = some (.object part) := by
  unfold sectionFields
  split
  · simp
  · simp
  · simp
  · next hobject => simpa using fun h => hobject _ h

/-- The fields outside the sections, in the order in which splitting leaves them. -/
def otherFields (fields : Fields) : Fields :=
  ((fields.remove "paths").remove "definitions").remove "parameters"

/-- **When an object is split into a document**: there must be paths, and the other two sections
must be objects, null or absent. -/
theorem ofJson_eq_ok_iff (hn : fields.keys.Nodup) :
    ofJson (.object fields) = .ok d ↔
      fields.get? "paths" = some (.object d.paths) ∧
        IsSection fields "definitions" d.definitions ∧
        IsSection fields "parameters" d.parameters ∧ d.others = otherFields fields := by
  rw [ofJson_object hn, ofSections, FirstFailure.bind_eq_ok_iff]
  constructor
  · rintro ⟨_ | paths, hpaths, h⟩
    · cases h
    · obtain ⟨definitions, hdefinitions, h⟩ := FirstFailure.bind_eq_ok_iff.1 h
      obtain ⟨parameters, hparameters, h⟩ := FirstFailure.bind_eq_ok_iff.1 h
      cases h
      exact ⟨sectionFields_eq_ok_some_iff.1 hpaths, isSection_iff.2 ⟨_, hdefinitions, rfl⟩,
        isSection_iff.2 ⟨_, hparameters, rfl⟩, rfl⟩
  · rintro ⟨hpaths, hdefinitions, hparameters, hothers⟩
    obtain ⟨definitions, hd, hdefinitions⟩ := isSection_iff.1 hdefinitions
    obtain ⟨parameters, hp, hparameters⟩ := isSection_iff.1 hparameters
    refine ⟨some d.paths, sectionFields_eq_ok_some_iff.2 hpaths, ?_⟩
    refine FirstFailure.bind_eq_ok_iff.2 ⟨definitions, hd, ?_⟩
    refine FirstFailure.bind_eq_ok_iff.2 ⟨parameters, hp, ?_⟩
    rw [← hdefinitions, ← hparameters, ← otherFields, ← hothers]
    rfl

theorem mem_otherFields_iff (hn : fields.keys.Nodup) {entry : String × Json} :
    entry ∈ otherFields fields ↔ entry ∈ fields ∧ entry.1 ∉ sectionKeys := by
  have hpaths : (fields.remove "paths").keys.Nodup := Fields.nodup_keys_remove hn
  have hdefinitions : ((fields.remove "paths").remove "definitions").keys.Nodup :=
    Fields.nodup_keys_remove hpaths
  rw [otherFields, Fields.mem_remove_iff hdefinitions, Fields.mem_remove_iff hpaths,
    Fields.mem_remove_iff hn]
  simp [sectionKeys, and_assoc]

theorem nodup_keys_otherFields (hn : fields.keys.Nodup) : (otherFields fields).keys.Nodup :=
  Fields.nodup_keys_remove (Fields.nodup_keys_remove (Fields.nodup_keys_remove hn))

theorem not_mem_keys_otherFields (hn : fields.keys.Nodup) (hkey : key ∈ sectionKeys) :
    key ∉ (otherFields fields).keys := by
  intro hmem
  obtain ⟨entry, hentry, rfl⟩ := List.mem_map.1 hmem
  exact ((mem_otherFields_iff hn).1 hentry).2 hkey

/-! ### The object of a document -/

/-- A section as an entry, unless it is empty. -/
def writtenSection (key : String) (part : Fields) : Fields :=
  if part.isEmpty then [] else [(key, .object part)]

/-- The sections as they are written behind the other fields. -/
def writtenSections (d : Document) : Fields :=
  ("paths", .object d.paths) ::
    (writtenSection "definitions" d.definitions ++ writtenSection "parameters" d.parameters)

theorem eq_of_mem_keys_writtenSection {other : String}
    (h : other ∈ (writtenSection key part).keys) : other = key := by
  unfold writtenSection at h
  split at h
  · cases h
  · simpa [Fields.keys] using h

theorem putSection_eq (h : key ∉ fields.keys) :
    putSection key part fields = fields ++ writtenSection key part := by
  unfold putSection writtenSection
  split
  · rw [List.append_nil]
  · exact Fields.set_of_not_mem h _

/-- No section is among the other fields. -/
def Separate (d : Document) : Prop := ∀ key ∈ sectionKeys, key ∉ d.others.keys

theorem toJson_eq (h : d.Separate) : d.toJson = .object (d.others ++ d.writtenSections) := by
  have hpaths : "paths" ∉ d.others.keys := h _ (by decide)
  have hdefinitions : "definitions" ∉ Fields.keys (d.others ++ [("paths", .object d.paths)]) :=
    Fields.not_mem_keys_append (h _ (by decide)) (by simp [Fields.keys])
  have hparameters : "parameters" ∉ Fields.keys
      (d.others ++ [("paths", .object d.paths)] ++ writtenSection "definitions" d.definitions) := by
    refine Fields.not_mem_keys_append ?_ fun hmem => ?_
    · exact Fields.not_mem_keys_append (h _ (by decide)) (by simp [Fields.keys])
    · exact absurd (eq_of_mem_keys_writtenSection hmem) (by decide)
  rw [toJson, Fields.set_of_not_mem hpaths, putSection_eq hdefinitions, putSection_eq hparameters,
    List.append_assoc, List.append_assoc]
  rfl

theorem isSection_of_get?_eq
    (h : fields.get? key = if part.isEmpty then none else some (.object part)) :
    IsSection fields key part := by
  split at h
  · next hpart => exact .absent h (List.isEmpty_iff.1 hpart)
  · exact .present h

theorem get?_writtenSections (d : Document) :
    d.writtenSections.get? "paths" = some (.object d.paths) ∧
      d.writtenSections.get? "definitions" =
        (if d.definitions.isEmpty then none else some (.object d.definitions)) ∧
      d.writtenSections.get? "parameters" =
        (if d.parameters.isEmpty then none else some (.object d.parameters)) := by
  unfold writtenSections writtenSection
  cases d.definitions <;> cases d.parameters <;> simp [Fields.get?_cons]

/-- Each section that is taken out leaves a gap at the end, or one that a later section fills. -/
theorem otherFields_writtenSections (d : Document) : otherFields d.writtenSections = [] := by
  unfold writtenSections writtenSection otherFields
  cases d.definitions <;> cases d.parameters <;> simp [Fields.remove]

theorem nodup_keys_writtenSections (d : Document) : d.writtenSections.keys.Nodup := by
  unfold writtenSections writtenSection
  cases d.definitions <;> cases d.parameters <;> simp [Fields.keys]

theorem mem_sectionKeys_of_mem (h : key ∈ d.writtenSections.keys) : key ∈ sectionKeys := by
  have hkeys : key = "paths" ∨ key ∈ Fields.keys (writtenSection "definitions" d.definitions ++
      writtenSection "parameters" d.parameters) := List.mem_cons.1 h
  rw [Fields.keys_append, List.mem_append] at hkeys
  rcases hkeys with rfl | hmem | hmem
  · decide
  · rw [eq_of_mem_keys_writtenSection hmem]
    decide
  · rw [eq_of_mem_keys_writtenSection hmem]
    decide

theorem nodup_keys_append_writtenSections (h : d.Separate) (hn : d.others.keys.Nodup) :
    (Fields.keys (d.others ++ d.writtenSections)).Nodup := by
  rw [Fields.keys_append]
  refine List.nodup_append.2 ⟨hn, nodup_keys_writtenSections d, ?_⟩
  rintro key hothers _ hwritten rfl
  exact h key (mem_sectionKeys_of_mem hwritten) hothers

/-- A document whose other fields repeat no key is what its own object is split into. -/
theorem ofJson_toJson_of_separate (h : d.Separate) (hn : d.others.keys.Nodup) :
    ofJson d.toJson = .ok d := by
  have hpaths : "paths" ∉ d.others.keys := h _ (by decide)
  have hdefinitions : "definitions" ∉ d.others.keys := h _ (by decide)
  have hparameters : "parameters" ∉ d.others.keys := h _ (by decide)
  obtain ⟨hp, hd, hq⟩ := get?_writtenSections d
  rw [toJson_eq h, ofJson_eq_ok_iff (nodup_keys_append_writtenSections h hn)]
  refine ⟨?_, isSection_of_get?_eq ?_, isSection_of_get?_eq ?_, ?_⟩
  · rw [Fields.get?_append_of_not_mem hpaths, hp]
  · rw [Fields.get?_append_of_not_mem hdefinitions, hd]
  · rw [Fields.get?_append_of_not_mem hparameters, hq]
  · simp only [otherFields, Fields.remove_append_of_not_mem hpaths,
      Fields.remove_append_of_not_mem hdefinitions, Fields.remove_append_of_not_mem hparameters]
    rw [← otherFields, otherFields_writtenSections, List.append_nil]

/-! ### There and back -/

/-- Whether nothing is in a section. -/
def isBlank : Json → Bool
  | .null => true
  | .object part => part.isEmpty
  | _ => false

/-- Whether an entry is a section of definitions or of shared parameters with nothing in it. -/
def isBlankSection (entry : String × Json) : Bool :=
  ["definitions", "parameters"].contains entry.1 && isBlank entry.2

theorem mem_sectionKeys_of_isBlankSection {entry : String × Json}
    (h : isBlankSection entry = true) : entry.1 ∈ sectionKeys := by
  have hkey : entry.1 ∈ ["definitions", "parameters"] := by
    simpa using (Bool.and_eq_true_iff.1 h).1
  exact List.mem_cons_of_mem _ hkey

/-- Writing a section brings back what stood under its key, unless that was blank. -/
theorem mem_writtenSection_iff {value : Json} (hn : fields.keys.Nodup)
    (h : IsSection fields key part) :
    (key, value) ∈ writtenSection key part ↔ (key, value) ∈ fields ∧ isBlank value = false := by
  rw [← Fields.get?_eq_some_iff_mem hn]
  unfold writtenSection
  cases h with
  | absent h hpart => simp [h, hpart]
  | null h hpart =>
      simp only [h, hpart, List.isEmpty_nil, if_true, List.not_mem_nil, false_iff]
      rintro ⟨hvalue, hblank⟩
      cases hvalue
      cases hblank
  | present h =>
      rw [h]
      constructor
      · intro hmem
        split at hmem
        · cases hmem
        · next hpart =>
            cases List.mem_singleton.1 hmem
            exact ⟨rfl, by simpa [isBlank] using hpart⟩
      · rintro ⟨hvalue, hblank⟩
        cases hvalue
        rw [if_neg (by simpa [isBlank] using hblank)]
        exact List.mem_singleton_self _

theorem mem_writtenSections_iff {entry : String × Json} (hn : fields.keys.Nodup)
    (h : ofJson (.object fields) = .ok d) :
    entry ∈ d.writtenSections ↔
      entry ∈ fields ∧ entry.1 ∈ sectionKeys ∧ isBlankSection entry = false := by
  obtain ⟨hpaths, hdefinitions, hparameters, -⟩ := (ofJson_eq_ok_iff hn).1 h
  obtain ⟨key, value⟩ := entry
  have hkeys : ∀ other part, (key, value) ∈ writtenSection other part → key = other :=
    fun other part hmem => eq_of_mem_keys_writtenSection (List.mem_map_of_mem hmem)
  rw [writtenSections, List.mem_cons, List.mem_append]
  constructor
  · rintro (heq | hmem | hmem)
    · cases heq
      have hmem := (Fields.get?_eq_some_iff_mem hn).1 hpaths
      exact ⟨hmem, by simp [sectionKeys], by simp [isBlankSection]⟩
    · obtain rfl := hkeys _ _ hmem
      obtain ⟨hmem, hblank⟩ := (mem_writtenSection_iff hn hdefinitions).1 hmem
      exact ⟨hmem, by simp [sectionKeys], by simp [isBlankSection, hblank]⟩
    · obtain rfl := hkeys _ _ hmem
      obtain ⟨hmem, hblank⟩ := (mem_writtenSection_iff hn hparameters).1 hmem
      exact ⟨hmem, by simp [sectionKeys], by simp [isBlankSection, hblank]⟩
  · rintro ⟨hmem, hkey, hblank⟩
    have hcases : key = "paths" ∨ key = "definitions" ∨ key = "parameters" := by
      simpa [sectionKeys] using hkey
    rcases hcases with rfl | rfl | rfl
    · have hvalue := (Fields.get?_eq_some_iff_mem hn).2 hmem
      rw [hpaths] at hvalue
      cases hvalue
      exact .inl rfl
    · refine .inr (.inl ((mem_writtenSection_iff hn hdefinitions).2 ⟨hmem, ?_⟩))
      simpa [isBlankSection] using hblank
    · refine .inr (.inr ((mem_writtenSection_iff hn hparameters).2 ⟨hmem, ?_⟩))
      simpa [isBlankSection] using hblank

theorem separate_of_ofJson (hn : fields.keys.Nodup) (h : ofJson (.object fields) = .ok d) :
    d.Separate ∧ d.others.keys.Nodup := by
  obtain ⟨-, -, -, hothers⟩ := (ofJson_eq_ok_iff hn).1 h
  rw [Separate, hothers]
  exact ⟨fun key hkey => not_mem_keys_otherFields hn hkey, nodup_keys_otherFields hn⟩

/-- The object of a document has the fields that it was split from, blank sections apart. -/
theorem perm_filter_of_ofJson (hn : fields.keys.Nodup) (h : ofJson (.object fields) = .ok d) :
    (d.others ++ d.writtenSections).Perm (fields.filter fun entry => !isBlankSection entry) := by
  obtain ⟨hseparate, hnodup⟩ := separate_of_ofJson hn h
  have hothers : d.others = otherFields fields := ((ofJson_eq_ok_iff hn).1 h).2.2.2
  refine (List.perm_ext_iff_of_nodup ?_ ?_).2 fun entry => ?_
  · exact List.Nodup.of_map Prod.fst (nodup_keys_append_writtenSections hseparate hnodup)
  · exact (List.Nodup.of_map Prod.fst hn).filter _
  · rw [List.mem_append, hothers, mem_otherFields_iff hn, mem_writtenSections_iff hn h,
      List.mem_filter]
    constructor
    · rintro (⟨hmem, hkey⟩ | ⟨hmem, -, hblank⟩)
      · refine ⟨hmem, ?_⟩
        cases hblank : isBlankSection entry with
        | false => rfl
        | true => exact absurd (mem_sectionKeys_of_isBlankSection hblank) hkey
      · exact ⟨hmem, by simp [hblank]⟩
    · rintro ⟨hmem, hblank⟩
      by_cases hkey : entry.1 ∈ sectionKeys
      · exact .inr ⟨hmem, hkey, by simpa using hblank⟩
      · exact .inl ⟨hmem, hkey⟩

/-- **A document is put together to an object that is split into the same document again**, with
the order of all fields kept; up to the order of its fields it is the object that the document came
from, less definitions and shared parameters that are null or empty. -/
theorem ofJson_toJson {v : Json} (hv : v.KeysDistinct) (h : ofJson v = .ok d) :
    ofJson d.toJson = .ok d ∧ (ofJson d.toJson).map toJson = .ok d.toJson ∧
      ∃ fields fields', v = .object fields ∧ d.toJson = .object fields' ∧
        fields'.Perm (fields.filter fun entry => !isBlankSection entry) := by
  cases v with
  | object fields =>
      have hn : (Fields.keys fields).Nodup := hv.1
      obtain ⟨hseparate, hnodup⟩ := separate_of_ofJson hn h
      have hround := ofJson_toJson_of_separate hseparate hnodup
      refine ⟨hround, by rw [hround]; rfl, fields, _, rfl, toJson_eq hseparate, ?_⟩
      exact perm_filter_of_ofJson hn h
  | _ => cases h

/-! ### Limits of an API -/

/-- The object of a document whose sections stand among other fields, one of them null. -/
def limitsObject : Json :=
  .object [("definitions", .null), ("swagger", .text "2.0"),
    ("paths", .object [("/a", .object [])]), ("basePath", .text "/api"),
    ("parameters", .object [("Limit", .null)]), ("info", .null)]

/-- The document of that object; the gaps have brought two fields forward. -/
def limitsDocument : Document where
  paths := [("/a", .object [])]
  definitions := []
  parameters := [("Limit", .null)]
  others := [("basePath", .text "/api"), ("swagger", .text "2.0"), ("info", .null)]

theorem ofJson_toJson_limits :
    limitsObject.KeysDistinct ∧ ofJson limitsObject = .ok limitsDocument ∧
      ofJson limitsDocument.toJson = .ok limitsDocument := by
  have hkeys : limitsObject.KeysDistinct := by
    simp [limitsObject, Json.KeysDistinct, Json.KeysDistinctFields]
  have hsplit : ofJson limitsObject = .ok limitsDocument := rfl
  exact ⟨hkeys, hsplit, (ofJson_toJson hkeys hsplit).1⟩

end Document

end ApiContract
