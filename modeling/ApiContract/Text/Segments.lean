/-
Texts that are cut into segments by a separator: paths and references by a slash, query strings
by an ampersand, filter lists by a comma.

Main definitions:

* `ApiContract.Text.segments` — the segments of a string; there is always at least one;
* `ApiContract.Text.join` — the string with given segments;
* `ApiContract.Text.dropPrefix` — what follows a known beginning.

Main results:

* `ApiContract.Text.intercalate_segments` — joining the segments gives the string back;
* `ApiContract.Text.segments_join` — joined segments are cut again into the same ones;
* `ApiContract.Text.segments_eq_singleton` — a string without the separator is its one segment;
* `ApiContract.Text.takeWhile_ne_append`, `ApiContract.Text.dropWhile_ne_append` — the first
  separator parts what stands before it from the rest.
-/

set_option autoImplicit false

namespace ApiContract.Text

/-- The segments of `s` between the occurrences of `sep`. -/
def segments (sep : Char) (s : String) : List String := (s.toList.splitOn sep).map String.ofList

theorem segments_ne_nil (sep : Char) (s : String) : segments sep s ≠ [] := by
  simp [segments, List.splitOn_ne_nil]

/-- A string without the separator is its only segment. -/
theorem segments_eq_singleton {sep : Char} {s : String} (h : sep ∉ s.toList) :
    segments sep s = [s] := by
  simp [segments, List.splitOn_eq_singleton h]

/-- Joining the segments with the separator gives the text back. -/
theorem intercalate_segments (sep : Char) (s : String) :
    [sep].intercalate ((segments sep s).map String.toList) = s.toList := by
  simp [segments, List.map_map, List.intercalate_splitOn]

/-- The text with the given segments. -/
def join (sep : Char) (parts : List String) : String :=
  String.ofList ([sep].intercalate (parts.map String.toList))

@[simp] theorem join_segments (sep : Char) (s : String) : join sep (segments sep s) = s := by
  rw [join, intercalate_segments, String.ofList_toList]

theorem not_mem_of_mem_splitOn {sep : Char} {cs piece : List Char} (h : piece ∈ cs.splitOn sep) :
    sep ∉ piece := by
  induction cs generalizing piece with
  | nil =>
      rw [List.splitOn_nil, List.mem_singleton] at h
      simp [h]
  | cons c cs ih =>
      rw [List.splitOn_cons_eq_if_modifyHead] at h
      split at h
      · rcases List.mem_cons.1 h with rfl | h
        · exact List.not_mem_nil
        · exact ih h
      · next hc =>
          -- the character belongs to the first piece of what follows
          obtain ⟨head, rest, hsplit⟩ := List.exists_cons_of_ne_nil (List.splitOn_ne_nil sep cs)
          rw [hsplit, List.modifyHead_cons] at h
          rcases List.mem_cons.1 h with rfl | h
          · have hne : sep ≠ c := fun heq => hc (beq_iff_eq.2 heq.symm)
            have hhead : sep ∉ head := ih (by simp [hsplit])
            intro hmem
            rcases List.mem_cons.1 hmem with heq | hmem
            · exact hne heq
            · exact hhead hmem
          · exact ih (by simp [hsplit, h])

/-- No segment has the separator in it. -/
theorem not_mem_of_mem_segments {sep : Char} {s part : String} (h : part ∈ segments sep s) :
    sep ∉ part.toList := by
  obtain ⟨piece, hpiece, rfl⟩ := List.mem_map.1 h
  rw [String.toList_ofList]
  exact not_mem_of_mem_splitOn hpiece

/-- **Joined segments are cut again into the same ones.** -/
theorem segments_join {sep : Char} {parts : List String} (hne : parts ≠ [])
    (h : ∀ part ∈ parts, sep ∉ part.toList) : segments sep (join sep parts) = parts := by
  have hsplit : ([sep].intercalate (parts.map String.toList)).splitOn sep =
      parts.map String.toList :=
    List.splitOn_intercalate sep (by simpa using h) (by simpa using hne)
  rw [segments, join, String.toList_ofList, hsplit, List.map_map]
  simp

/-- A text is its first segment, and the others behind a separator each. -/
theorem toList_join_cons (sep : Char) (part : String) (rest : List String) :
    (join sep (part :: rest)).toList = part.toList ++ rest.flatMap fun s => sep :: s.toList := by
  induction rest generalizing part with
  | nil => simp [join]
  | cons next rest ih =>
      have hnext := ih next
      simp only [join, String.toList_ofList, List.map_cons] at hnext ⊢
      rw [List.intercalate_cons_cons, hnext]
      simp

/-- A separator behind a text ends a segment. -/
theorem segments_append_cons (sep : Char) (cs ds : List Char) :
    segments sep (String.ofList (cs ++ sep :: ds)) =
      segments sep (String.ofList cs) ++ segments sep (String.ofList ds) := by
  simp [segments, List.splitOn_append_cons_self]

theorem decide_ne_of_not_mem {α : Type} [DecidableEq α] {sep : α} {before : List α}
    (h : sep ∉ before) : ∀ c ∈ before, decide (c ≠ sep) = true :=
  fun _ hc => decide_eq_true fun heq => h (heq ▸ hc)

theorem takeWhile_ne_append {α : Type} [DecidableEq α] {sep : α} {before : List α}
    (h : sep ∉ before) (after : List α) :
    (before ++ sep :: after).takeWhile (· ≠ sep) = before := by
  rw [List.takeWhile_append_of_pos (decide_ne_of_not_mem h), List.takeWhile_cons_of_neg (by simp),
    List.append_nil]

theorem dropWhile_ne_append {α : Type} [DecidableEq α] {sep : α} {before : List α}
    (h : sep ∉ before) (after : List α) :
    (before ++ sep :: after).dropWhile (· ≠ sep) = sep :: after := by
  rw [List.dropWhile_append_of_pos (decide_ne_of_not_mem h), List.dropWhile_cons_of_neg (by simp)]

/-- What is left of `cs` once it is known to begin with `beginning`. -/
def dropPrefix : (beginning cs : List Char) → Option (List Char)
  | [], cs => some cs
  | _ :: _, [] => none
  | b :: bs, c :: cs => if b = c then dropPrefix bs cs else none

@[simp] theorem dropPrefix_nil (cs : List Char) : dropPrefix [] cs = some cs := by
  cases cs <;> rfl

/-- `dropPrefix` undoes an append and nothing else. -/
theorem dropPrefix_eq_some_iff {bs cs rest : List Char} :
    dropPrefix bs cs = some rest ↔ cs = bs ++ rest := by
  induction bs generalizing cs with
  | nil => simp [eq_comm]
  | cons b bs ih =>
    cases cs with
    | nil => simp [dropPrefix]
    | cons c cs =>
      by_cases h : b = c
      · simp [dropPrefix, h, ih]
      · simp [dropPrefix, h, Ne.symm h]

end ApiContract.Text
