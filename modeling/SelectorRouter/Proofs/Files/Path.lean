import Mathlib.Logic.Basic
import SelectorRouter.Files.Path

/-!
# Paths and their components

The components of a path hold the characters of the path but for the slashes, and so does the
path as it is shown, but for single dots. A path that does not end in a slash ends in a
component.
-/

namespace SelectorRouter.Files

/-! ## Lists that are cut at slashes -/

theorem mem_splitOn {c : Char} (h : c ≠ '/') : ∀ cs : List Char,
    (∃ part ∈ cs.splitOn '/', c ∈ part) ↔ c ∈ cs
  | [] => by simp
  | x :: cs => by
      have ih := mem_splitOn h cs
      obtain ⟨first, rest, split⟩ := List.exists_cons_of_ne_nil (List.splitOn_ne_nil '/' cs)
      rw [split] at ih
      rw [List.splitOn_cons_eq_if_modifyHead, split, List.mem_cons, ← ih]
      by_cases slash : x = '/'
      · subst slash
        simp [h]
      · simp [slash, or_assoc]

/-- A list that does not end in a slash is cut into lists of which the last is not empty. -/
theorem getLast?_splitOn : ∀ {cs : List Char}, cs ≠ [] → cs.getLast? ≠ some '/' →
    ∃ before last, cs.splitOn '/' = before ++ [last] ∧ last ≠ []
  | [], nonempty, _ => absurd rfl nonempty
  | [x], _, ends => by
      have slash : x ≠ '/' := fun same => ends (by rw [same]; rfl)
      refine ⟨[], [x], ?_, List.cons_ne_nil x []⟩
      simp [List.splitOn_cons_eq_if_modifyHead, slash]
  | x :: y :: cs, _, ends => by
      rw [List.getLast?_cons_cons] at ends
      obtain ⟨before, last, split, nonempty⟩ := getLast?_splitOn (List.cons_ne_nil y cs) ends
      rw [List.splitOn_cons_eq_if_modifyHead, split]
      by_cases slash : x = '/'
      · exact ⟨[] :: before, last, by simp [slash], nonempty⟩
      · cases before with
        | nil => exact ⟨[], x :: last, by simp [slash], List.cons_ne_nil x last⟩
        | cons first before => exact ⟨(x :: first) :: before, last, by simp [slash], nonempty⟩

theorem mem_intercalate {c : Char} (h : c ≠ '/') : ∀ parts : List (List Char),
    c ∈ ['/'].intercalate parts ↔ ∃ part ∈ parts, c ∈ part
  | [] => by simp
  | [part] => by simp
  | part :: next :: parts => by
      have ih := mem_intercalate h (next :: parts)
      rw [List.intercalate_cons_cons, List.mem_append, List.mem_append, ih]
      simp [h]

/-! ## Components -/

theorem mem_components {c : Char} (h : c ≠ '/') (path : String) :
    (∃ part ∈ components path, c ∈ part.toList) ↔ c ∈ path.toList := by
  rw [← mem_splitOn h path.toList, components]
  simp only [List.mem_map, exists_exists_and_eq_and, String.toList_ofList]

/-- A path that does not end in a slash ends in a component. -/
theorem exists_last_component {path : String} (nonempty : path ≠ "")
    (ends : path.endsWith "/" = false) :
    ∃ before last, components path = before ++ [last] ∧ last ≠ "" := by
  have chars : path.toList ≠ [] := fun empty => nonempty (String.toList_eq_nil_iff.mp empty)
  have tail : path.toList.getLast? ≠ some '/' := by
    intro slash
    obtain ⟨front, split⟩ := List.getLast?_eq_some_iff.mp slash
    rw [String.endsWith_eq_endsWith_toSlice, String.Slice.endsWith_string_eq_false_iff,
      String.copy_toSlice, split] at ends
    exact ends (List.suffix_append front ['/'])
  obtain ⟨before, last, split, last_nonempty⟩ := getLast?_splitOn chars tail
  refine ⟨before.map String.ofList, String.ofList last, ?_, ?_⟩
  · rw [components, split, List.map_append, List.map_singleton]
  · intro empty
    exact last_nonempty (by rw [← @String.toList_ofList last, empty]; rfl)

namespace Path

theorem eq_slash_of_mem_rootOf {c : Char} {cs : List Char} (h : c ∈ (rootOf cs).toList) :
    c = '/' := by
  unfold rootOf at h
  split at h
  · simpa using h
  · split at h <;> simpa using h
  · simpa using h
  · simp at h

/-- A path is shown with the characters that it has, but for slashes and dots. -/
theorem mem_text_ofString {c : Char} (slash : c ≠ '/') (dot : c ≠ '.') (path : String) :
    c ∈ (ofString path).text.toList ↔ c ∈ path.toList := by
  have parts : c ∈ ("/".intercalate (ofString path).parts).toList ↔ c ∈ path.toList := by
    rw [String.toList_intercalate, ← mem_components slash path]
    show c ∈ ['/'].intercalate _ ↔ _
    rw [mem_intercalate slash]
    simp only [ofString, List.mem_map, exists_exists_and_eq_and, List.mem_filter,
      decide_eq_true_eq]
    constructor
    · rintro ⟨part, ⟨hpart, -⟩, hc⟩
      exact ⟨part, hpart, hc⟩
    · rintro ⟨part, hpart, hc⟩
      refine ⟨part, ⟨hpart, ?_, ?_⟩, hc⟩
      · rintro rfl
        simp at hc
      · rintro rfl
        exact dot (by simpa using hc)
  have joined : c ∈ ((ofString path).root ++ "/".intercalate (ofString path).parts).toList ↔
      c ∈ path.toList := by
    rw [String.toList_append, List.mem_append, parts]
    constructor
    · rintro (root | hc)
      · exact absurd (eq_slash_of_mem_rootOf root) slash
      · exact hc
    · exact Or.inr
  rw [← joined, text]
  split
  · next empty =>
      rw [String.isEmpty_iff] at empty
      rw [empty]
      simpa using dot
  · rfl

end Path

end SelectorRouter.Files
