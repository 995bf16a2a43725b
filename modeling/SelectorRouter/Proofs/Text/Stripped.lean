import SelectorRouter.Text.Lines

/-!
# Stripped lines

Emitted text is joined from indented lines and then stripped, because the place it is
put into is indented already. Stripping takes off the indentation of the first line and
nothing else, as long as the first line has something on it and the last line ends with
a character that is no blank.
-/

namespace SelectorRouter.Text

theorem trimLeft_of_head {cs : List Char} (h : ∀ c ∈ cs.head?, isBlank c = false) :
    trimLeft cs = cs := by
  cases cs with
  | nil => rfl
  | cons c cs => rw [trimLeft, List.dropWhile_cons, h c rfl, if_neg Bool.false_ne_true]

theorem trimRight_of_last {cs : List Char} (h : ∀ c ∈ cs.getLast?, isBlank c = false) :
    trimRight cs = cs := by
  have reversed : trimLeft cs.reverse = cs.reverse :=
    trimLeft_of_head fun c hc => h c (by rwa [List.head?_reverse] at hc)
  rw [trimRight]
  rw [trimLeft] at reversed
  rw [reversed, List.reverse_reverse]

theorem trimLeft_spaces (cs : List Char) : ∀ n,
    trimLeft (List.replicate n ' ' ++ cs) = trimLeft cs
  | 0 => rfl
  | n + 1 => trimLeft_spaces cs n

theorem strip_indent {n : Nat} {s : String} (head : ∀ c ∈ s.toList.head?, isBlank c = false)
    (last : ∀ c ∈ s.toList.getLast?, isBlank c = false) : strip (indent n ++ s) = s := by
  rw [strip, String.toList_append, indent, String.toList_ofList, trimLeft_spaces,
    trimLeft_of_head head, trimRight_of_last last, String.ofList_toList]

theorem joinLines_cons {l : String} {ls : List String} (h : ls ≠ []) :
    joinLines (l :: ls) = l ++ ("\n" ++ joinLines ls) := by
  rw [joinLines, String.intercalate_cons_of_ne_nil h, String.append_assoc]
  rfl

theorem joinLines_append_first (i l : String) (ls : List String) :
    joinLines ((i ++ l) :: ls) = i ++ joinLines (l :: ls) := by
  cases ls with
  | nil => simp [joinLines]
  | cons m ls =>
      rw [joinLines_cons (List.cons_ne_nil m ls), joinLines_cons (List.cons_ne_nil m ls),
        String.append_assoc]

theorem head?_joinLines {l : String} {ls : List String} {c : Char}
    (h : l.toList.head? = some c) : (joinLines (l :: ls)).toList.head? = some c := by
  cases ls with
  | nil => simpa [joinLines] using h
  | cons m ls =>
      rw [joinLines_cons (List.cons_ne_nil m ls), String.toList_append, List.head?_append, h]
      rfl

theorem getLast?_joinLines {l : String} {c : Char} (h : l.toList.getLast? = some c) :
    ∀ {ls : List String}, ls.getLast? = some l → (joinLines ls).toList.getLast? = some c
  | [m], hm => by
      obtain rfl : m = l := Option.some.inj hm
      simpa [joinLines] using h
  | m :: k :: ls, hm => by
      rw [List.getLast?_cons_cons] at hm
      have ih := getLast?_joinLines h hm
      rw [joinLines_cons (List.cons_ne_nil k ls), String.toList_append, String.toList_append,
        List.getLast?_append, List.getLast?_append, ih]
      rfl

/-- **Stripping joined lines** takes off the indentation of the first line only. -/
theorem strip_joinLines {n : Nat} {first last : String} {rest : List String} {c d : Char}
    (head : first.toList.head? = some c) (hc : isBlank c = false)
    (ends : (first :: rest).getLast? = some last) (tail : last.toList.getLast? = some d)
    (hd : isBlank d = false) :
    strip (joinLines ((indent n ++ first) :: rest)) = joinLines (first :: rest) := by
  rw [joinLines_append_first]
  apply strip_indent
  · rw [head?_joinLines head]
    rintro _ ⟨⟩
    exact hc
  · rw [getLast?_joinLines tail ends]
    rintro _ ⟨⟩
    exact hd

/-- **Stripping indented lines** leaves the first one at the margin. -/
theorem strip_indented {α : Type} (level : α → Nat) (code : α → String) {first last : α}
    {rest : List α} {c d : Char} (head : (code first).toList.head? = some c)
    (hc : isBlank c = false) (ends : (first :: rest).getLast? = some last)
    (tail : (code last).toList.getLast? = some d) (hd : isBlank d = false) :
    strip (joinLines ((first :: rest).map fun a => indent (level a) ++ code a)) =
      joinLines (code first :: rest.map fun a => indent (level a) ++ code a) := by
  rw [List.map_cons]
  cases rest with
  | nil =>
      obtain rfl : first = last := Option.some.inj ends
      exact strip_joinLines head hc rfl tail hd
  | cons a others =>
      have lastLine : (indent (level last) ++ code last).toList.getLast? = some d := by
        rw [String.toList_append, List.getLast?_append, tail]
        rfl
      refine strip_joinLines head hc ?_ lastLine hd
      rw [List.getLast?_cons_cons] at ends
      have mapped := congrArg (Option.map fun b => indent (level b) ++ code b) ends
      rw [← List.getLast?_map] at mapped
      exact mapped

end SelectorRouter.Text
