import SelectorRouter.Proofs.Code.Token

/-!
# Indentation of code

Text is indented line by line, and its lines are those of Unicode. They are more than the
lines of code: indentation may also start in the middle of a comment. It changes nothing that
is read. A character that ends a line belongs to no word and to no pair of characters, so a
word or a mark of a comment never goes on behind the spaces that are put there.

`Indents` says where spaces are put, and nothing of how many lines there are. Removing the
comments keeps the relation, and reading gives the same tokens on both of its sides.
-/

namespace SelectorRouter

namespace Text

/-- A line of an indented text. -/
def indentLine (line : List Char) : List Char :=
  if line.all isBlank then line else tab.toList ++ line

/-- The text of lines, all indented but the first. -/
def hang : List (List Char) → List Char
  | [] => []
  | line :: rest => line ++ rest.flatMap indentLine

theorem toList_indentLines (s : String) :
    (indentLines s).toList = (lines s.toList).flatMap indentLine :=
  String.toList_ofList

/-- The first line is indented or left as it is. -/
theorem flatMap_indentLine (ls : List (List Char)) :
    ls.flatMap indentLine = hang ls ∨ ls.flatMap indentLine = tab.toList ++ hang ls := by
  cases ls with
  | nil => exact Or.inl rfl
  | cons line rest =>
      rw [List.flatMap_cons, hang, indentLine]
      split
      · exact Or.inl rfl
      · exact Or.inr (List.append_assoc _ _ _)

theorem hang_extendFirst (c : Char) (ls : List (List Char)) :
    hang (extendFirst c ls) = c :: hang ls := by
  cases ls <;> rfl

theorem joinLines_append {ks : List String} (h : ks ≠ []) : ∀ {ls : List String}, ls ≠ [] →
    joinLines (ls ++ ks) = joinLines ls ++ "\n" ++ joinLines ks
  | [l], _ => by
      rw [List.singleton_append, joinLines_cons h, String.append_assoc]
      simp [joinLines]
  | l :: m :: ls, _ => by
      have ih := joinLines_append h (List.cons_ne_nil m ls)
      rw [List.cons_append, joinLines_cons (by simp), ih,
        joinLines_cons (List.cons_ne_nil m ls), String.append_assoc, String.append_assoc,
        String.append_assoc, String.append_assoc]

/-! ## Lines of two texts -/

theorem extendFirst_append (c : Char) {ls : List (List Char)} (h : ls ≠ [])
    (ks : List (List Char)) : extendFirst c (ls ++ ks) = extendFirst c ls ++ ks := by
  cases ls with
  | nil => exact absurd rfl h
  | cons => rfl

theorem lines_cons {c : Char} {rest : List Char} (h : ¬ (c = '\r' ∧ rest.head? = some '\n')) :
    lines (c :: rest) =
      if isLineBreak c then [c] :: lines rest else extendFirst c (lines rest) := by
  rw [lines]
  rintro rest' rfl rfl
  exact h ⟨rfl, rfl⟩

theorem lines_ne_nil : ∀ {cs : List Char}, cs ≠ [] → lines cs ≠ []
  | c :: rest, _ => by
      by_cases h : c = '\r' ∧ rest.head? = some '\n'
      · obtain ⟨rfl, h⟩ := h
        obtain ⟨rest, rfl⟩ := List.head?_eq_some_iff.mp h
        exact List.cons_ne_nil _ _
      · rw [lines_cons h]
        split
        · exact List.cons_ne_nil _ _
        · cases lines rest <;> exact List.cons_ne_nil _ _

/-- A line feed ends a line, whatever it stands behind. -/
theorem lines_append_feed (bs cs : List Char) :
    lines (bs ++ '\n' :: cs) = lines (bs ++ ['\n']) ++ lines cs := by
  induction bs using lines.induct with
  | case1 => rfl
  | case2 bs ih =>
      simp only [List.cons_append, lines, ih]
  | case3 c bs other ends ih =>
      by_cases h : c = '\r' ∧ bs = []
      · obtain ⟨rfl, rfl⟩ := h
        rfl
      · have apart : ∀ ds, ¬ (c = '\r' ∧ (bs ++ '\n' :: ds).head? = some '\n') := by
          rintro ds ⟨rfl, feed⟩
          cases bs with
          | nil => exact h ⟨rfl, rfl⟩
          | cons b bs => exact other bs rfl (congrArg (· :: bs) (Option.some.inj feed))
        rw [List.cons_append, List.cons_append, lines_cons (apart cs), lines_cons (apart []),
          if_pos ends, if_pos ends, ih, List.cons_append]
  | case4 c bs other stays ih =>
      have apart : ∀ ds, ¬ (c = '\r' ∧ (bs ++ '\n' :: ds).head? = some '\n') := by
        rintro ds ⟨rfl, -⟩
        exact stays rfl
      rw [List.cons_append, List.cons_append, lines_cons (apart cs), lines_cons (apart []),
        if_neg stays, if_neg stays, ih, extendFirst_append c (lines_ne_nil (by simp))]

theorem indentLines_append_feed (s t : String) :
    indentLines (s ++ "\n" ++ t) = indentLines (s ++ "\n") ++ indentLines t := by
  have feed : "\n".toList = ['\n'] := rfl
  rw [← String.toList_inj, String.toList_append, toList_indentLines, toList_indentLines,
    toList_indentLines, String.toList_append, String.toList_append, feed, List.append_assoc,
    List.singleton_append, lines_append_feed, List.flatMap_append]

theorem trimRight_append_blank {c : Char} (h : isBlank c = true) (cs : List Char) :
    trimRight (cs ++ [c]) = trimRight cs := by
  rw [trimRight, List.reverse_append, List.reverse_singleton, List.singleton_append,
    List.dropWhile_cons_of_pos h, trimRight]

end Text

namespace Code

/-- Spaces are put behind characters that end a line, and nowhere else. -/
inductive Indents : List Char → List Char → Prop where
  | nil : Indents [] []
  | keep (c : Char) {cs ds : List Char} : Indents cs ds → Indents (c :: cs) (c :: ds)
  | indent {c : Char} {cs ds : List Char} : Text.isLineBreak c = true → Indents cs ds →
      Indents (c :: cs) (c :: (Text.tab.toList ++ ds))

theorem Indents.head? {cs ds : List Char} (h : Indents cs ds) : ds.head? = cs.head? := by
  cases h <;> rfl

theorem indents_hang (cs : List Char) : Indents cs (Text.hang (Text.lines cs)) := by
  -- behind a character that ends a line, the next line stands as it is or indented
  have behind : ∀ {c : Char} {rest : List Char}, Text.isLineBreak c = true →
      Indents rest (Text.hang (Text.lines rest)) →
      Indents (c :: rest) (c :: (Text.lines rest).flatMap Text.indentLine) := by
    intro c rest ends ih
    rcases Text.flatMap_indentLine (Text.lines rest) with same | tabbed
    · rw [same]
      exact ih.keep c
    · rw [tabbed]
      exact ih.indent ends
  induction cs using Text.lines.induct with
  | case1 => exact .nil
  | case2 rest ih =>
      rw [Text.lines]
      exact (behind rfl ih).keep _
  | case3 c rest other ends ih =>
      rw [Text.lines, if_pos ends]
      · exact behind ends ih
      · exact other
  | case4 c rest other stays ih =>
      rw [Text.lines, if_neg stays, Text.hang_extendFirst]
      · exact ih.keep c
      · exact other

theorem withoutComments_tab (inside : Bool) (cs : List Char) :
    withoutComments inside (Text.tab.toList ++ cs) =
      (if inside then [] else Text.tab.toList) ++ withoutComments inside cs := by
  cases inside <;> rfl

/-- Comments are removed on both sides. -/
theorem Indents.withoutComments {cs ds : List Char} (h : Indents cs ds) :
    ∀ inside, Indents (withoutComments inside cs) (withoutComments inside ds) := by
  induction h with
  | nil =>
      intro inside
      cases inside <;> exact .nil
  | keep c rest ih =>
      intro inside
      rw [Code.withoutComments, Code.withoutComments, rest.head?]
      split
      · split
        · exact (ih false).keep c
        · exact ih true
      · split
        · exact ih true
        · exact (ih false).keep c
  | @indent c cs ds ends rest ih =>
      have unmarked : ∀ rest : List Char, ¬ (c = '/' ∧ rest.head? = some '/') := by
        rintro rest ⟨rfl, -⟩
        exact absurd ends (by decide)
      intro inside
      rw [Code.withoutComments, Code.withoutComments, if_neg (unmarked _), if_neg (unmarked _),
        withoutComments_tab, withoutComments_tab]
      cases inside with
      | false => exact (ih false).indent ends
      | true =>
          simp only [if_true]
          split
          · exact (ih false).indent ends
          · exact ih true

/-- Both sides read as the same tokens. -/
theorem Indents.scan {cs ds : List Char} (h : Indents cs ds) :
    ∀ pending, scan pending ds = scan pending cs := by
  induction h with
  | nil => exact fun _ => rfl
  | @keep c cs ds rest ih =>
      intro pending
      by_cases pair : c = ':' ∧ cs.head? = some '='
      · obtain ⟨rfl, head⟩ := pair
        obtain ⟨cs, rfl⟩ := List.head?_eq_some_iff.mp head
        obtain ⟨ds, rfl⟩ := List.head?_eq_some_iff.mp (rest.head?.trans head)
        -- the second character of the pair is a token of its own when it is read alone
        have alone : Token.symbol '=' :: Code.scan [] ds = Token.symbol '=' :: Code.scan [] cs :=
          ih []
        rw [Code.scan, Code.scan, List.tail_eq_of_cons_eq alone]
      · rw [scan_cons pair, scan_cons (by rwa [rest.head?]), ih, ih]
  | @indent c cs ds ends rest ih =>
      have delimiter := isDelimiter_of_isLineBreak ends
      have spaces : Code.scan [] (Text.tab.toList ++ ds) = Code.scan [] ds := scan_spaces ds 4
      have next : ∀ (rest pending : List Char),
          Code.scan pending (c :: rest) = Code.scan pending [c] ++ Code.scan [] rest :=
        fun rest pending => scan_append_delimiter delimiter rest [] pending
      intro pending
      rw [next, next cs, spaces, ih]

theorem tokens_tab (s : String) : tokens (Text.tab ++ s) = tokens s := by
  have tab : Text.tab = Text.indent 1 := by decide
  rw [tab, tokens_indent]

/-- **Indentation is not read**, wherever the lines of a text end. -/
theorem tokens_indentLines (s : String) : tokens (Text.indentLines s) = tokens s := by
  have hanging : ∀ cs : List Char,
      Code.scan [] (withoutComments false (Text.hang (Text.lines cs))) =
        Code.scan [] (withoutComments false cs) :=
    fun cs => ((indents_hang cs).withoutComments false).scan []
  rw [tokens, Text.toList_indentLines, tokens]
  rcases Text.flatMap_indentLine (Text.lines s.toList) with same | tabbed
  · rw [same, hanging]
  · rw [tabbed, withoutComments_tab, if_neg Bool.false_ne_true]
    exact (scan_spaces _ 4).trans (hanging s.toList)

/-- A line feed at the end is not read either. -/
theorem tokens_append_feed (s : String) : tokens (s ++ "\n") = tokens s := by
  have feed : "\n".toList = ['\n'] := rfl
  rw [tokens, String.toList_append, feed, tokens_line]
  exact List.append_nil _

end Code

end SelectorRouter
