import SelectorRouter.Proofs.Code.Token

/-!
# Lines of code

A line of code ends at every character that the language takes for a line end, whoever put
it there. Joined lines are the lines of the joined text as long as none of them holds such a
character; `length_lines` and `breaks_joinLines` count the lines in any case. Removing the
comments keeps all line ends, so it cannot hide that a line was cut in two.
-/

namespace SelectorRouter.Code

/-- The lines of a text, without the characters that end them. -/
def lines (s : String) : List String :=
  (s.toList.splitOnP endsLine).map String.ofList

/-- How many characters of a text end a line. -/
def breaks (s : String) : Nat :=
  s.toList.countP endsLine

/-- How many characters of all these texts end a line. -/
def breaksIn (ls : List String) : Nat :=
  (ls.flatMap String.toList).countP endsLine

/-- The text with its comments removed. -/
def uncommented (s : String) : String :=
  String.ofList (withoutComments false s.toList)

/-! ## Counting line ends -/

theorem plain_iff {s : String} : Plain s ↔ breaks s = 0 := by
  rw [breaks, List.countP_eq_zero]
  simp only [Plain, Bool.not_eq_true]

theorem breaks_append (s t : String) : breaks (s ++ t) = breaks s + breaks t := by
  rw [breaks, String.toList_append, List.countP_append, breaks, breaks]

theorem breaks_indent (n : Nat) (s : String) : breaks (Text.indent n ++ s) = breaks s := by
  rw [breaks_append, plain_iff.mp (plain_indent n), Nat.zero_add]

theorem breaksIn_cons (l : String) (ls : List String) :
    breaksIn (l :: ls) = breaks l + breaksIn ls := by
  rw [breaksIn, List.flatMap_cons, List.countP_append, breaks, breaksIn]

theorem breaksIn_append (ls ks : List String) :
    breaksIn (ls ++ ks) = breaksIn ls + breaksIn ks := by
  rw [breaksIn, List.flatMap_append, List.countP_append, breaksIn, breaksIn]

theorem breaksIn_singleton (l : String) : breaksIn [l] = breaks l := by
  rw [breaksIn, List.flatMap_singleton, breaks]

theorem breaksIn_eq_zero_iff {ls : List String} : breaksIn ls = 0 ↔ ∀ l ∈ ls, Plain l := by
  rw [breaksIn, List.countP_eq_zero]
  simp only [List.mem_flatMap, forall_exists_index, and_imp, Plain, Bool.not_eq_true]
  exact ⟨fun h l hl c hc => h c l hl hc, fun h c l hl hc => h l hl c hc⟩

theorem breaksIn_congr : ∀ {ls ks : List String}, ls.map breaks = ks.map breaks →
    breaksIn ls = breaksIn ks
  | [], [], _ => rfl
  | l :: ls, k :: ks, h => by
      obtain ⟨first, rest⟩ := List.cons.inj h
      rw [breaksIn_cons, breaksIn_cons, first, breaksIn_congr rest]

theorem length_splitOnP (cs : List Char) :
    (cs.splitOnP endsLine).length = cs.countP endsLine + 1 := by
  induction cs with
  | nil => simp
  | cons c cs ih =>
      rw [List.splitOnP_cons_eq_if_modifyHead, List.countP_cons]
      split
      · rw [List.length_cons, ih]
      · rw [List.length_modifyHead, ih]

theorem length_lines (s : String) : (lines s).length = breaks s + 1 := by
  rw [lines, List.length_map, length_splitOnP, breaks]

theorem breaks_joinLines : ∀ {ls : List String}, ls ≠ [] →
    breaks (Text.joinLines ls) + 1 = breaksIn ls + ls.length
  | [l], _ => by simp [Text.joinLines, breaksIn_singleton]
  | l :: m :: ls, _ => by
      have ih := breaks_joinLines (List.cons_ne_nil m ls)
      have feed : breaks "\n" = 1 := by decide
      rw [Text.joinLines_cons (List.cons_ne_nil m ls), breaks_append, breaks_append, feed,
        breaksIn_cons, List.length_cons]
      omega

/-- No line end is part of a comment. -/
theorem countP_withoutComments : ∀ (cs : List Char) (inside : Bool),
    (withoutComments inside cs).countP endsLine = cs.countP endsLine
  | [], _ => rfl
  | c :: rest, true => by
      rw [withoutComments, if_pos rfl, List.countP_cons]
      split
      case isTrue ends =>
          rw [List.countP_cons, countP_withoutComments rest false, ends, if_pos rfl]
      case isFalse =>
          rw [countP_withoutComments rest true]
          rfl
  | c :: rest, false => by
      rw [withoutComments, if_neg Bool.false_ne_true, List.countP_cons]
      split
      case isTrue slash =>
          have stays : endsLine c = false := by
            rw [slash.1]
            rfl
          rw [countP_withoutComments rest true, stays]
          rfl
      case isFalse => rw [List.countP_cons, countP_withoutComments rest false]

theorem breaks_uncommented (s : String) : breaks (uncommented s) = breaks s := by
  rw [breaks, uncommented, String.toList_ofList, countP_withoutComments, breaks]

/-! ## Joined lines -/

/-- **Plain lines stay the lines of their text.** -/
theorem lines_joinLines : ∀ {ls : List String}, ls ≠ [] → (∀ l ∈ ls, Plain l) →
    lines (Text.joinLines ls) = ls
  | [l], _, plain => by
      have one := List.splitOnP_eq_singleton (plain l List.mem_cons_self)
      simp [lines, Text.joinLines, one]
  | l :: m :: ls, _, plain => by
      obtain ⟨first, others⟩ := List.forall_mem_cons.mp plain
      have ih := lines_joinLines (List.cons_ne_nil m ls) others
      have feed : "\n".toList = ['\n'] := rfl
      rw [lines] at ih
      rw [lines, Text.joinLines_cons (List.cons_ne_nil m ls), String.toList_append,
        String.toList_append, feed, List.singleton_append,
        List.splitOnP_append_cons _ _ (by decide), List.splitOnP_eq_singleton first,
        List.map_append, ih, List.map_singleton, String.ofList_toList, List.singleton_append]

/-- Comments are removed line by line. -/
theorem uncommented_joinLines : ∀ ls : List String,
    uncommented (Text.joinLines ls) = Text.joinLines (ls.map uncommented)
  | [] => rfl
  | [l] => by simp [Text.joinLines]
  | l :: m :: ls => by
      have ih := uncommented_joinLines (m :: ls)
      have feed : "\n".toList = ['\n'] := rfl
      have nonempty : (m :: ls).map uncommented ≠ [] := List.cons_ne_nil _ _
      rw [Text.joinLines_cons (List.cons_ne_nil m ls), List.map_cons,
        Text.joinLines_cons nonempty, ← ih, ← String.toList_inj]
      simp only [uncommented, String.toList_append, String.toList_ofList, feed,
        List.singleton_append]
      exact withoutComments_line _ _ false

theorem uncommented_indent (n : Nat) (s : String) :
    uncommented (Text.indent n ++ s) = Text.indent n ++ uncommented s := by
  rw [← String.toList_inj]
  simp only [uncommented, String.toList_append, String.toList_ofList]
  rw [← String.toList_append, withoutComments_indent]

end SelectorRouter.Code
