import SelectorRouter.Proofs.Code.Line
import SelectorRouter.Proofs.Dispatch.Layout

/-!
# The outline of a tree

The outline of a tree is what its switch may depend on: the shape, the method ids and the
identifiers. The names of modules and functions are not in it; they are shown in the comments
of the cases. `lines_render_iff` and `uncommented_render_iff` say when that is all they do: the
text has the lines of the outline, and its code without comments, exactly when no name holds
a character that ends a line.
-/

namespace SelectorRouter.Dispatch

open Code (IsWord Plain breaks breaksIn lines uncommented)
open SelectorRouter.Dispatch.Tree (Shaped inOrder)

/-- A tree without names: a case is a method id and the identifier it leads to. -/
inductive Outline where
  | leaf (cases : List (Int × String))
  | inner (left right : Outline)
  deriving Repr

/-- What a selector leaves in the outline. -/
def outlineCase (ids : Constant.Identifiers) (s : Selector) : Int × String :=
  (s.methodId, Constant.identifierOf ids s.module)

def Tree.outline (ids : Constant.Identifiers) : Tree → Outline
  | .node ss [] => .leaf (ss.map (outlineCase ids))
  | .node _ [_] => .leaf []
  | .node _ (left :: right :: _) => .inner (left.outline ids) (right.outline ids)

/-- The code of a statement, up to its comment. -/
def Statement.code : Statement → String
  | .case literal identifier _ => "case " ++ literal ++ " \x7b result := " ++ identifier ++ " \x7d "
  | statement => statement.text

/-- The text in the comment of a statement. -/
def Statement.label : Statement → String
  | .case _ _ label => label
  | _ => ""

/-- Indents all lines but the first one. -/
def Switch.shown : List (Nat × String) → List String
  | [] => []
  | (_, code) :: rest => code :: rest.map fun line => Text.indent line.1 ++ line.2

namespace Outline

/-- The method id of the first case. -/
def least : Outline → Int
  | leaf [] => 0
  | leaf (c :: _) => c.1
  | inner left _ => left.least

/-- The code of an outline with its levels: one line for each guard, closing brace, switch,
case and `leave`. -/
def codeLines (level : Nat) : Outline → List (Nat × String)
  | leaf cases => (level, Statement.switchHead.code) ::
      (cases.map (fun c => (level, (Statement.case (methodIdLiteral c.1.toNat) c.2 "").code))
        ++ [(level, Statement.leave.code)])
  | inner left right =>
      (level, (Statement.guard (methodIdLiteral right.least.toNat)).code) ::
        (left.codeLines (level + 1) ++ (level, Statement.close.code) :: right.codeLines level)

/-- The lines of the switch of an outline. -/
def code (o : Outline) : List String :=
  Switch.shown (o.codeLines Switch.baseLevel)

end Outline

variable {ids : Constant.Identifiers} {limit : Int} {t : Tree}

/-! ## Code of a layout -/

theorem least_outline (shaped : Shaped limit t) {s : Selector} (h : t.least = .ok s) :
    (t.outline ids).least = s.methodId := by
  induction shaped with
  | @leaf ss nonempty _ =>
      obtain ⟨first, rest, rfl⟩ := List.exists_cons_of_ne_nil nonempty
      obtain rfl : first = s := by
        rw [Tree.least] at h
        exact Except.ok.inj h
      rfl
  | inner _ _ ihl _ =>
      rw [Tree.least] at h
      exact ihl h

/-- **The code of a tree is that of its outline.** -/
theorem code_layout (shaped : Shaped limit t) : ∀ level,
    (layout ids level t).map (fun line => (line.level, line.statement.code)) =
      (t.outline ids).codeLines level := by
  induction shaped with
  | @leaf ss _ _ =>
      intro level
      rw [layout, Tree.outline, Outline.codeLines, List.map_cons, List.map_append, List.map_map,
        List.map_map, List.map_singleton]
      rfl
  | @inner left right _ shapedRight ihl ihr =>
      intro level
      obtain ⟨s, -, -, least, bound⟩ := bound_eq shapedRight
      have text : right.bound.text = methodIdLiteral (right.outline ids).least.toNat := by
        rw [bound, least_outline shapedRight least]
        rfl
      rw [layout, Tree.outline, Outline.codeLines, List.map_cons, List.map_append, List.map_cons,
        ihl, ihr, text]

/-- The outline of a list that is split depends on what its selectors leave in it. -/
theorem outline_split {others : Constant.Identifiers} (limit : Nat) (positive : 0 < limit)
    (ss : List Selector) : ∀ rs, ss.map (outlineCase ids) = rs.map (outlineCase others) →
      (Tree.split limit positive ss).outline ids =
        (Tree.split limit positive rs).outline others := by
  fun_induction Tree.split limit positive ss with
  | case1 ss small =>
      intro rs h
      have length := congrArg List.length h
      rw [List.length_map, List.length_map] at length
      rw [Tree.split, dif_pos (length ▸ small), Tree.leaf, Tree.leaf, Tree.outline, Tree.outline, h]
  | case2 ss large middle ihl ihr =>
      intro rs h
      have length := congrArg List.length h
      rw [List.length_map, List.length_map] at length
      have halves : Tree.split limit positive rs = .node []
          [Tree.split limit positive (rs.take middle),
            Tree.split limit positive (rs.drop middle)] := by
        rw [Tree.split, dif_neg (length ▸ large), ← length]
      rw [halves, Tree.outline, Tree.outline]
      congr 1
      · exact ihl _ (by rw [List.map_take, h, List.map_take])
      · exact ihr _ (by rw [List.map_drop, h, List.map_drop])

/-! ## Shown lines -/

namespace Switch

theorem shown_ne_nil {ls : List (Nat × String)} (h : ls ≠ []) : shown ls ≠ [] := by
  cases ls with
  | nil => exact absurd rfl h
  | cons l ls => exact List.cons_ne_nil _ _

theorem length_shown (ls : List (Nat × String)) : (shown ls).length = ls.length := by
  cases ls with
  | nil => rfl
  | cons l ls => rw [shown, List.length_cons, List.length_map, List.length_cons]

/-- Indentation ends no line. -/
theorem breaksIn_shown (ls : List (Nat × String)) :
    breaksIn (shown ls) = breaksIn (ls.map Prod.snd) := by
  refine Code.breaksIn_congr ?_
  cases ls with
  | nil => rfl
  | cons l ls =>
      rw [shown, List.map_cons, List.map_map, List.map_cons, List.map_cons, List.map_map]
      exact congrArg _ (List.map_congr_left fun line _ => Code.breaks_indent line.1 line.2)

theorem map_uncommented_shown (ls : List (Nat × String)) :
    (shown ls).map uncommented = shown (ls.map fun line => (line.1, uncommented line.2)) := by
  cases ls with
  | nil => rfl
  | cons l ls =>
      rw [shown, List.map_cons, List.map_map, List.map_cons, shown, List.map_map]
      exact congrArg _ (List.map_congr_left fun line _ => Code.uncommented_indent line.1 line.2)

/-- What is picked from lines whatever their indentation is picked from the code of the lines. -/
theorem filterMap_shown {α : Type} {pick : String → Option α}
    (indent : ∀ n s, pick (Text.indent n ++ s) = pick s) (ls : List (Nat × String)) :
    (shown ls).filterMap pick = ls.filterMap fun line => pick line.2 := by
  cases ls with
  | nil => rfl
  | cons line ls =>
      rw [shown, List.filterMap_cons, List.filterMap_cons, List.filterMap_map]
      simp only [Function.comp_def, indent]

theorem plain_shown {ls : List (Nat × String)} (h : ∀ line ∈ ls, Plain line.2) :
    ∀ l ∈ shown ls, Plain l := by
  rw [← Code.breaksIn_eq_zero_iff, breaksIn_shown, Code.breaksIn_eq_zero_iff, List.forall_mem_map]
  exact h

/-- A text of shown lines has a line for each of them, and one for each line end in them. -/
theorem breaks_joinLines_shown {ls : List (Nat × String)} (h : ls ≠ []) :
    breaks (Text.joinLines (shown ls)) + 1 = breaksIn (ls.map Prod.snd) + ls.length := by
  rw [Code.breaks_joinLines (shown_ne_nil h), breaksIn_shown, length_shown]

end Switch

/-- A rendered layout is its lines, the first one without indentation. -/
theorem render_layout (shaped : Shaped limit t) (level : Nat) :
    Switch.render (layout ids level t) = Text.joinLines
      (Switch.shown ((layout ids level t).map fun line => (line.level, line.statement.text))) := by
  obtain ⟨first, rest, lines, last⟩ := layout_eq_cons ids shaped level
  obtain ⟨c, head, notBlank⟩ := head_text first
  have ends : ((⟨level, first⟩ : SwitchLine) :: rest).getLast? = some ⟨level, .leave⟩ := by
    rw [List.getLast?_cons, last]
    rfl
  have tail : Statement.leave.text.toList.getLast? = some 'e' := by decide
  rw [lines, List.map_cons, Switch.shown, List.map_map]
  exact Text.strip_indented SwitchLine.level (·.statement.text) head notBlank ends tail rfl

theorem layout_ne_nil (ids : Constant.Identifiers) (shaped : Shaped limit t) (level : Nat) :
    layout ids level t ≠ [] := by
  obtain ⟨first, rest, lines, -⟩ := layout_eq_cons ids shaped level
  rw [lines]
  exact List.cons_ne_nil _ _

/-- The lines of a rendered layout are its lines, the first one without indentation, as long as
none of them breaks. -/
theorem lines_render_of_plain (shaped : Shaped limit t) {level : Nat}
    (plain : ∀ line ∈ layout ids level t, Plain line.statement.text) :
    lines (Switch.render (layout ids level t)) =
      Switch.shown ((layout ids level t).map fun line => (line.level, line.statement.text)) := by
  have nonempty :
      (layout ids level t).map (fun line => (line.level, line.statement.text)) ≠ [] := by
    rw [Ne, List.map_eq_nil_iff]
    exact layout_ne_nil ids shaped level
  rw [render_layout shaped, Code.lines_joinLines (Switch.shown_ne_nil nonempty)]
  exact Switch.plain_shown (List.forall_mem_map.mpr plain)

/-! ## Names in comments -/

/-- A statement whose words are words, whatever its comment is. -/
def Statement.Worded : Statement → Prop
  | .guard bound => IsWord bound
  | .case literal identifier _ => IsWord literal ∧ IsWord identifier
  | _ => True

theorem worded_layout (shaped : Shaped limit t)
    (words : ∀ s ∈ t.inOrder, IsWord (Constant.identifierOf ids s.module)) :
    ∀ level, ∀ line ∈ layout ids level t, line.statement.Worded :=
  forall_layout shaped ⟨trivial, trivial, trivial⟩ Code.isWord_methodIdLiteral
    fun s hs => ⟨Code.isWord_methodIdLiteral _, words s hs⟩

theorem plain_code : ∀ {statement : Statement}, statement.Worded → Plain statement.code
  | .guard _, h => Plain.append (Plain.append (by decide) h.plain) (by decide)
  | .close, _ => by decide
  | .switchHead, _ => by decide
  | .case _ _ _, h =>
      (((Plain.append (by decide) h.1.plain).append (by decide)).append h.2.plain).append
        (by decide)
  | .leave, _ => by decide

theorem slash_not_mem_code : ∀ {statement : Statement}, statement.Worded →
    '/' ∉ statement.code.toList
  | .guard _, h => by
      simp only [Statement.code, Statement.text, String.toList_append, List.mem_append, not_or]
      exact ⟨⟨by decide, h.slash_not_mem⟩, by decide⟩
  | .close, _ => by decide
  | .switchHead, _ => by decide
  | .case _ _ _, h => by
      simp only [Statement.code, String.toList_append, List.mem_append, not_or]
      exact ⟨⟨⟨⟨by decide, h.1.slash_not_mem⟩, by decide⟩, h.2.slash_not_mem⟩, by decide⟩
  | .leave, _ => by decide

theorem text_case (literal identifier label : String) :
    (Statement.case literal identifier label).text =
      (Statement.case literal identifier label).code ++ ("// " ++ label) := by
  rw [← String.toList_inj]
  simp [Statement.text, Statement.code]

/-- Only the comment of a statement can break its line. -/
theorem breaks_text {statement : Statement} (h : statement.Worded) :
    breaks statement.text = breaks statement.label := by
  have code : breaks statement.code = 0 := Code.plain_iff.mp (plain_code h)
  cases statement with
  | case literal identifier label =>
      have slashes : breaks "// " = 0 := by decide
      rw [text_case, Code.breaks_append, Code.breaks_append, code, slashes, Nat.zero_add,
        Nat.zero_add, Statement.label]
  | _ => exact code

theorem uncommented_text {statement : Statement} (h : statement.Worded)
    (plain : Plain statement.label) : uncommented statement.text = statement.code := by
  have code := slash_not_mem_code h
  rw [← String.toList_inj, Code.uncommented, String.toList_ofList]
  cases statement with
  | case literal identifier label =>
      have comment : Plain (" " ++ label) := Plain.append (by decide) plain
      have slashes : ("// " ++ label).toList = '/' :: '/' :: (" " ++ label).toList := by simp
      rw [text_case, String.toList_append, slashes]
      exact Code.withoutComments_commented code comment
  | _ => exact Code.withoutComments_code code

theorem breaksIn_labels (ids : Constant.Identifiers) (shaped : Shaped limit t) : ∀ level,
    breaksIn ((layout ids level t).map fun line => line.statement.label) =
      breaksIn (t.inOrder.map Selector.label) := by
  have none : breaks "" = 0 := rfl
  induction shaped with
  | leaf _ _ =>
      intro level
      rw [layout, Tree.inOrder_leaf, List.map_cons, List.map_append, List.map_map,
        List.map_singleton, Code.breaksIn_cons, Code.breaksIn_append, Code.breaksIn_singleton]
      simp only [Statement.label, none, Nat.zero_add, Nat.add_zero]
      rfl
  | inner _ _ ihl ihr =>
      intro level
      rw [layout, Tree.inOrder_inner, List.map_cons, List.map_append, List.map_cons,
        List.map_append, Code.breaksIn_cons, Code.breaksIn_append, Code.breaksIn_cons,
        Code.breaksIn_append, ihl, ihr]
      simp only [Statement.label, none, Nat.zero_add]

theorem breaksIn_map_eq_zero_iff {ss : List Selector} :
    breaksIn (ss.map Selector.label) = 0 ↔ ∀ s ∈ ss, Plain s.label := by
  rw [Code.breaksIn_eq_zero_iff, List.forall_mem_map]

variable (shaped : Shaped limit t)
  (words : ∀ s ∈ t.inOrder, IsWord (Constant.identifierOf ids s.module))

include shaped words

/-- The line ends of a switch: those between its lines, and those in the names. -/
theorem breaks_render : breaks (Switch.render (layout ids Switch.baseLevel t)) + 1 =
    breaksIn (t.inOrder.map Selector.label) + (t.outline ids).code.length := by
  have worded := worded_layout shaped words Switch.baseLevel
  have nonempty := layout_ne_nil ids shaped Switch.baseLevel
  have same : ((layout ids Switch.baseLevel t).map fun line => line.statement.text).map breaks =
      ((layout ids Switch.baseLevel t).map fun line => line.statement.label).map breaks := by
    rw [List.map_map, List.map_map]
    exact List.map_congr_left fun line hline => breaks_text (worded line hline)
  rw [render_layout shaped,
    Switch.breaks_joinLines_shown fun empty => nonempty (List.map_eq_nil_iff.mp empty),
    List.map_map, List.length_map, Outline.code, Switch.length_shown, ← code_layout shaped,
    List.length_map, ← breaksIn_labels ids shaped Switch.baseLevel, ← Code.breaksIn_congr same]
  rfl

/-- The code of an outline is plain. -/
theorem plain_outline_code : ∀ l ∈ (t.outline ids).code, Plain l := by
  refine Switch.plain_shown fun pair hpair => ?_
  rw [← code_layout shaped, List.mem_map] at hpair
  obtain ⟨line, hline, rfl⟩ := hpair
  exact plain_code (worded_layout shaped words Switch.baseLevel line hline)

/-- With plain names the lines of the switch are those of the outline, and comments. -/
theorem render_of_plain (plain : ∀ s ∈ t.inOrder, Plain s.label) :
    ∃ ls, ls ≠ [] ∧ (∀ l ∈ ls, Plain l) ∧
      Switch.render (layout ids Switch.baseLevel t) = Text.joinLines ls ∧
      ls.map uncommented = (t.outline ids).code := by
  have worded := worded_layout shaped words Switch.baseLevel
  have labels : ∀ line ∈ layout ids Switch.baseLevel t, Plain line.statement.label := by
    have none := breaksIn_map_eq_zero_iff.mpr plain
    rw [← breaksIn_labels ids shaped Switch.baseLevel, Code.breaksIn_eq_zero_iff] at none
    exact List.forall_mem_map.mp none
  have nonempty : ((layout ids Switch.baseLevel t).map
      fun line => (line.level, line.statement.text)) ≠ [] :=
    fun empty => layout_ne_nil ids shaped Switch.baseLevel (List.map_eq_nil_iff.mp empty)
  refine ⟨_, Switch.shown_ne_nil nonempty, Switch.plain_shown ?_,
    render_layout shaped Switch.baseLevel, ?_⟩
  · intro pair hpair
    obtain ⟨line, hline, rfl⟩ := List.mem_map.mp hpair
    rw [Code.plain_iff, breaks_text (worded line hline), ← Code.plain_iff]
    exact labels line hline
  · rw [Switch.map_uncommented_shown, List.map_map, Outline.code, ← code_layout shaped]
    refine congrArg _ (List.map_congr_left fun line hline => ?_)
    rw [Function.comp_apply, uncommented_text (worded line hline) (labels line hline)]

/-- **A switch has the lines of its outline** exactly when the names in it are plain. -/
theorem lines_render_iff :
    (lines (Switch.render (layout ids Switch.baseLevel t))).map uncommented =
      (t.outline ids).code ↔ ∀ s ∈ t.inOrder, Plain s.label := by
  constructor
  · intro same
    have length := congrArg List.length same
    rw [List.length_map, Code.length_lines, breaks_render shaped words] at length
    exact breaksIn_map_eq_zero_iff.mp (by omega)
  · intro plain
    obtain ⟨ls, nonempty, plainLines, text, code⟩ := render_of_plain shaped words plain
    rw [text, Code.lines_joinLines nonempty plainLines, code]

/-- **A switch has the code of its outline**, once the comments are removed, exactly when the
names in it are plain. -/
theorem uncommented_render_iff :
    uncommented (Switch.render (layout ids Switch.baseLevel t)) =
      Text.joinLines (t.outline ids).code ↔ ∀ s ∈ t.inOrder, Plain s.label := by
  have nonempty : (t.outline ids).code ≠ [] := by
    rw [Outline.code, ← code_layout shaped]
    exact Switch.shown_ne_nil fun empty =>
      layout_ne_nil ids shaped Switch.baseLevel (List.map_eq_nil_iff.mp empty)
  constructor
  · intro same
    -- removing comments keeps the line ends, so both sides can be counted
    have ends := congrArg breaks same
    have code := Code.breaks_joinLines nonempty
    have none := Code.breaksIn_eq_zero_iff.mpr (plain_outline_code shaped words)
    have text := breaks_render shaped words
    rw [Code.breaks_uncommented] at ends
    exact breaksIn_map_eq_zero_iff.mp (by omega)
  · intro plain
    obtain ⟨ls, -, -, text, code⟩ := render_of_plain shaped words plain
    rw [text, Code.uncommented_joinLines, code]

end SelectorRouter.Dispatch
