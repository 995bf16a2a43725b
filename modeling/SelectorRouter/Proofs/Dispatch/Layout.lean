import SelectorRouter.Dispatch.Switch
import SelectorRouter.Proofs.Constant.Identifier
import SelectorRouter.Proofs.Dispatch.Shape
import SelectorRouter.Proofs.Yul.Program

/-!
# The layout of the switch

Of a tree whose selectors can all be written, the lines are a function of the tree, and
so is the program that they are read back as. The guard of an inner node is closed
before its right half, which follows it at the level of the guard: `readFrom_layout`
says that reading the lines of a subtree adds its program to whatever block is open,
and changes nothing else.
-/

namespace SelectorRouter

open Fallible (valueOr bind_eq_ok mapM_eq_ok_map)
open Code (Token Literal IsWord Plain tokens)

namespace Dispatch

open SelectorRouter.Dispatch.Tree (Shaped inOrder)

/-- The least method id of a tree, as the guard before the tree shows it. -/
def Tree.bound (t : Tree) : Literal :=
  Literal.ofSelector (valueOr default t.least)

def caseOf (ids : Constant.Identifiers) (s : Selector) : Literal × String :=
  (Literal.ofSelector s, Constant.identifierOf ids s.module)

/-- The program of a tree. -/
def program (ids : Constant.Identifiers) : Tree → List Yul.Statement
  | .node ss [] => [.switch (ss.map (caseOf ids)), .leave]
  | .node _ [_] => []
  | .node _ (left :: right :: _) => .guard right.bound (program ids left) :: program ids right

/-- The lines of a tree. -/
def layout (ids : Constant.Identifiers) (level : Nat) : Tree → List SwitchLine
  | .node ss [] => ⟨level, .switchHead⟩ ::
      (ss.map (fun s => ⟨level, .case s.literal (Constant.identifierOf ids s.module) s.label⟩)
        ++ [⟨level, .leave⟩])
  | .node _ [_] => []
  | .node _ (left :: right :: _) => ⟨level, .guard right.bound.text⟩ ::
      (layout ids (level + 1) left ++ ⟨level, .close⟩ :: layout ids level right)

/-- What the switch needs of a selector: a method id in range, a module with a constant
whose identifier is a word, and names that stay within their comment. -/
structure Writable (ids : Constant.Identifiers) (s : Selector) : Prop where
  inRange : s.inRange = true
  named : Constant.lookup ids s.module = .ok (some (Constant.identifierOf ids s.module))
  word : IsWord (Constant.identifierOf ids s.module)
  plain : Plain s.label

/-- What a case needs to be written at all, in whatever form its names are. -/
structure Resolved (ids : Constant.Identifiers) (s : Selector) : Prop where
  inRange : s.inRange = true
  named : Constant.lookup ids s.module = .ok (some (Constant.identifierOf ids s.module))

theorem Writable.resolved {ids : Constant.Identifiers} {s : Selector} (h : Writable ids s) :
    Resolved ids s :=
  ⟨h.inRange, h.named⟩

variable {ids : Constant.Identifiers} {limit : Int} {t : Tree}

/-! ## Lines -/

theorem caseLine_eq {s : Selector} (h : Resolved ids s) (level : Nat) :
    Switch.caseLine ids level s =
      .ok ⟨level, .case s.literal (Constant.identifierOf ids s.module) s.label⟩ := by
  rw [Switch.caseLine, h.named, Code.emitted_eq_ok h.inRange]
  rfl

theorem leafLines_eq {ss : List Selector} (nonempty : ss ≠ []) (h : ∀ s ∈ ss, Resolved ids s)
    (level : Nat) : Switch.leafLines ids level ss = .ok (layout ids level (.node ss [])) := by
  rw [Switch.leafLines, if_neg (by rwa [List.isEmpty_iff]),
    mapM_eq_ok_map fun s hs => caseLine_eq (h s hs) level]
  rfl

/-- The bound of a tree is the method id of its first selector. -/
theorem bound_eq (shaped : Shaped limit t) :
    ∃ s rest, t.inOrder = s :: rest ∧ t.least = .ok s ∧ t.bound = Literal.ofSelector s := by
  obtain ⟨s, rest, order, least⟩ := shaped.least_eq_head
  exact ⟨s, rest, order, least, by rw [Tree.bound, least, Fallible.valueOr_ok]⟩

theorem lines_eq_layout (shaped : Shaped limit t) (h : ∀ s ∈ t.inOrder, Resolved ids s) :
    ∀ level, Switch.lines ids level t = .ok (layout ids level t) := by
  induction shaped with
  | leaf nonempty _ =>
      intro level
      rw [Tree.inOrder_leaf] at h
      rw [Switch.lines, leafLines_eq nonempty h]
  | @inner left right _ shapedRight ihl ihr =>
      intro level
      obtain ⟨hl, hr⟩ := Tree.forall_inOrder_inner.mp h
      obtain ⟨s, rest, order, least, bound⟩ := bound_eq shapedRight
      have hs : Resolved ids s := hr s (by rw [order]; exact List.mem_cons_self)
      have guard : s.emitted = .ok right.bound.text := by
        rw [Code.emitted_eq_ok hs.inRange, bound]
        rfl
      rw [Switch.lines, least, ihl hl, ihr hr, layout]
      show (do
        let bound ← s.emitted
        _) = _
      rw [guard]
      rfl

/-- The lines of a tree know identifiers only through the modules of its selectors. -/
theorem layout_congr {others : Constant.Identifiers} (shaped : Shaped limit t)
    (h : ∀ s ∈ t.inOrder,
      Constant.identifierOf ids s.module = Constant.identifierOf others s.module) :
    ∀ level, layout ids level t = layout others level t := by
  induction shaped with
  | leaf _ _ =>
      intro level
      rw [Tree.inOrder_leaf] at h
      rw [layout, layout, List.map_congr_left fun s hs => by rw [h s hs]]
  | inner _ _ ihl ihr =>
      intro level
      obtain ⟨hl, hr⟩ := Tree.forall_inOrder_inner.mp h
      rw [layout, layout, ihl hl, ihr hr]

/-! ## Tokens of a line -/

/-- A statement whose words are words, and whose comment stays on its line. -/
def Statement.Fits : Statement → Prop
  | .guard bound => IsWord bound
  | .case literal identifier label => IsWord literal ∧ IsWord identifier ∧ Plain label
  | _ => True

/-- The tokens that a statement is read as. -/
def Statement.tokens : Statement → List Token
  | .guard bound => [.word "if", .word "lt", .symbol '(', .word "sig", .symbol ',', .word bound,
      .symbol ')', .symbol '{']
  | .close => [.symbol '}']
  | .switchHead => [.word "switch", .word "sig"]
  | .case literal identifier _ => [.word "case", .word literal, .symbol '{', .word "result",
      .assign, .word identifier, .symbol '}']
  | .leave => [.word "leave"]

theorem tokens_guard {bound : String} (h : IsWord bound) :
    tokens (Statement.guard bound).text =
      [.word "if", .word "lt", .symbol '(', .word "sig", .symbol ',', .word bound,
        .symbol ')', .symbol '{'] := by
  unfold Statement.text
  simp only [String.append_assoc]
  rw [Code.tokens_append_word (by decide) rfl h rfl]
  rfl

theorem tokens_case {literal identifier label : String} (hl : IsWord literal)
    (hi : IsWord identifier) (plain : Plain label) :
    tokens (Statement.case literal identifier label).text =
      [.word "case", .word literal, .symbol '{', .word "result", .assign, .word identifier,
        .symbol '}'] := by
  have close : " \x7d // " ++ label = " \x7d " ++ "//" ++ (" " ++ label) := by
    rw [← String.toList_inj]
    simp
  have comment : Plain (" " ++ label) := Plain.append (by decide) plain
  unfold Statement.text
  simp only [String.append_assoc]
  rw [Code.tokens_append_word (by decide) rfl hl (Code.stops_append rfl _),
    Code.tokens_append_word (by decide) rfl hi (Code.stops_append rfl _), close,
    Code.tokens_commented (by decide) comment]
  rfl

theorem tokens_text : ∀ {statement : Statement}, statement.Fits →
    tokens statement.text = statement.tokens
  | .guard _, h => tokens_guard h
  | .close, _ => by decide
  | .switchHead, _ => by decide
  | .case _ _ _, h => tokens_case h.1 h.2.1 h.2.2
  | .leave, _ => by decide

theorem plain_text : ∀ {statement : Statement}, statement.Fits → Plain statement.text
  | .guard _, h => Plain.append (Plain.append (by decide) h.plain) (by decide)
  | .close, _ => by decide
  | .switchHead, _ => by decide
  | .case _ _ _, h =>
      ((((Plain.append (by decide) h.1.plain).append (by decide)).append h.2.1.plain).append
        (by decide)).append h.2.2
  | .leave, _ => by decide

theorem head_text : ∀ statement : Statement,
    ∃ c, statement.text.toList.head? = some c ∧ Text.isBlank c = false
  | .guard _ => ⟨'i', by simp [Statement.text], by decide⟩
  | .close => ⟨'\x7d', by decide, by decide⟩
  | .switchHead => ⟨'s', by decide, by decide⟩
  | .case _ _ _ => ⟨'c', by simp [Statement.text], by decide⟩
  | .leave => ⟨'l', by decide, by decide⟩

/-! ## Reading a layout -/

/-- What holds of the cases of the selectors and of all other statements holds of every line
of a layout. -/
theorem forall_layout {p : Statement → Prop} (shaped : Shaped limit t)
    (fixed : p .switchHead ∧ p .close ∧ p .leave)
    (guard : ∀ n, p (.guard (methodIdLiteral n)))
    (case : ∀ s ∈ t.inOrder, p (.case s.literal (Constant.identifierOf ids s.module) s.label)) :
    ∀ level, ∀ line ∈ layout ids level t, p line.statement := by
  obtain ⟨switchHead, close, leave⟩ := fixed
  induction shaped with
  | leaf _ _ =>
      intro level line hline
      rw [Tree.inOrder_leaf] at case
      simp only [layout, List.mem_cons, List.mem_append, List.mem_map, List.not_mem_nil,
        or_false] at hline
      rcases hline with rfl | ⟨s, hs, rfl⟩ | rfl
      · exact switchHead
      · exact case s hs
      · exact leave
  | inner _ _ ihl ihr =>
      intro level line hline
      obtain ⟨hl, hr⟩ := Tree.forall_inOrder_inner.mp case
      simp only [layout, List.mem_cons, List.mem_append] at hline
      rcases hline with rfl | hline | rfl | hline
      · exact guard _
      · exact ihl hl _ line hline
      · exact close
      · exact ihr hr _ line hline

/-- What is picked from the cases of a layout, and from no other statement, is picked from the
selectors of the tree in order. -/
theorem filterMap_layout {α : Type} (pick : Statement → Option α) (shaped : Shaped limit t)
    (fixed : pick .switchHead = none ∧ pick .close = none ∧ pick .leave = none)
    (guard : ∀ n, pick (.guard (methodIdLiteral n)) = none) : ∀ level,
    (layout ids level t).filterMap (fun line => pick line.statement) =
      t.inOrder.filterMap fun s =>
        pick (.case s.literal (Constant.identifierOf ids s.module) s.label) := by
  obtain ⟨switchHead, close, leave⟩ := fixed
  induction shaped with
  | leaf _ _ =>
      intro level
      simp only [layout, Tree.inOrder_leaf, List.filterMap_cons, List.filterMap_append,
        List.filterMap_map, List.filterMap_nil, List.append_nil, switchHead, leave,
        Function.comp_def]
  | @inner left right _ shapedRight ihl ihr =>
      intro level
      obtain ⟨s, -, -, -, bound⟩ := bound_eq shapedRight
      have opens : pick (.guard right.bound.text) = none := bound ▸ guard s.methodId.toNat
      simp only [layout, Tree.inOrder_inner, List.filterMap_cons, List.filterMap_append, opens,
        close, ihl, ihr]

theorem fits_layout (shaped : Shaped limit t) (h : ∀ s ∈ t.inOrder, Writable ids s) :
    ∀ level, ∀ line ∈ layout ids level t, line.statement.Fits :=
  forall_layout shaped ⟨trivial, trivial, trivial⟩ Code.isWord_methodIdLiteral
    fun s hs => ⟨Code.isWord_methodIdLiteral _, (h s hs).word, (h s hs).plain⟩

/-- The first line of a layout, and the `leave` that it ends with. -/
theorem layout_eq_cons (ids : Constant.Identifiers) (shaped : Shaped limit t) (level : Nat) :
    ∃ first rest, layout ids level t = ⟨level, first⟩ :: rest ∧
      rest.getLast? = some ⟨level, .leave⟩ := by
  induction shaped with
  | leaf _ _ => exact ⟨_, _, rfl, List.getLast?_concat⟩
  | inner _ _ _ ihr =>
      obtain ⟨first, rest, layoutRight, last⟩ := ihr
      refine ⟨_, _, rfl, ?_⟩
      rw [List.getLast?_append, layoutRight, List.getLast?_cons, List.getLast?_cons, last]
      rfl

theorem readFrom_cases (frames : List Yul.Frame) (done : List Yul.Statement) (rest : List Token)
    (level : Nat) : ∀ {ss : List Selector}, (∀ s ∈ ss, Writable ids s) →
    ∀ cases, Yul.readFrom frames (.switch cases :: done)
      ((ss.map fun s => (⟨level, .case s.literal (Constant.identifierOf ids s.module) s.label⟩ :
        SwitchLine)).flatMap (·.statement.tokens) ++ rest) =
      Yul.readFrom frames (.switch (cases ++ ss.map (caseOf ids)) :: done) rest
  | [], _, cases => by rw [List.map_nil, List.flatMap_nil, List.nil_append, List.map_nil,
      List.append_nil]
  | s :: ss, h, cases => by
      have literal := Code.read?_literal (h s List.mem_cons_self).inRange
      have ih := readFrom_cases frames done rest level (fun k hk => h k (List.mem_cons_of_mem s hk))
        (cases ++ [caseOf ids s])
      rw [List.append_assoc] at ih
      rw [List.map_cons, List.flatMap_cons, List.append_assoc]
      exact (Yul.readFrom_case frames done _ cases literal).trans ih

/-- **Reading the lines of a tree** adds its program to the open block. -/
theorem readFrom_layout (shaped : Shaped limit t) (h : ∀ s ∈ t.inOrder, Writable ids s) :
    ∀ (level : Nat) (frames : List Yul.Frame) (done : List Yul.Statement) (rest : List Token),
    Yul.readFrom frames done ((layout ids level t).flatMap (·.statement.tokens) ++ rest) =
      Yul.readFrom frames ((program ids t).reverse ++ done) rest := by
  induction shaped with
  | @leaf ss nonempty _ =>
      intro level frames done rest
      rw [Tree.inOrder_leaf] at h
      obtain ⟨s, ss, rfl⟩ := List.exists_cons_of_ne_nil nonempty
      have cases := readFrom_cases frames done (.word "leave" :: rest) level h []
      rw [layout, List.flatMap_cons, List.flatMap_append, List.append_assoc, List.append_assoc]
      refine (Yul.readFrom_switch frames done _ rfl).trans (cases.trans ?_)
      exact Yul.readFrom_leave frames _ rest
  | @inner left right _ shapedRight ihl ihr =>
      intro level frames done rest
      obtain ⟨hl, hr⟩ := Tree.forall_inOrder_inner.mp h
      obtain ⟨s, others, order, -, bound⟩ := bound_eq shapedRight
      have hs : Writable ids s := hr s (by rw [order]; exact List.mem_cons_self)
      have literal : Literal.read? right.bound.text = some right.bound := by
        rw [bound]
        exact Code.read?_literal hs.inRange
      rw [layout, List.flatMap_cons, List.flatMap_append, List.flatMap_cons, List.append_assoc,
        List.append_assoc, List.append_assoc]
      -- the left half is read into a frame of its own, the right half into the open block
      refine (Yul.readFrom_guard frames done _ literal).trans ((ihl hl _ _ _ _).trans ?_)
      refine (Yul.readFrom_close frames _ _ ⟨right.bound, done⟩).trans ((ihr hr _ _ _ _).trans ?_)
      rw [program, List.append_nil, List.reverse_reverse, List.reverse_cons, List.append_assoc]
      rfl

/-- A rendered layout reads line by line, without the indentation of its lines. -/
theorem tokens_render (shaped : Shaped limit t) (h : ∀ s ∈ t.inOrder, Writable ids s)
    (level : Nat) : tokens (Switch.render (layout ids level t)) =
      (layout ids level t).flatMap (·.statement.tokens) := by
  obtain ⟨first, rest, lines, last⟩ := layout_eq_cons ids shaped level
  have fits := fits_layout shaped h level
  rw [lines] at fits ⊢
  obtain ⟨c, head, notBlank⟩ := head_text first
  have ends : ((⟨level, first⟩ : SwitchLine) :: rest).getLast? = some ⟨level, .leave⟩ := by
    rw [List.getLast?_cons, last]
    rfl
  have lineTokens : ∀ line ∈ (⟨level, first⟩ : SwitchLine) :: rest,
      tokens line.statement.text = line.statement.tokens :=
    fun line hline => tokens_text (fits line hline)
  have tail : Statement.leave.text.toList.getLast? = some 'e' := by decide
  have read : tokens (Switch.render (⟨level, first⟩ :: rest)) =
      ((⟨level, first⟩ : SwitchLine) :: rest).flatMap fun line => tokens line.statement.text :=
    Code.tokens_strip_joinLines head notBlank ends tail rfl
  refine read.trans ?_
  rw [List.flatMap_def, List.flatMap_def, List.map_congr_left lineTokens]

/-- **The text of a tree reads back as its program.** -/
theorem read_render (shaped : Shaped limit t) (h : ∀ s ∈ t.inOrder, Writable ids s) (level : Nat) :
    Yul.read (Switch.render (layout ids level t)) = some (program ids t) := by
  have lines := readFrom_layout shaped h level [] [] []
  rw [List.append_nil, List.append_nil] at lines
  rw [Yul.read, tokens_render shaped h, lines]
  exact congrArg some (List.reverse_reverse _)

/-- The switch of a shaped tree has a text as soon as its selectors are resolved. -/
theorem switchText_eq_layout (shaped : Shaped limit t) (h : ∀ s ∈ t.inOrder, Resolved ids s) :
    switchText ids t = .ok (Switch.render (layout ids Switch.baseLevel t)) := by
  rw [switchText, lines_eq_layout shaped h]
  rfl

theorem switchText_eq (shaped : Shaped limit t) (h : ∀ s ∈ t.inOrder, Writable ids s) :
    switchText ids t = .ok (Switch.render (layout ids Switch.baseLevel t)) :=
  switchText_eq_layout shaped fun s hs => (h s hs).resolved

end Dispatch

end SelectorRouter
