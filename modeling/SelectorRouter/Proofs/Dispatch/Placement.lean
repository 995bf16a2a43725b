import SelectorRouter.Proofs.Dispatch.Nodes
import SelectorRouter.Proofs.Dispatch.Outline
import SelectorRouter.Proofs.Dispatch.Search

/-!
# Where the lines of a switch stand

Each line of a switch belongs to one node of the tree: the `switch`, the cases and the `leave`
to a leaf, a guard and its closing brace to an inner node. A line is indented by one level for
each turn to the left on the way to its node, and by none for a turn to the right, so the right
half of a node stands at the level of its guard. `exists_block` says that the lines below a
node are consecutive, whatever the shape of the tree.

The braces and the `leave`s are enough to find the shape again: `outlineOf?_render` reads the
outline of a tree off its text. `switchText_placement` puts both together.
-/

namespace SelectorRouter.Dispatch

open Code (Literal IsWord Plain lines tokens)
open SelectorRouter.Dispatch.Tree (Shaped nodeAt?_nil nodeAt?_cons nodeAt?_leaf nodeAt?_inner)

/-- A line of a switch without its indentation, and the path of the node that it belongs to. -/
structure Row where
  path : List Nat
  text : String
  deriving Repr, DecidableEq

/-- The row of a subtree as a row of the whole tree. -/
def Row.under (path : List Nat) (row : Row) : Row :=
  ⟨path ++ row.path, row.text⟩

/-- The rows `own` of the subtree at a path stand one after the other, and no other row belongs
to the node there or to one below it. -/
def Block (rows : List Row) (path : List Nat) (own : List Row) : Prop :=
  ∃ before after, rows = before ++ own.map (Row.under path) ++ after ∧
    ∀ row ∈ before ++ after, ¬ path <+: row.path

/-- The lines of a leaf. -/
def leafTexts (ids : Constant.Identifiers) (ss : List Selector) : List String :=
  "switch sig" :: (ss.map (fun s => "case " ++ s.literal ++ " \x7b result := "
    ++ Constant.identifierOf ids s.module ++ " \x7d // " ++ s.label) ++ ["leave"])

/-- The line that opens the left half of a node, for the text of its bound. -/
def guardText (bound : String) : String :=
  "if lt(sig," ++ bound ++ ") \x7b"

/-- The rows of a tree. -/
def rows (ids : Constant.Identifiers) : Tree → List Row
  | .node ss [] => (leafTexts ids ss).map (Row.mk [])
  | .node _ [_] => []
  | .node _ (left :: right :: _) => ⟨[], guardText right.bound.text⟩ ::
      ((rows ids left).map (Row.under [0]) ++ ⟨[], "\x7d"⟩ ::
        (rows ids right).map (Row.under [1]))

/-- Rows that stand where the nodes of a tree want them: the lines of a leaf are together; those
of the left half of a node are between its guard, which shows the first selector of the right
half, and its brace; those of the right half follow the brace. There are no further rows. -/
structure Placed (ids : Constant.Identifiers) (t : Tree) (rows : List Row) : Prop where
  leaf : ∀ path ss, t.nodeAt? path = some (.node ss []) →
    Block rows path ((leafTexts ids ss).map (Row.mk []))
  inner : ∀ path ss left right, t.nodeAt? path = some (.node ss [left, right]) →
    ∃ (first : Selector) (others : List Selector) (inside beyond : List Row),
      right.leaves.flatten = first :: others ∧
      Block rows path (⟨[], guardText first.literal⟩ :: (inside.map (Row.under [0]) ++
        ⟨[], "\x7d"⟩ :: beyond.map (Row.under [1])))
  known : ∀ row ∈ rows, ∃ node, t.nodeAt? row.path = some node

/-- What a tree needs for a text that can be read back: it is sound, its method ids are in
range, and its names are words where they stand in code and plain where they stand in
comments. -/
structure Legible (ids : Constant.Identifiers) (t : Tree) : Prop where
  sound : ∃ limit, t.check limit = .ok ()
  inRange : ∀ s ∈ t.leaves.flatten, 0 ≤ s.methodId ∧ s.methodId < methodIdLimit
  named : ∀ s ∈ t.leaves.flatten,
    ∃ id, Constant.lookup ids s.module = .ok (some id) ∧ IsWord id
  plain : ∀ s ∈ t.leaves.flatten, Plain s.module.display ∧ Plain s.name

/-- The method id of a line that is a case. -/
def caseId? (line : String) : Option Nat :=
  match tokens line with
  | .word "case" :: .word literal :: _ => (Literal.read? literal).map Literal.value
  | _ => none

/-- Reads an outline off a program: a guarded block and what follows it are the halves of a
node, and a switch before a `leave` is a leaf. -/
def Outline.ofProgram? : List Yul.Statement → Option Outline
  | [.switch cases, .leave] => some (.leaf (cases.map fun c => (c.1.value, c.2)))
  | .guard _ body :: rest => do return .inner (← ofProgram? body) (← ofProgram? rest)
  | _ => none

/-- The outline that a text shows, if it shows one. -/
def outlineOf? (text : String) : Option Outline :=
  (Yul.read text).bind Outline.ofProgram?

variable {ids : Constant.Identifiers} {limit : Int} {t sub : Tree} {path : List Nat}
  {rs own : List Row}

/-! ## Blocks -/

theorem map_under_nil (rs : List Row) : rs.map (Row.under []) = rs := by
  induction rs with
  | nil => rfl
  | cons row rs ih => simpa [Row.under] using ih

/-- A tree is a block of its own. -/
theorem block_nil (rs : List Row) : Block rs [] rs :=
  ⟨[], [], by simp [map_under_nil], by simp⟩

/-- A row below one child is not below another one. -/
theorem not_prefix_under {i j : Nat} (h : i ≠ j) :
    ∀ row ∈ rs.map (Row.under [j]), ¬ i :: path <+: row.path := by
  intro row hrow
  obtain ⟨r, -, rfl⟩ := List.mem_map.mp hrow
  simp [Row.under, h]

/-- A block below a child is a block of the whole tree. -/
theorem Block.under {front back : List Row} {i : Nat} (h : Block rs path own)
    (before_it : ∀ row ∈ front, ¬ i :: path <+: row.path)
    (after_it : ∀ row ∈ back, ¬ i :: path <+: row.path) :
    Block (front ++ rs.map (Row.under [i]) ++ back) (i :: path) own := by
  obtain ⟨before, after, rfl, elsewhere⟩ := h
  refine ⟨front ++ before.map (Row.under [i]), after.map (Row.under [i]) ++ back, ?_, ?_⟩
  · have step : (own.map (Row.under path)).map (Row.under [i]) =
        own.map (Row.under (i :: path)) := by
      rw [List.map_map]
      rfl
    simp only [List.map_append, step, List.append_assoc]
  · intro row hrow
    simp only [List.mem_append, List.mem_map] at hrow
    rcases hrow with (hrow | ⟨r, hr, rfl⟩) | (⟨r, hr, rfl⟩ | hrow)
    · exact before_it row hrow
    · simpa [Row.under] using elsewhere r (List.mem_append_left _ hr)
    · simpa [Row.under] using elsewhere r (List.mem_append_right _ hr)
    · exact after_it row hrow

/-- **The rows below a node are consecutive**: they are those of its subtree. -/
theorem exists_block (ids : Constant.Identifiers) (shaped : Shaped limit t) :
    ∀ path, t.nodeAt? path = some sub → Block (rows ids t) path (rows ids sub) := by
  induction shaped with
  | leaf _ _ =>
      intro path at_end
      obtain ⟨rfl, rfl⟩ := nodeAt?_leaf.mp at_end
      exact block_nil _
  | @inner left right _ _ ihl ihr =>
      intro path at_end
      rcases nodeAt?_inner.mp at_end with ⟨rfl, rfl⟩ | ⟨rest, rfl, below⟩ | ⟨rest, rfl, below⟩
      · exact block_nil _
      · have halves : rows ids (.node [] [left, right]) =
            [⟨[], guardText right.bound.text⟩] ++ (rows ids left).map (Row.under [0]) ++
              ⟨[], "\x7d"⟩ :: (rows ids right).map (Row.under [1]) := by simp [rows]
        rw [halves]
        refine (ihl rest below).under (by simp) ?_
        intro row hrow
        rcases List.mem_cons.mp hrow with rfl | hrow
        · simp
        · exact not_prefix_under (by decide) row hrow
      · have halves : rows ids (.node [] [left, right]) =
            ⟨[], guardText right.bound.text⟩ :: ((rows ids left).map (Row.under [0]) ++
              [⟨[], "\x7d"⟩]) ++ (rows ids right).map (Row.under [1]) ++ [] := by simp [rows]
        rw [halves]
        refine (ihr rest below).under ?_ (by simp)
        intro row hrow
        rcases List.mem_cons.mp hrow with rfl | hrow
        · simp
        · rcases List.mem_append.mp hrow with hrow | hrow
          · exact not_prefix_under (by decide) row hrow
          · rw [List.mem_singleton.mp hrow]
            simp

/-- Every row belongs to a node. -/
theorem exists_nodeAt?_of_mem_rows (shaped : Shaped limit t) :
    ∀ row ∈ rows ids t, ∃ node, t.nodeAt? row.path = some node := by
  induction shaped with
  | leaf _ _ =>
      intro row hrow
      obtain ⟨text, -, rfl⟩ := List.mem_map.mp hrow
      exact ⟨_, nodeAt?_nil⟩
  | inner _ _ ihl ihr =>
      intro row hrow
      simp only [rows, List.mem_cons, List.mem_append, List.mem_map] at hrow
      rcases hrow with rfl | ⟨r, hr, rfl⟩ | rfl | ⟨r, hr, rfl⟩
      · exact ⟨_, nodeAt?_nil⟩
      · obtain ⟨node, below⟩ := ihl r hr
        exact ⟨node, nodeAt?_cons.mpr ⟨_, rfl, below⟩⟩
      · exact ⟨_, nodeAt?_nil⟩
      · obtain ⟨node, below⟩ := ihr r hr
        exact ⟨node, nodeAt?_cons.mpr ⟨_, rfl, below⟩⟩

theorem placed_rows (ids : Constant.Identifiers) (shaped : Shaped limit t) :
    Placed ids t (rows ids t) := by
  refine ⟨?_, ?_, exists_nodeAt?_of_mem_rows shaped⟩
  · intro path ss at_end
    have block := exists_block ids shaped path at_end
    rwa [rows] at block
  · intro path ss left right at_end
    have block := exists_block ids shaped path at_end
    cases shaped.of_nodeAt? at_end with
    | inner _ shapedRight =>
        obtain ⟨first, others, order, -, bound⟩ := bound_eq shapedRight
        rw [rows, bound] at block
        exact ⟨first, others, _, _, order, block⟩

example : rows [("Token", "_TOKEN"), ("Vault", "_VAULT")] guarded =
    [⟨[], "if lt(sig,0x8da5cb5b) \x7b"⟩, ⟨[0], "switch sig"⟩,
      ⟨[0], "case 0x06fdde03 \x7b result := _TOKEN \x7d // Token.name()"⟩, ⟨[0], "leave"⟩,
      ⟨[], "\x7d"⟩, ⟨[1], "switch sig"⟩,
      ⟨[1], "case 0x8da5cb5b \x7b result := _VAULT \x7d // Vault.owner()"⟩, ⟨[1], "leave"⟩] := by
  decide

/-! ## Lines -/

/-- A line is indented once for each turn to the left. -/
theorem layout_eq_rows (ids : Constant.Identifiers) (shaped : Shaped limit t) : ∀ level,
    (layout ids level t).map (fun line => (line.level, line.statement.text)) =
      (rows ids t).map fun row => (level + row.path.count 0, row.text) := by
  induction shaped with
  | leaf _ _ =>
      intro level
      simp [layout, rows, leafTexts, Statement.text, Function.comp_def]
  | inner _ _ ihl ihr =>
      intro level
      -- a turn to the left is the one more level of the left half
      have left : ∀ path : List Nat, level + (0 :: path).count 0 = level + 1 + path.count 0 := by
        intro path
        rw [List.count_cons_self]
        omega
      have right : ∀ path : List Nat, level + (1 :: path).count 0 = level + path.count 0 := by
        intro path
        rw [List.count_cons_of_ne (by decide)]
      simp only [layout, rows, List.map_cons, List.map_append, ihl, ihr, List.map_map,
        Function.comp_def, Row.under, List.singleton_append, left, right]
      rfl

/-! ## Cases -/

theorem caseId?_indent (n : Nat) (s : String) : caseId? (Text.indent n ++ s) = caseId? s := by
  rw [caseId?, Code.tokens_indent, ← caseId?]

theorem caseId?_guard {bound : String} (h : IsWord bound) :
    caseId? (Statement.guard bound).text = none := by
  rw [caseId?, tokens_guard h]
  rfl

theorem caseId?_case {s : Selector} (h : Writable ids s) :
    caseId? (Statement.case s.literal (Constant.identifierOf ids s.module) s.label).text =
      some s.methodId.toNat := by
  have word : IsWord s.literal := Code.isWord_methodIdLiteral _
  rw [caseId?, tokens_case word h.word h.plain]
  simp only [Code.read?_literal h.inRange, Option.map_some]
  rfl

theorem lines_render (shaped : Shaped limit t) (h : ∀ s ∈ t.inOrder, Writable ids s)
    (level : Nat) : lines (Switch.render (layout ids level t)) =
      Switch.shown ((layout ids level t).map fun line => (line.level, line.statement.text)) :=
  lines_render_of_plain shaped fun line hline => plain_text (fits_layout shaped h level line hline)

/-- The cases of a layout are the selectors of the tree in order. -/
theorem caseIds_layout (shaped : Shaped limit t) (h : ∀ s ∈ t.inOrder, Writable ids s)
    (level : Nat) : (layout ids level t).filterMap (fun line => caseId? line.statement.text) =
      t.inOrder.map fun s => s.methodId.toNat := by
  refine (filterMap_layout (fun statement => caseId? statement.text) shaped
    ⟨by decide, by decide, by decide⟩
    (fun n => caseId?_guard (Code.isWord_methodIdLiteral n)) level).trans ?_
  rw [List.filterMap_eq_map_iff_forall_eq_some]
  exact fun s hs => caseId?_case (h s hs)

/-! ## Reading the outline -/

theorem ofProgram?_program (shaped : Shaped limit t) (h : ∀ s ∈ t.inOrder, s.inRange = true) :
    Outline.ofProgram? (program ids t) = some (t.outline ids) := by
  induction shaped with
  | @leaf ss _ _ =>
      rw [Tree.inOrder_leaf] at h
      have same : (ss.map (caseOf ids)).map (fun c => ((c.1.value : Int), c.2)) =
          ss.map (outlineCase ids) := by
        rw [List.map_map]
        refine List.map_congr_left fun s hs => ?_
        have range := Code.inRange_iff.mp (h s hs)
        exact Prod.ext (Int.toNat_of_nonneg range.1) rfl
      rw [program, Outline.ofProgram?, same, Tree.outline]
  | inner _ _ ihl ihr =>
      obtain ⟨hl, hr⟩ := Tree.forall_inOrder_inner.mp h
      rw [program, Outline.ofProgram?, ihl hl, ihr hr]
      rfl

/-- **A text shows the outline of its tree.** -/
theorem outlineOf?_render (shaped : Shaped limit t) (h : ∀ s ∈ t.inOrder, Writable ids s)
    (level : Nat) : outlineOf? (Switch.render (layout ids level t)) = some (t.outline ids) := by
  rw [outlineOf?, read_render shaped h, Option.bind_some,
    ofProgram?_program shaped fun s hs => (h s hs).inRange]

/-! ## The text of a tree -/

theorem Legible.writable (h : Legible ids t) : ∀ s ∈ t.inOrder, Writable ids s := by
  intro s hs
  obtain ⟨id, lookup, word⟩ := h.named s hs
  obtain ⟨plainModule, plainName⟩ := h.plain s hs
  have same := Constant.identifierOf_of_lookup lookup
  exact ⟨Code.inRange_iff.mpr (h.inRange s hs), same.symm ▸ lookup, same.symm ▸ word,
    plain_label plainModule plainName⟩

theorem Legible.shows (h : Legible ids t) {text : String}
    (switch : switchText ids t = .ok text) : outlineOf? text = some (t.outline ids) := by
  obtain ⟨limit, sound⟩ := h.sound
  obtain ⟨shaped, -⟩ := Tree.check_eq_ok_iff.mp sound
  rw [switchText_eq shaped h.writable] at switch
  cases switch
  exact outlineOf?_render shaped h.writable _

/-- **The lines of a switch are a layout of its tree, and show which one.** Every line belongs
to a node and stands where the node wants it, indented by four levels and one more for each
turn to the left on the way to the node; only the first line is not indented. The cases show
all selectors, with growing method ids. A tree with the same text has the same shape, and the
same method ids and identifiers in each leaf. -/
theorem switchText_placement (ids : Constant.Identifiers) (t : Tree) (h : Legible ids t) :
    ∃ text rows, switchText ids t = .ok text ∧ Placed ids t rows ∧
      lines text = Switch.shown (rows.map fun row => (4 + row.path.count 0, row.text)) ∧
      (lines text).filterMap caseId? = t.leaves.flatten.map (fun s => s.methodId.toNat) ∧
      ((lines text).filterMap caseId?).Pairwise (· < ·) ∧
      ∀ other, Legible ids other → switchText ids other = .ok text →
        other.outline ids = t.outline ids := by
  obtain ⟨limit, sound⟩ := h.sound
  obtain ⟨shaped, ascending⟩ := Tree.check_eq_ok_iff.mp sound
  have writable := h.writable
  have switch := switchText_eq shaped writable
  have rowLines := layout_eq_rows ids shaped Switch.baseLevel
  have textLines := lines_render shaped writable Switch.baseLevel
  have cases : (lines (Switch.render (layout ids Switch.baseLevel t))).filterMap caseId? =
      t.leaves.flatten.map fun s => s.methodId.toNat := by
    rw [textLines, Switch.filterMap_shown caseId?_indent, List.filterMap_map]
    exact caseIds_layout shaped writable Switch.baseLevel
  refine ⟨_, rows ids t, switch, placed_rows ids shaped, ?_, cases, ?_, ?_⟩
  · rw [textLines, rowLines]
    rfl
  · rw [cases, List.pairwise_map]
    refine List.Pairwise.imp_of_mem ?_ ascending
    intro a b ha hb below
    have rangeA := h.inRange a ha
    omega
  · intro other legible same
    have shown := h.shows switch
    rw [legible.shows same] at shown
    exact Option.some.inj shown

/-- Of two leaves below one guard the text shows both method ids, and it is the text of no tree
of another shape. -/
theorem switchText_placement_guarded : ∃ text,
    switchText [("Token", "_TOKEN"), ("Vault", "_VAULT")] guarded = .ok text ∧
    (lines text).filterMap caseId? = [0x06fdde03, 0x8da5cb5b] ∧
    ∀ other, Legible [("Token", "_TOKEN"), ("Vault", "_VAULT")] other →
      switchText [("Token", "_TOKEN"), ("Vault", "_VAULT")] other = .ok text →
      other.outline [("Token", "_TOKEN"), ("Vault", "_VAULT")] =
        .inner (.leaf [(0x06fdde03, "_TOKEN")]) (.leaf [(0x8da5cb5b, "_VAULT")]) := by
  have named : ∀ s ∈ guarded.leaves.flatten, ∃ id,
      Constant.lookup [("Token", "_TOKEN"), ("Vault", "_VAULT")] s.module = .ok (some id) ∧
        IsWord id :=
    List.forall_mem_cons.mpr ⟨⟨"_TOKEN", rfl, by decide⟩,
      List.forall_mem_cons.mpr ⟨⟨"_VAULT", rfl, by decide⟩, List.forall_mem_nil _⟩⟩
  obtain ⟨text, rows, switch, -, -, cases, -, unique⟩ :=
    switchText_placement [("Token", "_TOKEN"), ("Vault", "_VAULT")] guarded
      ⟨⟨1, rfl⟩, by decide, named, by decide⟩
  exact ⟨text, switch, cases, unique⟩

end SelectorRouter.Dispatch
