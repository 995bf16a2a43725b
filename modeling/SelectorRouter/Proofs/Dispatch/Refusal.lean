import SelectorRouter.Proofs.Dispatch.Outline

/-!
# When a switch is refused

The switch of a tree is written without checking the tree first. Only two things keep it from
being written: a leaf without selectors, which a guard may meet before the leaf itself is
reached, and a selector of a leaf whose module has no constant. The selectors of inner nodes
are never read, so a tree that is not sorted, or that holds selectors where it should not, still
has a switch. `switchText_refused_iff` says so, and that a switch which is written has one case
for each selector of the leaves, from left to right.
-/

namespace SelectorRouter.Dispatch

open Fallible (bind_eq_ok bind_eq_error)
open Code (Plain lines)
open SelectorRouter.Dispatch.Tree (Shaped inOrder)

/-- Every node with children has exactly two. Nothing is asked of the selectors. -/
inductive Tree.Binary : Tree → Prop
  | leaf (ss : List Selector) : Binary (node ss [])
  | inner (ss : List Selector) {left right : Tree} :
      Binary left → Binary right → Binary (node ss [left, right])

/-- The tree without the selectors of its inner nodes. -/
def Tree.hollow : Tree → Tree
  | node ss [] => node ss []
  | node _ [child] => node [] [child]
  | node _ (left :: right :: rest) => node [] (left.hollow :: right.hollow :: rest)

/-- A fault that names a defect of the tree: an empty leaf, or a module without a constant. -/
inductive Culprit (ids : Constant.Identifiers) (t : Tree) : Fault → Prop
  | emptyLeaf : [] ∈ t.leaves → Culprit ids t (.tree .emptyLeaf)
  | noConstant {s : Selector} : s ∈ t.leaves.flatten →
      Constant.lookup ids s.module = .ok none → Culprit ids t (.tree (.noConstant s.module))

/-- No leaf is empty, and every module has a constant. -/
structure Complete (ids : Constant.Identifiers) (t : Tree) : Prop where
  nonempty : [] ∉ t.leaves
  named : ∀ s ∈ t.inOrder, Constant.lookup ids s.module ≠ .ok none

/-- The literal, the identifier and the label of a statement that is a case. -/
def Statement.case? : Statement → Option (String × String × String)
  | .case literal identifier label => some (literal, identifier, label)
  | _ => none

/-- A line that starts with the word `case`, without its indentation. -/
def caseText? (line : String) : Option String :=
  let text := Text.trimLeft line.toList
  if "case ".toList.isPrefixOf text then some (String.ofList text) else none

variable {ids : Constant.Identifiers} {limit : Int} {t : Tree} {s : Selector}

/-! ## Inner nodes -/

theorem leaves_hollow (binary : t.Binary) : t.hollow.leaves = t.leaves := by
  induction binary with
  | leaf ss => rfl
  | inner ss _ _ ihl ihr =>
      rw [Tree.hollow, Tree.leaves_inner, Tree.leaves_inner, ihl, ihr]

theorem least_hollow (binary : t.Binary) : t.hollow.least = t.least := by
  induction binary with
  | leaf ss => rfl
  | inner ss _ _ ihl _ =>
      rw [Tree.hollow, Tree.least, Tree.least, ihl]

/-- **The selectors of inner nodes are never read.** -/
theorem lines_hollow (ids : Constant.Identifiers) (binary : t.Binary) : ∀ level,
    Switch.lines ids level t.hollow = Switch.lines ids level t := by
  induction binary with
  | leaf ss =>
      intro level
      rfl
  | inner ss _ right ihl ihr =>
      intro level
      rw [Tree.hollow, Switch.lines, Switch.lines, least_hollow right, ihl, ihr]

theorem shaped_hollow (binary : t.Binary)
    (h : ∀ leaf ∈ t.leaves, leaf ≠ [] ∧ (leaf.length : Int) ≤ limit) :
    Shaped limit t.hollow := by
  induction binary with
  | leaf ss =>
      obtain ⟨nonempty, small⟩ := h ss (by simp [Tree.leaves])
      exact .leaf nonempty small
  | inner ss _ _ ihl ihr =>
      rw [Tree.leaves_inner, List.forall_mem_append] at h
      exact .inner (ihl h.1) (ihr h.2)

/-- A tree without empty leaves has the right shape for some size of leaves. -/
theorem exists_shaped_hollow (binary : t.Binary) (nonempty : [] ∉ t.leaves) :
    ∃ limit, Shaped limit t.hollow := by
  refine ⟨t.inOrder.length, shaped_hollow binary ?_⟩
  intro leaf hleaf
  constructor
  · rintro rfl
    exact nonempty hleaf
  · exact Int.ofNat_le.mpr (List.sublist_flatten_of_mem hleaf).length_le

/-! ## Defects -/

/-- A defect of some leaves of a tree is one of the tree. -/
theorem Culprit.mono {sub : Tree} {fault : Fault} (h : Culprit ids sub fault)
    (within : sub.leaves ⊆ t.leaves) : Culprit ids t fault := by
  cases h with
  | emptyLeaf empty => exact .emptyLeaf (within empty)
  | noConstant hs missing =>
      obtain ⟨leaf, hleaf, hs⟩ := List.mem_flatten.mp hs
      exact .noConstant (List.mem_flatten.mpr ⟨leaf, within hleaf, hs⟩) missing

/-- The least selector of a tree is one of its leaves', or its leftmost leaf is empty. -/
theorem least_cases (binary : t.Binary) :
    (∃ s ∈ t.inOrder, t.least = .ok s) ∨ [] ∈ t.leaves ∧ t.least = .error (.tree .emptyLeaf) := by
  induction binary with
  | leaf ss =>
      cases ss with
      | nil => exact Or.inr ⟨by simp [Tree.leaves], by rw [Tree.least]⟩
      | cons s ss => exact Or.inl ⟨s, by simp [Tree.inOrder_leaf], by rw [Tree.least]⟩
  | inner ss _ _ ihl _ =>
      rw [Tree.least, Tree.leaves_inner, Tree.inOrder_inner]
      rcases ihl with ⟨s, hs, least⟩ | ⟨empty, least⟩
      · exact Or.inl ⟨s, List.mem_append_left _ hs, least⟩
      · exact Or.inr ⟨List.mem_append_left _ empty, least⟩

/-- A selector whose module may be looked up is written, or its module has no constant. -/
theorem resolved_or_missing (inRange : s.inRange = true) (key : s.module.key?.isSome) :
    Resolved ids s ∨ Constant.lookup ids s.module = .ok none := by
  cases found : Constant.lookup ids s.module with
  | error fault =>
      -- only lists and objects are refused, and they are no keys
      cases same : s.module <;> simp_all [Constant.lookup, Json.key?]
  | ok id? =>
      cases id? with
      | none => exact Or.inr rfl
      | some id =>
          refine Or.inl ⟨inRange, ?_⟩
          rw [found, Constant.identifierOf_of_lookup found]

theorem caseLine_of_missing (missing : Constant.lookup ids s.module = .ok none) (level : Nat) :
    Switch.caseLine ids level s = .error (.tree (.noConstant s.module)) := by
  rw [Switch.caseLine, missing]
  rfl

/-- Method ids are in range, and modules may be looked up. -/
def Readable (t : Tree) : Prop :=
  ∀ s ∈ t.inOrder, s.inRange = true ∧ s.module.key?.isSome

theorem readable_inner {ss : List Selector} {left right : Tree} :
    Readable (.node ss [left, right]) ↔ Readable left ∧ Readable right :=
  Tree.forall_inOrder_inner

/-- **A complete tree has a switch**, the one of its hollow tree. -/
theorem lines_of_complete (binary : t.Binary) (readable : Readable t) (complete : Complete ids t) :
    (∃ limit, Shaped limit t.hollow) ∧
      ∀ level, Switch.lines ids level t = .ok (layout ids level t.hollow) := by
  obtain ⟨limit, shaped⟩ := exists_shaped_hollow binary complete.nonempty
  refine ⟨⟨limit, shaped⟩, ?_⟩
  intro level
  rw [← lines_hollow ids binary]
  apply lines_eq_layout shaped
  intro s hs
  rw [Tree.inOrder, leaves_hollow binary] at hs
  obtain ⟨inRange, key⟩ := readable s hs
  rcases resolved_or_missing inRange key with resolved | missing
  · exact resolved
  · exact absurd missing (complete.named s hs)

/-- A leaf that is refused is empty, or has a selector whose module has no constant. -/
theorem leafLines_cases (ss : List Selector) (readable : Readable (.node ss [])) (level : Nat) :
    (∃ fault, Switch.leafLines ids level ss = .error fault ∧ Culprit ids (.node ss []) fault) ∨
      Complete ids (.node ss []) := by
  have leaves : (Tree.node ss []).leaves = [ss] := by rw [Tree.leaves]
  rw [Readable, Tree.inOrder_leaf] at readable
  by_cases empty : ss = []
  · subst empty
    exact Or.inl ⟨_, rfl, .emptyLeaf (by simp [leaves])⟩
  rw [Switch.leafLines, if_neg (by rwa [List.isEmpty_iff])]
  cases written : ss.mapM (Switch.caseLine ids level) with
  | error fault =>
      refine Or.inl ⟨fault, rfl, ?_⟩
      -- the first selector that fails is one without a constant
      obtain ⟨before, s, after, rfl, -, fails⟩ := Fallible.mapM_eq_error_iff.mp written
      have hs : s ∈ before ++ s :: after := by simp
      obtain ⟨inRange, key⟩ := readable s hs
      rcases resolved_or_missing inRange key with resolved | missing
      · rw [caseLine_eq resolved] at fails
        cases fails
      · rw [caseLine_of_missing missing] at fails
        cases fails
        exact .noConstant (by simp [leaves]) missing
  | ok _ =>
      refine Or.inr ⟨?_, ?_⟩
      · simpa [leaves, eq_comm] using empty
      · rw [Tree.inOrder_leaf]
        intro s hs missing
        obtain ⟨line, here⟩ := Fallible.exists_ok_of_mapM written s hs
        rw [caseLine_of_missing missing] at here
        cases here

theorem Complete.inner {ss : List Selector} {left right : Tree} (hl : Complete ids left)
    (hr : Complete ids right) : Complete ids (.node ss [left, right]) := by
  constructor
  · rw [Tree.leaves_inner, List.mem_append, not_or]
    exact ⟨hl.nonempty, hr.nonempty⟩
  · rw [Tree.forall_inOrder_inner]
    exact ⟨hl.named, hr.named⟩

/-- **A binary tree is refused with the name of a defect, or has none.** The walk meets the least
selector of a right half before it enters the left one, so the defect named need not be the
first from the left. -/
theorem lines_cases (ids : Constant.Identifiers) (binary : t.Binary) (readable : Readable t) :
    ∀ level,
    (∃ fault, Switch.lines ids level t = .error fault ∧ Culprit ids t fault) ∨
      Complete ids t := by
  induction binary with
  | leaf ss =>
      intro level
      exact leafLines_cases ss readable level
  | @inner ss left right binaryLeft binaryRight ihl ihr =>
      intro level
      obtain ⟨readableLeft, readableRight⟩ := readable_inner.mp readable
      have leaves := Tree.leaves_inner ss left right
      have inLeft : left.leaves ⊆ (Tree.node ss [left, right]).leaves := by simp [leaves]
      have inRight : right.leaves ⊆ (Tree.node ss [left, right]).leaves := by simp [leaves]
      rw [Switch.lines]
      rcases least_cases binaryRight with ⟨s, hs, least⟩ | ⟨empty, least⟩
      · have guard : s.emitted = .ok s.literal := Code.emitted_eq_ok (readableRight s hs).1
        rcases ihl readableLeft (level + 1) with ⟨fault, fails, culprit⟩ | completeLeft
        · refine Or.inl ⟨fault, ?_, culprit.mono inLeft⟩
          simp only [least, guard, fails, bind, Except.bind]
        · obtain ⟨-, linesLeft⟩ := lines_of_complete binaryLeft readableLeft completeLeft
          rcases ihr readableRight level with ⟨fault, fails, culprit⟩ | completeRight
          · refine Or.inl ⟨fault, ?_, culprit.mono inRight⟩
            simp only [least, guard, linesLeft, fails, bind, Except.bind]
          · exact Or.inr (completeLeft.inner completeRight)
      · refine Or.inl ⟨_, ?_, .emptyLeaf (inRight empty)⟩
        rw [least]
        rfl

/-! ## Cases -/

/-- The cases of a layout are the selectors of the tree in order. -/
theorem cases_layout (shaped : Shaped limit t) (level : Nat) :
    (layout ids level t).filterMap (fun line => line.statement.case?) =
      t.inOrder.map fun s => (s.literal, Constant.identifierOf ids s.module, s.label) := by
  refine (filterMap_layout Statement.case? shaped ⟨rfl, rfl, rfl⟩ (fun _ => rfl) level).trans ?_
  rw [List.filterMap_eq_map_iff_forall_eq_some]
  intro s _
  rfl

theorem caseText?_indent (n : Nat) (line : String) :
    caseText? (Text.indent n ++ line) = caseText? line := by
  simp only [caseText?, Text.indent, String.toList_append, String.toList_ofList,
    Text.trimLeft_spaces]

/-- No indentation is left to take off a statement. -/
theorem caseText?_text (statement : Statement) : caseText? statement.text =
    if "case ".toList.isPrefixOf statement.text.toList then some statement.text else none := by
  obtain ⟨c, head, notBlank⟩ := head_text statement
  have whole : Text.trimLeft statement.text.toList = statement.text.toList := by
    apply Text.trimLeft_of_head
    rw [head]
    rintro _ ⟨⟩
    exact notBlank
  rw [caseText?, whole, String.ofList_toList]

/-- The case texts of a layout are those of the selectors of the tree in order. -/
theorem caseTexts_layout (shaped : Shaped limit t) (level : Nat) :
    (layout ids level t).filterMap (fun line => caseText? line.statement.text) =
      t.inOrder.map fun s =>
        (Statement.case s.literal (Constant.identifierOf ids s.module) s.label).text := by
  have guard : ∀ n, caseText? (Statement.guard (methodIdLiteral n)).text = none := by
    intro n
    rw [caseText?_text, if_neg]
    simp [Statement.text]
  refine (filterMap_layout (fun statement => caseText? statement.text) shaped
    ⟨by decide, by decide, by decide⟩ guard level).trans ?_
  rw [List.filterMap_eq_map_iff_forall_eq_some]
  intro s _
  rw [caseText?_text, if_pos]
  simp [Statement.text]

/-- A layout whose names are plain has plain lines. -/
theorem plain_layout (shaped : Shaped limit t)
    (plain : ∀ s ∈ t.inOrder, Plain (Constant.identifierOf ids s.module) ∧ Plain s.label) :
    ∀ level, ∀ line ∈ layout ids level t, Plain line.statement.text := by
  have fixed : Plain Statement.switchHead.text ∧ Plain Statement.close.text ∧
      Plain Statement.leave.text := by decide
  refine forall_layout (p := fun statement => Plain statement.text) shaped fixed ?_ ?_
  · intro n
    exact ((show Plain "if lt(sig," by decide).append (Code.isWord_methodIdLiteral n).plain).append
      (by decide)
  · intro s hs
    obtain ⟨identifier, label⟩ := plain s hs
    have literal : Plain s.literal := (Code.isWord_methodIdLiteral _).plain
    exact (((((show Plain "case " by decide).append literal).append (by decide)).append
      identifier).append (by decide)).append label

theorem switchText_of_complete (binary : t.Binary) (readable : Readable t)
    (complete : Complete ids t) : ∃ limit, Shaped limit t.hollow ∧
      Switch.lines ids Switch.baseLevel t = .ok (layout ids Switch.baseLevel t.hollow) ∧
      switchText ids t = .ok (Switch.render (layout ids Switch.baseLevel t.hollow)) := by
  obtain ⟨⟨limit, shaped⟩, emitted⟩ := lines_of_complete binary readable complete
  refine ⟨limit, shaped, emitted _, ?_⟩
  rw [switchText, emitted]
  rfl

theorem switchText_cases (ids : Constant.Identifiers) (binary : t.Binary)
    (readable : Readable t) :
    (∃ fault, switchText ids t = .error fault ∧ Culprit ids t fault) ∨ Complete ids t := by
  rcases lines_cases ids binary readable Switch.baseLevel with ⟨fault, fails, culprit⟩ | complete
  · refine Or.inl ⟨fault, ?_, culprit⟩
    rw [switchText, fails]
    rfl
  · exact Or.inr complete

/-- Nothing but a defect of the tree makes the switch fail. -/
theorem culprit_of_error {fault : Fault} (binary : t.Binary) (readable : Readable t)
    (fails : switchText ids t = .error fault) : Culprit ids t fault := by
  rcases switchText_cases ids binary readable with ⟨other, also, culprit⟩ | complete
  · rw [also] at fails
    cases fails
    exact culprit
  · obtain ⟨limit, -, -, text⟩ := switchText_of_complete binary readable complete
    rw [text] at fails
    cases fails

/-- **A switch is refused exactly for a defect of its tree.** Of a binary tree, sorted or not and
whatever its inner nodes hold, the switch is a panic exactly when a leaf is empty or a selector
of a leaf has a module without a constant, and the panic names such a defect. In every other
case there is a text. The lines that were written for it hold one case for each selector of the
leaves, from left to right, and these are the lines of the text that start with `case`, as long
as no name in them ends a line. -/
theorem switchText_refused_iff (ids : Constant.Identifiers) (t : Tree) (binary : t.Binary)
    (inRange : ∀ s ∈ t.leaves.flatten, 0 ≤ s.methodId ∧ s.methodId < methodIdLimit)
    (keys : ∀ s ∈ t.leaves.flatten, s.module.key?.isSome) :
    ((∃ defect, switchText ids t = .error (.tree defect)) ↔
      [] ∈ t.leaves ∨ ∃ s ∈ t.leaves.flatten, Constant.lookup ids s.module = .ok none) ∧
    (∀ fault, switchText ids t = .error fault → Culprit ids t fault) ∧
    (Complete ids t → ∃ ls, Switch.lines ids Switch.baseLevel t = .ok ls ∧
      switchText ids t = .ok (Switch.render ls) ∧
      ls.filterMap (fun line => line.statement.case?) = t.leaves.flatten.map
        (fun s => (s.literal, Constant.identifierOf ids s.module, s.label)) ∧
      ((∀ s ∈ t.leaves.flatten,
          Plain (Constant.identifierOf ids s.module) ∧ Plain s.label) →
        (lines (Switch.render ls)).filterMap caseText? = t.leaves.flatten.map fun s =>
          (Statement.case s.literal (Constant.identifierOf ids s.module) s.label).text)) := by
  have readable : Readable t := fun s hs => ⟨Code.inRange_iff.mpr (inRange s hs), keys s hs⟩
  refine ⟨⟨?_, ?_⟩, fun fault fails => culprit_of_error binary readable fails, ?_⟩
  · rintro ⟨defect, fails⟩
    cases culprit_of_error binary readable fails with
    | emptyLeaf empty => exact Or.inl empty
    | noConstant hs missing => exact Or.inr ⟨_, hs, missing⟩
  · intro defective
    rcases switchText_cases ids binary readable with ⟨fault, fails, culprit⟩ | complete
    · cases culprit with
      | emptyLeaf => exact ⟨_, fails⟩
      | noConstant => exact ⟨_, fails⟩
    · rcases defective with empty | ⟨s, hs, missing⟩
      · exact absurd empty complete.nonempty
      · exact absurd missing (complete.named s hs)
  · intro complete
    obtain ⟨limit, shaped, emitted, text⟩ := switchText_of_complete binary readable complete
    have selectors : t.hollow.inOrder = t.leaves.flatten := by
      rw [Tree.inOrder, leaves_hollow binary]
    refine ⟨_, emitted, text, ?_, ?_⟩
    · rw [cases_layout shaped, selectors]
    · intro plain
      rw [← selectors] at plain ⊢
      rw [lines_render_of_plain shaped (plain_layout shaped plain _),
        Switch.filterMap_shown caseText?_indent, List.filterMap_map]
      exact caseTexts_layout shaped _

/-- Two leaves in descending order below a node with a selector of its own. -/
def stray : Tree :=
  .node [⟨.str "Vault", "owner", "owner()", 0x8da5cb5b⟩]
    [.leaf [⟨.str "Vault", "owner", "owner()", 0x8da5cb5b⟩],
      .leaf [⟨.str "Token", "name", "name()", 0x06fdde03⟩]]

/-- The stray tree is refused as long as one of its modules has no constant. Once both have one,
the text has the two cases in the order of the leaves. -/
theorem switchText_refused_stray :
    (∃ defect, switchText [("Vault", "_VAULT")] stray = .error (.tree defect)) ∧
    ∃ text, switchText [("Token", "_TOKEN"), ("Vault", "_VAULT")] stray = .ok text ∧
      (lines text).filterMap caseText? =
        ["case 0x8da5cb5b \x7b result := _VAULT \x7d // Vault.owner()",
          "case 0x06fdde03 \x7b result := _TOKEN \x7d // Token.name()"] := by
  have binary : stray.Binary := .inner _ (.leaf _) (.leaf _)
  constructor
  · apply (switchText_refused_iff [("Vault", "_VAULT")] stray binary (by decide) (by decide)).1.mpr
    exact Or.inr ⟨⟨.str "Token", "name", "name()", 0x06fdde03⟩, by simp [stray, Tree.leaf,
      Tree.leaves, Tree.leavesOfAll], rfl⟩
  · have complete : Complete [("Token", "_TOKEN"), ("Vault", "_VAULT")] stray := by
      constructor
      · simp [stray, Tree.leaf, Tree.leaves, Tree.leavesOfAll]
      · simp [stray, Tree.leaf, Tree.inOrder, Tree.leaves, Tree.leavesOfAll, Constant.lookup]
    obtain ⟨ls, -, text, -, cases⟩ := (switchText_refused_iff
      [("Token", "_TOKEN"), ("Vault", "_VAULT")] stray binary (by decide) (by decide)).2.2 complete
    exact ⟨_, text, cases (by decide)⟩

end SelectorRouter.Dispatch
