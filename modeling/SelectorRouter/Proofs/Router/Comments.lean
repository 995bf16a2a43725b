import SelectorRouter.Proofs.Dispatch.Outline
import SelectorRouter.Proofs.Module.Order
import SelectorRouter.Proofs.Router.Texts

/-!
# Names in comments

Names come from files and deployments, and may hold any characters. The identifiers are made
of words, but the switch also shows the names of the module and the function of each case,
as they are, in a comment. As long as the names hold no character that ends a line, they stay
there: the text has one line for each line of the outline of the tree, and without its
comments it is the code of the outline. A name that holds such a character puts what follows
it on a line of its own, outside the comment.
-/

namespace SelectorRouter

open Fallible (mapM_eq_ok_iff)
open Code (IsWord Plain breaks breaksIn lines uncommented)
open Dispatch (outlineCase)
open SelectorRouter.Module (Accepted StringNames routed)

/-- The names of the module and the function stay within one line. -/
def Selector.StaysInComment (s : Selector) : Prop :=
  Plain s.module.display ∧ Plain s.name

theorem breaks_label (s : Selector) :
    breaks s.label = breaks s.module.display + breaks s.name := by
  have dot : breaks "." = 0 := by decide
  have parentheses : breaks "()" = 0 := by decide
  rw [Selector.label, Code.breaks_append, Code.breaks_append, Code.breaks_append, dot, parentheses]
  rfl

theorem plain_label_iff {s : Selector} : Plain s.label ↔ s.StaysInComment := by
  rw [Selector.StaysInComment, Code.plain_iff, Code.plain_iff, Code.plain_iff, breaks_label,
    Nat.add_eq_zero_iff]

/-! ## Renamed modules -/

namespace Module

variable {router : String} {filter : FunctionFilter} {modules others : List Module} {m n : Module}
  {ss ts : List Selector} {ids ids' : Constant.Identifiers}

/-- A module with the same functions and the same identifier, but maybe another name. -/
structure Renamed (ids ids' : Constant.Identifiers) (m n : Module) : Prop where
  abi : m.abi = n.abi
  identifier : Constant.identifierOf ids m.name = Constant.identifierOf ids' n.name

/-- The selectors of a renamed module leave the same in an outline. -/
theorem Renamed.outlineCases (h : Renamed ids ids' m n)
    (okM : m.selectors filter = .ok (m.routed filter))
    (okN : n.selectors filter = .ok (n.routed filter)) :
    (m.routed filter).map (outlineCase ids) = (n.routed filter).map (outlineCase ids') := by
  obtain ⟨eachM, eqM⟩ := (mapM_eq_ok_iff default).mp okM
  obtain ⟨eachN, eqN⟩ := (mapM_eq_ok_iff default).mp okN
  rw [← h.abi] at eachN eqN
  rw [eqM, eqN, List.map_map, List.map_map]
  refine List.map_congr_left fun f hf => ?_
  obtain ⟨signature, signed, selectorM⟩ := selectorOf_eq_ok.mp (eachM f hf)
  obtain ⟨other, signedN, selectorN⟩ := selectorOf_eq_ok.mp (eachN f hf)
  obtain rfl := Except.ok.inj (signed.symm.trans signedN)
  rw [Function.comp_apply, Function.comp_apply, selectorM, selectorN, outlineCase, outlineCase,
    h.identifier]

theorem flatMap_outlineCases (h : List.Forall₂ (Renamed ids ids') modules others)
    (ok : ∀ m ∈ modules, m.selectors filter = .ok (m.routed filter))
    (ok' : ∀ n ∈ others, n.selectors filter = .ok (n.routed filter)) :
    (modules.flatMap (routed filter)).map (outlineCase ids) =
      (others.flatMap (routed filter)).map (outlineCase ids') := by
  induction h with
  | nil => rfl
  | cons same _ ih =>
      obtain ⟨first, rest⟩ := List.forall_mem_cons.mp ok
      obtain ⟨first', rest'⟩ := List.forall_mem_cons.mp ok'
      rw [List.flatMap_cons, List.flatMap_cons, List.map_append, List.map_append,
        same.outlineCases first first', ih rest rest']

/-- **Renamed modules leave the same in an outline**, in the same order. -/
theorem Accepted.outlineCases (accepted : Accepted router filter modules ss)
    (accepted' : Accepted router filter others ts)
    (h : List.Forall₂ (Renamed ids ids') modules others) :
    ss.map (outlineCase ids) = ts.map (outlineCase ids') := by
  have perm := accepted.perm.map (outlineCase ids)
  rw [flatMap_outlineCases h accepted.selectors accepted'.selectors] at perm
  refine eq_of_perm_of_increasing Prod.fst ?_ ?_
    (perm.trans (accepted'.perm.map (outlineCase ids')).symm)
  · exact List.pairwise_map.mpr accepted.ascending
  · exact List.pairwise_map.mpr accepted'.ascending

end Module

namespace Router

variable {r r' : Request} {ss ts : List Selector} {ids ids' : Constant.Identifiers}
  {tree tree' : Dispatch.Tree} {t t' : Template.Sections}

/-! ## Drafts and outlines -/

theorem Drafted.words (h : Drafted r ss ids tree t)
    (accepted : Accepted r.shownName r.filter r.modules ss) :
    ∀ s ∈ tree.inOrder, IsWord (Constant.identifierOf ids s.module) := by
  intro s hs
  rw [h.inOrder] at hs
  obtain ⟨m, hm, routed⟩ := accepted.mem_iff.mp hs
  rw [Module.module_of_mem_routed (accepted.selectors m hm) routed]
  exact (h.named.declarable m hm).word

theorem Drafted.plain_labels_iff (h : Drafted r ss ids tree t) :
    (∀ s ∈ tree.inOrder, Plain s.label) ↔ ∀ s ∈ ss, s.StaysInComment := by
  rw [h.inOrder]
  simp only [plain_label_iff]

theorem Drafted.lines_iff (h : Drafted r ss ids tree t)
    (accepted : Accepted r.shownName r.filter r.modules ss) :
    (lines t.selectors).map uncommented = (tree.outline ids).code ↔
      ∀ s ∈ ss, s.StaysInComment := by
  rw [h.switched, Dispatch.lines_render_iff h.shaped (h.words accepted), h.plain_labels_iff]

theorem Drafted.uncommented_iff (h : Drafted r ss ids tree t)
    (accepted : Accepted r.shownName r.filter r.modules ss) :
    uncommented t.selectors = Text.joinLines (tree.outline ids).code ↔
      ∀ s ∈ ss, s.StaysInComment := by
  rw [h.switched, Dispatch.uncommented_render_iff h.shaped (h.words accepted), h.plain_labels_iff]

theorem Drafted.outline_eq (h : Drafted r ss ids tree t) (h' : Drafted r' ts ids' tree' t')
    (cases : ss.map (outlineCase ids) = ts.map (outlineCase ids')) :
    tree.outline ids = tree'.outline ids' := by
  have positive : (0 : Int) < Dispatch.defaultLeafSize := by decide
  obtain rfl := Except.ok.inj (h.built.symm.trans (dif_pos positive))
  obtain rfl := Except.ok.inj (h'.built.symm.trans (dif_pos positive))
  exact Dispatch.outline_split _ _ ss ts cases

/-- The lines of a switch are those of its outline, and one more for each line end in a name. -/
theorem Drafted.length_lines (h : Drafted r ss ids tree t)
    (accepted : Accepted r.shownName r.filter r.modules ss) :
    (lines t.selectors).length =
      breaksIn (ss.map Selector.label) + (tree.outline ids).code.length := by
  rw [Code.length_lines, h.switched, Dispatch.breaks_render h.shaped (h.words accepted), h.inOrder]

/-- **Names stay out of the code exactly when they hold no line end.** Take accepted modules
with string names and a function to route. The request has texts, in which every run ends
unless it raises a warning. The lines of its switch, without comments, are one line for each
guard, closing brace, switch, case and `leave` of the tree exactly when the routed names hold
no character that ends a line; and exactly then the switch without its comments is the code
of the outline of the tree, which knows nothing but its shape, the method ids and the
identifiers. So when modules are renamed and keep their identifiers, the code stays the same
exactly when the new names hold no line end either. -/
theorem switch_stays_iff (r : Request) (ss : List Selector)
    (accepted : Accepted r.shownName r.filter r.modules ss) (nonempty : ss ≠ [])
    (names : StringNames r.modules) :
    ∃ ids tree t, Constant.identifiers (r.modules.map (·.name)) = .ok ids ∧
      Dispatch.Tree.build Dispatch.defaultLeafSize ss = .ok tree ∧ Renders r t ∧
      ((lines t.selectors).map uncommented = (tree.outline ids).code ↔
        ∀ s ∈ ss, s.StaysInComment) ∧
      (uncommented t.selectors = Text.joinLines (tree.outline ids).code ↔
        ∀ s ∈ ss, s.StaysInComment) ∧
      ∀ others ts ids', Accepted r.shownName r.filter others ts → StringNames others →
        Constant.identifiers (others.map (·.name)) = .ok ids' →
        List.Forall₂ (Module.Renamed ids ids') r.modules others →
        ∃ t', Renders { r with modules := others } t' ∧
          ((∀ s ∈ ss, s.StaysInComment) →
            (uncommented t'.selectors = uncommented t.selectors ↔
              ∀ s ∈ ts, s.StaysInComment)) := by
  obtain ⟨ids, tree, t, draft⟩ := exists_drafted accepted nonempty names
  refine ⟨ids, tree, t, draft.identifiers, draft.built, draft.renders, draft.lines_iff accepted,
    draft.uncommented_iff accepted, ?_⟩
  intro others ts ids' accepted' names' identifiers renamed
  have cases := accepted.outlineCases accepted' renamed
  have nonempty' : ts ≠ [] := by
    rintro rfl
    exact nonempty (List.map_eq_nil_iff.mp cases)
  obtain ⟨known, tree', t', draft'⟩ :=
    exists_drafted (r := { r with modules := others }) accepted' nonempty' names'
  obtain rfl := Except.ok.inj (identifiers.symm.trans draft'.identifiers)
  refine ⟨t', draft'.renders, fun stays => ?_⟩
  rw [(draft.uncommented_iff accepted).mpr stays, draft.outline_eq draft' cases]
  exact draft'.uncommented_iff accepted'

/-- A router of a single token of any name. -/
def namedToken (name : String) : Request :=
  ⟨[Module.tokenNamed name Module.sampleAddress], .str "Router", none, false, false, .all⟩

def tokenSelector (name : String) : Selector :=
  { Module.nameSelector with module := .str name }

theorem accepted_namedToken (name : String) :
    Accepted "Router" .all (namedToken name).modules [tokenSelector name] :=
  Module.accepted_tokenNamed name

theorem stringNames_namedToken (name : String) : StringNames (namedToken name).modules :=
  List.forall_mem_singleton.mpr ⟨name, rfl⟩

/-- A token may be renamed to small letters: the code of its switch stays the same. -/
theorem switch_stays_token : ∃ t t', Renders (namedToken "Token") t ∧
    Renders (namedToken "token") t' ∧ uncommented t'.selectors = uncommented t.selectors := by
  obtain ⟨ids, tree, t, identifiers, -, renders, -, -, rename⟩ :=
    switch_stays_iff (namedToken "Token") _ (accepted_namedToken "Token") (List.cons_ne_nil _ _)
      (stringNames_namedToken "Token")
  obtain rfl : ids = [("Token", "_TOKEN")] := Except.ok.inj (identifiers.symm.trans rfl)
  obtain ⟨t', renders', same⟩ := rename (namedToken "token").modules _ [("token", "_TOKEN")]
    (accepted_namedToken "token") (stringNames_namedToken "token") rfl
    (.cons ⟨rfl, rfl⟩ .nil)
  refine ⟨t, t', renders, renders', (same ?_).mpr ?_⟩
  · exact List.forall_mem_singleton.mpr ⟨by decide, by decide⟩
  · exact List.forall_mem_singleton.mpr ⟨by decide, by decide⟩

/-- The tree of a token has three lines of code, and its switch has those that the name adds. -/
theorem exists_lines_namedToken (name : String) {ids : Constant.Identifiers}
    (identifiers : Constant.identifiers ((namedToken name).modules.map (·.name)) = .ok ids) :
    ∃ tree t, Dispatch.Tree.build Dispatch.defaultLeafSize [tokenSelector name] = .ok tree ∧
      Renders (namedToken name) t ∧ (tree.outline ids).code.length = 3 ∧
      (lines t.selectors).length = breaks name + 3 := by
  have accepted := accepted_namedToken name
  have nonempty := List.cons_ne_nil (tokenSelector name) []
  obtain ⟨known, tree, t, draft⟩ :=
    exists_drafted (r := namedToken name) accepted nonempty (stringNames_namedToken name)
  obtain rfl := Except.ok.inj (identifiers.symm.trans draft.identifiers)
  have short : (([tokenSelector name].length : Nat) : Int) ≤ Dispatch.defaultLeafSize :=
    Int.ofNat_le.mpr (Nat.le_add_left 1 8)
  have leaf : tree = .leaf [tokenSelector name] :=
    Except.ok.inj (draft.built.symm.trans (Dispatch.Tree.build_of_short nonempty short))
  have three : (tree.outline ids).code.length = 3 := by
    rw [leaf]
    rfl
  have label : breaks (tokenSelector name).label = breaks name := by
    have function : breaks "name" = 0 := by decide
    rw [breaks_label]
    exact congrArg (breaks name + ·) function
  refine ⟨tree, t, draft.built, draft.renders, three, ?_⟩
  rw [draft.length_lines accepted, three, List.map_singleton, Code.breaksIn_singleton, label]

/-- **A line end in a name cuts its comment in two.** A token whose name ends with a line feed
has the identifier that `Token_` has. But its switch has four lines for the three of its tree,
and other code than that of `Token_`. -/
theorem switch_broken_token :
    Accepted "Router" .all (namedToken "Token\n").modules [tokenSelector "Token\n"] ∧
      Accepted "Router" .all (namedToken "Token_").modules [tokenSelector "Token_"] ∧
      Constant.identifiers ((namedToken "Token\n").modules.map (·.name)) =
        .ok [("Token\n", "_TOKEN__")] ∧
      Constant.identifiers ((namedToken "Token_").modules.map (·.name)) =
        .ok [("Token_", "_TOKEN__")] ∧
      ∃ tree t t',
        Dispatch.Tree.build Dispatch.defaultLeafSize [tokenSelector "Token\n"] = .ok tree ∧
        Renders (namedToken "Token\n") t ∧ Renders (namedToken "Token_") t' ∧
        (tree.outline [("Token\n", "_TOKEN__")]).code.length = 3 ∧
        (lines t.selectors).length = 4 ∧
        uncommented t.selectors ≠ uncommented t'.selectors := by
  have identifiers : Constant.identifiers ((namedToken "Token\n").modules.map (·.name)) =
      .ok [("Token\n", "_TOKEN__")] := rfl
  have identifiers' : Constant.identifiers ((namedToken "Token_").modules.map (·.name)) =
      .ok [("Token_", "_TOKEN__")] := rfl
  obtain ⟨tree, t, built, renders, three, four⟩ := exists_lines_namedToken "Token\n" identifiers
  obtain ⟨tree', t', -, renders', -, three'⟩ := exists_lines_namedToken "Token_" identifiers'
  refine ⟨accepted_namedToken _, accepted_namedToken _, identifiers, identifiers', tree, t, t',
    built, renders, renders', three, four, fun same => ?_⟩
  -- comments hide no line end
  have ends := congrArg breaks same
  rw [Code.length_lines] at four three'
  rw [Code.breaks_uncommented, Code.breaks_uncommented] at ends
  have added : breaks "Token\n" = 1 := by decide
  have none : breaks "Token_" = 0 := by decide
  omega

end Router

end SelectorRouter
