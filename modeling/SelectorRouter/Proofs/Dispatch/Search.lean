import SelectorRouter.Proofs.Dispatch.Layout

/-!
# The search of the switch

A run of the program of a tree goes down the guards to one leaf, takes one case of its
switch or none, and leaves the function. The guard of an inner node shows the least
method id of its right half, so it separates the halves of a sound tree: an id below it
can only be found on the left, any other id only on the right. Control never comes to
the end of a guarded block.
-/

namespace SelectorRouter.Dispatch

open SelectorRouter.Dispatch.Tree (Shaped Ascending inOrder)
open Code (Literal Plain IsWord IsIdentifier)

/-- The selector with a method id, looked for from left to right. -/
def Tree.find? (t : Tree) (sig : Nat) : Option Selector :=
  t.inOrder.find? fun s => s.methodId == (sig : Int)

/-- What control passes on its way to one leaf: guards, a switch, and the end of the
function. `taken` says that a case of the switch was taken. -/
def Descends (taken : Bool) (events : List Yul.Event) : Prop :=
  ∃ (guards : List Bool) (cases : Nat),
    events = guards.map Yul.Event.guard ++ [.switch cases taken, .leave]

variable {ids : Constant.Identifiers} {limit : Int} {t : Tree}

theorem Descends.fallOut_not_mem {taken : Bool} {events : List Yul.Event}
    (h : Descends taken events) : .fallOut ∉ events := by
  obtain ⟨guards, cases, rfl⟩ := h
  simp

theorem Descends.getLast? {taken : Bool} {events : List Yul.Event} (h : Descends taken events) :
    events.getLast? = some .leave := by
  obtain ⟨guards, cases, rfl⟩ := h
  simp

/-- A run that took no case passed no switch with a case taken. -/
theorem Descends.switch_not_mem {events : List Yul.Event} (h : Descends false events)
    (n : Nat) : .switch n true ∉ events := by
  obtain ⟨guards, cases, rfl⟩ := h
  simp

/-! ## Which half holds an id -/

theorem ascending_append {ss rs : List Selector} :
    Ascending (ss ++ rs) ↔ Ascending ss ∧ Ascending rs ∧
      ∀ a ∈ ss, ∀ b ∈ rs, a.methodId < b.methodId :=
  List.pairwise_append

/-- The first selector of an ascending list has the least method id. -/
theorem le_of_ascending {s : Selector} {rest : List Selector} (h : Ascending (s :: rest)) :
    ∀ r ∈ s :: rest, s.methodId ≤ r.methodId := by
  intro r hr
  rcases List.mem_cons.mp hr with rfl | hr
  · exact Int.le_refl _
  · exact Int.le_of_lt ((List.pairwise_cons.mp h).1 r hr)

theorem find?_eq_none_of_ne {ss : List Selector} {sig : Nat}
    (h : ∀ s ∈ ss, s.methodId ≠ (sig : Int)) :
    (ss.find? fun s => s.methodId == (sig : Int)) = none := by
  rw [List.find?_eq_none]
  intro s hs
  rw [beq_iff_eq]
  exact h s hs

/-- The selectors of an ascending list with a given id are the one that is found. -/
theorem filter_eq_find?_toList {ss : List Selector} (ascending : Ascending ss) (sig : Nat) :
    (ss.filter fun s => s.methodId == (sig : Int)) =
      (ss.find? fun s => s.methodId == (sig : Int)).toList := by
  induction ss with
  | nil => rfl
  | cons s ss ih =>
      obtain ⟨first, rest⟩ := List.pairwise_cons.mp ascending
      by_cases h : s.methodId = sig
      · have none_after : ∀ r ∈ ss, ¬ (r.methodId == (sig : Int)) = true := by
          intro r hr e
          have := first r hr
          rw [beq_iff_eq] at e
          omega
        rw [List.filter_cons, List.find?_cons, beq_iff_eq.mpr h, if_pos rfl,
          List.filter_eq_nil_iff.mpr none_after]
        rfl
      · rw [List.filter_cons, List.find?_cons, beq_eq_false_iff_ne.mpr h,
          if_neg Bool.false_ne_true, ih rest]

/-- A selector of an ascending list is found by its method id. -/
theorem find?_of_mem {ss : List Selector} (ascending : Ascending ss) {s : Selector} (hs : s ∈ ss)
    {sig : Nat} (id : s.methodId = (sig : Int)) :
    (ss.find? fun s => s.methodId == (sig : Int)) = some s := by
  rw [← Option.mem_toList, ← filter_eq_find?_toList ascending, List.mem_filter, beq_iff_eq]
  exact ⟨hs, id⟩

/-- Of an ascending list from which selectors are removed, the one that was found before is
found, if it was kept. -/
theorem find?_filter {ss : List Selector} (ascending : Ascending ss) (kept : Selector → Bool)
    (sig : Nat) : ((ss.filter kept).find? fun s => s.methodId == (sig : Int)) =
      (ss.find? fun s => s.methodId == (sig : Int)).filter kept := by
  refine Option.ext fun s => ?_
  rw [← Option.mem_toList, ← Option.mem_toList, Option.toList_filter,
    ← filter_eq_find?_toList ascending, ← filter_eq_find?_toList (ascending.filter kept)]
  simp only [List.mem_filter, and_right_comm]

/-! ## Runs -/

theorem find?_cases {ss : List Selector} (inRange : ∀ s ∈ ss, s.inRange = true) (sig : Nat) :
    (ss.map (caseOf ids)).find? (fun c => c.1.value == sig) =
      (ss.find? fun s => s.methodId == (sig : Int)).map (caseOf ids) := by
  induction ss with
  | nil => rfl
  | cons s ss ih =>
      have ih := ih fun r hr => inRange r (List.mem_cons_of_mem s hr)
      have range := Code.inRange_iff.mp (inRange s List.mem_cons_self)
      have value : ((caseOf ids s).1.value == sig) = (s.methodId == (sig : Int)) := by
        rw [Bool.eq_iff_iff, beq_iff_eq, beq_iff_eq]
        show s.methodId.toNat = sig ↔ _
        omega
      rw [List.map_cons, List.find?_cons, List.find?_cons, value, ih]
      cases s.methodId == (sig : Int) <;> rfl

/-- **The program of a sound tree is a search**: it goes down to one leaf, with a guard for
each step of the path, finds the case of the method id there, and leaves. If the tree holds
the id at all, this leaf does. -/
theorem runAll_descent (shaped : Shaped limit t) (ascending : Ascending t.inOrder)
    (inRange : ∀ s ∈ t.inOrder, s.inRange = true) (sig : Nat) :
    ∃ path leaf, t.leafAt? path = some leaf ∧
      (leaf.find? fun s => s.methodId == (sig : Int)) = t.find? sig ∧
      Yul.runAll sig none (program ids t) =
        ⟨(t.find? sig).map fun s => Constant.identifierOf ids s.module,
          path.map Yul.Event.guard ++ [.switch leaf.length (t.find? sig).isSome, .leave],
          true⟩ := by
  induction shaped with
  | @leaf ss _ _ =>
      have here : Tree.find? (.node ss []) sig =
          ss.find? fun s => s.methodId == (sig : Int) := by rw [Tree.find?, Tree.inOrder_leaf]
      rw [Tree.inOrder_leaf] at inRange
      refine ⟨[], ss, rfl, here.symm, ?_⟩
      rw [here, program, Yul.runAll_switch_leave, find?_cases inRange, List.length_map]
      cases ss.find? fun s => s.methodId == (sig : Int) <;> rfl
  | @inner left right _ shapedRight ihl ihr =>
      obtain ⟨rangeLeft, rangeRight⟩ := Tree.forall_inOrder_inner.mp inRange
      rw [Tree.inOrder_inner, ascending_append] at ascending
      obtain ⟨ascLeft, ascRight, across⟩ := ascending
      obtain ⟨s, rest, order, -, bound⟩ := bound_eq shapedRight
      have hs : s ∈ right.inOrder := by rw [order]; exact List.mem_cons_self
      have range := Code.inRange_iff.mp (rangeRight s hs)
      have value : right.bound.value = s.methodId.toNat := by rw [bound]; rfl
      have found : Tree.find? (.node [] [left, right]) sig =
          (left.find? sig).or (right.find? sig) := by
        rw [Tree.find?, Tree.inOrder_inner, List.find?_append]
        rfl
      rw [program]
      by_cases below : sig < right.bound.value
      · -- every id on the right is at least the bound
        have absent : right.find? sig = none := by
          refine find?_eq_none_of_ne fun r hr => ?_
          have := le_of_ascending (order ▸ ascRight) r (order ▸ hr)
          omega
        obtain ⟨path, leaf, at_end, holds, run⟩ := ihl ascLeft rangeLeft
        rw [found, absent, Option.or_none]
        exact ⟨true :: path, leaf, at_end, holds, Yul.runAll_guard_taken below run⟩
      · -- every id on the left is below the bound
        have absent : left.find? sig = none := by
          refine find?_eq_none_of_ne fun l hl => ?_
          have := across l hl s hs
          omega
        obtain ⟨path, leaf, at_end, holds, run⟩ := ihr ascRight rangeRight
        rw [found, absent, Option.none_or]
        exact ⟨false :: path, leaf, at_end, holds, Yul.runAll_guard_passed below run⟩

theorem runAll_program (shaped : Shaped limit t) (ascending : Ascending t.inOrder)
    (inRange : ∀ s ∈ t.inOrder, s.inRange = true) (sig : Nat) :
    ∃ events, Descends (t.find? sig).isSome events ∧
      Yul.runAll sig none (program ids t) =
        ⟨(t.find? sig).map fun s => Constant.identifierOf ids s.module, events, true⟩ := by
  obtain ⟨path, leaf, -, -, run⟩ := runAll_descent shaped ascending inRange sig
  exact ⟨_, ⟨path, leaf.length, rfl⟩, run⟩

/-! ## The text of the switch -/

/-- A sound tree whose selectors can be written has a text, and running the text is a
search. -/
theorem execute_of_writable (shaped : Shaped limit t) (ascending : Ascending t.inOrder)
    (writable : ∀ s ∈ t.inOrder, Writable ids s) (sig : Nat) :
    ∃ text events, switchText ids t = .ok text ∧ Yul.read text = some (program ids t) ∧
      Descends (t.find? sig).isSome events ∧
      Yul.execute text sig =
        some ⟨(t.find? sig).map fun s => Constant.identifierOf ids s.module, events, true⟩ := by
  obtain ⟨events, descends, run⟩ :=
    runAll_program shaped ascending (fun s hs => (writable s hs).inRange) sig
  have text := read_render shaped writable Switch.baseLevel
  refine ⟨_, events, switchText_eq shaped writable, text, descends, ?_⟩
  rw [Yul.execute, text, Option.map_some, run]

/-- A label is on one line when the names in it are. -/
theorem plain_label {s : Selector} (hm : Plain s.module.display) (hn : Plain s.name) :
    Plain s.label :=
  ((hm.append (by decide)).append hn).append (by decide)

/-- **The emitted search equals a linear lookup.** The text of a sound tree leaves the
function for every method id, never at the end of a guarded block. The result is the
identifier of the module of the one selector with that id, and the literal 0 when the
leaves hold no such selector. -/
theorem execute_switchText (limit : Int) (t : Tree) (ids : Constant.Identifiers)
    (sound : t.check limit = .ok ())
    (inRange : ∀ s ∈ t.leaves.flatten, 0 ≤ s.methodId ∧ s.methodId < methodIdLimit)
    (named : ∀ s ∈ t.leaves.flatten,
      ∃ id, Constant.lookup ids s.module = .ok (some id) ∧ IsIdentifier id)
    (plain : ∀ s ∈ t.leaves.flatten, Plain s.module.display ∧ Plain s.name) (sig : Nat) :
    ∃ text run, switchText ids t = .ok text ∧ Yul.execute text sig = some run ∧
      run.left = true ∧ run.events.getLast? = some .leave ∧ .fallOut ∉ run.events ∧
      (∀ s ∈ t.leaves.flatten, s.methodId = sig →
        t.leaves.flatten.filter (fun r => r.methodId == (sig : Int)) = [s] ∧
        ∃ id, Constant.lookup ids s.module = .ok (some id) ∧ run.result = some id) ∧
      ((∀ s ∈ t.leaves.flatten, s.methodId ≠ sig) → run.result = none) := by
  obtain ⟨shaped, ascending⟩ := Tree.check_eq_ok_iff.mp sound
  have writable : ∀ s ∈ t.inOrder, Writable ids s := by
    intro s hs
    obtain ⟨id, found, identifier⟩ := named s hs
    have eq := Constant.identifierOf_of_lookup found
    exact ⟨Code.inRange_iff.mpr (inRange s hs), eq.symm ▸ found, eq.symm ▸ identifier.1,
      plain_label (plain s hs).1 (plain s hs).2⟩
  obtain ⟨text, events, switch, -, descends, run⟩ :=
    execute_of_writable shaped ascending writable sig
  refine ⟨text, _, switch, run, rfl, descends.getLast?, descends.fallOut_not_mem, ?_, ?_⟩
  · intro s hs id_eq
    have only := filter_eq_find?_toList ascending sig
    have found : t.find? sig = some s := by
      have mem : s ∈ (t.find? sig).toList := by
        rw [Tree.find?, ← only, List.mem_filter, beq_iff_eq]
        exact ⟨hs, id_eq⟩
      rwa [Option.mem_toList] at mem
    obtain ⟨id, lookup, -⟩ := named s hs
    refine ⟨only.trans ?_, id, lookup, ?_⟩
    · exact congrArg Option.toList found
    · simp only [found, Option.map_some, Constant.identifierOf_of_lookup lookup]
  · intro none_has
    have absent : t.find? sig = none := find?_eq_none_of_ne none_has
    simp only [absent, Option.map_none]

/-- Two leaves below one guard. -/
def guarded : Tree :=
  .node [] [.leaf [⟨.str "Token", "name", "name()", 0x06fdde03⟩],
    .leaf [⟨.str "Vault", "owner", "owner()", 0x8da5cb5b⟩]]

/-- The least id of the right half is found behind the guard that shows it. -/
theorem execute_guarded : ∃ text run,
    switchText [("Token", "_TOKEN"), ("Vault", "_VAULT")] guarded = .ok text ∧
      Yul.execute text 0x8da5cb5b = some run ∧ run.left = true ∧ run.result = some "_VAULT" := by
  obtain ⟨text, run, switch, execute, left, -, -, found, -⟩ :=
    execute_switchText 1 guarded [("Token", "_TOKEN"), ("Vault", "_VAULT")] rfl (by decide)
      (List.forall_mem_cons.mpr ⟨⟨"_TOKEN", rfl, by decide⟩,
        List.forall_mem_cons.mpr ⟨⟨"_VAULT", rfl, by decide⟩, List.forall_mem_nil _⟩⟩)
      (by decide) 0x8da5cb5b
  obtain ⟨-, id, lookup, result⟩ := found ⟨.str "Vault", "owner", "owner()", 0x8da5cb5b⟩
    (List.mem_cons_of_mem _ List.mem_cons_self) rfl
  have id_eq : id = "_VAULT" := Option.some.inj (Except.ok.inj lookup.symm)
  exact ⟨text, run, switch, execute, left, id_eq ▸ result⟩

end SelectorRouter.Dispatch
