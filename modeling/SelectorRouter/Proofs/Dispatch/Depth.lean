import Mathlib.Algebra.Group.Nat.Defs
import Mathlib.Data.Nat.Find
import SelectorRouter.Proofs.Dispatch.Search

/-!
# The depth of the search

A list that is split in the middle gives a tree whose leaves all lie at the least depth at
which leaves of the allowed size can hold the list, or one above it. Each step of a search
passes one guard, so a router of `n` functions asks about `log n` questions before it comes
to the one switch that decides: `execute_build`.
-/

namespace SelectorRouter.Dispatch

open SelectorRouter.Dispatch.Tree (Shaped)
open Code (Plain IsIdentifier)

/-- The least depth at which leaves of a size up to `limit` can hold `count` selectors. -/
structure LeastDepth (limit count depth : Nat) : Prop where
  fits : count ≤ limit * 2 ^ depth
  least : ∀ other, count ≤ limit * 2 ^ other → depth ≤ other

theorem exists_leastDepth {limit : Nat} (positive : 0 < limit) (count : Nat) :
    ∃ depth, LeastDepth limit count depth := by
  have enough : ∃ depth, count ≤ limit * 2 ^ depth := by
    refine ⟨count, ?_⟩
    calc count ≤ 2 ^ count := Nat.le_of_lt Nat.lt_two_pow_self
      _ ≤ limit * 2 ^ count := Nat.le_mul_of_pos_left _ positive
  classical
  exact ⟨Nat.find enough, Nat.find_spec enough, fun other fits => Nat.find_min' enough fits⟩

namespace Tree

variable {limit : Nat} {positive : 0 < limit} {found : List Selector}

/-- A list that fits into leaves at some depth has no leaf below it. -/
theorem length_path_le (ss : List Selector) : ∀ (path : List Bool) (depth : Nat),
    (split limit positive ss).leafAt? path = some found → ss.length ≤ limit * 2 ^ depth →
      path.length ≤ depth := by
  fun_induction split limit positive ss with
  | case1 ss small =>
      intro path depth at_end fits
      obtain ⟨rfl, -⟩ := leafAt?_leaf.mp at_end
      exact Nat.zero_le depth
  | case2 ss large middle ihl ihr =>
      intro path depth at_end fits
      cases depth with
      | zero => omega
      | succ depth =>
          rw [Nat.pow_succ, ← Nat.mul_assoc] at fits
          rcases leafAt?_inner.mp at_end with ⟨rest, rfl, below⟩ | ⟨rest, rfl, below⟩
          · have half : (ss.take middle).length ≤ limit * 2 ^ depth := by
              rw [List.length_take]
              omega
            exact Nat.succ_le_succ (ihl rest depth below half)
          · have half : (ss.drop middle).length ≤ limit * 2 ^ depth := by
              rw [List.length_drop]
              omega
            exact Nat.succ_le_succ (ihr rest depth below half)

/-- A list that fills the leaves at some depth has no leaf above it. -/
theorem le_length_path (ss : List Selector) : ∀ (path : List Bool) (depth : Nat),
    (split limit positive ss).leafAt? path = some found → limit * 2 ^ depth ≤ ss.length →
      depth ≤ path.length := by
  fun_induction split limit positive ss with
  | case1 ss small =>
      intro path depth at_end fills
      cases depth with
      | zero => exact Nat.zero_le _
      | succ depth =>
          have powers : limit * 1 ≤ limit * 2 ^ depth :=
            Nat.mul_le_mul_left limit Nat.one_le_two_pow
          rw [Nat.pow_succ, ← Nat.mul_assoc] at fills
          omega
  | case2 ss large middle ihl ihr =>
      intro path depth at_end fills
      cases depth with
      | zero => exact Nat.zero_le _
      | succ depth =>
          rw [Nat.pow_succ, ← Nat.mul_assoc] at fills
          rcases leafAt?_inner.mp at_end with ⟨rest, rfl, below⟩ | ⟨rest, rfl, below⟩
          · have half : limit * 2 ^ depth ≤ (ss.take middle).length := by
              rw [List.length_take]
              omega
            exact Nat.succ_le_succ (ihl rest depth below half)
          · have half : limit * 2 ^ depth ≤ (ss.drop middle).length := by
              rw [List.length_drop]
              omega
            exact Nat.succ_le_succ (ihr rest depth below half)

/-- **Every leaf lies at the least depth or one above it.** -/
theorem length_path_split {ss : List Selector} {path : List Bool}
    (at_end : (split limit positive ss).leafAt? path = some found)
    {depth : Nat} (h : LeastDepth limit ss.length depth) :
    path.length = depth ∨ path.length + 1 = depth := by
  have upper := length_path_le ss path depth at_end h.fits
  cases depth with
  | zero => omega
  | succ depth =>
      -- one level less is not enough, so the leaves there are filled
      have overfull : limit * 2 ^ depth ≤ ss.length := by
        by_contra short
        have := h.least depth (by omega)
        omega
      have lower := le_length_path ss path depth at_end overfull
      omega

end Tree

/-- **Dispatch is logarithmic.** Take selectors with ascending method ids, and a largest size
for a switch. Their tree has a text, and running the text on a method id passes the guards on
the path to one leaf, then one switch with the cases of this leaf, and leaves. The path is as
long as the least depth at which such leaves can hold the selectors, or one shorter; the leaf
is not empty, not larger than allowed, and holds the selector with the method id if there is
one. -/
theorem execute_build (limit : Nat) (positive : 0 < limit) (ss : List Selector)
    (nonempty : ss ≠ []) (ascending : ss.Pairwise fun a b => a.methodId < b.methodId)
    (inRange : ∀ s ∈ ss, 0 ≤ s.methodId ∧ s.methodId < methodIdLimit)
    (ids : Constant.Identifiers)
    (named : ∀ s ∈ ss, ∃ id, Constant.lookup ids s.module = .ok (some id) ∧ IsIdentifier id)
    (plain : ∀ s ∈ ss, Plain s.module.display ∧ Plain s.name) (sig : Nat) :
    ∃ tree text run path leaf depth, Tree.build limit ss = .ok tree ∧
      switchText ids tree = .ok text ∧ Yul.execute text sig = some run ∧
      tree.leafAt? path = some leaf ∧ (∀ s ∈ ss, s.methodId = sig → s ∈ leaf) ∧
      run.events = path.map Yul.Event.guard ++ [.switch leaf.length run.result.isSome, .leave] ∧
      LeastDepth limit ss.length depth ∧ (path.length = depth ∨ path.length + 1 = depth) ∧
      1 ≤ leaf.length ∧ leaf.length ≤ limit := by
  have built : Tree.build limit ss = .ok (Tree.split limit positive ss) := by
    rw [Tree.build, dif_pos (Int.natCast_pos.mpr positive)]
    simp only [Int.toNat_natCast]
  have shaped := Tree.shaped_split limit positive nonempty
  have inOrder := Tree.inOrder_split limit positive ss
  have writable : ∀ s ∈ ss, Writable ids s := by
    intro s hs
    obtain ⟨id, lookup, identifier⟩ := named s hs
    have eq := Constant.identifierOf_of_lookup lookup
    exact ⟨Code.inRange_iff.mpr (inRange s hs), eq.symm ▸ lookup, eq.symm ▸ identifier.1,
      plain_label (plain s hs).1 (plain s hs).2⟩
  rw [← inOrder] at ascending writable
  obtain ⟨path, leaf, at_end, holds, run⟩ :=
    @runAll_descent ids limit _ shaped ascending (fun s hs => (writable s hs).inRange) sig
  obtain ⟨depth, leastDepth⟩ := exists_leastDepth positive ss.length
  obtain ⟨leaf_ne_nil, small⟩ := shaped.leafAt? at_end
  have execution := congrArg (Option.map (Yul.runAll sig none))
    (read_render shaped writable Switch.baseLevel)
  rw [Option.map_some, run] at execution
  refine ⟨_, _, _, path, leaf, depth, built, switchText_eq shaped writable, execution, at_end,
    ?_, ?_, leastDepth, Tree.length_path_split at_end leastDepth,
    List.length_pos_iff.mpr leaf_ne_nil, Int.ofNat_le.mp small⟩
  · intro s hs id_eq
    rw [← inOrder] at hs
    have in_leaf := find?_of_mem ascending hs id_eq
    rw [← Tree.find?, ← holds] at in_leaf
    exact List.mem_of_find?_eq_some in_leaf
  · rw [Option.isSome_map]

/-- Two functions of a token, and one of a vault. -/
def tokenAndVault : List Selector :=
  [⟨.str "Token", "name", "name()", 0x06fdde03⟩, ⟨.str "Vault", "owner", "owner()", 0x8da5cb5b⟩,
    ⟨.str "Token", "symbol", "symbol()", 0x95d89b41⟩]

/-- Three functions, each in a switch of its own, lie behind one guard or two. -/
theorem execute_build_tokenAndVault : ∃ tree text run path leaf,
    Tree.build 1 tokenAndVault = .ok tree ∧
    switchText [("Token", "_TOKEN"), ("Vault", "_VAULT")] tree = .ok text ∧
    Yul.execute text 0x95d89b41 = some run ∧ tree.leafAt? path = some leaf ∧
    run.events = path.map Yul.Event.guard ++ [.switch 1 run.result.isSome, .leave] ∧
    (path.length = 2 ∨ path.length = 1) := by
  obtain ⟨tree, text, run, path, leaf, depth, built, switch, execute, at_end, -, events,
    leastDepth, length, nonempty, small⟩ :=
    execute_build 1 Nat.one_pos tokenAndVault (by decide) (by decide) (by decide)
      [("Token", "_TOKEN"), ("Vault", "_VAULT")]
      (List.forall_mem_cons.mpr ⟨⟨"_TOKEN", rfl, by decide⟩,
        List.forall_mem_cons.mpr ⟨⟨"_VAULT", rfl, by decide⟩,
          List.forall_mem_cons.mpr ⟨⟨"_TOKEN", rfl, by decide⟩, List.forall_mem_nil _⟩⟩⟩)
      (by decide) 0x95d89b41
  have one : leaf.length = 1 := by omega
  have upper : depth ≤ 2 := leastDepth.least 2 (by decide)
  have lower : 2 ≤ depth := by
    by_contra short
    have powers : 2 ^ depth ≤ 2 ^ 1 := Nat.pow_le_pow_right (by decide) (by omega)
    have fits : 3 ≤ 1 * 2 ^ depth := leastDepth.fits
    omega
  rw [one] at events
  exact ⟨tree, text, run, path, leaf, built, switch, execute, at_end, events, by omega⟩

end SelectorRouter.Dispatch
