import SelectorRouter.Files.Tree
import SelectorRouter.Proofs.Fallible
import SelectorRouter.Proofs.Files.Path

/-!
# Writing a file

A file that is written can be read back at its path, and nothing else changes: what stands at
every other place stands there still. The reason is that opening a path walks through
directories only, so the file comes to stand in a directory that was there before, and no place
becomes a directory because of it.
-/

namespace SelectorRouter.Files

open Fallible (bind_eq_ok)

/-- The file at a path is the only difference between two trees, and it has these bytes. -/
def Replaces (before after : Tree) (path : String) (bs : List UInt8) : Prop :=
  ∃ place, after.resolve path (components path) = .ok place ∧
    after.content? place = some (.bytes bs) ∧
    ∀ other, other ≠ place → after.content? other = before.content? other

namespace Tree

variable {tree : Tree} {place other : List String} {bs : List UInt8}

/-! ## One file -/

theorem lookup_cons_eq (entry : List String × Content) (rest : Tree) (key : List String) :
    List.lookup key (entry :: rest) = if key = entry.1 then some entry.2 else rest.lookup key := by
  rw [List.lookup_cons]
  by_cases same : key = entry.1
  · rw [if_pos same, beq_iff_eq.mpr same]
  · rw [if_neg same, beq_eq_false_iff_ne.mpr same]

theorem lookup_put (tree : Tree) (place other : List String) (bs : List UInt8) :
    (tree.put place bs).lookup other =
      if other = place then some (.bytes bs) else tree.lookup other := by
  induction tree with
  | nil => rw [put, lookup_cons_eq]
  | cons entry rest ih =>
      by_cases here : entry.1 = place
      · rw [put, if_pos here, lookup_cons_eq, lookup_cons_eq, here]
        split <;> rfl
      · rw [put, if_neg here, lookup_cons_eq, ih, lookup_cons_eq]
        by_cases same : other = entry.1
        · rw [if_pos same, if_neg (same ▸ here), if_pos same]
        · rw [if_neg same, if_neg same]

theorem any_put (tree : Tree) (place : List String) (bs : List UInt8) (p : List String → Bool) :
    ((tree.put place bs).any fun entry => p entry.1) =
      ((tree.any fun entry => p entry.1) || p place) := by
  induction tree with
  | nil => simp [put]
  | cons entry rest ih =>
      by_cases here : entry.1 = place
      · rw [put, if_pos here, List.any_cons, List.any_cons, here]
        cases p place <;> simp
      · rw [put, if_neg here, List.any_cons, ih, List.any_cons, Bool.or_assoc]

theorem content?_put_self (tree : Tree) (place : List String) (bs : List UInt8) :
    (tree.put place bs).content? place = some (.bytes bs) := by
  rw [content?, lookup_put, if_pos rfl]

/-- A file changes no other place, if there is something at each place around it. -/
theorem content?_put_of_ne (different : other ≠ place)
    (around : isBelow other place = true → tree.content? other ≠ none) :
    (tree.put place bs).content? other = tree.content? other := by
  unfold content? at around ⊢
  rw [lookup_put, if_neg different, any_put tree place bs (isBelow other)]
  cases found : tree.lookup other with
  | some content => rfl
  | none =>
      rw [found] at around
      cases below : isBelow other place with
      | false => rw [Bool.or_false]
      | true =>
          have there := around below
          simp only [ne_eq, ite_eq_right_iff, reduceCtorEq, imp_false, not_not] at there
          simp [there]

/-! ## Walking -/

theorem requireDirectory_eq_ok :
    tree.requireDirectory place = .ok () ↔ tree.content? place = some .directory := by
  unfold requireDirectory
  split <;> simp_all

theorem walk_cons_eq_ok {component : String} {rest : List String} {last : List String} :
    tree.walk place (component :: rest) = .ok last ↔
      tree.content? place = some .directory ∧
        ∃ next, enter place component = .ok next ∧ tree.walk next rest = .ok last := by
  rw [walk, bind_eq_ok]
  simp only [bind_eq_ok]
  constructor
  · rintro ⟨⟨⟩, directory, next, entered, walked⟩
    exact ⟨requireDirectory_eq_ok.mp directory, next, entered, walked⟩
  · rintro ⟨directory, next, entered, walked⟩
    exact ⟨(), requireDirectory_eq_ok.mpr directory, next, entered, walked⟩

theorem walk_append_singleton {component : String} {last : List String} :
    ∀ {place : List String} {before : List String},
      tree.walk place (before ++ [component]) = .ok last ↔
        ∃ directory, tree.walk place before = .ok directory ∧
          tree.content? directory = some .directory ∧ enter directory component = .ok last
  | place, [] => by
      rw [List.nil_append, walk_cons_eq_ok]
      simp only [walk, Except.ok.injEq, exists_eq_left', exists_eq_right]
  | place, first :: before => by
      rw [List.cons_append, walk_cons_eq_ok]
      simp only [walk_append_singleton, walk_cons_eq_ok]
      constructor
      · rintro ⟨here, next, entered, directory, walked, there⟩
        exact ⟨directory, ⟨here, next, entered, walked⟩, there⟩
      · rintro ⟨directory, ⟨here, next, entered, walked⟩, there⟩
        exact ⟨here, next, entered, directory, walked, there⟩

/-! ## What stands around a place -/

/-- There is something at each place around this one. -/
def Grounded (tree : Tree) (place : List String) : Prop :=
  ∀ other, isBelow other place = true → tree.content? other ≠ none

theorem isBelow_iff : isBelow other place = true ↔ other <+: place ∧ other ≠ place := by
  rw [isBelow, Bool.and_eq_true, decide_eq_true_eq, beq_iff_eq, eq_comm, ← List.prefix_iff_eq_take]
  constructor
  · rintro ⟨shorter, start⟩
    exact ⟨start, fun same => Nat.lt_irrefl _ (same ▸ shorter)⟩
  · rintro ⟨start, different⟩
    refine ⟨Nat.lt_of_le_of_ne start.length_le fun length => ?_, start⟩
    exact different (start.eq_of_length length)

theorem grounded_nil (tree : Tree) : Grounded tree [] := by
  intro other below
  obtain ⟨start, different⟩ := isBelow_iff.mp below
  exact absurd (List.prefix_nil.mp start) different

/-- What stands around an entry of a directory is the directory and what stands around it. -/
theorem Grounded.append {component : String} (h : Grounded tree place)
    (directory : tree.content? place ≠ none) : Grounded tree (place ++ [component]) := by
  intro other below
  obtain ⟨start, different⟩ := isBelow_iff.mp below
  rcases List.prefix_concat_iff.mp start with same | start
  · exact absurd same different
  · by_cases here : other = place
    · rw [here]
      exact directory
    · exact h other (isBelow_iff.mpr ⟨start, here⟩)

theorem Grounded.dropLast (h : Grounded tree place) : Grounded tree place.dropLast := by
  intro other below
  obtain ⟨start, different⟩ := isBelow_iff.mp below
  refine h other (isBelow_iff.mpr ⟨start.trans (List.dropLast_prefix place), ?_⟩)
  rintro rfl
  exact different (start.eq_of_length_le (by rw [List.length_dropLast]; omega))

theorem Grounded.parent (h : Grounded tree place) (directory : tree.content? place ≠ none) :
    Grounded tree (parent place) := by
  unfold Tree.parent
  split
  · exact h
  · split
    · next empty =>
        rw [List.getLast?_eq_none_iff] at empty
        subst empty
        exact h.append directory
    · split
      · exact h.append directory
      · exact h.dropLast

theorem Grounded.enter {component : String} {next : List String} (h : Grounded tree place)
    (directory : tree.content? place ≠ none) (entered : Tree.enter place component = .ok next) :
    Grounded tree next := by
  unfold Tree.enter at entered
  split at entered
  · cases entered
    exact h
  · split at entered
    · cases entered
      exact h.parent directory
    · split at entered
      · cases entered
      · cases entered
        exact h.append directory

theorem Grounded.walk : ∀ {components : List String} {place last : List String},
    Grounded tree place → tree.walk place components = .ok last → Grounded tree last
  | [], place, last, h, walked => by
      rw [Tree.walk] at walked
      cases walked
      exact h
  | component :: rest, place, last, h, walked => by
      obtain ⟨directory, next, entered, walked⟩ := walk_cons_eq_ok.mp walked
      exact (h.enter (by rw [directory]; exact Option.some_ne_none _) entered).walk walked

/-- The current directory and the root are grounded. -/
theorem grounded_start (tree : Tree) (path : String) :
    Grounded tree (if path.startsWith "/" then ["/"] else []) := by
  split
  · refine (grounded_nil tree).append ?_
    unfold content?
    split <;> simp [isAround]
  · exact grounded_nil tree

/-! ## Writing -/

/-- A walk that succeeds does so too when a file has been written where no directory was. -/
theorem walk_put (grounded : Grounded tree place) (file : tree.content? place ≠ some .directory) :
    ∀ {components : List String} {start last : List String},
      tree.walk start components = .ok last → (tree.put place bs).walk start components = .ok last
  | [], _, _, walked => walked
  | component :: rest, start, last, walked => by
      obtain ⟨directory, next, entered, walked⟩ := walk_cons_eq_ok.mp walked
      have different : start ≠ place := by
        rintro rfl
        exact file directory
      refine walk_cons_eq_ok.mpr ⟨?_, next, entered, walk_put grounded file walked⟩
      rw [content?_put_of_ne different (grounded start)]
      exact directory

theorem resolve_eq_ok {path : String} {components : List String} :
    tree.resolve path components = .ok place ↔
      path ≠ "" ∧ path.utf8ByteSize < pathLimit ∧
        tree.walk (if path.startsWith "/" then ["/"] else []) components = .ok place := by
  unfold resolve
  split
  · next empty => simp [String.isEmpty_iff.mp empty]
  · next nonempty =>
      rw [String.isEmpty_iff] at nonempty
      split
      · next long => simp [Nat.not_lt.mpr long]
      · next short => simp [nonempty, Nat.not_le.mp short]

/-- A path that is opened for writing leads to its place, which no directory has. -/
theorem target_eq_ok {path : String} (h : tree.target path = .ok place) :
    tree.resolve path (components path) = .ok place ∧ Grounded tree place ∧
      tree.content? place ≠ some .directory := by
  rw [target, bind_eq_ok] at h
  obtain ⟨directory, resolved, h⟩ := h
  obtain ⟨⟨⟩, there, h⟩ := bind_eq_ok.mp h
  split at h
  case isTrue => cases h
  case isFalse ends =>
    rw [Bool.not_eq_true] at ends
    obtain ⟨nonempty, short, walked⟩ := resolve_eq_ok.mp resolved
    obtain ⟨before, last, split, last_nonempty⟩ := exists_last_component nonempty ends
    have parts : ((components path).reverse.dropWhile String.isEmpty).reverse =
        before ++ [last] := by
      rw [split, List.reverse_append]
      simp [last_nonempty]
    rw [parts, List.dropLast_concat] at walked
    rw [parts, List.getLast?_concat, Option.getD_some] at h
    obtain ⟨found, entered, h⟩ := bind_eq_ok.mp h
    split at h
    case isTrue => cases h
    case isFalse file =>
      cases h
      rw [beq_iff_eq] at file
      have directory := requireDirectory_eq_ok.mp there
      refine ⟨?_, ?_, file⟩
      · rw [split]
        exact resolve_eq_ok.mpr ⟨nonempty, short,
          walk_append_singleton.mpr ⟨_, walked, directory, entered⟩⟩
      · refine ((grounded_start tree path).walk walked).enter ?_ entered
        rw [directory]
        exact Option.some_ne_none _

/-- A path can be opened for writing. -/
def Writable (tree : Tree) (path : String) : Prop :=
  '\x00' ∉ path.toList ∧ ∃ place, tree.target path = .ok place

theorem writeText_eq_ok_iff {path text : String} {after : Tree} :
    tree.writeText path text = .ok after ↔
      '\x00' ∉ path.toList ∧ ∃ place, tree.target path = .ok place ∧
        after = tree.put place (Text.utf8 text) := by
  unfold writeText
  split
  · next null =>
      rw [String.contains_char_eq, decide_eq_true_eq] at null
      simp [null]
  · next null =>
      rw [String.contains_char_eq, decide_eq_true_eq] at null
      cases tree.target path with
      | error defect => simp
      | ok place => simp [null, eq_comm]

/-- **Writing replaces one file.** What was written is found at the path, and every other
place is as it was. -/
theorem replaces_of_writeText {path text : String} {after : Tree}
    (h : tree.writeText path text = .ok after) : Replaces tree after path (Text.utf8 text) := by
  obtain ⟨-, place, opened, rfl⟩ := writeText_eq_ok_iff.mp h
  obtain ⟨resolved, grounded, file⟩ := target_eq_ok opened
  obtain ⟨nonempty, short, walked⟩ := resolve_eq_ok.mp resolved
  refine ⟨place, ?_, content?_put_self tree place _, ?_⟩
  · exact resolve_eq_ok.mpr ⟨nonempty, short, walk_put grounded file walked⟩
  · intro other different
    exact content?_put_of_ne different (grounded other)

end Tree

end SelectorRouter.Files
