import SelectorRouter.Proofs.Constant.Spelling

/-!
# Reading constants back

The spelling of a constant can be read back: two underscores are one of the name, and a single
one marks the capital behind it as the start of a word. What is read are the characters of the
name in capitals, each with its mark, and the marks are where the name has its words. So a base
tells all of a name but the case of its letters, and where words start never looks like an
underscore of the name.
-/

namespace SelectorRouter.Constant

/-- A character of a name in capitals, with the mark of a start of a word. -/
structure Letter where
  capital : Char
  marked : Bool
  deriving Repr, DecidableEq

/-- Reads a spelled text. Two underscores are read before a single one. -/
def readLetters : List Char → List Letter
  | [] => []
  | '_' :: '_' :: rest => ⟨'_', false⟩ :: readLetters rest
  | '_' :: c :: rest => ⟨c, true⟩ :: readLetters rest
  | c :: rest => ⟨c, false⟩ :: readLetters rest

/-- The letters of a constant, behind its first underscore. -/
def lettersOf (id : String) : List Letter :=
  readLetters id.toList.tail

/-- The name that a constant is read back as, in capitals. -/
def decode (id : String) : List Char :=
  (lettersOf id).map Letter.capital

def capitals (cs : List Char) : List Char :=
  cs.map Char.toUpper

/-- Does a word start at this place of a name? The first character is never marked. -/
def WordAt (cs : List Char) : Nat → Prop
  | 0 => False
  | i + 1 => ∃ p c, cs[i]? = some p ∧ cs[i + 1]? = some c ∧ c.isUpper = true ∧
      (p.isLower = true ∨ p.isDigit = true ∨
        p.isUpper = true ∧ ∃ n, cs[i + 2]? = some n ∧ n.isLower = true)

/-- The letters of the rest of a name after `previous`. -/
def lettersAfter (previous : Option Char) : List Char → List Letter
  | [] => []
  | c :: rest => ⟨c.toUpper, startsWord previous c rest.head?⟩ :: lettersAfter (some c) rest

/-- The spelling of a letter. -/
def Letter.spell (l : Letter) : List Char :=
  if l.capital = '_' then ['_', '_'] else if l.marked then ['_', l.capital] else [l.capital]

/-- Only a capital can be marked. -/
def Letter.Sound (l : Letter) : Prop :=
  l.marked = true → l.capital ≠ '_'

variable {cs rest : List Char} {c : Char} {ls : List Letter}

/-! ## Reading what is spelled -/

theorem readLetters_underscore (rest : List Char) :
    readLetters ('_' :: '_' :: rest) = ⟨'_', false⟩ :: readLetters rest := rfl

theorem readLetters_word (hc : c ≠ '_') :
    readLetters ('_' :: c :: rest) = ⟨c, true⟩ :: readLetters rest := by
  rw [readLetters]
  exact hc

theorem readLetters_plain (hc : c ≠ '_') :
    readLetters (c :: rest) = ⟨c, false⟩ :: readLetters rest := by
  rw [readLetters]
  · exact fun _ first => absurd first hc
  · exact fun _ _ first => absurd first hc

/-- The spelling of a sound letter is read back, whatever stands behind it. -/
theorem Letter.Sound.readLetters_spell {l : Letter} (h : l.Sound) (rest : List Char) :
    readLetters (l.spell ++ rest) = l :: readLetters rest := by
  obtain ⟨capital, marked⟩ := l
  rw [Letter.spell]
  split
  case isTrue mark =>
      obtain rfl : capital = '_' := mark
      cases marked with
      | true => exact absurd rfl (h rfl)
      | false => exact readLetters_underscore rest
  case isFalse ordinary =>
      cases marked with
      | true => exact readLetters_word ordinary
      | false => exact readLetters_plain ordinary

theorem readLetters_spells (h : ∀ l ∈ ls, l.Sound) :
    readLetters (ls.flatMap Letter.spell) = ls := by
  induction ls with
  | nil => rfl
  | cons l ls ih =>
      obtain ⟨first, others⟩ := List.forall_mem_cons.mp h
      rw [List.flatMap_cons, first.readLetters_spell, ih others]

/-! ## The letters of a name -/

/-- A word starts at a letter, so no underscore is marked. -/
theorem sound_lettersAfter : ∀ {cs : List Char} {previous : Option Char},
    (∀ c ∈ cs, isIdentifierChar c = true) → ∀ l ∈ lettersAfter previous cs, l.Sound
  | [], _, _ => List.forall_mem_nil _
  | c :: cs, previous, all => by
      obtain ⟨hc, others⟩ := List.forall_mem_cons.mp all
      refine List.forall_mem_cons.mpr ⟨fun starts => ?_, sound_lettersAfter others⟩
      apply toUpper_ne_underscore c hc
      rintro rfl
      exact absurd (isUpper_of_startsWord starts) (by decide)

/-- An identifier spells the letters of its name. -/
theorem screaming_eq_spells : ∀ {cs : List Char} {previous : Option Char},
    (∀ c ∈ cs, isIdentifierChar c = true) →
      screaming previous cs = (lettersAfter previous cs).flatMap Letter.spell
  | [], _, _ => rfl
  | c :: cs, previous, all => by
      obtain ⟨hc, others⟩ := List.forall_mem_cons.mp all
      rw [screaming, lettersAfter, List.flatMap_cons, ← screaming_eq_spells others]
      by_cases mark : c = '_'
      · subst mark
        rfl
      · rw [if_neg mark, Letter.spell, if_neg (toUpper_ne_underscore c hc mark)]

theorem map_capital_lettersAfter : ∀ (cs : List Char) (previous : Option Char),
    (lettersAfter previous cs).map Letter.capital = capitals cs
  | [], _ => rfl
  | c :: cs, previous => by
      rw [lettersAfter, List.map_cons, map_capital_lettersAfter cs (some c)]
      rfl

theorem getElem?_lettersAfter : ∀ (cs : List Char) (previous : Option Char) (i : Nat),
    (lettersAfter previous cs)[i]? = cs[i]?.map fun c =>
      ⟨c.toUpper, startsWord ((previous :: cs.map some)[i]?.join) c cs[i + 1]?⟩
  | [], _, _ => rfl
  | c :: cs, previous, 0 => by
      cases cs <;> rfl
  | c :: cs, previous, i + 1 => by
      rw [lettersAfter]
      exact getElem?_lettersAfter cs (some c) i

theorem lettersOf_baseIdentifier (name : String) :
    lettersOf (baseIdentifier name) = lettersAfter none (sanitize name.toList) := by
  have all : ∀ c ∈ sanitize name.toList, isIdentifierChar c = true :=
    fun c hc => isIdentifierChar_of_mem_sanitize hc
  rw [lettersOf, toList_baseIdentifier, List.tail_cons, screaming_eq_spells all,
    readLetters_spells (sound_lettersAfter all)]

theorem decode_baseIdentifier (name : String) :
    decode (baseIdentifier name) = capitals (sanitize name.toList) := by
  rw [decode, lettersOf_baseIdentifier, map_capital_lettersAfter]

/-! ## Words -/

theorem startsWord_some_iff {p : Char} {next : Option Char} :
    startsWord (some p) c next = true ↔ c.isUpper = true ∧
      (p.isLower = true ∨ p.isDigit = true ∨
        p.isUpper = true ∧ ∃ n, next = some n ∧ n.isLower = true) := by
  cases next with
  | none => simp [startsWord]
  | some n => simp [startsWord, or_assoc]

/-- The marks of a name are where its words start. -/
theorem marked_lettersAfter_iff (cs : List Char) (i : Nat) :
    (∃ l, (lettersAfter none cs)[i]? = some l ∧ l.marked = true) ↔ WordAt cs i := by
  rw [getElem?_lettersAfter]
  cases i with
  | zero => simp [WordAt, startsWord]
  | succ i =>
      rw [WordAt]
      constructor
      · rintro ⟨l, at_place, marked⟩
        obtain ⟨c, found, rfl⟩ := Option.map_eq_some_iff.mp at_place
        obtain ⟨p, before⟩ : ∃ p, cs[i]? = some p :=
          ⟨_, List.getElem?_eq_getElem (Nat.lt_of_succ_lt (List.getElem?_eq_some_iff.mp found).1)⟩
        refine ⟨p, c, before, found, startsWord_some_iff.mp ?_⟩
        simpa [before] using marked
      · rintro ⟨p, c, before, found, starts⟩
        refine ⟨_, by rw [found]; rfl, ?_⟩
        simpa [before] using startsWord_some_iff.mpr starts

theorem baseIdentifier_eq_iff_letters {name other : String} :
    baseIdentifier name = baseIdentifier other ↔
      lettersAfter none (sanitize name.toList) = lettersAfter none (sanitize other.toList) := by
  constructor
  · intro same
    rw [← lettersOf_baseIdentifier, same, lettersOf_baseIdentifier]
  · intro same
    rw [← String.toList_inj, toList_baseIdentifier, toList_baseIdentifier,
      screaming_eq_spells fun c hc => isIdentifierChar_of_mem_sanitize hc,
      screaming_eq_spells fun c hc => isIdentifierChar_of_mem_sanitize hc, same]

/-- Letters are known by their capitals and the places of their marks. -/
theorem eq_of_capital_of_marked {ls ks : List Letter}
    (same : ls.map Letter.capital = ks.map Letter.capital)
    (marks : ∀ i : Nat, (∃ l, ls[i]? = some l ∧ l.marked = true) ↔
      ∃ k, ks[i]? = some k ∧ k.marked = true) : ls = ks := by
  have length : ls.length = ks.length := by
    simpa using congrArg List.length same
  refine List.ext_getElem length fun i hl hk => ?_
  have capital := congrArg (·[i]?) same
  have mark := marks i
  simp only [List.getElem?_map, List.getElem?_eq_getElem hl, List.getElem?_eq_getElem hk,
    Option.map_some, Option.some.injEq, exists_eq_left'] at capital mark
  rw [Letter.mk.injEq]
  exact ⟨capital, Bool.eq_iff_iff.mpr mark⟩

/-- Names have the same letters when they have the same capitals and the same words. -/
theorem lettersAfter_eq_iff {cs ds : List Char} :
    lettersAfter none cs = lettersAfter none ds ↔
      capitals cs = capitals ds ∧ ∀ i, WordAt cs i ↔ WordAt ds i := by
  constructor
  · intro same
    refine ⟨?_, fun i => ?_⟩
    · rw [← map_capital_lettersAfter cs none, same, map_capital_lettersAfter]
    · rw [← marked_lettersAfter_iff, same, marked_lettersAfter_iff]
  · rintro ⟨same, words⟩
    apply eq_of_capital_of_marked
    · rw [map_capital_lettersAfter, map_capital_lettersAfter, same]
    · intro i
      rw [marked_lettersAfter_iff, marked_lettersAfter_iff]
      exact words i

/-- **Constants merge names only by the case of their letters.** A base is read back as its name
in capitals, with a mark where the name starts a word and nowhere else. So two names have the
same base exactly when they are the same in capitals and start their words at the same places. -/
theorem decode_inverts_baseIdentifier (name other : String) :
    decode (baseIdentifier name) = capitals (sanitize name.toList) ∧
      (∀ i, (∃ l, (lettersOf (baseIdentifier name))[i]? = some l ∧ l.marked = true) ↔
        WordAt (sanitize name.toList) i) ∧
      (baseIdentifier name = baseIdentifier other ↔
        capitals (sanitize name.toList) = capitals (sanitize other.toList) ∧
          ∀ i, WordAt (sanitize name.toList) i ↔ WordAt (sanitize other.toList) i) := by
  refine ⟨decode_baseIdentifier name, fun i => ?_, ?_⟩
  · rw [lettersOf_baseIdentifier, marked_lettersAfter_iff]
  · rw [baseIdentifier_eq_iff_letters, lettersAfter_eq_iff]

example : lettersOf (baseIdentifier "aB_C") =
    [⟨'A', false⟩, ⟨'B', true⟩, ⟨'_', false⟩, ⟨'C', false⟩] := by
  decide

end SelectorRouter.Constant
