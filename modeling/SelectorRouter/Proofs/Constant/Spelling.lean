import SelectorRouter.Proofs.Constant.Identifier

/-!
# Spelling of constants

A constant is written in capitals, digits, `_` and `$`, and starts with an underscore. Behind
that one, an underscore of the name is written twice, and a single underscore stands before
the capital that starts a word: this is `Spelled`. The number of a constant is put behind a
single underscore too, but it starts with a digit. So no base reads as another base with a
number, whatever the names are: `baseIdentifier_eq_of_numbered`.
-/

namespace SelectorRouter.Constant

open Code (forall_isIdentifierChar)

def isConstantChar (c : Char) : Bool :=
  ('A' ≤ c && c ≤ 'Z') || ('0' ≤ c && c ≤ '9') || c == '_' || c == '$'

/-- A word in the spelling of constants. -/
structure IsConstant (id : String) : Prop where
  head : id.toList.head? = some '_'
  chars : ∀ c ∈ id.toList, isConstantChar c = true

instance (id : String) : Decidable (IsConstant id) :=
  letI : Decidable (∀ c ∈ id.toList, isConstantChar c = true) :=
    List.decidableBAll (fun c => isConstantChar c = true) id.toList
  decidable_of_iff (id.toList.head? = some '_' ∧ ∀ c ∈ id.toList, isConstantChar c = true)
    ⟨fun h => ⟨h.1, h.2⟩, fun h => ⟨h.head, h.chars⟩⟩

/-- Texts in which an underscore is one of two or stands before a capital. -/
inductive Spelled : List Char → Prop
  | nil : Spelled []
  | underscore {cs : List Char} : Spelled cs → Spelled ('_' :: '_' :: cs)
  | word {c : Char} {cs : List Char} : c.isUpper = true → Spelled cs → Spelled ('_' :: c :: cs)
  | plain {c : Char} {cs : List Char} : c ≠ '_' → Spelled cs → Spelled (c :: cs)

variable {name other base : String} {cs : List Char} {c : Char}

/-! ## Capitals -/

theorem isConstantChar_toUpper : ∀ c, isIdentifierChar c = true →
    isConstantChar c.toUpper = true :=
  forall_isIdentifierChar (by decide)

theorem toUpper_ne_underscore : ∀ c, isIdentifierChar c = true → c ≠ '_' → c.toUpper ≠ '_' :=
  forall_isIdentifierChar (by decide)

theorem isUpper_toUpper : ∀ c, isIdentifierChar c = true → c.isUpper = true →
    c.toUpper.isUpper = true :=
  forall_isIdentifierChar (by decide)

theorem isUpper_of_isDigit : ∀ c, isIdentifierChar c = true → c.isDigit = true →
    c.isUpper = false :=
  forall_isIdentifierChar (by decide)

theorem isConstantChar_of_isDigit (h : c.isDigit = true) : isConstantChar c = true := by
  rw [Code.isDigit_iff] at h
  have range : '0' ≤ c ∧ c ≤ '9' := ⟨Code.char_le_iff.mpr h.1, Code.char_le_iff.mpr h.2⟩
  simp [isConstantChar, range.1, range.2]

theorem isUpper_of_startsWord {previous next : Option Char}
    (h : startsWord previous c next = true) : c.isUpper = true := by
  cases previous with
  | none => exact absurd h Bool.false_ne_true
  | some p =>
      rw [startsWord, Bool.and_eq_true] at h
      exact h.1

/-! ## Spelling of a name -/

theorem spelled_screaming : ∀ {cs : List Char} {previous : Option Char},
    (∀ c ∈ cs, isIdentifierChar c = true) → Spelled (screaming previous cs)
  | [], _, _ => .nil
  | c :: cs, previous, all => by
      have hc := all c List.mem_cons_self
      have rest : Spelled (screaming (some c) cs) :=
        spelled_screaming fun d hd => all d (List.mem_cons_of_mem c hd)
      rw [screaming]
      split
      case isTrue => exact rest.underscore
      case isFalse ordinary =>
          have plain := rest.plain (toUpper_ne_underscore c hc ordinary)
          split
          case isTrue starts =>
              exact rest.word (isUpper_toUpper c hc (isUpper_of_startsWord starts))
          case isFalse => exact plain

theorem spelled_underscore_iff :
    Spelled ('_' :: c :: cs) ↔ (c = '_' ∨ c.isUpper = true) ∧ Spelled cs := by
  constructor
  · intro h
    cases h with
    | underscore rest => exact ⟨Or.inl rfl, rest⟩
    | word upper rest => exact ⟨Or.inr upper, rest⟩
    | plain ordinary => exact absurd rfl ordinary
  · rintro ⟨rfl | upper, rest⟩
    · exact rest.underscore
    · exact rest.word upper

theorem spelled_cons_iff (hc : c ≠ '_') : Spelled (c :: cs) ↔ Spelled cs := by
  constructor
  · intro h
    cases h with
    | underscore => exact absurd rfl hc
    | word => exact absurd rfl hc
    | plain _ rest => exact rest
  · exact fun rest => rest.plain hc

/-- A single underscore with a digit behind it is no spelling of anything, since the
underscores before it stay the pairs and the marks that they are. -/
theorem Spelled.not_append_number (h : Spelled cs) {d : Char} (hd : d.isDigit = true)
    (rest : List Char) : ¬ Spelled (cs ++ '_' :: d :: rest) := by
  induction h with
  | nil =>
      rw [List.nil_append, spelled_underscore_iff]
      rintro ⟨rfl | upper, -⟩
      · exact absurd hd (by decide)
      · rw [isUpper_of_isDigit d (Code.isIdentifierChar_of_isDigit hd) hd] at upper
        exact absurd upper Bool.false_ne_true
  | underscore _ ih =>
      rw [List.cons_append, List.cons_append, spelled_underscore_iff]
      exact fun spelled => ih spelled.2
  | word _ _ ih =>
      rw [List.cons_append, List.cons_append, spelled_underscore_iff]
      exact fun spelled => ih spelled.2
  | plain ordinary _ ih =>
      rw [List.cons_append, spelled_cons_iff ordinary]
      exact ih

/-! ## Bases and numbers -/

theorem toList_baseIdentifier (name : String) :
    (baseIdentifier name).toList = '_' :: screaming none (sanitize name.toList) := by
  rw [baseIdentifier, String.toList_ofList]

/-- A base is a spelled text behind its first underscore. -/
theorem spelled_baseIdentifier (name : String) : Spelled (baseIdentifier name).toList.tail := by
  rw [toList_baseIdentifier]
  exact spelled_screaming fun c hc => isIdentifierChar_of_mem_sanitize hc

theorem toList_numbered_succ (base : String) (k : Nat) :
    (numbered base (k + 1)).toList = base.toList ++ '_' :: (toString (k + 2)).toList := by
  rw [numbered, String.toList_append, String.toList_append, List.append_assoc]
  rfl

theorem not_spelled_numbered (k : Nat) :
    ¬ Spelled (numbered (baseIdentifier name) (k + 1)).toList.tail := by
  obtain ⟨nonempty, -⟩ := Code.isWord_toString (k + 2)
  have digits : ∀ d ∈ (toString (k + 2)).toList, d.isDigit = true :=
    fun d hd => Code.isDigit_of_mem_toString hd
  have spelled := spelled_baseIdentifier name
  rw [toList_baseIdentifier, List.tail_cons] at spelled
  rw [toList_numbered_succ, toList_baseIdentifier, List.cons_append, List.tail_cons]
  cases number : (toString (k + 2)).toList with
  | nil => exact absurd (String.toList_inj.mp number) nonempty
  | cons d rest => exact spelled.not_append_number (digits d (number ▸ List.mem_cons_self)) rest

/-- From the end, the first character that is no digit is the underscore before the number. -/
theorem dropWhile_reverse_numbered (base : String) (k : Nat) :
    (numbered base (k + 1)).toList.reverse.dropWhile Char.isDigit = '_' :: base.toList.reverse := by
  have digits : ∀ d ∈ (toString (k + 2)).toList.reverse, d.isDigit = true :=
    fun d hd => Code.isDigit_of_mem_toString (List.mem_reverse.mp hd)
  rw [toList_numbered_succ, List.reverse_append, List.reverse_cons, List.append_assoc,
    List.dropWhile_append_of_pos digits]
  rfl

theorem eq_of_numbered_succ {base base' : String} {j k : Nat}
    (h : numbered base (j + 1) = numbered base' (k + 1)) : base = base' := by
  have fronts := dropWhile_reverse_numbered base j
  rw [h, dropWhile_reverse_numbered, List.cons_inj_right, List.reverse_inj,
    String.toList_inj] at fronts
  exact fronts.symm

/-- **No base reads as another base with a number**: identifiers tried for two names agree
only if the names have the same base. -/
theorem baseIdentifier_eq_of_numbered : ∀ {j k : Nat},
    numbered (baseIdentifier name) j = numbered (baseIdentifier other) k →
      baseIdentifier name = baseIdentifier other
  | 0, 0, h => h
  | 0, k + 1, h => by
      -- one base is the other with a number behind it, which no base can be
      have spelled := spelled_baseIdentifier name
      rw [show baseIdentifier name = numbered (baseIdentifier other) (k + 1) from h] at spelled
      exact absurd spelled (not_spelled_numbered k)
  | j + 1, 0, h => by
      have spelled := spelled_baseIdentifier other
      rw [← show numbered (baseIdentifier name) (j + 1) = baseIdentifier other from h] at spelled
      exact absurd spelled (not_spelled_numbered j)
  | _ + 1, _ + 1, h => eq_of_numbered_succ h

/-! ## Constants -/

theorem isConstant_baseIdentifier (name : String) : IsConstant (baseIdentifier name) := by
  constructor
  · rw [toList_baseIdentifier]
    rfl
  · rw [toList_baseIdentifier, List.forall_mem_cons]
    refine ⟨rfl, fun c hc => ?_⟩
    rcases mem_screaming hc with rfl | ⟨d, hd, rfl⟩
    · rfl
    · exact isConstantChar_toUpper d (isIdentifierChar_of_mem_sanitize hd)

theorem isConstant_numbered (h : IsConstant base) : ∀ k, IsConstant (numbered base k)
  | 0 => h
  | k + 1 => by
      constructor
      · rw [toList_numbered_succ, List.head?_append_of_ne_nil, h.head]
        intro empty
        exact absurd h.head (by simp [empty])
      · rw [toList_numbered_succ]
        intro c hc
        rcases List.mem_append.mp hc with front | back
        · exact h.chars c front
        · rcases List.mem_cons.mp back with rfl | number
          · rfl
          · exact isConstantChar_of_isDigit (Code.isDigit_of_mem_toString number)

end SelectorRouter.Constant
