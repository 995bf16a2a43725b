import SelectorRouter.Number.Integer
import SelectorRouter.Proofs.Code.Token

/-!
# Numbers in emitted code

A number is a word of decimal digits, or `0x` and hexadecimal digits. Method ids are
written in the second form and counts in the first; both read back as what they are.
-/

namespace SelectorRouter.Code

/-- A number together with the word it is written as. -/
structure Literal where
  text : String
  value : Nat
  deriving Repr, DecidableEq

def digit? (base : Nat) (c : Char) : Option Nat :=
  (Text.hexValue? c).filter (· < base)

/-- The value of a run of digits that is not empty. -/
def value? (base : Nat) (digits : List Char) : Option Nat :=
  if digits = [] then none else (digits.mapM (digit? base)).map (Number.ofDigits base)

def Literal.read? (word : String) : Option Literal :=
  match word.toList with
  | '0' :: 'x' :: digits => (value? 16 digits).map (Literal.mk word)
  | digits => (value? 10 digits).map (Literal.mk word)

/-- The method id of a selector as it stands in emitted code. -/
def Literal.ofSelector (s : Selector) : Literal :=
  ⟨s.literal, s.methodId.toNat⟩

/-! ## Digits -/

theorem digit?_digitChar {k : Nat} (hk : k < 16) : digit? 16 (Nat.digitChar k) = some k := by
  have all : ∀ k : Fin 16, digit? 16 (Nat.digitChar k) = some k.val := by decide
  exact all ⟨k, hk⟩

theorem isIdentifierChar_digitChar {k : Nat} (hk : k < 16) :
    Constant.isIdentifierChar (Nat.digitChar k) = true := by
  have all : ∀ k : Fin 16, Constant.isIdentifierChar (Nat.digitChar k) = true := by decide
  exact all ⟨k, hk⟩

theorem isDigit_iff {c : Char} : c.isDigit = true ↔ 48 ≤ c.toNat ∧ c.toNat ≤ 57 := by
  simp only [Char.isDigit, Bool.and_eq_true, decide_eq_true_eq, UInt32.le_iff_toNat_le,
    ge_iff_le]
  exact Iff.rfl

theorem isIdentifierChar_of_isDigit {c : Char} (h : c.isDigit = true) :
    Constant.isIdentifierChar c = true := by
  rw [isDigit_iff] at h
  rw [isIdentifierChar_iff]
  exact Or.inr (Or.inr (Or.inl h))

theorem digit?_of_isDigit {c : Char} (h : c.isDigit = true) :
    digit? 10 c = some (c.toNat - 48) := by
  rw [isDigit_iff] at h
  have range : '0' ≤ c ∧ c ≤ '9' := ⟨char_le_iff.mpr h.1, char_le_iff.mpr h.2⟩
  have small : c.toNat - '0'.toNat < 10 := by
    show c.toNat - 48 < 10
    omega
  rw [digit?, Text.hexValue?, if_pos range, Option.filter_some, if_pos (by simpa using small)]
  rfl

/-! ## Numbers written by the program -/

theorem toList_methodIdLiteral (n : Nat) : (methodIdLiteral n).toList =
    '0' :: 'x' :: (FourBytes.ofNat n).flatMap Text.hexByte := by
  simp [methodIdLiteral, Text.hex]

theorem value?_fourBytes {n : Nat} (h : n < methodIdLimit) :
    value? 16 ((FourBytes.ofNat n).flatMap Text.hexByte) = some n := by
  have high : ∀ m, digit? 16 (Nat.digitChar (m % 256 / 16)) = some (m % 256 / 16) :=
    fun m => digit?_digitChar (by omega)
  have low : ∀ m, digit? 16 (Nat.digitChar (m % 256 % 16)) = some (m % 256 % 16) :=
    fun m => digit?_digitChar (by omega)
  simp only [FourBytes.ofNat, Text.hexByte, List.flatMap_cons, List.flatMap_nil,
    UInt8.toNat_ofNat', List.cons_append, List.nil_append, value?, List.mapM_cons,
    List.mapM_nil, high, low, Nat.reducePow, reduceCtorEq, if_false, Option.bind_eq_bind,
    Option.bind_some, Option.pure_def, Option.map_some, Number.ofDigits, List.foldl_cons,
    List.foldl_nil]
  rw [methodIdLimit] at h
  congr 1
  omega

theorem read?_methodIdLiteral {n : Nat} (h : n < methodIdLimit) :
    Literal.read? (methodIdLiteral n) = some ⟨methodIdLiteral n, n⟩ := by
  rw [Literal.read?, toList_methodIdLiteral]
  simp only [value?_fourBytes h, Option.map_some]

theorem methodIdLiteral_injective {m n : Nat} (hm : m < methodIdLimit) (hn : n < methodIdLimit)
    (h : methodIdLiteral m = methodIdLiteral n) : m = n := by
  have read := read?_methodIdLiteral hm
  rw [h, read?_methodIdLiteral hn] at read
  exact (congrArg Literal.value (Option.some.inj read)).symm

theorem isWord_hex (bytes : List UInt8) : IsWord ("0x" ++ Text.hex bytes) := by
  have characters : ("0x" ++ Text.hex bytes).toList = '0' :: 'x' :: bytes.flatMap Text.hexByte := by
    simp [Text.hex]
  constructor
  · intro empty
    rw [empty] at characters
    exact List.cons_ne_nil _ _ characters.symm
  · intro c hc
    rw [characters, List.mem_cons, List.mem_cons, List.mem_flatMap] at hc
    rcases hc with rfl | rfl | ⟨b, -, hc⟩
    · rfl
    · rfl
    · have hb : b.toNat < 256 := b.toNat_lt
      rw [Text.hexByte, List.mem_cons, List.mem_singleton] at hc
      rcases hc with rfl | rfl
      · exact isIdentifierChar_digitChar (by omega)
      · exact isIdentifierChar_digitChar (by omega)

theorem isWord_methodIdLiteral (n : Nat) : IsWord (methodIdLiteral n) :=
  isWord_hex (FourBytes.ofNat n)

theorem toList_toString (n : Nat) : (toString n).toList = Nat.toDigits 10 n := by
  rw [Nat.toString_eq_repr, Nat.toList_repr]

theorem isDigit_of_mem_toString {n : Nat} {c : Char} (h : c ∈ (toString n).toList) :
    c.isDigit = true := by
  rw [toList_toString] at h
  exact Nat.isDigit_of_mem_toDigits (by decide) (by decide) h

theorem isWord_toString (n : Nat) : IsWord (toString n) := by
  refine ⟨?_, fun c hc => isIdentifierChar_of_isDigit (isDigit_of_mem_toString hc)⟩
  rw [Nat.toString_eq_repr]
  exact Nat.repr_ne_empty

theorem mapM_digit? : ∀ {cs : List Char}, (∀ c ∈ cs, c.isDigit = true) →
    cs.mapM (digit? 10) = some (cs.map fun c => c.toNat - 48)
  | [], _ => rfl
  | c :: cs, h => by
      rw [List.mapM_cons, digit?_of_isDigit (h c List.mem_cons_self),
        mapM_digit? fun d hd => h d (List.mem_cons_of_mem c hd)]
      rfl

theorem read?_toString (n : Nat) : Literal.read? (toString n) = some ⟨toString n, n⟩ := by
  have digits : ∀ c ∈ (toString n).toList, c.isDigit = true :=
    fun c hc => isDigit_of_mem_toString hc
  have value : value? 10 (toString n).toList = some n := by
    have nonempty : (toString n).toList ≠ [] := by
      rw [toList_toString]
      exact Nat.toDigits_ne_nil
    rw [value?, if_neg nonempty, mapM_digit? digits, Option.map_some, Number.ofDigits,
      List.foldl_map, toList_toString]
    exact congrArg some Nat.ofDigitChars_ten_toDigits
  rw [Literal.read?]
  split
  case h_1 ds hds =>
      -- no decimal digit is the letter that marks the other base
      have hx : 'x' ∈ (toString n).toList := by
        rw [hds]
        exact List.mem_cons_of_mem _ List.mem_cons_self
      exact absurd (digits 'x' hx) (by decide)
  case h_2 => rw [value, Option.map_some]

/-- Different numbers are written differently, since both can be read back. -/
theorem toString_injective {m n : Nat} (h : toString m = toString n) : m = n := by
  have read := read?_toString m
  rw [h, read?_toString] at read
  exact (congrArg Literal.value (Option.some.inj read)).symm

/-! ## Selectors -/

theorem inRange_iff {s : Selector} :
    s.inRange = true ↔ 0 ≤ s.methodId ∧ s.methodId < methodIdLimit := by
  rw [Selector.inRange, FourBytes.ofInt?]
  split <;> simp_all

/-- The literal of a method id in range is its text, and reads back as the id. -/
theorem literal?_eq_some {s : Selector} (h : s.inRange = true) :
    s.literal? = some s.literal := by
  rw [inRange_iff] at h
  rw [Selector.literal?, methodIdLiteral?, FourBytes.ofInt?, if_pos h, Option.map_some]
  rfl

theorem emitted_eq_ok {s : Selector} (h : s.inRange = true) : s.emitted = .ok s.literal := by
  rw [Selector.emitted, literal?_eq_some h]

theorem read?_literal {s : Selector} (h : s.inRange = true) :
    Literal.read? s.literal = some (Literal.ofSelector s) := by
  rw [inRange_iff] at h
  exact read?_methodIdLiteral (by omega)

end SelectorRouter.Code
