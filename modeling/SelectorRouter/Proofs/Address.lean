import SelectorRouter.Proofs.Code.Token

/-!
# Addresses are words

Whatever letter case the checksum chooses, the address of a module is a word of emitted
code: a change of case keeps a letter a letter.
-/

namespace SelectorRouter

open Constant (isIdentifierChar)
open Code (IsWord)

/-! ## Change of case -/

theorem Text.upperChar_of_isIdentifierChar {c : Char} (h : isIdentifierChar c = true) :
    upperChar c = [c.toUpper] := by
  rw [Code.isIdentifierChar_iff] at h
  rw [upperChar, if_pos (by omega)]

theorem Text.lowerChar_of_isIdentifierChar {c : Char} (h : isIdentifierChar c = true) :
    lowerChar c = [c.toLower] := by
  rw [Code.isIdentifierChar_iff] at h
  rw [lowerChar, if_pos (by omega)]

/-- The characters of words are made small one by one: no sigma is among them. -/
theorem Text.lowerAfter_of_isIdentifierChar : ∀ {cs : List Char} (before : List Char),
    (∀ c ∈ cs, isIdentifierChar c = true) → lowerAfter before cs = cs.map Char.toLower
  | [], _, _ => rfl
  | c :: cs, before, h => by
      have hc := h c List.mem_cons_self
      have sigma : c ≠ 'Σ' := by
        rintro rfl
        exact absurd hc (by decide)
      rw [lowerAfter, if_neg fun e => sigma e.1, lowerChar_of_isIdentifierChar hc,
        lowerAfter_of_isIdentifierChar _ fun d hd => h d (List.mem_cons_of_mem c hd)]
      rfl

namespace Address

theorem isIdentifierChar_of_isHexDigit {c : Char} (h : Text.isHexDigit c = true) :
    isIdentifierChar c = true := by
  rw [Text.isHexDigit, Text.hexValue?] at h
  rw [Code.isIdentifierChar_iff]
  simp only [Code.char_le_iff] at h
  have digits : '0'.toNat = 48 ∧ '9'.toNat = 57 ∧ 'a'.toNat = 97 ∧ 'f'.toNat = 102 ∧
      'A'.toNat = 65 ∧ 'F'.toNat = 70 := by decide
  split at h
  · omega
  · split at h
    · omega
    · split at h
      · omega
      · exact absurd h Bool.false_ne_true

theorem isIdentifierChar_of_isHex {s : String} (h : isHex s = true) :
    ∀ c ∈ s.toList, isIdentifierChar c = true := by
  rw [isHex] at h
  split at h
  case h_1 digits eq =>
      rw [Bool.and_eq_true, List.all_eq_true] at h
      intro c hc
      rw [eq, List.mem_cons, List.mem_cons] at hc
      rcases hc with rfl | rfl | hc
      · rfl
      · rfl
      · exact isIdentifierChar_of_isHexDigit (h.2 c hc)
  case h_2 => exact absurd h Bool.false_ne_true

/-- A character is given one of its two forms. -/
theorem recase_spec {d : Char} (h : isIdentifierChar d = true) (nibble : Nat) :
    ∃ c, recase d nibble = [c] ∧ isIdentifierChar c = true ∧ c.toLower = d.toLower := by
  have upper : d.toUpper.toLower = d.toLower :=
    Code.forall_isIdentifierChar (p := fun d => d.toUpper.toLower = d.toLower) (by decide) d h
  have lower : d.toLower.toLower = d.toLower :=
    Code.forall_isIdentifierChar (p := fun d => d.toLower.toLower = d.toLower) (by decide) d h
  rw [recase, Text.upperChar_of_isIdentifierChar h, Text.lowerChar_of_isIdentifierChar h]
  split
  · exact ⟨d, rfl, h, rfl⟩
  · split
    · exact ⟨d.toUpper, rfl, Code.isIdentifierChar_toUpper d h, upper⟩
    · exact ⟨d.toLower, rfl, Code.isIdentifierChar_toLower d h, lower⟩

theorem isIdentifierChar_of_mem_checksumDigits {digits : List Char}
    (h : ∀ c ∈ digits, isIdentifierChar c = true) :
    ∀ c ∈ checksumDigits digits, isIdentifierChar c = true := by
  intro c hc
  rw [checksumDigits, List.mem_flatten] at hc
  obtain ⟨run, hrun, hc⟩ := hc
  rw [← List.map_uncurry_zip_eq_zipWith, List.mem_map] at hrun
  obtain ⟨⟨d, nibble⟩, hd, rfl⟩ := hrun
  obtain ⟨e, recased, he, -⟩ := recase_spec (h d (List.of_mem_zip hd).1) nibble
  have hc : c ∈ recase d nibble := hc
  rw [recased, List.mem_singleton] at hc
  rwa [hc]

/-- A checksum only changes the case of digits, as long as the hash has a digit for each. -/
theorem map_toLower_recase : ∀ {digits : List Char} {hash : List Nat},
    digits.length ≤ hash.length → (∀ c ∈ digits, isIdentifierChar c = true) →
    (List.zipWith recase digits hash).flatten.map Char.toLower = digits.map Char.toLower
  | [], _, _, _ => rfl
  | d :: digits, nibble :: hash, long, h => by
      obtain ⟨c, recased, -, lower⟩ := recase_spec (h d List.mem_cons_self) nibble
      have ih := map_toLower_recase (Nat.le_of_succ_le_succ long)
        fun e he => h e (List.mem_cons_of_mem d he)
      rw [List.zipWith_cons_cons, List.flatten_cons, recased, List.map_append, ih, List.map_cons,
        lower]
      rfl

theorem length_nibbles (bytes : List UInt8) : (nibbles bytes).length = 2 * bytes.length := by
  induction bytes with
  | nil => rfl
  | cons b bytes ih =>
      rw [nibbles, List.flatMap_cons, List.length_append, ← nibbles, ih, List.length_cons]
      simp only [List.length_cons, List.length_nil]
      omega

theorem map_toLower_checksumDigits {digits : List Char} (short : digits.length = digitCount)
    (h : ∀ c ∈ digits, isIdentifierChar c = true) :
    (checksumDigits digits).map Char.toLower = digits.map Char.toLower := by
  refine map_toLower_recase ?_ h
  rw [length_nibbles, Keccak.length_digest, short, digitCount]
  omega

/-- What the checksum makes of a text of letters and digits. -/
theorem checksum?_spec {s address : String} (h : ∀ c ∈ s.toList, isIdentifierChar c = true)
    (hs : checksum? s = some address) :
    IsWord address ∧ address.toList.map Char.toLower = s.toList.map Char.toLower := by
  rw [checksum?] at hs
  split at hs
  case h_2 => cases hs
  case h_1 digits eq =>
      split at hs
      case isFalse => cases hs
      case isTrue length =>
          have chars : ∀ c ∈ digits, isIdentifierChar c = true := fun c hc =>
            h c (eq ▸ List.mem_cons_of_mem _ (List.mem_cons_of_mem _ hc))
          have text : address.toList = '0' :: 'x' :: checksumDigits digits := by
            rw [← Option.some.inj hs, String.toList_append]
            exact congrArg ('0' :: 'x' :: ·) String.toList_ofList
          refine ⟨⟨?_, ?_⟩, ?_⟩
          · rw [Ne, ← String.toList_inj, text]
            exact List.cons_ne_nil _ _
          · intro c hc
            rw [text, List.mem_cons, List.mem_cons] at hc
            rcases hc with rfl | rfl | hc
            · rfl
            · rfl
            · exact isIdentifierChar_of_mem_checksumDigits chars c hc
          · rw [text, eq, List.map_cons, List.map_cons, map_toLower_checksumDigits length chars]
            rfl

end Address

theorem Text.lower_of_isIdentifierChar {s : String}
    (h : ∀ c ∈ s.toList, isIdentifierChar c = true) :
    lower s = String.ofList (s.toList.map Char.toLower) := by
  rw [lower, lowerAfter_of_isIdentifierChar [] h]

namespace Module

theorem checksumAddress_eq_ok_iff {m : Module} {address : String} :
    m.checksumAddress = .ok address ↔ ∃ s, m.address = .str s ∧ Address.isHex s = true ∧
      Address.checksum? (Text.lower s) = some address := by
  constructor
  · intro h
    rw [checksumAddress] at h
    split at h
    case h_2 => cases h
    case h_1 s eq =>
        split at h
        case isFalse => cases h
        case isTrue hex =>
            split at h
            case h_2 => cases h
            case h_1 checked known => exact ⟨s, eq, hex, Except.ok.inj h ▸ known⟩
  · rintro ⟨s, eq, hex, known⟩
    rw [checksumAddress, eq]
    simp only [hex, if_true, known]

/-- **The address of a module** is a word that carries its own checksum. -/
theorem checksumAddress_spec {m : Module} {address : String}
    (h : m.checksumAddress = .ok address) :
    IsWord address ∧ Address.checksum? (Text.lower address) = some address := by
  obtain ⟨s, -, hex, known⟩ := checksumAddress_eq_ok_iff.mp h
  have small := Text.lower_of_isIdentifierChar (Address.isIdentifierChar_of_isHex hex)
  have chars : ∀ c ∈ (Text.lower s).toList, isIdentifierChar c = true := by
    rw [small, String.toList_ofList]
    intro c hc
    obtain ⟨d, hd, rfl⟩ := List.mem_map.mp hc
    exact Code.isIdentifierChar_toLower d (Address.isIdentifierChar_of_isHex hex d hd)
  obtain ⟨word, lower⟩ := Address.checksum?_spec chars known
  refine ⟨word, ?_⟩
  have same : Text.lower address = Text.lower s := by
    have idem : ∀ c ∈ s.toList, c.toLower.toLower = c.toLower := fun c hc =>
      Code.forall_isIdentifierChar (p := fun c => c.toLower.toLower = c.toLower)
        (by decide) c (Address.isIdentifierChar_of_isHex hex c hc)
    rw [Text.lower_of_isIdentifierChar word.2, lower, small, String.toList_ofList,
      List.map_map]
    exact congrArg String.ofList (List.map_congr_left idem)
  rw [same, known]

/-- Every address of the right form has a checksum. -/
theorem exists_checksumAddress {m : Module} {s : String} (eq : m.address = .str s)
    (hex : Address.isHex s = true) : ∃ address, m.checksumAddress = .ok address := by
  have small := Text.lower_of_isIdentifierChar (Address.isIdentifierChar_of_isHex hex)
  have found : ∃ address, Address.checksum? (Text.lower s) = some address := by
    rw [Address.isHex] at hex
    split at hex
    case h_2 => exact absurd hex Bool.false_ne_true
    case h_1 digits text =>
        rw [Bool.and_eq_true, beq_iff_eq] at hex
        have lower : (Text.lower s).toList = '0' :: 'x' :: digits.map Char.toLower := by
          rw [small, text, String.toList_ofList]
          rfl
        rw [Address.checksum?, lower]
        simp only [List.length_map, hex.1, if_true]
        exact ⟨_, rfl⟩
  obtain ⟨address, found⟩ := found
  exact ⟨address, checksumAddress_eq_ok_iff.mpr ⟨s, eq, hex, found⟩⟩

/-- Addresses that differ in the case of letters only do not differ. -/
theorem checksumAddress_inj {m n : Module} {a b : String} (hm : m.checksumAddress = .ok a)
    (hn : n.checksumAddress = .ok b) (same : Text.lower a = Text.lower b) : a = b := by
  have ha := (checksumAddress_spec hm).2
  rw [same, (checksumAddress_spec hn).2] at ha
  exact (Option.some.inj ha).symm

end Module

end SelectorRouter
