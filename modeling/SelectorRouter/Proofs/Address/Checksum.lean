import SelectorRouter.Proofs.Module.Check
import SelectorRouter.Proofs.Number.Digits

/-!
# The letter case of addresses

An address is `0x` and 40 digits, and the letter case of the digits is a checksum: where
the hash of the small digits has a digit of 8 or more, a letter is a capital. This rule
leaves one form for all the ways to write an address, and the address of a module is
given in it. Everything said of that form here follows from the rule and from its
having no second solution; of the hash nothing is used but its length of 32 bytes.
-/

namespace SelectorRouter

open Address (nibbles)

/-- The bytes of a text of ASCII characters are their numbers. -/
theorem Text.utf8_ofList {cs : List Char} (h : ∀ c ∈ cs, c.toNat < 128) :
    utf8 (String.ofList cs) = cs.map fun c => UInt8.ofNat c.toNat := by
  have encoded : cs.utf8Encode = (cs.map fun c => UInt8.ofNat c.toNat).toByteArray := by
    induction cs with
    | nil => rfl
    | cons c cs ih =>
        have hc : c.utf8Size = 1 := by
          rw [Char.utf8Size_eq_one_iff, UInt32.le_iff_toNat_le]
          exact Nat.le_of_lt_succ (h c List.mem_cons_self)
        rw [List.utf8Encode_cons, List.utf8Encode_singleton, String.utf8EncodeChar_eq_singleton hc,
          ih fun d hd => h d (List.mem_cons_of_mem c hd), ← List.toByteArray_append]
        rfl
  rw [utf8, String.toUTF8_eq_toByteArray, String.toByteArray_ofList, encoded]
  simp

namespace Address

open Number (toList_marked)

/-! ## The rule -/

/-- The digits of both letter cases. -/
def digitChars : List Char :=
  "0123456789abcdefABCDEF".toList

/-- `0x` and 40 digits. -/
def WellFormed (s : String) : Prop :=
  ∃ ds : List Char, s = "0x" ++ String.ofList ds ∧ ds.length = 40 ∧ ∀ c ∈ ds, c ∈ digitChars

/-- The digits of an address. -/
def digits (s : String) : List Char :=
  s.toList.drop 2

/-- The hash of the small digits of an address, each of them one byte. -/
def digitHash (s : String) : List UInt8 :=
  Keccak.digest ((digits s).map fun c => UInt8.ofNat c.toLower.toNat)

/-- A digit of the hash, as its hexadecimal text shows it. -/
def hashDigit? (s : String) (i : Nat) : Option Nat :=
  (Text.hex (digitHash s)).toList[i]?.bind Text.hexValue?

/-- The hash as a number of 256 bits. -/
def hashNumber (s : String) : Nat :=
  (FourBytes.fold ((digitHash s).map fun b => (b.toNat : Int))).toNat

/-- The address `s`, written in the letter case of its checksum. -/
structure Checksummed (s r : String) : Prop where
  wellFormed : WellFormed r
  sameDigits : (digits r).map Char.toLower = (digits s).map Char.toLower
  capital : ∀ i c, (digits r)[i]? = some c → c.isAlpha = true →
    (c.isUpper = true ↔ ∃ d, hashDigit? s i = some d ∧ 8 ≤ d)

/-! ## Digits -/

/-- The characters one by one: a computation would decode the text for each of them anew. -/
theorem digitChars_eq : digitChars =
    ['0', '1', '2', '3', '4', '5', '6', '7', '8', '9',
      'a', 'b', 'c', 'd', 'e', 'f', 'A', 'B', 'C', 'D', 'E', 'F'] :=
  String.toList_ofList

theorem forall_mem_digitChars {p : Char → Prop} [DecidablePred p]
    (h : ['0', '1', '2', '3', '4', '5', '6', '7', '8', '9',
      'a', 'b', 'c', 'd', 'e', 'f', 'A', 'B', 'C', 'D', 'E', 'F'].all
        (fun c => decide (p c)) = true) : ∀ c ∈ digitChars, p c := by
  intro c hc
  rw [digitChars_eq] at hc
  exact of_decide_eq_true (List.all_eq_true.mp h c hc)

theorem isHexDigit_iff {c : Char} : Text.isHexDigit c = true ↔ c ∈ digitChars := by
  constructor
  · intro h
    rw [Text.isHexDigit, Text.hexValue?] at h
    rw [digitChars_eq]
    simp only [Code.char_le_iff, Char.reduceToNat] at h
    simp only [List.mem_cons, List.not_mem_nil, or_false, ← Char.toNat_inj, Char.reduceToNat]
    split at h
    · omega
    · split at h
      · omega
      · split at h
        · omega
        · exact absurd h Bool.false_ne_true
  · exact forall_mem_digitChars (p := fun c => Text.isHexDigit c = true) rfl c

theorem toUpper_mem {c : Char} (h : c ∈ digitChars) : c.toUpper ∈ digitChars := by
  have closed : ∀ c ∈ digitChars, Text.isHexDigit c.toUpper = true := forall_mem_digitChars rfl
  exact isHexDigit_iff.1 (closed c h)

theorem toLower_mem {c : Char} (h : c ∈ digitChars) : c.toLower ∈ digitChars := by
  have closed : ∀ c ∈ digitChars, Text.isHexDigit c.toLower = true := forall_mem_digitChars rfl
  exact isHexDigit_iff.1 (closed c h)

theorem toLower_toLower : ∀ c ∈ digitChars, c.toLower.toLower = c.toLower :=
  forall_mem_digitChars rfl

/-- A digit is settled by its small form and by whether it is a capital. -/
theorem eq_ite_isUpper : ∀ c ∈ digitChars,
    c = if c.isUpper = true then c.toLower.toUpper else c.toLower :=
  forall_mem_digitChars rfl

theorem isAlpha_toLower : ∀ c ∈ digitChars, c.toLower.isAlpha = c.isAlpha :=
  forall_mem_digitChars rfl

theorem toLower_of_not_isAlpha : ∀ c ∈ digitChars, c.isAlpha = false → c.toLower = c :=
  forall_mem_digitChars rfl

/-- Two forms of a digit differ in the case of a letter, if at all. -/
theorem eq_of_case {c d : Char} (hc : c ∈ digitChars) (hd : d ∈ digitChars)
    (same : c.toLower = d.toLower)
    (capital : c.isAlpha = true → d.isAlpha = true → (c.isUpper = true ↔ d.isUpper = true)) :
    c = d := by
  have alpha : c.isAlpha = d.isAlpha := by
    rw [← isAlpha_toLower c hc, same, isAlpha_toLower d hd]
  cases letter : c.isAlpha with
  | true =>
      have upper := capital letter (alpha.symm.trans letter)
      rw [eq_ite_isUpper c hc, eq_ite_isUpper d hd, same, if_congr upper rfl rfl]
  | false =>
      rw [← toLower_of_not_isAlpha c hc letter, same,
        toLower_of_not_isAlpha d hd (alpha.symm.trans letter)]

/-! ## Well-formed addresses -/

theorem digits_marked (ds : List Char) : digits ("0x" ++ String.ofList ds) = ds := by
  rw [digits, toList_marked]
  rfl

theorem isHex_iff {s : String} : isHex s = true ↔ WellFormed s := by
  constructor
  · intro h
    unfold isHex at h
    split at h
    case h_1 ds eq =>
        rw [Bool.and_eq_true, beq_iff_eq, List.all_eq_true] at h
        refine ⟨ds, ?_, h.1, fun c hc => isHexDigit_iff.1 (h.2 c hc)⟩
        rw [← String.toList_inj, toList_marked, eq]
    case h_2 => exact absurd h Bool.false_ne_true
  · rintro ⟨ds, rfl, count, chars⟩
    have all : ds.all Text.isHexDigit = true :=
      List.all_eq_true.mpr fun c hc => isHexDigit_iff.2 (chars c hc)
    have length : (ds.length == digitCount) = true := beq_iff_eq.mpr count
    unfold isHex
    rw [toList_marked]
    simp only [all, length, Bool.and_self]

theorem isIdentifierChar_of_mem {c : Char} (h : c ∈ digitChars) :
    Constant.isIdentifierChar c = true :=
  isIdentifierChar_of_isHexDigit (isHexDigit_iff.2 h)

theorem WellFormed.mem_digits {s : String} (h : WellFormed s) : ∀ c ∈ digits s, c ∈ digitChars := by
  obtain ⟨ds, rfl, -, chars⟩ := h
  rwa [digits_marked]

theorem WellFormed.length_digits {s : String} (h : WellFormed s) : (digits s).length = 40 := by
  obtain ⟨ds, rfl, count, -⟩ := h
  rwa [digits_marked]

theorem WellFormed.toList_eq {s : String} (h : WellFormed s) :
    s.toList = '0' :: 'x' :: digits s := by
  obtain ⟨ds, rfl, -, -⟩ := h
  rw [digits_marked, toList_marked]

theorem WellFormed.map_toLower_eq_iff {s t : String} (hs : WellFormed s) (ht : WellFormed t) :
    s.toList.map Char.toLower = t.toList.map Char.toLower ↔
      (digits s).map Char.toLower = (digits t).map Char.toLower := by
  rw [hs.toList_eq, ht.toList_eq]
  simp only [List.map_cons, List.cons.injEq, true_and]

/-- The small form of an address is an address with the small digits. -/
theorem WellFormed.lower {s : String} (h : WellFormed s) :
    WellFormed (Text.lower s) ∧ digits (Text.lower s) = (digits s).map Char.toLower := by
  obtain ⟨ds, rfl, count, chars⟩ := h
  have word : ∀ c ∈ ("0x" ++ String.ofList ds).toList, Constant.isIdentifierChar c = true :=
    isIdentifierChar_of_isHex (isHex_iff.2 ⟨ds, rfl, count, chars⟩)
  have small : Text.lower ("0x" ++ String.ofList ds) =
      "0x" ++ String.ofList (ds.map Char.toLower) := by
    rw [Text.lower_of_isIdentifierChar word, ← String.toList_inj, String.toList_ofList,
      toList_marked, toList_marked]
    rfl
  rw [small, digits_marked, digits_marked]
  refine ⟨⟨ds.map Char.toLower, rfl, by rw [List.length_map, count], fun c hc => ?_⟩, rfl⟩
  obtain ⟨d, hd, rfl⟩ := List.mem_map.mp hc
  exact toLower_mem (chars d hd)

/-! ## One solution -/

theorem Checksummed.congr {s t r : String} (h : Checksummed s r)
    (same : (digits s).map Char.toLower = (digits t).map Char.toLower) : Checksummed t r := by
  have hash : hashDigit? s = hashDigit? t := by
    have bytes : (digits s).map (fun c => UInt8.ofNat c.toLower.toNat) =
        (digits t).map fun c => UInt8.ofNat c.toLower.toNat := by
      have mapped := congrArg (List.map fun c : Char => UInt8.ofNat c.toNat) same
      rwa [List.map_map, List.map_map] at mapped
    funext i
    rw [hashDigit?, hashDigit?, digitHash, digitHash, bytes]
  exact ⟨h.wellFormed, h.sameDigits.trans same, hash ▸ h.capital⟩

/-- **The letter case of an address is settled**: one text follows the rule. -/
theorem Checksummed.unique {s r t : String} (hr : Checksummed s r) (ht : Checksummed s t) :
    r = t := by
  have same : digits r = digits t := by
    refine List.ext_getElem? fun i => ?_
    have lower := congrArg (·[i]?) (hr.sameDigits.trans ht.sameDigits.symm)
    simp only [List.getElem?_map] at lower
    cases foundR : (digits r)[i]? with
    | none =>
        rw [foundR, Option.map_none] at lower
        exact (Option.map_eq_none_iff.mp lower.symm).symm
    | some c =>
        rw [foundR, Option.map_some] at lower
        obtain ⟨d, foundT, eq⟩ := Option.map_eq_some_iff.mp lower.symm
        have hc := hr.wellFormed.mem_digits c (List.mem_of_getElem? foundR)
        have hd := ht.wellFormed.mem_digits d (List.mem_of_getElem? foundT)
        rw [foundT, eq_of_case hc hd eq.symm fun alphaC alphaD =>
          (hr.capital i c foundR alphaC).trans (ht.capital i d foundT alphaD).symm]
  rw [← String.toList_inj, hr.wellFormed.toList_eq, ht.wellFormed.toList_eq, same]

/-! ## The computed form -/

/-- The form of a digit under the hash digit at its place. -/
def recased (c : Char) (nibble : Nat) : Char :=
  if 8 ≤ nibble then c.toUpper else c.toLower

theorem recase_eq {c : Char} (h : c ∈ digitChars) (nibble : Nat) :
    recase c nibble = [recased c nibble] := by
  have word := isIdentifierChar_of_mem h
  have caseless : ∀ c ∈ digitChars, '0' ≤ c ∧ c ≤ '9' → c.toUpper = c ∧ c.toLower = c :=
    forall_mem_digitChars rfl
  rw [recase, recased, Text.upperChar_of_isIdentifierChar word,
    Text.lowerChar_of_isIdentifierChar word]
  split
  case isTrue decimal =>
      obtain ⟨upper, lower⟩ := caseless c h decimal
      rw [upper, lower, ite_self]
  case isFalse => split <;> rfl

theorem flatten_zipWith_recase : ∀ {ds : List Char} {hash : List Nat},
    (∀ c ∈ ds, c ∈ digitChars) →
    (List.zipWith recase ds hash).flatten = List.zipWith recased ds hash
  | [], _, _ => rfl
  | _ :: _, [], _ => rfl
  | c :: ds, nibble :: hash, h => by
      rw [List.zipWith_cons_cons, List.flatten_cons, recase_eq (h c List.mem_cons_self),
        flatten_zipWith_recase fun d hd => h d (List.mem_cons_of_mem c hd)]
      rfl

theorem checksumDigits_eq {s : String} (h : WellFormed s) :
    checksumDigits (digits s) = List.zipWith recased (digits s) (nibbles (digitHash s)) := by
  have word : ∀ c ∈ digits s, Constant.isIdentifierChar c = true :=
    fun c hc => isIdentifierChar_of_mem (h.mem_digits c hc)
  have small : ∀ c ∈ (digits s).map Char.toLower, c.toNat < 128 := by
    have ascii : ∀ c ∈ digitChars, c.toLower.toNat < 128 := forall_mem_digitChars rfl
    intro c hc
    obtain ⟨d, hd, rfl⟩ := List.mem_map.mp hc
    exact ascii d (h.mem_digits d hd)
  rw [checksumDigits, Text.lowerAfter_of_isIdentifierChar [] word, Text.utf8_ofList small,
    List.map_map]
  exact flatten_zipWith_recase h.mem_digits

theorem hashDigit?_eq (s : String) (i : Nat) :
    hashDigit? s i = (nibbles (digitHash s))[i]? := by
  rw [hashDigit?, Number.hex_eq, String.toList_ofList, List.getElem?_map]
  cases found : (nibbles (digitHash s))[i]? with
  | none => rfl
  | some d => exact Number.hexValue?_digitChar (Number.nibble_lt d (List.mem_of_getElem? found))

theorem length_nibbles_digitHash (s : String) : (nibbles (digitHash s)).length = 64 := by
  rw [length_nibbles, digitHash, Keccak.length_digest]

theorem recased_mem {d : Char} (h : d ∈ digitChars) (nibble : Nat) :
    recased d nibble ∈ digitChars := by
  unfold recased
  split
  · exact toUpper_mem h
  · exact toLower_mem h

theorem isUpper_recased_iff {d : Char} (h : d ∈ digitChars) {nibble : Nat}
    (alpha : (recased d nibble).isAlpha = true) :
    (recased d nibble).isUpper = true ↔ 8 ≤ nibble := by
  have capital : ∀ c ∈ digitChars, c.toUpper.isAlpha = true → c.toUpper.isUpper = true :=
    forall_mem_digitChars rfl
  have small : ∀ c ∈ digitChars, c.toLower.isUpper = false := forall_mem_digitChars rfl
  unfold recased at alpha ⊢
  split at alpha
  case isTrue large =>
      rw [if_pos large]
      exact iff_of_true (capital d h alpha) large
  case isFalse little =>
      rw [if_neg little, small d h]
      exact iff_of_false Bool.false_ne_true little

/-- Each digit of the checked form is the digit at its place under the hash digit there. -/
theorem getElem?_checksumDigits {s : String} (h : WellFormed s) {i : Nat} {c : Char}
    (hc : (checksumDigits (digits s))[i]? = some c) :
    ∃ d ∈ digitChars, ∃ n, hashDigit? s i = some n ∧ recased d n = c := by
  rw [checksumDigits_eq h, List.getElem?_zipWith_eq_some] at hc
  obtain ⟨d, n, hd, hn, eq⟩ := hc
  exact ⟨d, h.mem_digits d (List.mem_of_getElem? hd), n, (hashDigit?_eq s i).trans hn, eq⟩

/-- An address in any letter case is given the case of its checksum. -/
theorem WellFormed.exists_checksum? {s : String} (h : WellFormed s) :
    ∃ r, checksum? s = some r ∧ Checksummed s r := by
  have length : (digits s).length = digitCount := h.length_digits
  have computed : checksum? s = some ("0x" ++ String.ofList (checksumDigits (digits s))) := by
    rw [checksum?, h.toList_eq]
    exact if_pos length
  have same : (checksumDigits (digits s)).map Char.toLower = (digits s).map Char.toLower :=
    map_toLower_checksumDigits length fun c hc => isIdentifierChar_of_mem (h.mem_digits c hc)
  have count : (checksumDigits (digits s)).length = 40 := by
    rw [← List.length_map Char.toLower, same, List.length_map, h.length_digits]
  refine ⟨_, computed, ⟨_, rfl, count, fun c hc => ?_⟩, ?_, fun i c hc alpha => ?_⟩
  · obtain ⟨i, hi⟩ := List.mem_iff_getElem?.mp hc
    obtain ⟨d, hd, n, -, rfl⟩ := getElem?_checksumDigits h hi
    exact recased_mem hd n
  · rw [digits_marked, same]
  · rw [digits_marked] at hc
    obtain ⟨d, hd, n, hash, rfl⟩ := getElem?_checksumDigits h hc
    rw [isUpper_recased_iff hd alpha, hash]
    simp only [Option.some.injEq, exists_eq_left']

theorem Checksummed.self {s r : String} (h : Checksummed s r) : Checksummed r r :=
  h.congr h.sameDigits.symm

/-- A form that follows the rule is its own checked form. -/
theorem Checksummed.checksum?_self {s r : String} (h : Checksummed s r) : checksum? r = some r := by
  obtain ⟨t, computed, follows⟩ := h.wellFormed.exists_checksum?
  rw [computed, follows.unique h.self]

/-- The rule in the bits of the hash: the first digit goes with the highest bit, and each
further one with the bit four places below that of the digit before. -/
theorem hashDigit?_testBit {s : String} {i : Nat} (hi : i < 40) :
    (∃ d, hashDigit? s i = some d ∧ 8 ≤ d) ↔ (hashNumber s).testBit (255 - 4 * i) = true := by
  have long : i < (nibbles (digitHash s)).length := by
    rw [length_nibbles_digitHash]
    omega
  have found := List.getElem?_eq_getElem long
  have number : hashNumber s = Number.ofDigits 16 (nibbles (digitHash s)) := by
    rw [hashNumber, Number.fold_bytes, Int.toNat_natCast, Number.ofDigits_nibbles]
  have bit := Number.testBit_ofDigits Number.nibble_lt found
  rw [length_nibbles_digitHash, ← number] at bit
  rw [bit, hashDigit?_eq, found, decide_eq_true_eq]
  simp only [Option.some.injEq, exists_eq_left']

end Address

/-! ## Modules -/

namespace Module

open Address (WellFormed Checksummed digits digitChars hashDigit? hashNumber)

theorem exists_checksummed {m : Module} {s : String} (eq : m.address = .str s)
    (h : WellFormed s) : ∃ r, m.checksumAddress = .ok r ∧ Checksummed s r := by
  obtain ⟨small, smallDigits⟩ := h.lower
  obtain ⟨r, found, checked⟩ := small.exists_checksum?
  have same : (digits (Text.lower s)).map Char.toLower = (digits s).map Char.toLower := by
    rw [smallDigits, List.map_map]
    exact List.map_congr_left fun c hc => Address.toLower_toLower c (h.mem_digits c hc)
  exact ⟨r, checksumAddress_eq_ok_iff.2 ⟨s, eq, Address.isHex_iff.2 h, found⟩, checked.congr same⟩

theorem isHexValue_iff {v : Json} :
    Address.isHexValue v = true ↔ ∃ s, v = .str s ∧ WellFormed s := by
  constructor
  · intro h
    unfold Address.isHexValue at h
    split at h
    case h_1 s => exact ⟨s, rfl, Address.isHex_iff.1 h⟩
    case h_2 => cases h
  · rintro ⟨s, rfl, h⟩
    exact Address.isHex_iff.2 h

/-- The address of a module is the one text that follows the rule. -/
theorem checksumAddress_eq_ok_iff_checksummed {m : Module} {r : String} :
    m.checksumAddress = .ok r ↔
      ∃ s, m.address = .str s ∧ WellFormed s ∧ Checksummed s r := by
  constructor
  · intro ok
    have hex : Address.isHexValue m.address = true := by
      by_contra malformed
      rw [checksumAddress_of_malformed (Bool.eq_false_iff.mpr malformed)] at ok
      cases ok
    obtain ⟨s, eq, h⟩ := isHexValue_iff.1 hex
    obtain ⟨t, found, checked⟩ := exists_checksummed eq h
    obtain rfl : t = r := Except.ok.inj (found.symm.trans ok)
    exact ⟨s, eq, h, checked⟩
  · rintro ⟨s, eq, h, checked⟩
    obtain ⟨t, found, other⟩ := exists_checksummed eq h
    rw [found, other.unique checked]

theorem checksumAddress_eq_iff {m n : Module} {s t r u : String} (eqM : m.address = .str s)
    (eqN : n.address = .str t) (okM : m.checksumAddress = .ok r)
    (okN : n.checksumAddress = .ok u) :
    u = r ↔ t.toList.map Char.toLower = s.toList.map Char.toLower := by
  obtain ⟨s, knownM, hs, checkedM⟩ := checksumAddress_eq_ok_iff_checksummed.1 okM
  obtain ⟨t, knownN, ht, checkedN⟩ := checksumAddress_eq_ok_iff_checksummed.1 okN
  obtain rfl := Json.str.inj (eqM.symm.trans knownM)
  obtain rfl := Json.str.inj (eqN.symm.trans knownN)
  rw [ht.map_toLower_eq_iff hs]
  constructor
  · rintro rfl
    exact checkedN.sameDigits.symm.trans checkedM.sameDigits
  · intro same
    exact (checkedN.congr same).unique checkedM

/-- **Addresses are normalised.** Exactly the well-formed ones are accepted. The form that
is given has the same digits, and its capitals are those that the hash asks for, digit by
digit or bit by bit. It is accepted as it stands, and two addresses have one form exactly
when they differ in letter case only. -/
theorem checksumAddress_normalised (m : Module) :
    ((∃ r, m.checksumAddress = .ok r) ↔ ∃ s, m.address = .str s ∧ WellFormed s) ∧
    ((¬ ∃ s, m.address = .str s ∧ WellFormed s) →
      m.checksumAddress = .error (.invalidAddress m.name m.address)) ∧
    ∀ s r, m.address = .str s → m.checksumAddress = .ok r →
      r.toList.map Char.toLower = s.toList.map Char.toLower ∧
      (∀ i c, (digits r)[i]? = some c → c.isAlpha = true →
        (c.isUpper = true ↔ ∃ d, hashDigit? s i = some d ∧ 8 ≤ d) ∧
        (c.isUpper = true ↔ (hashNumber s).testBit (255 - 4 * i) = true)) ∧
      Address.isHexValue (.str r) = true ∧ Address.checksum? r = some r ∧
      (∀ n : Module, n.address = .str r → n.checksumAddress = .ok r) ∧
      ∀ (n : Module) t u, n.address = .str t → n.checksumAddress = .ok u →
        (u = r ↔ t.toList.map Char.toLower = s.toList.map Char.toLower) := by
  refine ⟨⟨?_, ?_⟩, ?_, ?_⟩
  · rintro ⟨r, ok⟩
    obtain ⟨s, eq, h, -⟩ := checksumAddress_eq_ok_iff_checksummed.1 ok
    exact ⟨s, eq, h⟩
  · rintro ⟨s, eq, h⟩
    obtain ⟨r, ok, -⟩ := exists_checksummed eq h
    exact ⟨r, ok⟩
  · intro malformed
    refine checksumAddress_of_malformed (Bool.eq_false_iff.mpr fun hex => malformed ?_)
    exact isHexValue_iff.1 hex
  · intro s r eq ok
    obtain ⟨s, known, h, checked⟩ := checksumAddress_eq_ok_iff_checksummed.1 ok
    obtain rfl := Json.str.inj (eq.symm.trans known)
    refine ⟨(checked.wellFormed.map_toLower_eq_iff h).mpr checked.sameDigits, ?_,
      Address.isHex_iff.2 checked.wellFormed, checked.checksum?_self, ?_, ?_⟩
    · intro i c hc alpha
      have place : i < 40 := by
        rw [← checked.wellFormed.length_digits]
        exact (List.getElem?_eq_some_iff.mp hc).1
      have capital := checked.capital i c hc alpha
      exact ⟨capital, capital.trans (Address.hashDigit?_testBit place)⟩
    · intro n eqN
      exact checksumAddress_eq_ok_iff_checksummed.2 ⟨r, eqN, checked.wellFormed, checked.self⟩
    · intro n t u eqN okN
      exact checksumAddress_eq_iff eq eqN ok okN

end Module

end SelectorRouter
