import SelectorRouter.Diamond.Facet
import SelectorRouter.Proofs.Module
import SelectorRouter.Proofs.Number.Digits

/-!
# The forms of method ids

A method id is a number below 2 ^ 32, a run of four bytes and a text of `0x` and eight
digits. Each form gives back the others: four bytes and their number determine each
other, the text reads back as the number, and of two method ids the smaller one has the
text that comes first. So a facet is found by the text of a method id as by its number.
-/

namespace SelectorRouter

open Address (nibbles)

namespace FourBytes

/-- The number that the first four of some bytes stand for. -/
def read? (bytes : List UInt8) : Option Int :=
  toInt? (bytes.map fun b => (b.toNat : Int))

/-! ## Bytes and numbers -/

theorem read?_eq {bytes : List UInt8} (four : bytes.length = 4) :
    read? bytes = some ((toNat bytes : Nat) : Int) := by
  match bytes, four with
  | [a, b, c, d], _ =>
      rw [toNat]
      simp only [Int.natCast_add, Int.natCast_mul]
      rfl

theorem toNat_eq {bytes : List UInt8} (four : bytes.length = 4) :
    toNat bytes = Number.ofDigits 256 (bytes.map UInt8.toNat) := by
  match bytes, four with
  | [a, b, c, d], _ =>
      rw [toNat]
      simp only [Number.ofDigits, List.map_cons, List.map_nil, List.foldl_cons, List.foldl_nil]
      omega

theorem length_ofNat (n : Nat) : (ofNat n).length = 4 := rfl

theorem ofDigits_ofNat {n : Nat} (h : n < methodIdLimit) :
    Number.ofDigits 256 ((ofNat n).map UInt8.toNat) = n := by
  rw [methodIdLimit] at h
  simp only [ofNat, Number.ofDigits, List.map_cons, List.map_nil, List.foldl_cons, List.foldl_nil,
    UInt8.toNat_ofNat']
  omega

theorem ofInt?_eq {n : Int} (low : 0 ≤ n) (high : n < methodIdLimit) :
    ofInt? n = some (ofNat n.toNat) :=
  if_pos ⟨low, high⟩

theorem exists_ofInt?_iff {n : Int} :
    (∃ bytes, ofInt? n = some bytes) ↔ 0 ≤ n ∧ n < methodIdLimit := by
  rw [ofInt?]
  split
  case isTrue range => simp only [Option.some.injEq, exists_eq', range, and_self]
  case isFalse outside => simp only [reduceCtorEq, exists_false, outside]

/-- Four bytes and their number determine each other. -/
theorem ofInt?_eq_some_iff {n : Int} {bytes : List UInt8} :
    ofInt? n = some bytes ↔ bytes.length = 4 ∧ read? bytes = some n := by
  constructor
  · intro h
    obtain ⟨low, high⟩ := exists_ofInt?_iff.1 ⟨bytes, h⟩
    rw [ofInt?_eq low high, Option.some.injEq] at h
    have four : bytes.length = 4 := h ▸ length_ofNat n.toNat
    refine ⟨four, ?_⟩
    rw [read?_eq four, toNat_eq four, ← h, ofDigits_ofNat (by omega), Int.toNat_of_nonneg low]
  · rintro ⟨four, h⟩
    rw [read?_eq four, toNat_eq four, Option.some.injEq] at h
    have small := Number.ofDigits_lt (by decide) (Number.byte_lt bytes)
    rw [List.length_map, four] at small
    have limit : n.toNat < methodIdLimit := by
      rw [methodIdLimit]
      omega
    rw [ofInt?_eq (by omega) (by omega), Option.some.injEq]
    have count : ((ofNat n.toNat).map UInt8.toNat).length = (bytes.map UInt8.toNat).length := by
      rw [List.length_map, List.length_map, four]
      rfl
    have digits := Number.ofDigits_inj (by decide) count
      (Number.byte_lt (ofNat n.toNat)) (Number.byte_lt bytes)
      ((ofDigits_ofNat limit).trans (by omega))
    exact List.map_injective_iff.mpr (fun _ _ => UInt8.toNat_inj.mp) digits

end FourBytes

/-! ## Texts -/

/-- The eight digits of a method id. -/
def methodIdDigits (n : Nat) : List Nat :=
  nibbles (FourBytes.ofNat n)

theorem methodIdLiteral_eq (n : Nat) :
    methodIdLiteral n = "0x" ++ String.ofList ((methodIdDigits n).map Nat.digitChar) := by
  rw [methodIdLiteral, Number.hex_eq, methodIdDigits]

theorem methodIdLiteral?_eq {n : Int} (low : 0 ≤ n) (high : n < methodIdLimit) :
    methodIdLiteral? n = some (methodIdLiteral n.toNat) := by
  rw [methodIdLiteral?, FourBytes.ofInt?_eq low high]
  rfl

theorem length_methodIdDigits (n : Nat) : (methodIdDigits n).length = 8 := rfl

theorem methodIdDigit_lt {n : Nat} : ∀ d ∈ methodIdDigits n, d < 16 :=
  Number.nibble_lt

theorem ofDigits_methodIdDigits {n : Nat} (h : n < methodIdLimit) :
    Number.ofDigits 16 (methodIdDigits n) = n := by
  rw [methodIdDigits, Number.ofDigits_nibbles, FourBytes.ofDigits_ofNat h]

theorem readInteger_methodIdLiteral {n : Nat} (h : n < methodIdLimit) :
    Number.readInteger 16 (methodIdLiteral n) = .ok (n : Int) := by
  have nonempty : methodIdDigits n ≠ [] := List.cons_ne_nil _ _
  rw [methodIdLiteral_eq, Number.readInteger_marked nonempty methodIdDigit_lt,
    ofDigits_methodIdDigits h]

/-- Method ids and their texts are in one order, since all texts have eight digits. -/
theorem methodIdLiteral_lt {m n : Nat} (less : m < n) (h : n < methodIdLimit) :
    methodIdLiteral m < methodIdLiteral n := by
  have digits : (methodIdDigits m).map Nat.digitChar < (methodIdDigits n).map Nat.digitChar := by
    refine Number.map_digitChar_lt rfl methodIdDigit_lt methodIdDigit_lt ?_
    rwa [ofDigits_methodIdDigits h, ofDigits_methodIdDigits (Nat.lt_trans less h)]
  rw [String.lt_iff, methodIdLiteral_eq, methodIdLiteral_eq, Number.toList_marked,
    Number.toList_marked, List.cons_lt_cons_self, List.cons_lt_cons_self]
  exact digits

/-! ## Signatures -/

theorem length_methodIdBytes (signature : String) : (methodIdBytes signature).length = 4 := by
  rw [methodIdBytes, List.length_take, Keccak.length_digest]
  rfl

theorem read?_methodIdBytes (signature : String) :
    FourBytes.read? (methodIdBytes signature) = some (methodId signature : Int) :=
  FourBytes.read?_eq (length_methodIdBytes signature)

theorem methodIdLiteral?_methodId (signature : String) :
    methodIdLiteral? (methodId signature) = some ("0x" ++ Text.hex (methodIdBytes signature)) := by
  have bytes : FourBytes.ofInt? (methodId signature) = some (methodIdBytes signature) :=
    FourBytes.ofInt?_eq_some_iff.2 ⟨length_methodIdBytes signature, read?_methodIdBytes signature⟩
  rw [methodIdLiteral?, bytes]
  rfl

/-! ## Facets -/

namespace Diamond.FacetTable

/-- The facet of a method id is found by its text. -/
theorem addressOfValue_methodIdLiteral (table : FacetTable) {n : Nat} (h : n < methodIdLimit) :
    table.addressOfValue (.str (methodIdLiteral n)) = .ok (table.addressOf? n) := by
  rw [addressOfValue]
  simp only [readInteger_methodIdLiteral h]

end Diamond.FacetTable

/-- **The forms of a method id stand for each other.** Its text is `0x` and eight small
digits, reads back as the number, and comes before the text of every larger one. Four bytes
and a number determine each other. The text of a signature's method id shows the bytes it
was cut from, and a text finds the facet that the number finds. -/
theorem methodId_forms_agree :
    (∀ n : Int, 0 ≤ n → n < 2 ^ 32 → ∃ digits : List Char,
      methodIdLiteral? n = some ("0x" ++ String.ofList digits) ∧ digits.length = 8 ∧
      (∀ c ∈ digits, c ∈ "0123456789abcdef".toList) ∧
      Number.readInteger 16 ("0x" ++ String.ofList digits) = .ok n) ∧
    (∀ n m : Int, 0 ≤ n → n < m → m < 2 ^ 32 → ∃ s t,
      methodIdLiteral? n = some s ∧ methodIdLiteral? m = some t ∧ s < t) ∧
    (∀ n : Int, (∃ bytes, FourBytes.ofInt? n = some bytes) ↔ 0 ≤ n ∧ n < 2 ^ 32) ∧
    (∀ bytes : List UInt8, bytes.length = 4 → ∃ n, FourBytes.read? bytes = some n) ∧
    (∀ (n : Int) (bytes : List UInt8), FourBytes.ofInt? n = some bytes ↔
      bytes.length = 4 ∧ FourBytes.read? bytes = some n) ∧
    (∀ signature, FourBytes.read? (methodIdBytes signature) = some (methodId signature : Int) ∧
      methodIdLiteral? (methodId signature) =
        some ("0x" ++ Text.hex (methodIdBytes signature))) ∧
    ∀ (table : Diamond.FacetTable) (n : Int), 0 ≤ n → n < 2 ^ 32 → ∃ text,
      methodIdLiteral? n = some text ∧
        table.addressOfValue (.str text) = .ok (table.addressOf? n) ∧
        table.addressOfValue (.int n) = .ok (table.addressOf? n) := by
  have limit : (methodIdLimit : Int) = 2 ^ 32 := rfl
  rw [← limit]
  refine ⟨fun n low high => ?_, fun n m low less high => ?_, fun n => FourBytes.exists_ofInt?_iff,
    fun bytes four => ⟨_, FourBytes.read?_eq four⟩, fun n bytes => FourBytes.ofInt?_eq_some_iff,
    fun signature => ⟨read?_methodIdBytes signature, methodIdLiteral?_methodId signature⟩,
    fun table n low high => ?_⟩
  · refine ⟨(methodIdDigits n.toNat).map Nat.digitChar, ?_, ?_, fun c hc => ?_, ?_⟩
    · rw [methodIdLiteral?_eq low high, methodIdLiteral_eq]
    · rw [List.length_map, length_methodIdDigits]
    · obtain ⟨d, hd, rfl⟩ := List.mem_map.mp hc
      exact Number.digitChar_mem (methodIdDigit_lt d hd)
    · rw [← methodIdLiteral_eq, readInteger_methodIdLiteral (by omega), Int.toNat_of_nonneg low]
  · exact ⟨_, _, methodIdLiteral?_eq low (by omega), methodIdLiteral?_eq (by omega) high,
      methodIdLiteral_lt (by omega) (by omega)⟩
  · have small : n.toNat < methodIdLimit := by omega
    have found := table.addressOfValue_methodIdLiteral small
    rw [Int.toNat_of_nonneg low] at found
    exact ⟨_, methodIdLiteral?_eq low high, found, rfl⟩

end SelectorRouter
