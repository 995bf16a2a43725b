import Mathlib.Data.Nat.Digits.Defs
import SelectorRouter.Number.Integer
import SelectorRouter.Proofs.Address
import SelectorRouter.Selector

/-!
# Numbers and their hexadecimal digits

A run of digits stands for a number, the most significant digit first. Bytes stand for
the same number by their halves in base 16 as by themselves in base 256, so each bit of
the number is found in one digit. Of two texts with equally many digits the smaller
number comes first, and a text of digits behind the mark `0x` reads back as its number.
-/

namespace SelectorRouter

open Address (nibbles)

namespace Number

/-! ## Positions -/

theorem ofDigits_eq (base : Nat) (ds : List Nat) :
    ofDigits base ds = Nat.ofDigits base ds.reverse := by
  rw [Nat.ofDigits_eq_foldr, List.foldr_reverse, ofDigits]
  simp only [Nat.cast_id, Nat.add_comm]

theorem ofDigits_cons (base d : Nat) (ds : List Nat) :
    ofDigits base (d :: ds) = base ^ ds.length * d + ofDigits base ds := by
  rw [ofDigits_eq, List.reverse_cons, Nat.ofDigits_append, Nat.ofDigits_singleton,
    List.length_reverse, ← ofDigits_eq, Nat.add_comm]

theorem ofDigits_lt {base : Nat} (hb : 1 < base) {ds : List Nat} (h : ∀ d ∈ ds, d < base) :
    ofDigits base ds < base ^ ds.length := by
  rw [ofDigits_eq, ← List.length_reverse]
  exact Nat.ofDigits_lt_base_pow_length hb fun d hd => h d (List.mem_reverse.mp hd)

/-- Digits of one count are settled by their number. -/
theorem ofDigits_inj {base : Nat} (hb : 1 < base) {ds es : List Nat}
    (same : ds.length = es.length) (hd : ∀ d ∈ ds, d < base) (he : ∀ e ∈ es, e < base)
    (h : ofDigits base ds = ofDigits base es) : ds = es := by
  rw [ofDigits_eq, ofDigits_eq] at h
  refine List.reverse_inj.mp (Nat.ofDigits_inj_of_len_eq hb ?_ ?_ ?_ h)
  · rw [List.length_reverse, List.length_reverse, same]
  · exact fun d hm => hd d (List.mem_reverse.mp hm)
  · exact fun e hm => he e (List.mem_reverse.mp hm)

/-- The highest bit of each digit is a bit of the number. -/
theorem testBit_ofDigits : ∀ {ds : List Nat}, (∀ d ∈ ds, d < 16) → ∀ {i d : Nat},
    ds[i]? = some d → (ofDigits 16 ds).testBit (4 * ds.length - 1 - 4 * i) = decide (8 ≤ d)
  | [], _, i, d, h => by cases h
  | e :: ds, small, i, d, h => by
      have rest : ∀ d ∈ ds, d < 16 := fun d hd => small d (List.mem_cons_of_mem e hd)
      have he : e < 16 := small e List.mem_cons_self
      have bound : ofDigits 16 ds < 2 ^ (4 * ds.length) := by
        rw [Nat.pow_mul]
        exact ofDigits_lt (by decide) rest
      have power : 16 ^ ds.length = 2 ^ (4 * ds.length) := by rw [Nat.pow_mul]
      rw [ofDigits_cons, power, Nat.testBit_two_pow_mul_add _ bound, List.length_cons]
      cases i with
      | zero =>
          obtain rfl : e = d := Option.some.inj h
          have place : 4 * (ds.length + 1) - 1 - 4 * 0 - 4 * ds.length = 3 := by omega
          rw [if_neg (by omega), place, Nat.testBit_eq_decide_div_mod_eq, decide_eq_decide]
          omega
      | succ i =>
          rw [List.getElem?_cons_succ] at h
          obtain ⟨inside, -⟩ := List.getElem?_eq_some_iff.mp h
          have place : 4 * (ds.length + 1) - 1 - 4 * (i + 1) = 4 * ds.length - 1 - 4 * i := by omega
          rw [if_pos (by omega), place, testBit_ofDigits rest h]

/-! ## Order -/

theorem digitChar_lt {d e : Nat} (h : d < e) (he : e < 16) :
    Nat.digitChar d < Nat.digitChar e := by
  have all : ∀ e : Fin 16, ∀ d : Fin 16, d < e → Nat.digitChar d < Nat.digitChar e := by decide
  exact all ⟨e, he⟩ ⟨d, by omega⟩ h

/-- Texts of equally many digits are in the order of the numbers. -/
theorem map_digitChar_lt : ∀ {ds es : List Nat}, ds.length = es.length →
    (∀ d ∈ ds, d < 16) → (∀ e ∈ es, e < 16) → ofDigits 16 ds < ofDigits 16 es →
      ds.map Nat.digitChar < es.map Nat.digitChar
  | [], [], _, _, _, h => absurd h (Nat.lt_irrefl _)
  | d :: ds, e :: es, same, hd, he, h => by
      have length : ds.length = es.length := Nat.succ.inj same
      have restD : ∀ d ∈ ds, d < 16 := fun c hc => hd c (List.mem_cons_of_mem d hc)
      have restE : ∀ e ∈ es, e < 16 := fun c hc => he c (List.mem_cons_of_mem e hc)
      rw [ofDigits_cons, ofDigits_cons, length] at h
      rw [List.map_cons, List.map_cons, List.cons_lt_cons_iff]
      rcases Nat.lt_trichotomy d e with less | rfl | more
      · exact Or.inl (digitChar_lt less (he e List.mem_cons_self))
      · exact Or.inr ⟨rfl, map_digitChar_lt length restD restE (by omega)⟩
      · -- a larger first digit outweighs all digits after it
        have bound := ofDigits_lt (by decide) restE
        have step := Nat.mul_le_mul_left (16 ^ es.length) (Nat.succ_le_of_lt more)
        rw [Nat.mul_succ] at step
        omega

/-! ## Bytes -/

theorem byte_lt (bytes : List UInt8) : ∀ d ∈ bytes.map UInt8.toNat, d < 256 :=
  List.forall_mem_map.mpr fun b _ => b.toNat_lt

theorem nibbles_cons (b : UInt8) (bytes : List UInt8) :
    nibbles (b :: bytes) = b.toNat / 16 :: b.toNat % 16 :: nibbles bytes := rfl

theorem nibble_lt {bytes : List UInt8} : ∀ d ∈ nibbles bytes, d < 16 := by
  intro d hd
  obtain ⟨b, -, hd⟩ := List.mem_flatMap.mp hd
  have hb : b.toNat < 256 := b.toNat_lt
  rw [List.mem_cons, List.mem_singleton] at hd
  rcases hd with rfl | rfl
  · omega
  · omega

/-- The two halves of a byte count as much as the byte. -/
theorem ofDigits_nibbles (bytes : List UInt8) :
    ofDigits 16 (nibbles bytes) = ofDigits 256 (bytes.map UInt8.toNat) := by
  induction bytes with
  | nil => rfl
  | cons b bytes ih =>
      have power : 16 ^ (2 * bytes.length) = 256 ^ bytes.length := by rw [Nat.pow_mul]
      rw [nibbles_cons, ofDigits_cons, ofDigits_cons, ih, List.map_cons, ofDigits_cons,
        List.length_cons, List.length_map, Address.length_nibbles, Nat.pow_succ, power,
        Nat.mul_assoc, ← Nat.add_assoc, ← Nat.mul_add]
      congr 2
      omega

/-- The number of bytes is that of their items, whatever its sign is allowed to be. -/
theorem fold_bytes (bytes : List UInt8) :
    FourBytes.fold (bytes.map fun b => (b.toNat : Int)) =
      (ofDigits 256 (bytes.map UInt8.toNat) : Nat) := by
  rw [FourBytes.fold, ofDigits, List.foldl_map, List.foldl_map, ← Int.natCast_zero]
  refine List.foldl_hom (fun n : Nat => (n : Int)) fun n b => ?_
  rw [Nat.mul_comm, Int.natCast_add, Int.natCast_mul]
  rfl

/-! ## Texts -/

theorem hex_eq (bytes : List UInt8) :
    Text.hex bytes = String.ofList ((nibbles bytes).map Nat.digitChar) := by
  rw [Text.hex, nibbles, List.map_flatMap]
  rfl

theorem toList_marked (cs : List Char) :
    ("0x" ++ String.ofList cs).toList = '0' :: 'x' :: cs := by
  rw [String.toList_append, String.toList_ofList, String.toList_ofList]
  rfl

theorem hexValue?_digitChar {d : Nat} (hd : d < 16) :
    Text.hexValue? (Nat.digitChar d) = some d := by
  have all : ∀ d : Fin 16, Text.hexValue? (Nat.digitChar d) = some d.val := by decide
  exact all ⟨d, hd⟩

theorem digitChar_mem {d : Nat} (hd : d < 16) :
    Nat.digitChar d ∈ "0123456789abcdef".toList := by
  have all : ∀ d : Fin 16, Nat.digitChar d ∈ "0123456789abcdef".toList := by decide
  exact all ⟨d, hd⟩

theorem digitChar_ne_underscore {d : Nat} (hd : d < 16) : Nat.digitChar d ≠ '_' := by
  have all : ∀ d : Fin 16, Nat.digitChar d ≠ '_' := by decide
  exact all ⟨d, hd⟩

theorem digitValue?_digitChar {d : Nat} (hd : d < 16) :
    digitValue? 16 (Nat.digitChar d) = some d := by
  rw [digitValue?, hexValue?_digitChar hd, Option.some_or, Option.filter_some,
    if_pos (decide_eq_true hd)]

theorem digitRun_digits : ∀ {ds : List Nat}, (∀ d ∈ ds, d < 16) →
    digitRun 16 false (ds.map Nat.digitChar) = some (ds, [])
  | [], _ => rfl
  | d :: ds, small => by
      have hd := small d List.mem_cons_self
      have ih := digitRun_digits fun e he => small e (List.mem_cons_of_mem d he)
      rw [List.map_cons, digitRun, if_neg (digitChar_ne_underscore hd),
        digitValue?_digitChar hd, ih]
      rfl

/-- A text of digits behind the mark of base 16 reads back as its number. -/
theorem readInteger_marked {ds : List Nat} (nonempty : ds ≠ []) (small : ∀ d ∈ ds, d < 16) :
    readInteger 16 ("0x" ++ String.ofList (ds.map Nat.digitChar)) = .ok (ofDigits 16 ds) := by
  obtain ⟨d, ds, rfl⟩ := List.exists_cons_of_ne_nil nonempty
  have hd := small d List.mem_cons_self
  have unmarked : dropBaseMark 16 ('0' :: 'x' :: (d :: ds).map Nat.digitChar) =
      (d :: ds).map Nat.digitChar := by
    rw [List.map_cons, dropBaseMark, if_pos ⟨rfl, Or.inl rfl⟩]
    exact fun digits eq => digitChar_ne_underscore hd (List.cons.inj eq).1
  have run : digitRun 16 true ((d :: ds).map Nat.digitChar) = some (d :: ds, []) := by
    rw [List.map_cons, digitRun, if_neg (digitChar_ne_underscore hd), digitValue?_digitChar hd,
      digitRun_digits fun e he => small e (List.mem_cons_of_mem d he)]
    rfl
  have unsigned : splitSign (('0' :: 'x' :: (d :: ds).map Nat.digitChar).dropWhile isMargin) =
      (false, '0' :: 'x' :: (d :: ds).map Nat.digitChar) := rfl
  rw [readInteger, toList_marked, unsigned]
  simp only [unmarked, run]
  rfl

end Number

end SelectorRouter
