import Mathlib.Data.List.GetD
import Mathlib.Data.Nat.Digits.Lemmas
import SelectorRouter.Proofs.Number.Digits

/-!
# Method ids by arithmetic

The state of the sponge as one number that holds the lanes side by side, the first lane in its
lowest 64 bits. Each step of the permutation does to the number what it does to the lanes, so
the method id of a signature that fits into one block comes out of the arithmetic of natural
numbers.
-/

namespace SelectorRouter

namespace Keccak

/-! ## Lanes in a number -/

def lane (a i : Nat) : Nat :=
  a / 2 ^ (64 * i) % 2 ^ 64

def pack : List Nat → Nat
  | [] => 0
  | x :: rest => x + 2 ^ 64 * pack rest

/-- The number with the lanes that a function gives for the first indices. -/
def packed (n : Nat) (f : Nat → Nat) : Nat :=
  pack ((List.range n).map f)

/-- A number holds the lanes of a state. -/
def Holds {n : Nat} (a : Nat) (s : Vector UInt64 n) : Prop :=
  ∀ i (h : i < n), lane a i = s[i].toNat

theorem lane_pack : ∀ {xs : List Nat}, (∀ x ∈ xs, x < 2 ^ 64) → ∀ {i : Nat} (h : i < xs.length),
    lane (pack xs) i = xs[i]
  | x :: xs, small, 0, _ => by
      have first := small x List.mem_cons_self
      rw [lane, pack, Nat.mul_zero, Nat.pow_zero, Nat.div_one, Nat.add_mul_mod_self_left,
        Nat.mod_eq_of_lt first, List.getElem_cons_zero]
  | x :: xs, small, i + 1, h => by
      have first := small x List.mem_cons_self
      have ih := lane_pack (fun y hy => small y (List.mem_cons_of_mem x hy))
        (Nat.lt_of_succ_lt_succ h)
      rw [List.getElem_cons_succ, ← ih, lane, lane, pack, Nat.mul_succ, Nat.add_comm (64 * i),
        Nat.pow_add, ← Nat.div_div_eq_div_mul, Nat.add_mul_div_left _ _ (Nat.two_pow_pos 64),
        Nat.div_eq_of_lt first, Nat.zero_add]

theorem holds_packed {n : Nat} {f : Nat → Nat} {g : Fin n → UInt64}
    (same : ∀ i : Fin n, f i = (g i).toNat) : Holds (packed n f) (Vector.ofFn g) := by
  intro i h
  have small : ∀ x ∈ (List.range n).map f, x < 2 ^ 64 := by
    refine List.forall_mem_map.mpr fun j hj => ?_
    rw [same ⟨j, List.mem_range.mp hj⟩]
    exact UInt64.toNat_lt _
  rw [packed, lane_pack small (by rwa [List.length_map, List.length_range]), List.getElem_map,
    List.getElem_range, Vector.getElem_ofFn]
  exact same ⟨i, h⟩

theorem lane_xor (a b i : Nat) : lane (a ^^^ b) i = lane a i ^^^ lane b i := by
  rw [lane, Nat.xor_div_two_pow, Nat.xor_mod_two_pow]
  rfl

theorem lane_zero_of_lt {a : Nat} (h : a < 2 ^ 64) : lane a 0 = a := by
  rw [lane, Nat.mul_zero, Nat.pow_zero, Nat.div_one, Nat.mod_eq_of_lt h]

theorem lane_succ_of_lt {a : Nat} (h : a < 2 ^ 64) (i : Nat) : lane a (i + 1) = 0 := by
  have above : 2 ^ 64 ≤ 2 ^ (64 * (i + 1)) := Nat.pow_le_pow_right (by decide) (by omega)
  rw [lane, Nat.div_eq_of_lt (Nat.lt_of_lt_of_le h above), Nat.zero_mod]

/-! ## The permutation -/

namespace Packed

def rotate (x n : Nat) : Nat :=
  (x <<< n ||| x >>> (64 - n)) % 2 ^ 64

def parity (a : Nat) : Nat :=
  packed 5 fun x =>
    lane a x ^^^ lane a (x + 5) ^^^ lane a (x + 10) ^^^ lane a (x + 15) ^^^ lane a (x + 20)

def effect (parity : Nat) : Nat :=
  packed 5 fun x => lane parity ((x + 4) % 5) ^^^ rotate (lane parity ((x + 1) % 5)) 1

def theta (a : Nat) : Nat :=
  packed 25 fun i => lane a i ^^^ lane (effect (parity a)) (i % 5)

def rhoPi (a : Nat) : Nat :=
  packed 25 fun i =>
    let source := (i % 5 + 3 * (i / 5)) % 5 + 5 * (i % 5)
    rotate (lane a source) (rotations.toList.getD source 0)

def chi (a : Nat) : Nat :=
  packed 25 fun i =>
    lane a i ^^^ (2 ^ 64 - 1 - lane a (5 * (i / 5) + (i + 1) % 5) &&&
      lane a (5 * (i / 5) + (i + 2) % 5))

def round (a : Nat) (constant : UInt64) : Nat :=
  chi (rhoPi (theta a)) ^^^ constant.toNat

def permute (a : Nat) : Nat :=
  roundConstants.foldl round a

end Packed

variable {a : Nat} {s : State}

theorem toNat_rotate (x : UInt64) {n : Nat} (h : n < 64) :
    (rotate x n).toNat = Packed.rotate x.toNat n := by
  have small : x.toNat >>> (64 - n) < 2 ^ 64 :=
    Nat.lt_of_le_of_lt (Nat.shiftRight_le _ _) x.toNat_lt
  rw [Packed.rotate, Nat.or_mod_two_pow, Nat.mod_eq_of_lt small, rotate]
  split
  · next zero =>
      subst zero
      have none : x.toNat >>> 64 = 0 := Nat.shiftRight_eq_zero _ _ x.toNat_lt
      rw [Nat.shiftLeft_zero, Nat.sub_zero, none, Nat.or_zero, Nat.mod_eq_of_lt x.toNat_lt]
  · next some =>
      have left : (UInt64.ofNat n).toNat % 64 = n := by
        rw [UInt64.toNat_ofNat']
        omega
      have right : (UInt64.ofNat (64 - n)).toNat % 64 = 64 - n := by
        rw [UInt64.toNat_ofNat']
        omega
      rw [UInt64.toNat_or, UInt64.toNat_shiftLeft, UInt64.toNat_shiftRight, left, right]

theorem holds_theta (h : Holds a s) : Holds (Packed.theta a) (theta s) := by
  have parity : Holds (Packed.parity a) (Vector.ofFn fun x : Fin 5 =>
      s[x.val] ^^^ s[x.val + 5] ^^^ s[x.val + 10] ^^^ s[x.val + 15] ^^^ s[x.val + 20]) :=
    holds_packed fun x => by simp only [UInt64.toNat_xor, ← h _ _]
  have effect := holds_packed (n := 5) (f := fun x => lane (Packed.parity a) ((x + 4) % 5) ^^^
      Packed.rotate (lane (Packed.parity a) ((x + 1) % 5)) 1) fun x => by
    rw [parity _ (by omega), parity _ (by omega), ← toNat_rotate _ (by omega),
      ← UInt64.toNat_xor]
  exact holds_packed fun i => by
    rw [h i i.isLt, Packed.effect, effect _ (by omega), ← UInt64.toNat_xor]
    rfl

theorem rotations_lt : ∀ i (h : i < 25), rotations[i] < 64 := by
  decide

theorem holds_rhoPi (h : Holds a s) : Holds (Packed.rhoPi a) (rhoPi s) :=
  holds_packed fun i => by
    have source : (i.val % 5 + 3 * (i.val / 5)) % 5 + 5 * (i.val % 5) < 25 := by omega
    have offset : rotations.toList.getD ((i.val % 5 + 3 * (i.val / 5)) % 5 + 5 * (i.val % 5)) 0 =
        rotations[(i.val % 5 + 3 * (i.val / 5)) % 5 + 5 * (i.val % 5)] := by
      rw [List.getD_eq_getElem _ _ (by simpa using source), Vector.getElem_toList]
    simp only [offset, h _ source]
    exact (toNat_rotate _ (rotations_lt _ source)).symm

theorem holds_chi (h : Holds a s) : Holds (Packed.chi a) (chi s) :=
  holds_packed fun i => by
    rw [h i i.isLt, h _ (by omega), h _ (by omega), UInt64.toNat_xor, UInt64.toNat_and,
      UInt64.toNat_not]
    rfl

theorem holds_round (h : Holds a s) (constant : UInt64) :
    Holds (Packed.round a constant) (round s constant) := by
  have before := holds_chi (holds_rhoPi (holds_theta h))
  intro i hi
  rw [Packed.round, lane_xor, before i hi]
  simp only [round, Vector.getElem_set]
  split
  · next first =>
      subst first
      rw [lane_zero_of_lt constant.toNat_lt, UInt64.toNat_xor]
  · next other =>
      obtain ⟨j, rfl⟩ := Nat.exists_eq_succ_of_ne_zero (Ne.symm other)
      rw [lane_succ_of_lt constant.toNat_lt, Nat.xor_zero]

theorem holds_permute (h : Holds a s) : Holds (Packed.permute a) (permute s) := by
  unfold Packed.permute permute
  generalize roundConstants = constants
  induction constants generalizing a s with
  | nil => exact h
  | cons constant rest ih =>
      rw [List.foldl_cons, List.foldl_cons]
      exact ih (holds_round h constant)

/-! ## One block -/

/-- The number that bytes stand for, the least significant byte first. -/
def numberOf (bytes : List UInt8) : Nat :=
  bytes.foldr (fun b rest => b.toNat + 256 * rest) 0

theorem numberOf_eq (bytes : List UInt8) :
    numberOf bytes = Nat.ofDigits 256 (bytes.map UInt8.toNat) := by
  rw [Nat.ofDigits_eq_foldr, List.foldr_map, numberOf]
  rfl

/-- Eight bytes of a number are one of its lanes. -/
theorem lane_numberOf (bytes : List UInt8) (i : Nat) :
    lane (numberOf bytes) i = numberOf ((bytes.drop (8 * i)).take 8) := by
  have place : 2 ^ (64 * i) = 256 ^ (8 * i) := by
    rw [show 256 = 2 ^ 8 by rfl, ← Nat.pow_mul, ← Nat.mul_assoc]
  have width : 2 ^ 64 = 256 ^ 8 := by rfl
  rw [lane, numberOf_eq, numberOf_eq, place, width,
    Nat.ofDigits_div_pow_eq_ofDigits_drop _ (by decide) _ (Number.byte_lt bytes), ← List.map_drop,
    Nat.ofDigits_mod_pow_eq_ofDigits_take _ (by decide) _ (Number.byte_lt _), ← List.map_take]

theorem numberOf_lt (bytes : List UInt8) : numberOf bytes < 256 ^ bytes.length := by
  have bound := Nat.ofDigits_lt_base_pow_length (by decide) (Number.byte_lt bytes)
  rwa [← numberOf_eq, List.length_map] at bound

theorem toNat_laneOf : ∀ {bytes : List UInt8}, bytes.length ≤ 8 →
    (laneOf bytes).toNat = numberOf bytes
  | [], _ => rfl
  | b :: bytes, short => by
      have fits : bytes.length ≤ 7 := Nat.le_of_succ_le_succ short
      have rest : numberOf bytes <<< 8 < 2 ^ 64 := by
        have bound := Nat.lt_of_lt_of_le (numberOf_lt bytes) (Nat.pow_le_pow_right (by decide) fits)
        rw [Nat.shiftLeft_eq]
        omega
      have shift : (8 : UInt64).toNat % 64 = 8 := rfl
      rw [laneOf, List.foldr_cons, ← laneOf, UInt64.toNat_or, UInt64.toNat_shiftLeft, shift,
        toNat_laneOf (Nat.le_succ_of_le fits), Nat.mod_eq_of_lt rest, UInt8.toNat_toUInt64,
        ← Nat.shiftLeft_add_eq_or_of_lt b.toNat_lt, Nat.shiftLeft_eq, Nat.add_comm, Nat.mul_comm]
      rfl

/-- A message of less than one block fills one block when it is padded. -/
theorem length_pad {message : List UInt8} (short : message.length < rate) :
    (pad message).length = rate := by
  unfold pad
  rw [Nat.mod_eq_of_lt short]
  split
  · next none =>
      rw [List.length_append, List.length_singleton]
      omega
  · next n some =>
      simp only [List.length_append, List.length_cons, List.length_replicate, List.length_nil]
      omega

theorem holds_addBlock (block : List UInt8) :
    Holds (numberOf block) (addBlock (Vector.replicate 25 0) block) := by
  intro i h
  have short : ((block.drop (8 * i)).take 8).length ≤ 8 := List.length_take_le _ _
  rw [lane_numberOf, ← toNat_laneOf short, addBlock, Vector.getElem_ofFn]
  simp only [Fin.getElem_fin, Vector.getElem_replicate, UInt64.zero_xor]

/-- One block is taken up by one permutation. -/
theorem absorb_pad {message : List UInt8} (short : message.length < rate) (s : State) :
    absorb s (pad message) = permute (addBlock s (pad message)) := by
  have length := length_pad short
  have nonempty : pad message ≠ [] := by
    intro empty
    rw [empty] at length
    cases length
  rw [absorb, dif_neg nonempty, List.take_of_length_le (Nat.le_of_eq length),
    List.drop_of_length_le (Nat.le_of_eq length), absorb, dif_pos rfl]

end Keccak

/-! ## Method ids -/

/-- The number of the four lowest bytes of a lane, the lowest as the most significant one. -/
def FourBytes.ofLane (n : Nat) : Nat :=
  ((n % 256 * 256 + n / 2 ^ 8 % 256) * 256 + n / 2 ^ 16 % 256) * 256 + n / 2 ^ 24 % 256

theorem toNat_laneByte (x : UInt64) {k : Nat} (h : k < 64) :
    (x >>> UInt64.ofNat k).toUInt8.toNat = x.toNat / 2 ^ k % 256 := by
  have shift : (UInt64.ofNat k).toNat % 64 = k := by
    rw [UInt64.toNat_ofNat']
    omega
  rw [UInt64.toNat_toUInt8, UInt64.toNat_shiftRight, shift, Nat.shiftRight_eq_div_pow]

theorem FourBytes.toNat_laneBytes (x : UInt64) (rest : List UInt8) :
    toNat ((Keccak.laneBytes x ++ rest).take 4) = ofLane x.toNat := by
  have bytes : (Keccak.laneBytes x ++ rest).take 4 =
      [0, 8, 16, 24].map fun k => (x >>> UInt64.ofNat k).toUInt8 := rfl
  rw [bytes]
  simp only [List.map_cons, List.map_nil, toNat, ofLane]
  rw [toNat_laneByte x (by decide), toNat_laneByte x (by decide), toNat_laneByte x (by decide),
    toNat_laneByte x (by decide), Nat.pow_zero, Nat.div_one]

/-- The method id of a signature that fits into one block, by arithmetic. -/
def Keccak.packedMethodId (signature : String) : Nat :=
  FourBytes.ofLane (lane (Packed.permute (numberOf (pad (Text.utf8 signature)))) 0)

/-- **The method id of a short signature** comes out of the permutation of one number. -/
theorem methodId_eq {signature : String} (short : (Text.utf8 signature).length < Keccak.rate) :
    methodId signature = Keccak.packedMethodId signature := by
  have holds := Keccak.holds_permute (Keccak.holds_addBlock (Keccak.pad (Text.utf8 signature)))
  rw [methodId, methodIdBytes, Keccak.digest, Keccak.absorb_pad short, Keccak.packedMethodId,
    holds 0 (by decide)]
  simp only [List.append_assoc]
  exact FourBytes.toNat_laneBytes _ _

/-- The selector of the transfers of all tokens. -/
example : methodId "transfer(address,uint256)" = 0xa9059cbb :=
  (methodId_eq (by decide)).trans (by decide +kernel)

end SelectorRouter
