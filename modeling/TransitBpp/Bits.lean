import Mathlib.Algebra.Order.Ring.Nat
import Mathlib.Data.List.Basic
import Mathlib.Tactic.Common

/-!
# Bits in a machine word

A loop that moves bits from one block size to another keeps those it has not written yet at the low
end of a word, and shifts the next block in below them. `low` is these bits. What was shifted past
them stays in the word and is never read, so the word may overflow.
-/

namespace Bits

variable {w : ℕ}

/-- The low `n` bits of a word, the highest first. -/
def low (x : BitVec w) : ℕ → List Bool
  | 0 => []
  | n + 1 => x.getLsbD n :: low x n

@[simp] theorem length_low (x : BitVec w) (n : ℕ) : (low x n).length = n := by
  induction n with
  | zero => rfl
  | succ n ih => simp [low, ih]

theorem low_congr {v : ℕ} {x : BitVec w} {y : BitVec v} {n : ℕ}
    (h : ∀ i < n, x.getLsbD i = y.getLsbD i) : low x n = low y n := by
  induction n with
  | zero => rfl
  | succ n ih => rw [low, low, h n (Nat.lt_succ_self n), ih fun i hi => h i (Nat.lt_succ_of_lt hi)]

theorem getLsbD_of_low {v : ℕ} {x : BitVec w} {y : BitVec v} {n : ℕ} (h : low x n = low y n) :
    ∀ i < n, x.getLsbD i = y.getLsbD i := by
  induction n with
  | zero => intro i hi; cases hi
  | succ n ih =>
    obtain ⟨hhead, htail⟩ := List.cons.inj h
    intro i hi
    rcases Nat.lt_succ_iff_lt_or_eq.mp hi with hlt | rfl
    · exact ih htail i hlt
    · exact hhead

/-- A block is read off the high end of the bits. -/
theorem low_add (x : BitVec w) (m n : ℕ) : low x (m + n) = low (x >>> n) m ++ low x n := by
  induction m with
  | zero => rw [Nat.zero_add]; rfl
  | succ m ih =>
    rw [Nat.succ_add, low, low, ih, BitVec.getLsbD_ushiftRight, List.cons_append, Nat.add_comm n m]

/-- A block is shifted in below the bits, as long as they fit the word together. -/
theorem low_shift_or {x y : BitVec w} {n k : ℕ} (hfits : n + k ≤ w)
    (hy : ∀ i, k ≤ i → y.getLsbD i = false) :
    low (x <<< k ||| y) (n + k) = low x n ++ low y k := by
  rw [low_add]
  congr 1
  · apply low_congr
    intro i hi
    have hlt : k + i < w := by omega
    have hle : ¬ k + i < k := by omega
    rw [BitVec.getLsbD_ushiftRight, BitVec.getLsbD_or, BitVec.getLsbD_shiftLeft,
      hy _ (Nat.le_add_right k i), Nat.add_sub_cancel_left]
    simp only [hlt, hle, decide_true, decide_false, Bool.not_false, Bool.true_and, Bool.or_false]
  · apply low_congr
    intro i hi
    simp [BitVec.getLsbD_or, BitVec.getLsbD_shiftLeft, hi]

/-- Zeros are shifted in below the bits. -/
theorem low_shift {x : BitVec w} {n k : ℕ} (hfits : n + k ≤ w) :
    low (x <<< k) (n + k) = low x n ++ List.replicate k false := by
  have hzero : ∀ k, low (0#w) k = List.replicate k false := by
    intro k
    induction k with
    | zero => rfl
    | succ k ih => rw [low, ih, List.replicate_succ, BitVec.getLsbD_zero]
  rw [← hzero, ← low_shift_or hfits fun i _ => BitVec.getLsbD_zero, BitVec.or_zero]

/-- The bits are those of the number modulo a power of two. -/
theorem low_inj {v : ℕ} {x : BitVec w} {y : BitVec v} {n : ℕ} (h : low x n = low y n) :
    x.toNat % 2 ^ n = y.toNat % 2 ^ n := by
  apply Nat.eq_of_testBit_eq
  intro i
  rw [Nat.testBit_mod_two_pow, Nat.testBit_mod_two_pow]
  by_cases hi : i < n
  · have hbit := getLsbD_of_low h i hi
    simpa [hi, BitVec.testBit_toNat] using hbit
  · simp [hi]

/-- Blocks of one size are known from their bits and what is too short for a block. -/
theorem flatMap_append_inj {α β : Type} {f : α → List β} {k : ℕ} (hf : ∀ a, (f a).length = k) :
    ∀ {xs ys : List α} {r r' : List β}, xs.flatMap f ++ r = ys.flatMap f ++ r' → r.length < k →
      r'.length < k → xs.map f = ys.map f := by
  intro xs
  induction xs with
  | nil =>
    intro ys r r' h hr hr'
    cases ys with
    | nil => rfl
    | cons y ys =>
      have hlen := congrArg List.length h
      simp only [List.flatMap_nil, List.nil_append, List.flatMap_cons, List.length_append, hf] at hlen
      omega
  | cons x xs ih =>
    intro ys r r' h hr hr'
    cases ys with
    | nil =>
      have hlen := congrArg List.length h
      simp only [List.flatMap_nil, List.nil_append, List.flatMap_cons, List.length_append, hf] at hlen
      omega
    | cons y ys =>
      rw [List.flatMap_cons, List.flatMap_cons, List.append_assoc, List.append_assoc] at h
      obtain ⟨hhead, htail⟩ := List.append_inj h ((hf x).trans (hf y).symm)
      rw [List.map_cons, List.map_cons, hhead, ih htail hr hr']

end Bits
