import Mathlib.Data.BitVec
import Mathlib.Tactic

/-! # Byte-addressed memory with wrapping addresses

Little-endian loads and stores of a number of bytes. A range of addresses is an arc of
the address circle, given by the distance from its start.
-/

namespace FittingSchlongs.Foundation.ByteMemory

variable {w : ℕ}

abbrev Memory (w : ℕ) := BitVec w → BitVec 8

/-- The address lies in the `n` addresses from `a` on. -/
def InRange (a : BitVec w) (n : ℕ) (x : BitVec w) : Prop := (x - a).toNat < n

instance (a : BitVec w) (n : ℕ) (x : BitVec w) : Decidable (InRange a n x) :=
  inferInstanceAs (Decidable ((x - a).toNat < n))

/-- The little-endian value of `n` bytes. -/
def load (m : Memory w) (a : BitVec w) : ℕ → ℕ
  | 0 => 0
  | n + 1 => load m a n + 256 ^ n * (m (a + BitVec.ofNat w n)).toNat

/-- Write the `n` low bytes of a value. -/
def store (m : Memory w) (a : BitVec w) (n v : ℕ) : Memory w :=
  fun x => if InRange a n x then BitVec.ofNat 8 (v / 256 ^ (x - a).toNat) else m x

theorem store_outside (m : Memory w) {a : BitVec w} {n : ℕ} (v : ℕ) {x : BitVec w}
    (h : ¬ InRange a n x) : store m a n v x = m x :=
  if_neg h

theorem offset_toNat (a : BitVec w) {i : ℕ} (h : i < 2 ^ w) :
    (a + BitVec.ofNat w i - a).toNat = i := by
  have hcancel : a + BitVec.ofNat w i - a = BitVec.ofNat w i := by
    rw [BitVec.add_comm, BitVec.add_sub_cancel]
  rw [hcancel, BitVec.toNat_ofNat, Nat.mod_eq_of_lt h]

theorem inRange_offset (a : BitVec w) {n i : ℕ} (hi : i < n) (hn : n ≤ 2 ^ w) :
    InRange a n (a + BitVec.ofNat w i) := by
  rw [InRange, offset_toNat a (by omega)]
  exact hi

theorem inRange_of_inRange_offset {a : BitVec w} {k n : ℕ} {x : BitVec w} (hkn : k + n ≤ 2 ^ w)
    (h : InRange (a + BitVec.ofNat w k) n x) : InRange a (k + n) x := by
  simp only [InRange] at h ⊢
  have hsplit : x - a = x - (a + BitVec.ofNat w k) + BitVec.ofNat w k := by ring
  rw [hsplit, BitVec.toNat_add, BitVec.toNat_ofNat]
  have hk : k % 2 ^ w = k := Nat.mod_eq_of_lt (by omega)
  rw [hk, Nat.mod_eq_of_lt (by omega)]
  omega

theorem not_inRange_of_distance {a b x : BitVec w} {n k : ℕ} (hn : n ≤ (b - a).toNat)
    (hk : k ≤ (a - b).toNat) (hx : InRange a n x) : ¬ InRange b k x := by
  intro hy
  simp only [InRange] at hx hy
  rcases Nat.le_total (x - b).toNat (x - a).toNat with hle | hle
  · have hsplit : b - a = (x - a) - (x - b) := by ring
    rw [hsplit, BitVec.toNat_sub_of_le hle] at hn
    omega
  · have hsplit : a - b = (x - b) - (x - a) := by ring
    rw [hsplit, BitVec.toNat_sub_of_le hle] at hk
    omega

/-- A load reads the addresses of its range and no other. -/
theorem load_congr {m m' : Memory w} {a : BitVec w} {n : ℕ} (hn : n ≤ 2 ^ w)
    (h : ∀ x, InRange a n x → m x = m' x) : load m a n = load m' a n := by
  induction n with
  | zero => rfl
  | succ n ih =>
    have hinit : load m a n = load m' a n := by
      apply ih (by omega)
      intro x hx
      apply h
      simp only [InRange] at hx ⊢
      omega
    rw [load, load, hinit, h _ (inRange_offset a (Nat.lt_succ_self n) hn)]

theorem load_store (m : Memory w) (a : BitVec w) {n : ℕ} (v : ℕ) {k : ℕ} (hk : k ≤ n)
    (hn : n ≤ 2 ^ w) : load (store m a n v) a k = v % 256 ^ k := by
  induction k with
  | zero => simp [load, Nat.mod_one]
  | succ k ih =>
    have hbyte : (store m a n v (a + BitVec.ofNat w k)).toNat = v / 256 ^ k % 256 := by
      rw [store, if_pos (inRange_offset a (by omega) hn), offset_toNat a (by omega),
        BitVec.toNat_ofNat]
    rw [load, ih (by omega), hbyte, Nat.mod_pow_succ]

end FittingSchlongs.Foundation.ByteMemory
