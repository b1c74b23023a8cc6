import FittingSchlongs.Foundation.X64.Machine
import Mathlib.Data.BitVec

/-! # Words saved below a stack pointer

Addresses are counted down from the stack pointer on entry. A frame keeps its saved words and
everything outside it when a word is saved in free bytes, and when a callee works further down.
-/

namespace FittingSchlongs.Foundation.X64
open ByteMemory

/-! ## Addresses below the entry stack pointer -/

def below (top : Word) (o : ℕ) : Word := top - BitVec.ofNat 64 o

variable {top : Word}

@[simp] theorem below_zero : below top 0 = top := by
  simp [below]

theorem below_sub (o k : ℕ) : below top o - BitVec.ofNat 64 k = below top (o + k) := by
  rw [below, below, BitVec.ofNat_add]
  ring

theorem below_add {o k : ℕ} (h : k ≤ o) :
    below top o + BitVec.ofNat 64 k = below top (o - k) := by
  obtain ⟨i, rfl⟩ := Nat.exists_eq_add_of_le' h
  rw [← below_sub, Nat.add_sub_cancel]
  ring

theorem below_distance (top : Word) {i j : ℕ} (hij : i ≤ j) (hj : j < 2 ^ 64) :
    (below top i - below top j).toNat = j - i := by
  obtain ⟨k, rfl⟩ := Nat.exists_eq_add_of_le hij
  have hsplit : below top i - below top (i + k) = BitVec.ofNat 64 k := by
    rw [← below_sub]
    ring
  rw [hsplit, BitVec.toNat_ofNat, Nat.mod_eq_of_lt (by omega)]
  omega

theorem below_ne {i j : ℕ} (hij : i < j) (hj : j < 2 ^ 64) : below top i ≠ below top j := by
  intro heq
  have hd := below_distance top hij.le hj
  rw [heq, BitVec.sub_self] at hd
  simp at hd
  omega

theorem below_disjoint {o o' n k : ℕ} (hk : o + k ≤ o') (hn : o' + n ≤ o + 2 ^ 64)
    (ho' : o' < 2 ^ 64) {a : Word} (h : InRange (below top o) n a) :
    ¬ InRange (below top o') k a := by
  intro h'
  have hupper := below_distance top (show o ≤ o' by omega) ho'
  simp only [InRange] at h h'
  have hsplit : a - below top o = (a - below top o') - (below top o - below top o') := by ring
  by_cases hle : (below top o - below top o').toNat ≤ (a - below top o').toNat
  · omega
  · rw [hsplit, BitVec.toNat_sub] at h
    have hlt := (a - below top o').isLt
    omega

theorem Aligned.below (h : Aligned top) {d : ℕ} (hd : d % 16 = 0) : Aligned (below top d) := by
  simp only [Aligned] at *
  rw [X64.below, BitVec.toNat_sub, BitVec.toNat_ofNat]
  omega

/-! ## What a frame leaves alone -/

/-- The bytes that code with frames of `size` bytes and callees with `stack` bytes may change:
down from the entry stack pointer, and the 32 bytes its caller left it. -/
def Owned (top : Word) (size stack : ℕ) (a : Word) : Prop :=
  InRange (below top (size + stack)) (size + stack + 0x20) a

variable {size stack : ℕ}

theorem owned_of_inRange {o n : ℕ} {a : Word} (ho : o ≤ size + stack) (hn : n ≤ o + 0x20)
    (hroom : size + stack + 0x20 ≤ 2 ^ 64) (h : InRange (below top o) n a) :
    Owned top size stack a := by
  have hstart : below top o = below top (size + stack) + BitVec.ofNat 64 (size + stack - o) := by
    rw [below_add (by omega)]
    congr 1
    omega
  rw [hstart] at h
  have hlong := inRange_of_inRange_offset (by omega) h
  simp only [Owned, InRange] at *
  omega

theorem Owned.cases {a : Word} (hroom : size + stack + 0x20 ≤ 2 ^ 64) (h : Owned top size stack a) :
    InRange (below top (size + stack)) (size + stack) a ∨ InRange top 0x20 a := by
  simp only [Owned, InRange] at *
  by_cases hstack : (a - below top (size + stack)).toNat < size + stack
  · exact Or.inl hstack
  · right
    have htop : a - top = (a - below top (size + stack)) - BitVec.ofNat 64 (size + stack) := by
      rw [below]
      ring
    rw [htop, BitVec.toNat_sub_of_le, BitVec.toNat_ofNat, Nat.mod_eq_of_lt (by omega)]
    · omega
    · rw [BitVec.le_def, BitVec.toNat_ofNat, Nat.mod_eq_of_lt (by omega)]
      omega

/-- The slots hold their words, and everything outside the owned bytes is as on entry. -/
structure Keeps (entry : Machine) (size stack : ℕ) (slots : List (ℕ × Word)) (m : Memory 64) :
    Prop where
  bounds : ∀ s ∈ slots, 8 ≤ s.1 ∧ s.1 ≤ size
  held : ∀ s ∈ slots, BitVec.ofNat 64 (load m (below entry.rsp s.1) 8) = s.2
  outside : ∀ a, ¬ Owned entry.rsp size stack a → m a = entry.memory a

/-- No slot overlaps the eight bytes at the offset. -/
def Free (slots : List (ℕ × Word)) (o : ℕ) : Prop := ∀ s ∈ slots, s.1 + 8 ≤ o ∨ o + 8 ≤ s.1

instance (slots : List (ℕ × Word)) (o : ℕ) : Decidable (Free slots o) :=
  inferInstanceAs (Decidable (∀ s ∈ slots, _))

variable {entry : Machine} {slots : List (ℕ × Word)} {m : Memory 64}

theorem Keeps.congr {m' : Memory 64} (h : Keeps entry size stack slots m)
    (hslots : ∀ s ∈ slots, ∀ a, InRange (below entry.rsp s.1) 8 a → m' a = m a)
    (houtside : ∀ a, ¬ Owned entry.rsp size stack a → m' a = m a) :
    Keeps entry size stack slots m' := by
  constructor
  · exact h.bounds
  · intro s hs
    rw [load_congr (by norm_num) (hslots s hs)]
    exact h.held s hs
  · intro a ha
    rw [houtside a ha]
    exact h.outside a ha

theorem Keeps.filter (h : Keeps entry size stack slots m) (p : ℕ × Word → Bool) :
    Keeps entry size stack (slots.filter p) m := by
  constructor
  · exact fun s hs => h.bounds s (List.mem_of_mem_filter hs)
  · exact fun s hs => h.held s (List.mem_of_mem_filter hs)
  · exact h.outside

theorem Keeps.save (h : Keeps entry size stack slots m) {o : ℕ} (v : Word) (ho : 8 ≤ o)
    (hsize : o ≤ size) (hfree : Free slots o) (hroom : size + stack + 0x20 ≤ 2 ^ 64) :
    Keeps entry size stack ((o, v) :: slots) (store m (below entry.rsp o) 8 v.toNat) := by
  have hrest : Keeps entry size stack slots (store m (below entry.rsp o) 8 v.toNat) := by
    apply h.congr
    · intro s hs a ha
      apply store_outside
      have hs' := h.bounds s hs
      rcases hfree s hs with hlow | hhigh
      · exact below_disjoint hlow (by omega) (by omega) ha
      · intro ho'
        exact below_disjoint hhigh (by omega) (by omega) ho' ha
    · intro a ha
      exact store_outside _ _ fun hin => ha (owned_of_inRange (by omega) (by omega) hroom hin)
  constructor
  · intro s hs
    rcases List.mem_cons.mp hs with rfl | hs
    · exact ⟨ho, hsize⟩
    · exact h.bounds s hs
  · intro s hs
    rcases List.mem_cons.mp hs with rfl | hs
    · have hv : v.toNat < 256 ^ 8 := lt_of_lt_of_eq v.isLt (by norm_num)
      rw [load_store _ _ _ (le_refl 8) (by norm_num), Nat.mod_eq_of_lt hv]
      simp
    · exact hrest.held s hs
  · exact hrest.outside

theorem Keeps.clobber (h : Keeps entry size stack slots m) {m' : Memory 64} {depth : ℕ}
    (hdepth : depth ≤ size) (habove : ∀ s ∈ slots, s.1 + 0x20 ≤ depth)
    (hroom : size + stack + 0x20 ≤ 2 ^ 64)
    (hcallee : ∀ a, ¬ InRange (below entry.rsp depth - BitVec.ofNat 64 stack) (stack + 0x20) a →
      m' a = m a) : Keeps entry size stack slots m' := by
  rw [below_sub] at hcallee
  apply h.congr
  · intro s hs a ha
    apply hcallee
    have hs' := h.bounds s hs
    have hs'' := habove s hs
    exact below_disjoint (by omega) (by omega) (by omega) ha
  · intro a ha
    exact hcallee a fun hin => ha (owned_of_inRange (by omega) (by omega) hroom hin)

end FittingSchlongs.Foundation.X64
