import Mathlib.Data.List.Nodup
import Mathlib.Data.List.Perm.Basic
import Mathlib.Data.List.ReduceOption
import Mathlib.Tactic

/-! # Loops that update a store and arrays of optional entries

A loop along a duplicate-free list that rewrites one cell at a time leaves every
listed cell rewritten once. In a duplicate-free array, erasing entries one after
another is filtering, and appending absent entries adds exactly those.
-/

namespace FittingSchlongs.Foundation.ListUpdates

/-! ## In-place loops -/

section Loop

variable {ι β : Type*} [DecidableEq ι]

/-- Rewrite the cells a list of optional indices names, in the order of the list. -/
def rewriteCells (f : β → β) (indices : List (Option ι)) (cells : ι → β) : ι → β :=
  indices.foldl
    (fun cells index =>
      match index with
      | none => cells
      | some i => Function.update cells i (f (cells i)))
    cells

theorem rewriteCells_apply (f : β → β) {indices : List (Option ι)}
    (hnodup : indices.reduceOption.Nodup) (cells : ι → β) (i : ι) :
    rewriteCells f indices cells i = if some i ∈ indices then f (cells i) else cells i := by
  induction indices generalizing cells with
  | nil => rfl
  | cons index indices ih =>
    cases index with
    | none =>
      rw [List.reduceOption_cons_of_none] at hnodup
      change rewriteCells f indices cells i = _
      simp [ih hnodup]
    | some j =>
      rw [List.reduceOption_cons_of_some, List.nodup_cons, List.reduceOption_mem_iff] at hnodup
      change rewriteCells f indices (Function.update cells j (f (cells j))) i = _
      rw [ih hnodup.2]
      by_cases hij : i = j
      · subst hij
        simp [hnodup.1]
      · simp [hij]

end Loop

/-! ## Arrays of optional entries -/

section Entries

variable {κ : Type*} [DecidableEq κ]

def without (os xs : List (Option κ)) : List (Option κ) :=
  xs.filter (fun x => !(x.isSome && os.contains x))

def eraseEntry (xs : List (Option κ)) (o : Option κ) : List (Option κ) :=
  match o with
  | none => xs
  | some k => if xs.contains (some k) then xs.erase (some k) else xs

def appendEntry (xs : List (Option κ)) (o : Option κ) : List (Option κ) :=
  match o with
  | none => xs
  | some k => if xs.contains (some k) then xs else xs ++ [some k]

theorem mem_without {os xs : List (Option κ)} {k : κ} :
    some k ∈ without os xs ↔ some k ∈ xs ∧ some k ∉ os := by
  simp [without]

theorem without_subset (os xs : List (Option κ)) : without os xs ⊆ xs :=
  List.filter_subset_self xs

theorem nodup_without {xs : List (Option κ)} (h : xs.Nodup) (os : List (Option κ)) :
    (without os xs).Nodup :=
  h.filter _

theorem without_eq_self {os xs : List (Option κ)} (h : ∀ k, some k ∈ os → some k ∉ xs) :
    without os xs = xs := by
  refine List.filter_eq_self.mpr fun x hx => ?_
  cases x with
  | none => rfl
  | some k =>
    have hk : some k ∉ os := fun ho => h k ho hx
    simp [hk]

theorem not_mem_of_without_eq {os xs : List (Option κ)} (h : without os xs = xs) {k : κ}
    (hk : some k ∈ os) : some k ∉ xs := by
  intro hx
  rw [← h, mem_without] at hx
  exact hx.2 hk

theorem eraseEntry_eq_without {xs : List (Option κ)} (h : xs.Nodup) (o : Option κ) :
    eraseEntry xs o = without [o] xs := by
  cases o with
  | none =>
    refine (without_eq_self fun k hk => ?_).symm
    simp at hk
  | some k =>
    have herase : xs.erase (some k) = without [some k] xs := by
      rw [h.erase_eq_filter]
      refine List.filter_congr fun x _ => ?_
      cases x with
      | none => rfl
      | some j => by_cases hj : j = k <;> simp [hj]
    simp only [eraseEntry]
    split_ifs with hmem
    · exact herase
    · rw [← herase, List.erase_of_not_mem (by simpa using hmem)]

theorem without_without (os ps xs : List (Option κ)) :
    without os (without ps xs) = without (ps ++ os) xs := by
  simp only [without, List.filter_filter]
  refine List.filter_congr fun x _ => ?_
  cases x with
  | none => rfl
  | some k =>
    simp only [Option.isSome_some, Bool.true_and, List.contains_append, Bool.not_or]
    exact Bool.and_comm _ _

theorem foldl_eraseEntry {xs : List (Option κ)} (h : xs.Nodup) (os : List (Option κ)) :
    os.foldl eraseEntry xs = without os xs := by
  induction os generalizing xs with
  | nil => exact (without_eq_self fun k hk => by simp at hk).symm
  | cons o os ih =>
    rw [List.foldl_cons, eraseEntry_eq_without h, ih (nodup_without h [o]), without_without,
      List.singleton_append]

theorem mem_appendEntry {xs : List (Option κ)} {o : Option κ} {k : κ} :
    some k ∈ appendEntry xs o ↔ some k ∈ xs ∨ some k = o := by
  cases o with
  | none => simp [appendEntry]
  | some j =>
    simp only [appendEntry]
    split_ifs with hj
    · have hmem : some j ∈ xs := by simpa using hj
      constructor
      · exact Or.inl
      · rintro (h | h)
        · exact h
        · rwa [h]
    · simp

theorem nodup_appendEntry {xs : List (Option κ)} (h : xs.Nodup) (o : Option κ) :
    (appendEntry xs o).Nodup := by
  cases o with
  | none => exact h
  | some k =>
    simp only [appendEntry]
    split_ifs with hk
    · exact h
    · have hmem : some k ∉ xs := by simpa using hk
      exact List.nodup_append.mpr ⟨h, List.nodup_singleton _, by
        rintro a ha b hb rfl
        rw [List.mem_singleton] at hb
        exact hmem (hb ▸ ha)⟩

theorem mem_foldl_appendEntry {xs os : List (Option κ)} {k : κ} :
    some k ∈ os.foldl appendEntry xs ↔ some k ∈ xs ∨ some k ∈ os := by
  induction os generalizing xs with
  | nil => simp
  | cons o os ih => rw [List.foldl_cons, ih, mem_appendEntry, List.mem_cons, or_assoc]

theorem nodup_foldl_appendEntry {xs : List (Option κ)} (h : xs.Nodup) (os : List (Option κ)) :
    (os.foldl appendEntry xs).Nodup := by
  induction os generalizing xs with
  | nil => exact h
  | cons o os ih => exact ih (nodup_appendEntry h o)

theorem foldl_appendEntry_eq (xs os : List (Option κ)) :
    ∃ added, os.foldl appendEntry xs = xs ++ added ∧ ∀ x ∈ added, x ∈ os ∧ x.isSome = true := by
  induction os generalizing xs with
  | nil => exact ⟨[], by simp, by simp⟩
  | cons o os ih =>
    obtain ⟨added, heq, hadded⟩ := ih (appendEntry xs o)
    have hrest : ∀ x ∈ added, x ∈ o :: os ∧ x.isSome = true := fun x hx =>
      ⟨List.mem_cons_of_mem o (hadded x hx).1, (hadded x hx).2⟩
    rw [List.foldl_cons, heq]
    cases o with
    | none => exact ⟨added, rfl, hrest⟩
    | some k =>
      simp only [appendEntry]
      split_ifs with hk
      · exact ⟨added, rfl, hrest⟩
      · refine ⟨some k :: added, by simp, fun x hx => ?_⟩
        rcases List.mem_cons.mp hx with rfl | hx
        · exact ⟨List.mem_cons_self, rfl⟩
        · exact hrest x hx

theorem foldl_appendEntry_eq_self {xs os : List (Option κ)}
    (h : ∀ k, some k ∈ os → some k ∈ xs) : os.foldl appendEntry xs = xs := by
  induction os with
  | nil => rfl
  | cons o os ih =>
    have hhead : appendEntry xs o = xs := by
      cases o with
      | none => rfl
      | some k =>
        have hk : some k ∈ xs := h k List.mem_cons_self
        simp [appendEntry, hk]
    rw [List.foldl_cons, hhead, ih (fun k hk => h k (List.mem_cons_of_mem o hk))]

end Entries

end FittingSchlongs.Foundation.ListUpdates
