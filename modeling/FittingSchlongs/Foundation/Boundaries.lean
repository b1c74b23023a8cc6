import Mathlib.Data.List.Infix
import Mathlib.Tactic

/-! # Occurrences at word boundaries, found by padded searches

A text is padded with a separator at both ends and searched for a pattern with a separator
in front of it, or at both of its ends. The search then finds the occurrences of the
pattern in the text itself that begin a word, or that begin and end one.
-/

namespace FittingSchlongs.Foundation.Boundaries

variable {α : Type*} {s : α} {text pattern : List α} {i : ℕ}

/-- The pattern stands at position `i` of the text. -/
def OccursAt (text pattern : List α) (i : ℕ) : Prop := pattern <+: text.drop i

instance [DecidableEq α] (text pattern : List α) (i : ℕ) : Decidable (OccursAt text pattern i) :=
  inferInstanceAs (Decidable (pattern <+: text.drop i))

/-- Position `i` is the start of the text, or the separator stands before it. -/
def StartsWord (s : α) (text : List α) (i : ℕ) : Prop := i = 0 ∨ text[i - 1]? = some s

instance [DecidableEq α] (s : α) (text : List α) (i : ℕ) : Decidable (StartsWord s text i) :=
  inferInstanceAs (Decidable (i = 0 ∨ text[i - 1]? = some s))

/-- Position `j` is the end of the text, or the separator stands at it. -/
def EndsWord (s : α) (text : List α) (j : ℕ) : Prop := j = text.length ∨ text[j]? = some s

instance [DecidableEq α] (s : α) (text : List α) (j : ℕ) : Decidable (EndsWord s text j) :=
  inferInstanceAs (Decidable (j = text.length ∨ text[j]? = some s))

theorem infix_iff_occursAt : pattern <:+: text ↔ ∃ i, OccursAt text pattern i := by
  rw [List.infix_iff_prefix_suffix]
  constructor
  · rintro ⟨rest, hpre, hsuf⟩
    rw [List.suffix_iff_eq_drop.mp hsuf] at hpre
    exact ⟨_, hpre⟩
  · rintro ⟨i, h⟩
    exact ⟨text.drop i, h, List.drop_suffix i text⟩

theorem OccursAt.lt_length (h : OccursAt text pattern i) (hne : pattern ≠ []) :
    i < text.length := by
  have hlength := h.length_le
  have hpos := List.length_pos_of_ne_nil hne
  rw [List.length_drop] at hlength
  omega

theorem EndsWord.le_length {j : ℕ} (h : EndsWord s text j) : j ≤ text.length := by
  cases h with
  | inl hend => exact hend.le
  | inr hbyte => exact (List.getElem?_eq_some_iff.mp hbyte).1.le

/-! ## The separator in front -/

theorem occursAt_cons_iff :
    OccursAt (s :: text) (s :: pattern) i ↔ OccursAt text pattern i ∧ StartsWord s text i := by
  cases i with
  | zero => simp [OccursAt, StartsWord]
  | succ k =>
    simp only [OccursAt, StartsWord, List.drop_succ_cons, Nat.succ_ne_zero, false_or,
      Nat.add_sub_cancel]
    by_cases hk : k < text.length
    · rw [List.drop_eq_getElem_cons hk, List.cons_prefix_cons, List.getElem?_eq_getElem hk,
        Option.some.injEq, and_comm, eq_comm]
    · have hle : text.length ≤ k := Nat.le_of_not_lt hk
      simp [List.drop_eq_nil_of_le hle, hle]

theorem startsWord_concat (hi : i ≤ text.length) :
    StartsWord s (text ++ [s]) i ↔ StartsWord s text i := by
  cases i with
  | zero => simp [StartsWord]
  | succ k =>
    simp only [StartsWord, Nat.add_sub_cancel]
    rw [List.getElem?_append_left hi]

/-! ## The separator behind -/

theorem concat_prefix_iff {rest : List α} :
    pattern ++ [s] <+: rest ↔ pattern <+: rest ∧ rest[pattern.length]? = some s := by
  constructor
  · rintro ⟨back, rfl⟩
    exact ⟨⟨[s] ++ back, by simp⟩, by simp⟩
  · rintro ⟨⟨back, rfl⟩, hbyte⟩
    cases back with
    | nil => simp at hbyte
    | cons b back =>
      have hb : b = s := by simpa using hbyte
      exact ⟨back, by simp [hb]⟩

theorem occursAt_concat_of_le (hle : i + pattern.length ≤ text.length) :
    OccursAt (text ++ [s]) pattern i ↔ OccursAt text pattern i := by
  have hi : i ≤ text.length := by omega
  have hlength : pattern.length ≤ (text.drop i).length := by
    rw [List.length_drop]
    omega
  rw [OccursAt, OccursAt, List.drop_append_of_le_length hi]
  constructor
  · exact fun h => List.prefix_of_prefix_length_le h (List.prefix_append _ _) hlength
  · exact fun h => h.trans (List.prefix_append _ _)

theorem occursAt_concat_iff (hne : pattern ≠ []) (hlast : pattern.getLast? ≠ some s) :
    OccursAt (text ++ [s]) pattern i ↔ OccursAt text pattern i := by
  by_cases hi : i ≤ text.length
  · rw [OccursAt, OccursAt, List.drop_append_of_le_length hi, List.prefix_concat_iff]
    apply or_iff_right
    intro heq
    rw [heq] at hlast
    simp at hlast
  · constructor
    · intro h
      have hlt := h.lt_length hne
      rw [List.length_append, List.length_singleton] at hlt
      omega
    · intro h
      have hlt := h.lt_length hne
      omega

theorem endsWord_iff {j : ℕ} : EndsWord s text j ↔ (text ++ [s])[j]? = some s := by
  rcases Nat.lt_trichotomy j text.length with hj | rfl | hj
  · rw [EndsWord, List.getElem?_append_left hj]
    exact or_iff_right hj.ne
  · simp [EndsWord]
  · have hnone : (text ++ [s])[j]? = none := by
      rw [List.getElem?_eq_none_iff, List.length_append, List.length_singleton]
      omega
    rw [hnone]
    constructor
    · intro h
      have hle := h.le_length
      omega
    · simp

theorem occursAt_concat_concat_iff :
    OccursAt (text ++ [s]) (pattern ++ [s]) i ↔
      OccursAt text pattern i ∧ EndsWord s text (i + pattern.length) := by
  rw [OccursAt, concat_prefix_iff, List.getElem?_drop, ← endsWord_iff]
  apply and_congr_left
  exact fun hends => occursAt_concat_of_le hends.le_length

/-! ## Padded searches -/

/-- With a separator in front, the padded search finds the occurrences that begin a word. -/
theorem opened_infix_iff (hne : pattern ≠ []) (hlast : pattern.getLast? ≠ some s) :
    s :: pattern <:+: s :: (text ++ [s]) ↔
      ∃ i, OccursAt text pattern i ∧ StartsWord s text i := by
  rw [infix_iff_occursAt]
  apply exists_congr
  intro i
  rw [occursAt_cons_iff, occursAt_concat_iff hne hlast]
  apply and_congr_right
  exact fun hoccurs => startsWord_concat (hoccurs.lt_length hne).le

/-- With a separator at both ends, the padded search finds the occurrences that begin a word
and end one. -/
theorem closed_infix_iff :
    s :: (pattern ++ [s]) <:+: s :: (text ++ [s]) ↔
      ∃ i, OccursAt text pattern i ∧ StartsWord s text i ∧
        EndsWord s text (i + pattern.length) := by
  rw [infix_iff_occursAt]
  apply exists_congr
  intro i
  rw [occursAt_cons_iff, occursAt_concat_concat_iff, and_assoc]
  apply and_congr_right
  intro _
  rw [and_comm]
  apply and_congr_left
  intro hends
  exact startsWord_concat ((Nat.le_add_right i pattern.length).trans hends.le_length)

end FittingSchlongs.Foundation.Boundaries
