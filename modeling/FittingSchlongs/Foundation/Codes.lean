import Mathlib.Data.List.Infix
import Mathlib.Tactic

/-! # Self-synchronising codes

Every code word begins with a lead unit that stands nowhere else in a code word, and no code
word begins another one. An encoded list then occurs in another exactly where the list itself
does, since no occurrence begins or ends inside a code word.
-/

namespace FittingSchlongs.Foundation.Codes

variable {α β : Type*}

/-- The lead units mark the beginnings of code words, and a code word determines what it stands
for. -/
structure SelfSync (code : α → List β) (lead : β → Prop) : Prop where
  begins : ∀ a, ∃ b rest, code a = b :: rest ∧ lead b ∧ ∀ x ∈ rest, ¬lead x
  prefix_free : ∀ a a', code a <+: code a' → a = a'

variable {code : α → List β} {lead : β → Prop} {as bs : List α}

theorem SelfSync.code_ne_nil (h : SelfSync code lead) (a : α) : code a ≠ [] := by
  obtain ⟨b, rest, hcode, -, -⟩ := h.begins a
  rw [hcode]
  exact List.cons_ne_nil b rest

theorem SelfSync.flatMap_eq_nil_iff (h : SelfSync code lead) : as.flatMap code = [] ↔ as = [] := by
  cases as with
  | nil => simp
  | cons a as => simp [h.code_ne_nil a]

theorem SelfSync.eq_of_prefix (h : SelfSync code lead) {a a' : α} {text : List β}
    (ha : code a <+: text) (ha' : code a' <+: text) : a = a' := by
  cases List.prefix_or_prefix_of_prefix ha ha' with
  | inl hle => exact h.prefix_free a a' hle
  | inr hle => exact (h.prefix_free a' a hle).symm

theorem SelfSync.flatMap_prefix_iff (h : SelfSync code lead) :
    as.flatMap code <+: bs.flatMap code ↔ as <+: bs := by
  constructor
  · intro hpre
    induction as generalizing bs with
    | nil => exact List.nil_prefix
    | cons a as ih =>
      cases bs with
      | nil =>
        have hempty := List.prefix_nil.mp hpre
        exact absurd (h.flatMap_eq_nil_iff.mp hempty) (List.cons_ne_nil a as)
      | cons b bs =>
        rw [List.flatMap_cons, List.flatMap_cons] at hpre
        have hfirst := (List.prefix_append (code a) (as.flatMap code)).trans hpre
        have hab := h.eq_of_prefix hfirst (List.prefix_append (code b) (bs.flatMap code))
        subst hab
        rw [List.prefix_append_right_inj] at hpre
        exact List.cons_prefix_cons.mpr ⟨rfl, ih hpre⟩
  · rintro ⟨after, rfl⟩
    rw [List.flatMap_append]
    exact List.prefix_append _ _

theorem SelfSync.flatMap_injective (h : SelfSync code lead) :
    Function.Injective (fun as : List α => as.flatMap code) := by
  intro as bs heq
  change as.flatMap code = bs.flatMap code at heq
  have hle : as <+: bs := h.flatMap_prefix_iff.mp (heq ▸ List.prefix_rfl)
  have hge : bs <+: as := h.flatMap_prefix_iff.mp (heq ▸ List.prefix_rfl)
  exact hle.eq_of_length_le hge.length_le

theorem SelfSync.split_at_lead (h : SelfSync code lead) {front rest : List β} {b : β}
    (hlead : lead b) (heq : bs.flatMap code = front ++ b :: rest) :
    ∃ before after, bs = before ++ after ∧ front = before.flatMap code ∧
      b :: rest = after.flatMap code := by
  induction bs generalizing front with
  | nil => simp at heq
  | cons c bs ih =>
    cases front with
    | nil => exact ⟨[], c :: bs, rfl, rfl, heq.symm⟩
    | cons x front =>
      rw [List.flatMap_cons] at heq
      rcases List.append_eq_append_iff.mp heq with ⟨inner, hfront, hinner⟩ | ⟨inner, hcode, hinner⟩
      · obtain ⟨before, after, rfl, rfl, hafter⟩ := ih hinner
        exact ⟨c :: before, after, rfl, hfront, hafter⟩
      · cases inner with
        | nil =>
          rw [List.append_nil] at hcode
          rw [List.nil_append] at hinner
          exact ⟨[c], bs, rfl, by simp [hcode], hinner⟩
        | cons y inner =>
          -- The lead unit would stand inside the code word of `c`.
          obtain ⟨z, tail, hword, -, htail⟩ := h.begins c
          rw [hword, List.cons_append, List.cons.injEq] at hcode
          rw [List.cons_append, List.cons.injEq] at hinner
          rw [← hinner.1] at hcode
          exact absurd hlead (htail b (by simp [hcode.2]))

/-- An occurrence of an encoded list begins and ends between code words. -/
theorem SelfSync.split_of_occurrence (h : SelfSync code lead) (hne : as ≠ [])
    {front back : List β} (heq : bs.flatMap code = front ++ as.flatMap code ++ back) :
    ∃ before after, bs = before ++ as ++ after ∧ front = before.flatMap code ∧
      back = after.flatMap code := by
  cases as with
  | nil => exact absurd rfl hne
  | cons a as =>
    obtain ⟨b, rest, hcode, hlead, -⟩ := h.begins a
    have hsplit : bs.flatMap code = front ++ b :: (rest ++ as.flatMap code ++ back) := by
      rw [heq, List.flatMap_cons, hcode]
      simp
    obtain ⟨before, after, rfl, rfl, hafter⟩ := h.split_at_lead hlead hsplit
    have hback : (a :: as).flatMap code ++ back = after.flatMap code := by
      rw [← hafter, List.flatMap_cons, hcode]
      simp
    obtain ⟨rest', rfl⟩ := h.flatMap_prefix_iff.mp ⟨back, hback⟩
    rw [List.flatMap_append, List.append_cancel_left_eq] at hback
    exact ⟨before, rest', by simp, rfl, hback⟩

theorem SelfSync.flatMap_infix_iff (h : SelfSync code lead) :
    as.flatMap code <:+: bs.flatMap code ↔ as <:+: bs := by
  constructor
  · rintro ⟨front, back, heq⟩
    by_cases hne : as = []
    · rw [hne]
      exact List.nil_infix
    · obtain ⟨before, after, rfl, -, -⟩ := h.split_of_occurrence hne heq.symm
      exact ⟨before, after, rfl⟩
  · rintro ⟨before, after, rfl⟩
    exact ⟨before.flatMap code, after.flatMap code, by simp⟩

end FittingSchlongs.Foundation.Codes
