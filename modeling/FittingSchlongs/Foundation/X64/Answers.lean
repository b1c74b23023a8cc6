import FittingSchlongs.Foundation.X64.Machine

/-! # What the recorded calls returned

The record of a run holds for each call the machine the callee made of the one it was
given, so what is known of the callee is known of the record.
-/

namespace FittingSchlongs.Foundation.X64

variable {L : Type} [DecidableEq L] {code : List (Instr L)} {callee : Callee} {x y : Execution L}

theorem calls_step (h : step code callee x = some y) :
    y.calls = x.calls ∨ ∃ target, y.calls = x.calls ++
      [⟨target, x.machine, callee x.calls.length target x.machine, x.saved⟩] := by
  have hjump : ∀ target : Option (List (Instr L)),
      (target.map fun rest => { x with rest := rest }) = some y → y.calls = x.calls := by
    intro target htarget
    obtain ⟨rest, -, rfl⟩ := Option.map_eq_some_iff.mp htarget
    rfl
  simp only [step] at h
  split at h
  case h_7 =>
    obtain ⟨v, -, rfl⟩ := Option.map_eq_some_iff.mp h
    exact Or.inl rfl
  case h_10 =>
    obtain ⟨target, -, rfl⟩ := Option.map_eq_some_iff.mp h
    exact Or.inr ⟨target, rfl⟩
  case h_12 =>
    split_ifs at h
    · obtain rfl := Option.some.inj h
      exact Or.inl rfl
    · exact Or.inl (hjump _ h)
  case h_13 =>
    split_ifs at h
    · exact Or.inl (hjump _ h)
    · obtain rfl := Option.some.inj h
      exact Or.inl rfl
  case h_14 => exact Or.inl (hjump _ h)
  case h_17 => exact absurd h.symm (Option.some_ne_none y)
  -- The others go on to the next instruction without a call.
  all_goals
    obtain rfl := Option.some.inj h
    exact Or.inl rfl

def Answered (callee : Callee) (x : Execution L) : Prop :=
  ∀ (i : ℕ) c, x.calls[i]? = some c → c.after = callee i c.target c.before

theorem answered_step (hx : Answered callee x) (h : step code callee x = some y) :
    Answered callee y := by
  intro i c hc
  rcases calls_step h with hsame | ⟨target, hcalled⟩
  · rw [hsame] at hc
    exact hx i c hc
  · rw [hcalled, List.getElem?_append] at hc
    split_ifs at hc with hold
    · exact hx i c hc
    · rw [List.getElem?_singleton] at hc
      split_ifs at hc with hlast
      obtain rfl := Option.some.inj hc
      obtain rfl : i = x.calls.length := by omega
      rfl

theorem answered_reaches (hx : Answered callee x)
    (h : StateTransition.Reaches (step code callee) x y) : Answered callee y := by
  induction h with
  | refl => exact hx
  | tail _ hstep ih => exact answered_step ih hstep

/-- A run of a code ends with answered calls. -/
theorem Completes.answered {entry : Machine} {post : Execution L → Prop}
    (h : Completes code callee (start code entry) post) :
    Completes code callee (start code entry) fun y => Answered callee y ∧ post y := by
  obtain ⟨y, hy, hpost⟩ := h
  have hstart : Answered callee (start code entry) :=
    fun i c hc => absurd hc.symm (Option.some_ne_none c)
  exact ⟨y, hy, answered_reaches hstart (StateTransition.mem_eval.mp hy).1, hpost⟩

theorem Completes.imp {post post' : Execution L → Prop} (h : Completes code callee x post)
    (himp : ∀ y, post y → post' y) : Completes code callee x post' := by
  obtain ⟨y, hy, hpost⟩ := h
  exact ⟨y, hy, himp y hpost⟩

end FittingSchlongs.Foundation.X64
