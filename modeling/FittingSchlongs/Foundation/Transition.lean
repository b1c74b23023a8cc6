import Mathlib.Tactic

/-! # Runs of a partial deterministic step function

A run applies events one after another and stops existing at the first event that
is not possible. Invariants of the steps are invariants of the runs, also when only
the steps that meet a condition preserve them.
-/

namespace FittingSchlongs.Foundation.Transition

variable {σ ε : Type*}

/-- The state after the events, when each of them was possible. -/
def runFrom (step : σ → ε → Option σ) : σ → List ε → Option σ
  | s, [] => some s
  | s, e :: es => (step s e).bind (fun t => runFrom step t es)

/-- Every step of the run meets the condition in the state before it. -/
def Along (step : σ → ε → Option σ) (ok : σ → ε → Prop) : σ → List ε → Prop
  | _, [] => True
  | s, e :: es => ok s e ∧ ∀ t, step s e = some t → Along step ok t es

variable {step : σ → ε → Option σ} {ok : σ → ε → Prop}

theorem runFrom_cons_iff {s t : σ} {e : ε} {es : List ε} :
    runFrom step s (e :: es) = some t ↔
      ∃ u, step s e = some u ∧ runFrom step u es = some t :=
  Option.bind_eq_some_iff

theorem runFrom_append_iff {s t : σ} {es fs : List ε} :
    runFrom step s (es ++ fs) = some t ↔
      ∃ u, runFrom step s es = some u ∧ runFrom step u fs = some t := by
  induction es generalizing s with
  | nil => simp [runFrom]
  | cons e es ih =>
    rw [List.cons_append, runFrom_cons_iff]
    simp only [ih, runFrom_cons_iff]
    constructor
    · rintro ⟨u, hu, v, hv, ht⟩
      exact ⟨v, ⟨u, hu, hv⟩, ht⟩
    · rintro ⟨v, ⟨u, hu, hv⟩, ht⟩
      exact ⟨u, hu, v, hv, ht⟩

instance decidableAlong [∀ s e, Decidable (ok s e)] : ∀ s es, Decidable (Along step ok s es)
  | _, [] => inferInstanceAs (Decidable True)
  | s, e :: es =>
    match hstep : step s e with
    | none => decidable_of_iff (ok s e) (by simp [Along, hstep])
    | some t =>
      have : Decidable (Along step ok t es) := decidableAlong t es
      decidable_of_iff (ok s e ∧ Along step ok t es) (by simp [Along, hstep])

theorem Along.of_append {s t : σ} {es fs : List ε} (h : Along step ok s (es ++ fs))
    (hrun : runFrom step s es = some t) : Along step ok s es ∧ Along step ok t fs := by
  induction es generalizing s with
  | nil =>
    obtain rfl : s = t := by simpa [runFrom] using hrun
    exact ⟨trivial, h⟩
  | cons e es ih =>
    obtain ⟨u, hu, hrun⟩ := runFrom_cons_iff.mp hrun
    obtain ⟨hok, hrest⟩ := h
    obtain ⟨hes, hfs⟩ := ih (hrest u hu) hrun
    refine ⟨⟨hok, fun v hv => ?_⟩, hfs⟩
    obtain rfl : u = v := Option.some.inj (hu.symm.trans hv)
    exact hes

/-- What the allowed steps preserve, the runs of allowed steps preserve. -/
theorem invariant_of_along {inv : σ → Prop}
    (hstep : ∀ s e t, ok s e → inv s → step s e = some t → inv t) {s t : σ} {es : List ε}
    (hok : Along step ok s es) (hs : inv s) (hrun : runFrom step s es = some t) : inv t := by
  induction es generalizing s with
  | nil =>
    obtain rfl : s = t := by simpa [runFrom] using hrun
    exact hs
  | cons e es ih =>
    obtain ⟨u, hu, hrun⟩ := runFrom_cons_iff.mp hrun
    exact ih (hok.2 u hu) (hstep s e u hok.1 hs hu) hrun

theorem along_of_forall {p : ε → Prop} {es : List ε} (h : ∀ e ∈ es, p e) (s : σ) :
    Along step (fun _ e => p e) s es := by
  induction es generalizing s with
  | nil => trivial
  | cons e es ih =>
    exact ⟨h e List.mem_cons_self, fun t _ => ih (fun f hf => h f (List.mem_cons_of_mem e hf)) t⟩

theorem Along.mono {ok' : σ → ε → Prop} (himp : ∀ s e, ok s e → ok' s e) {s : σ} {es : List ε}
    (h : Along step ok s es) : Along step ok' s es := by
  induction es generalizing s with
  | nil => trivial
  | cons e es ih => exact ⟨himp s e h.1, fun t ht => ih (h.2 t ht)⟩

theorem Along.cons {s t : σ} {e : ε} {es : List ε} (hok : ok s e) (hstep : step s e = some t)
    (h : Along step ok t es) : Along step ok s (e :: es) := by
  refine ⟨hok, fun u hu => ?_⟩
  obtain rfl : t = u := Option.some.inj (hstep.symm.trans hu)
  exact h

theorem invariant_of_run {inv : σ → Prop} (hstep : ∀ s e t, inv s → step s e = some t → inv t)
    {s t : σ} {es : List ε} (hs : inv s) (hrun : runFrom step s es = some t) : inv t :=
  invariant_of_along (fun s e t _ => hstep s e t) (along_of_forall (fun _ _ => trivial) s) hs hrun

end FittingSchlongs.Foundation.Transition
