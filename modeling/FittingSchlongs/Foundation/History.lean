import FittingSchlongs.Foundation.Transition

/-! # What the state of a run says about its history

A property that each step sets, resets or leaves alone holds after a run exactly when no
reset came after the last set. A part of the state that only some steps change is a fold
over what these steps show, and an image of the system that shows the same has the same runs.
-/

namespace FittingSchlongs.Foundation.Transition

variable {σ ε α β : Type*} {step : σ → ε → Option σ} {ok : σ → ε → Prop}

/-- The run of `es` from `s` has a step from `u` to `v` by `e`, with `after` behind it. -/
def StepIn (step : σ → ε → Option σ) (s : σ) (es : List ε) (u : σ) (e : ε) (v : σ)
    (after : List ε) : Prop :=
  ∃ before, es = before ++ e :: after ∧ runFrom step s before = some u ∧ step u e = some v

theorem StepIn.head {s t : σ} {e : ε} (h : step s e = some t) (es : List ε) :
    StepIn step s (e :: es) s e t es :=
  ⟨[], rfl, rfl, h⟩

theorem StepIn.cons {s t u v : σ} {e f : ε} {es after : List ε} (hstep : step s f = some t)
    (h : StepIn step t es u e v after) : StepIn step s (f :: es) u e v after := by
  obtain ⟨before, hes, hbefore, he⟩ := h
  exact ⟨f :: before, by rw [hes]; rfl, runFrom_cons_iff.mpr ⟨t, hstep, hbefore⟩, he⟩

theorem stepIn_cons_iff {s t u v : σ} {e f : ε} {es after : List ε} (hstep : step s f = some t) :
    StepIn step s (f :: es) u e v after ↔
      (u = s ∧ e = f ∧ v = t ∧ after = es) ∨ StepIn step t es u e v after := by
  constructor
  · rintro ⟨before, hes, hbefore, he⟩
    cases before with
    | nil =>
      obtain ⟨rfl, rfl⟩ := List.cons.inj hes
      obtain rfl : s = u := Option.some.inj hbefore
      exact Or.inl ⟨rfl, rfl, Option.some.inj (he.symm.trans hstep), rfl⟩
    | cons g before =>
      obtain ⟨rfl, rfl⟩ := List.cons.inj hes
      obtain ⟨t', ht', hbefore⟩ := runFrom_cons_iff.mp hbefore
      obtain rfl : t = t' := Option.some.inj (hstep.symm.trans ht')
      exact Or.inr ⟨before, rfl, hbefore, he⟩
  · rintro (⟨rfl, rfl, rfl, rfl⟩ | h)
    · exact .head hstep _
    · exact h.cons hstep

theorem StepIn.runFrom_after {s t u v : σ} {e : ε} {es after : List ε}
    (h : StepIn step s es u e v after) (hrun : runFrom step s es = some t) :
    runFrom step v after = some t := by
  obtain ⟨before, rfl, hbefore, he⟩ := h
  obtain ⟨u', hbefore', hrest⟩ := runFrom_append_iff.mp hrun
  obtain rfl : u = u' := Option.some.inj (hbefore.symm.trans hbefore')
  obtain ⟨v', he', hafter⟩ := runFrom_cons_iff.mp hrest
  obtain rfl : v = v' := Option.some.inj (he.symm.trans he')
  exact hafter

theorem StepIn.mem {s u v : σ} {e : ε} {es after : List ε} (h : StepIn step s es u e v after) :
    e ∈ es := by
  obtain ⟨before, rfl, -, -⟩ := h
  simp

theorem StepIn.trans {s u v u' v' : σ} {e f : ε} {es after after' : List ε}
    (h : StepIn step s es u e v after) (h' : StepIn step v after u' f v' after') :
    StepIn step s es u' f v' after' := by
  obtain ⟨before, rfl, hbefore, he⟩ := h
  obtain ⟨between, rfl, hbetween, hf⟩ := h'
  refine ⟨before ++ e :: between, by simp, ?_, hf⟩
  exact runFrom_append_iff.mpr ⟨u, hbefore, runFrom_cons_iff.mpr ⟨v, he, hbetween⟩⟩

theorem along_cons_iff {s t : σ} {e : ε} {es : List ε} (h : step s e = some t) :
    Along step ok s (e :: es) ↔ ok s e ∧ Along step ok t es := by
  constructor
  · exact fun halong => ⟨halong.1, halong.2 t h⟩
  · exact fun halong => Along.cons halong.1 h halong.2

theorem along_iff_forall {p : ε → Prop} {s t : σ} {es : List ε}
    (hrun : runFrom step s es = some t) : Along step (fun _ e => p e) s es ↔ ∀ e ∈ es, p e := by
  induction es generalizing s with
  | nil => exact iff_of_true trivial (List.forall_mem_nil _)
  | cons e es ih =>
    obtain ⟨u, hu, hrest⟩ := runFrom_cons_iff.mp hrun
    rw [along_cons_iff hu, ih hrest, List.forall_mem_cons]

theorem Along.behind {s u v : σ} {e : ε} {es after : List ε} (h : Along step ok s es)
    (hin : StepIn step s es u e v after) : Along step ok v after := by
  obtain ⟨before, rfl, hbefore, he⟩ := hin
  exact (h.of_append hbefore).2.2 v he

theorem Along.and {ok' : σ → ε → Prop} {s : σ} {es : List ε} (h : Along step ok s es)
    (h' : Along step ok' s es) : Along step (fun s e => ok s e ∧ ok' s e) s es := by
  induction es generalizing s with
  | nil => trivial
  | cons e es ih => exact ⟨⟨h.1, h'.1⟩, fun t ht => ih (h.2 t ht) (h'.2 t ht)⟩

/-! ## Properties set and reset -/

/-- Some step of the run sets the property, and no later one resets it. -/
def SetLast (step : σ → ε → Option σ) (sets resets : σ → ε → Prop) (s : σ) (es : List ε) : Prop :=
  ∃ u e v after, StepIn step s es u e v after ∧ sets u e ∧
    Along step (fun s e => ¬ resets s e) v after

/-- A property that every step sets, resets or keeps holds after a run exactly when the run
sets it last, or it held before and is never reset. -/
theorem iff_setLast {sets resets : σ → ε → Prop} {p : σ → Prop}
    (hstep : ∀ s e t, step s e = some t → (p t ↔ sets s e ∨ p s ∧ ¬ resets s e)) {s t : σ}
    {es : List ε} (hrun : runFrom step s es = some t) :
    p t ↔ SetLast step sets resets s es ∨ p s ∧ Along step (fun s e => ¬ resets s e) s es := by
  induction es generalizing s with
  | nil =>
    obtain rfl : s = t := Option.some.inj hrun
    constructor
    · exact fun h => Or.inr ⟨h, trivial⟩
    · rintro (⟨u, e, v, after, hin, -⟩ | h)
      · exact absurd hin.mem List.not_mem_nil
      · exact h.1
  | cons e es ih =>
    obtain ⟨u, hu, hrest⟩ := runFrom_cons_iff.mp hrun
    rw [ih hrest, hstep s e u hu, along_cons_iff hu]
    constructor
    · rintro (⟨v, f, w, after, hin, hsets, hkept⟩ | ⟨hsets | ⟨hs, hkept⟩, hrest⟩)
      · exact Or.inl ⟨v, f, w, after, hin.cons hu, hsets, hkept⟩
      · exact Or.inl ⟨s, e, u, es, .head hu es, hsets, hrest⟩
      · exact Or.inr ⟨hs, hkept, hrest⟩
    · rintro (⟨v, f, w, after, hin, hsets, hkept⟩ | ⟨hs, hkept, hrest⟩)
      · rcases (stepIn_cons_iff hu).mp hin with ⟨rfl, rfl, rfl, rfl⟩ | hlater
        · exact Or.inr ⟨Or.inl hsets, hkept⟩
        · exact Or.inl ⟨v, f, w, after, hlater, hsets, hkept⟩
      · exact Or.inr ⟨Or.inr ⟨hs, hkept⟩, hrest⟩

theorem exists_last {p : σ → ε → Prop} {s t : σ} {es : List ε} (hrun : runFrom step s es = some t)
    (h : ¬ Along step (fun s e => ¬ p s e) s es) : SetLast step p p s es := by
  induction es generalizing s with
  | nil => exact absurd trivial h
  | cons e es ih =>
    obtain ⟨u, hu, hrest⟩ := runFrom_cons_iff.mp hrun
    rw [along_cons_iff hu] at h
    by_cases hlater : Along step (fun s e => ¬ p s e) u es
    · have hp : p s e := by_contra fun hp => h ⟨hp, hlater⟩
      exact ⟨s, e, u, es, .head hu es, hp, hlater⟩
    · obtain ⟨v, f, w, after, hin, hlast⟩ := ih hrest hlater
      exact ⟨v, f, w, after, hin.cons hu, hlast⟩

/-- Behind a step that meets `p`, without `q` from there on, some step is the last to meet `p`. -/
theorem StepIn.exists_last {p q : σ → ε → Prop} {s t u v : σ} {e : ε} {es after : List ε}
    (hin : StepIn step s es u e v after) (hrun : runFrom step s es = some t) (hp : p u e)
    (hkept : Along step (fun s e => ¬ q s e) v after) :
    ∃ u e v after, StepIn step s es u e v after ∧ p u e ∧
      Along step (fun s e => ¬ (q s e ∨ p s e)) v after := by
  by_cases hagain : Along step (fun s e => ¬ p s e) v after
  · exact ⟨u, e, v, after, hin, hp, (hkept.and hagain).mono fun _ _ h => not_or.mpr h⟩
  · obtain ⟨u', e', v', after', hin', hp', hlast⟩ :=
      Transition.exists_last (hin.runFrom_after hrun) hagain
    refine ⟨u', e', v', after', hin.trans hin', hp', ?_⟩
    exact ((hkept.behind hin').and hlast).mono fun _ _ h => not_or.mpr h

/-- What holds after a run and not before it begins to hold in some step. -/
theorem exists_beginning {p : σ → Prop} {s t : σ} {es : List ε} (hrun : runFrom step s es = some t)
    (hs : ¬ p s) (ht : p t) : ∃ u e v after, StepIn step s es u e v after ∧ ¬ p u ∧ p v := by
  induction es generalizing s with
  | nil =>
    obtain rfl : s = t := Option.some.inj hrun
    exact absurd ht hs
  | cons e es ih =>
    obtain ⟨u, hu, hrest⟩ := runFrom_cons_iff.mp hrun
    by_cases hpu : p u
    · exact ⟨s, e, u, es, .head hu es, hs, hpu⟩
    · obtain ⟨v, f, w, after, hin, hbegins⟩ := ih hrest hpu
      exact ⟨v, f, w, after, hin.cons hu, hbegins⟩

/-- What holds from some step on begins to hold in one step only. -/
theorem beginning_unique {p : σ → Prop} (hstep : ∀ s e t, p s → step s e = some t → p t)
    {s t u v u' v' : σ} {e e' : ε} {es after after' : List ε} (hrun : runFrom step s es = some t)
    (hin : StepIn step s es u e v after) (hu : ¬ p u) (hv : p v)
    (hin' : StepIn step s es u' e' v' after') (hu' : ¬ p u') (hv' : p v') :
    u = u' ∧ e = e' ∧ v = v' ∧ after = after' := by
  induction es generalizing s with
  | nil => exact absurd hin.mem List.not_mem_nil
  | cons f es ih =>
    obtain ⟨w, hw, hrest⟩ := runFrom_cons_iff.mp hrun
    -- Behind a state where it holds there is no beginning.
    have hlater : ∀ {x g y behind}, p w → StepIn step w es x g y behind → p x := by
      rintro x g y behind hpw ⟨between, -, hbetween, -⟩
      exact invariant_of_run hstep hpw hbetween
    rcases (stepIn_cons_iff hw).mp hin with ⟨rfl, rfl, rfl, rfl⟩ | hin
    · rcases (stepIn_cons_iff hw).mp hin' with ⟨rfl, rfl, rfl, rfl⟩ | hin'
      · exact ⟨rfl, rfl, rfl, rfl⟩
      · exact absurd (hlater hv hin') hu'
    · rcases (stepIn_cons_iff hw).mp hin' with ⟨rfl, rfl, rfl, rfl⟩ | hin'
      · exact absurd (hlater hv' hin) hu
      · exact ih hrest hin hin'

/-! ## Observations -/

/-- What the steps of the run show, in order. -/
def observations (step : σ → ε → Option σ) (observe : σ → ε → Option β) : σ → List ε → List β
  | _, [] => []
  | s, e :: es =>
    (observe s e).toList ++ (step s e).elim [] (fun t => observations step observe t es)

variable {observe : σ → ε → Option β}

theorem observations_cons {s t : σ} {e : ε} (h : step s e = some t) (es : List ε) :
    observations step observe s (e :: es) =
      (observe s e).toList ++ observations step observe t es := by
  simp only [observations, h, Option.elim_some]

theorem observations_append {s t : σ} {es : List ε} (hrun : runFrom step s es = some t)
    (fs : List ε) :
    observations step observe s (es ++ fs) =
      observations step observe s es ++ observations step observe t fs := by
  induction es generalizing s with
  | nil =>
    obtain rfl : s = t := Option.some.inj hrun
    rfl
  | cons e es ih =>
    obtain ⟨u, hu, hrest⟩ := runFrom_cons_iff.mp hrun
    rw [List.cons_append, observations_cons hu, observations_cons hu, ih hrest, List.append_assoc]

theorem observations_of_silent {es : List ε} (h : ∀ s, ∀ e ∈ es, observe s e = none) (s : σ) :
    observations step observe s es = [] := by
  induction es generalizing s with
  | nil => rfl
  | cons e es ih =>
    have hrest := ih fun t f hf => h t f (List.mem_cons_of_mem e hf)
    rw [observations, h s e List.mem_cons_self, Option.toList_none, List.nil_append]
    cases step s e with
    | none => rfl
    | some t => exact hrest t

theorem along_iff_observations {p : β → Prop} {s t : σ} {es : List ε}
    (hrun : runFrom step s es = some t) :
    Along step (fun s e => ∀ b ∈ observe s e, p b) s es ↔
      ∀ b ∈ observations step observe s es, p b := by
  induction es generalizing s with
  | nil => exact iff_of_true trivial (List.forall_mem_nil _)
  | cons e es ih =>
    obtain ⟨u, hu, hrest⟩ := runFrom_cons_iff.mp hrun
    rw [along_cons_iff hu, ih hrest, observations_cons hu, List.forall_mem_append]
    simp only [Option.mem_toList, Option.mem_def]

/-- A part of the state that follows what each step shows is the fold over the observations. -/
theorem foldl_observations (part : σ → α) {f : α → β → α}
    (hstep : ∀ s e t, step s e = some t → part t = (observe s e).toList.foldl f (part s)) {s t : σ}
    {es : List ε} (hrun : runFrom step s es = some t) :
    part t = (observations step observe s es).foldl f (part s) := by
  induction es generalizing s with
  | nil =>
    obtain rfl : s = t := Option.some.inj hrun
    rfl
  | cons e es ih =>
    obtain ⟨u, hu, hrest⟩ := runFrom_cons_iff.mp hrun
    rw [ih hrest, hstep s e u hu, observations_cons hu, List.foldl_append]

theorem head?_observations {s t : σ} {es : List ε} (hrun : runFrom step s es = some t) {b : β} :
    (observations step observe s es).head? = some b ↔
      ∃ before e after u, es = before ++ e :: after ∧ runFrom step s before = some u ∧
        observe u e = some b ∧ Along step (fun v f => observe v f = none) s before := by
  induction es generalizing s with
  | nil => simp [observations]
  | cons e es ih =>
    obtain ⟨u, hu, hrest⟩ := runFrom_cons_iff.mp hrun
    rw [observations_cons hu]
    cases hshown : observe s e with
    | some c =>
      simp only [Option.toList_some, List.cons_append, List.head?_cons, Option.some.injEq]
      constructor
      · exact fun hc => ⟨[], e, es, s, rfl, rfl, hc ▸ hshown, trivial⟩
      · rintro ⟨before, f, after, v, hes, hbefore, hb, hnone⟩
        cases before with
        | nil =>
          obtain ⟨rfl, rfl⟩ := List.cons.inj hes
          obtain rfl : s = v := Option.some.inj hbefore
          exact Option.some.inj (hshown.symm.trans hb)
        | cons g before =>
          obtain ⟨rfl, -⟩ := List.cons.inj hes
          exact absurd (hshown.symm.trans hnone.1) (Option.some_ne_none c)
    | none =>
      rw [Option.toList_none, List.nil_append, ih hrest]
      constructor
      · rintro ⟨before, f, after, v, rfl, hbefore, hb, hnone⟩
        exact ⟨e :: before, f, after, v, rfl, runFrom_cons_iff.mpr ⟨u, hu, hbefore⟩, hb,
          Along.cons hshown hu hnone⟩
      · rintro ⟨before, f, after, v, hes, hbefore, hb, hnone⟩
        cases before with
        | nil =>
          obtain ⟨rfl, rfl⟩ := List.cons.inj hes
          obtain rfl : s = v := Option.some.inj hbefore
          exact absurd (hb.symm.trans hshown) (Option.some_ne_none b)
        | cons g before =>
          obtain ⟨rfl, rfl⟩ := List.cons.inj hes
          obtain ⟨u', hu', hbefore⟩ := runFrom_cons_iff.mp hbefore
          obtain rfl : u = u' := Option.some.inj (hu.symm.trans hu')
          exact ⟨before, f, after, v, rfl, hbefore, hb, hnone.2 u hu⟩

/-! ## Images of a system -/

section Image

variable {τ : Type*} {step' : τ → ε → Option τ} {observe' : τ → ε → Option β} (f : σ → τ)
  (hstep : ∀ s e, step' (f s) e = (step s e).map f)
include hstep

theorem runFrom_image (s : σ) (es : List ε) :
    runFrom step' (f s) es = (runFrom step s es).map f := by
  induction es generalizing s with
  | nil => rfl
  | cons e es ih =>
    rw [runFrom, runFrom, hstep]
    cases step s e with
    | none => rfl
    | some t => exact ih t

/-- As long as the image shows what its original shows, which may take an invariant that grows
with the run, the runs show the same. -/
theorem observations_image {inv : ℕ → σ → Prop} {bound : ℕ}
    (hinv : ∀ n s e t, inv n s → step s e = some t → inv (n + 1) t)
    (hshown : ∀ n s e, inv n s → n < bound → observe' (f s) e = observe s e) {n : ℕ} {s : σ}
    {es : List ε} (hs : inv n s) (hbound : n + es.length ≤ bound) :
    observations step' observe' (f s) es = observations step observe s es := by
  induction es generalizing n s with
  | nil => rfl
  | cons e es ih =>
    rw [List.length_cons] at hbound
    rw [observations, observations, hstep, hshown n s e hs (by omega)]
    cases hnext : step s e with
    | none => rfl
    | some t =>
      have hrest := ih (hinv n s e t hs hnext) (by omega)
      rw [Option.map_some, Option.elim_some, Option.elim_some, hrest]

end Image

/-! ## Linearised runs -/

theorem forall₂_toList_append {γ : Type*} {R : γ → β → Prop} {a : Option γ} {b : Option β}
    (h : Option.Rel R a b) {xs : List γ} {ys : List β} (hrest : List.Forall₂ R xs ys) :
    List.Forall₂ R (a.toList ++ xs) (b.toList ++ ys) := by
  cases h with
  | none => exact hrest
  | some hR => exact .cons hR hrest

section Linearised

variable {τ ι : Type*} {step' : τ → ι → Option τ} {abs : σ → τ} {event : σ → ε → Option ι}
  {ok : σ → ε → Prop} {inv : σ → Prop}

/-- Each step is in the abstract system the step that the event names, or none at all. -/
structure Linearises (step : σ → ε → Option σ) (step' : τ → ι → Option τ) (abs : σ → τ)
    (event : σ → ε → Option ι) (ok : σ → ε → Prop) (inv : σ → Prop) : Prop where
  keeps : ∀ s e t, inv s → ok s e → step s e = some t → inv t
  named : ∀ s e t, inv s → step s e = some t → ∀ i, event s e = some i →
    step' (abs s) i = some (abs t)
  silent : ∀ s e t, inv s → step s e = some t → event s e = none → abs t = abs s

variable (h : Linearises step step' abs event ok inv)
include h

/-- The events that a run names are a run of the abstract system to the same state. -/
theorem Linearises.runFrom_observations {s t : σ} {es : List ε} (hs : inv s)
    (hok : Along step ok s es) (hrun : runFrom step s es = some t) :
    runFrom step' (abs s) (observations step event s es) = some (abs t) := by
  induction es generalizing s with
  | nil =>
    obtain rfl : s = t := Option.some.inj hrun
    rfl
  | cons e es ih =>
    obtain ⟨u, hu, hrest⟩ := runFrom_cons_iff.mp hrun
    obtain ⟨hoke, hokes⟩ := (along_cons_iff hu).mp hok
    have hrun' := ih (h.keeps s e u hs hoke hu) hokes hrest
    rw [observations_cons hu]
    cases hevent : event s e with
    | none =>
      rw [h.silent s e u hs hu hevent] at hrun'
      exact hrun'
    | some i => exact runFrom_cons_iff.mpr ⟨abs u, h.named s e u hs hu i hevent, hrun'⟩

/-- What related observations show along the run and along its linearisation is related. -/
theorem Linearises.forall₂_observations {γ : Type*} {observe' : τ → ι → Option γ}
    {R : γ → β → Prop}
    (hshown : ∀ s e t, inv s → ok s e → step s e = some t →
      Option.Rel R ((event s e).bind (observe' (abs s))) (observe s e))
    {s t : σ} {es : List ε} (hs : inv s) (hok : Along step ok s es)
    (hrun : runFrom step s es = some t) :
    List.Forall₂ R (observations step' observe' (abs s) (observations step event s es))
      (observations step observe s es) := by
  induction es generalizing s with
  | nil => exact .nil
  | cons e es ih =>
    obtain ⟨u, hu, hrest⟩ := runFrom_cons_iff.mp hrun
    obtain ⟨hoke, hokes⟩ := (along_cons_iff hu).mp hok
    have hrun' := ih (h.keeps s e u hs hoke hu) hokes hrest
    have hrel := hshown s e u hs hoke hu
    rw [observations_cons hu, observations_cons hu]
    cases hevent : event s e with
    | none =>
      rw [h.silent s e u hs hu hevent] at hrun'
      rw [hevent] at hrel
      exact forall₂_toList_append hrel hrun'
    | some i =>
      rw [hevent] at hrel
      rw [Option.toList_some, List.singleton_append,
        observations_cons (h.named s e u hs hu i hevent)]
      exact forall₂_toList_append hrel hrun'

end Linearised

end FittingSchlongs.Foundation.Transition
