import FittingSchlongs.Refresh.Concurrent

/-! # Delivery of refreshes among concurrent callers

As long as an actor's numbers are raised only in the epoch their generation was read
in, the current numbers of the actor are exactly 1 to the last one, each held by one
call or task. The last of them is the refresh that is delivered.
-/

namespace FittingSchlongs.Refresh
open Armor Foundation.Transition

/-! ## Rewriting one entry of a list -/

section Entries

variable {α β : Type*}

theorem perm_of_getElem? {l : List α} {i : ℕ} {x : α} (h : l[i]? = some x) (y : α) :
    l.Perm (x :: l.eraseIdx i) ∧ (l.set i y).Perm (y :: l.eraseIdx i) := by
  obtain ⟨hi, rfl⟩ := List.getElem?_eq_some_iff.mp h
  exact ⟨(List.getElem_cons_eraseIdx_perm hi).symm, List.set_perm_cons_eraseIdx hi y⟩

theorem mem_set_iff {l : List α} {i : ℕ} {x y z : α} (h : l[i]? = some x) (hx : z ≠ x)
    (hy : z ≠ y) : z ∈ l.set i y ↔ z ∈ l := by
  obtain ⟨hl, hset⟩ := perm_of_getElem? h y
  rw [hl.mem_iff, hset.mem_iff, List.mem_cons, List.mem_cons]
  simp only [hx, hy, false_or]

theorem filterMap_set_perm {l : List α} {i : ℕ} {x : α} (h : l[i]? = some x) (y : α)
    (f : α → Option β) :
    ((f x).toList ++ (l.set i y).filterMap f).Perm ((f y).toList ++ l.filterMap f) := by
  obtain ⟨hl, hset⟩ := perm_of_getElem? h y
  have hfront : ∀ z (ys : List α), (z :: ys).filterMap f = (f z).toList ++ ys.filterMap f := by
    intro z ys
    cases hz : f z <;> simp [hz]
  have hleft := (hset.filterMap f).append_left (f x).toList
  have hright := (hl.filterMap f).append_left (f y).toList
  rw [hfront] at hleft hright
  refine hleft.trans (List.Perm.trans ?_ hright.symm)
  rw [← List.append_assoc, ← List.append_assoc]
  exact List.perm_append_comm.append_right _

end Entries

/-! ## Current numbers -/

/-- The task a call is about to add. -/
def Call.token : Call ℕ → Option (RefreshTask ℕ)
  | .bumped task => some task
  | _ => none

/-- The tasks that were numbered: added or about to be. -/
def ConcurrentState.tokens (s : ConcurrentState ℕ) : List (RefreshTask ℕ) :=
  s.calls.filterMap Call.token ++ s.queue.tasks

/-- Some invalidation has raised the generation and not yet cleared the numbers. -/
def ConcurrentState.Pending (s : ConcurrentState ℕ) : Prop := Call.incremented ∈ s.calls

instance (s : ConcurrentState ℕ) : Decidable s.Pending :=
  inferInstanceAs (Decidable (Call.incremented ∈ s.calls))

/-- All calls have finished. -/
def ConcurrentState.Quiescent (s : ConcurrentState ℕ) : Prop := ∀ call ∈ s.calls, call = .finished

instance (s : ConcurrentState ℕ) : Decidable s.Quiescent :=
  inferInstanceAs (Decidable (∀ call ∈ s.calls, _))

/-- The last number of the actor, 0 when there is none. -/
def RefreshQueue.lastNumber (queue : RefreshQueue ℕ) (a : FormID) : ℕ :=
  (queue.actorRefreshGeneration a).getD 0

/-- The numbers the actor's tasks of one generation got. -/
def numbers (a : FormID) (generation : ℕ) (tokens : List (RefreshTask ℕ)) : List ℕ :=
  (tokens.filter (fun t => t.actorFormID = a ∧ t.generation = generation)).map (·.actorGeneration)

theorem numbers_perm (a : FormID) (generation : ℕ) {ts us : List (RefreshTask ℕ)} (h : ts.Perm us) :
    (numbers a generation ts).Perm (numbers a generation us) :=
  (h.filter _).map _

theorem numbers_eq_nil_of_perm {a : FormID} {generation : ℕ} {ts us : List (RefreshTask ℕ)}
    (h : ts.Perm us) (hnil : numbers a generation us = []) : numbers a generation ts = [] := by
  have hperm := numbers_perm a generation h
  rw [hnil] at hperm
  exact List.perm_nil.mp hperm

theorem numbers_cons_other {a : FormID} {generation : ℕ} {t : RefreshTask ℕ} (ts : List (RefreshTask ℕ))
    (h : ¬ (t.actorFormID = a ∧ t.generation = generation)) :
    numbers a generation (t :: ts) = numbers a generation ts := by
  simp [numbers, h]

theorem numbers_cons_self (a : FormID) (generation n : ℕ) (ts : List (RefreshTask ℕ)) :
    numbers a generation (⟨a, generation, n⟩ :: ts) = n :: numbers a generation ts := by
  simp [numbers]

/-- A raise of the actor's number belongs to its epoch: the generation it was read with
is current exactly when no invalidation is between its two steps. -/
def BumpsInEpoch (a : FormID) (s : ConcurrentState ℕ) (e : Event) : Prop :=
  ∀ call generation, e = .bump call → s.calls[call]? = some (.captured a generation) →
    (generation = s.queue.refreshGeneration ↔ ¬ s.Pending)

instance (a : FormID) (s : ConcurrentState ℕ) (e : Event) : Decidable (BumpsInEpoch a s e) :=
  match e with
  | .bump i =>
    match hcall : s.calls[i]? with
    | some (.captured b generation) =>
      decidable_of_iff (b = a → (generation = s.queue.refreshGeneration ↔ ¬ s.Pending)) (by
        constructor
        · rintro h j g ⟨⟩ hj
          obtain ⟨rfl, rfl⟩ := Call.captured.inj (Option.some.inj (hcall.symm.trans hj))
          exact h rfl
        · rintro h rfl
          exact h i generation rfl hcall)
    | some (.bumped _) | some .incremented | some .finished | none =>
      isTrue (by rintro j g ⟨⟩ hj; exact absurd (hcall.symm.trans hj) (by simp))
  | .beginQueue _ | .addTask _ | .beginInvalidate | .clear _ | .runTask _ => isTrue nofun

structure Numbered (a : FormID) (s : ConcurrentState ℕ) : Prop where
  captured_le : ∀ b generation, Call.captured b generation ∈ s.calls →
    generation ≤ s.queue.refreshGeneration
  token_le : ∀ t ∈ s.tokens, t.generation ≤ s.queue.refreshGeneration
  pending : s.Pending → numbers a s.queue.refreshGeneration s.tokens = []
  idle : ¬ s.Pending → (numbers a s.queue.refreshGeneration s.tokens).Perm
    (List.range' 1 (s.queue.lastNumber a))
  executed_lt : ∀ k ∈ s.executed, k < s.queue.tasks.length

section Invariant

variable {a : FormID} {s t : ConcurrentState ℕ}

theorem numbered_initial (a : FormID) : Numbered a ConcurrentState.initial where
  captured_le _ _ h := absurd h List.not_mem_nil
  token_le _ h := absurd h List.not_mem_nil
  pending h := absurd h List.not_mem_nil
  idle _ := List.Perm.refl _
  executed_lt _ h := absurd h List.not_mem_nil

theorem numbered_beginQueue {b : FormID} (hs : Numbered a s)
    (h : step s (.beginQueue b) = some t) : Numbered a t := by
  obtain rfl := step_beginQueue h
  have htokens : ConcurrentState.tokens { s with
      calls := s.calls ++ [.captured b s.queue.refreshGeneration] } = s.tokens := by
    simp [ConcurrentState.tokens, Call.token]
  have hpending : ConcurrentState.Pending { s with
      calls := s.calls ++ [.captured b s.queue.refreshGeneration] } ↔ s.Pending := by
    simp [ConcurrentState.Pending]
  constructor
  · intro c generation hmem
    rcases List.mem_append.mp hmem with hmem | hmem
    · exact hs.captured_le c generation hmem
    · obtain ⟨-, rfl⟩ := Call.captured.inj (List.mem_singleton.mp hmem)
      exact le_refl _
  · rw [htokens]
    exact hs.token_le
  · rw [htokens, hpending]
    exact hs.pending
  · rw [htokens, hpending]
    exact hs.idle
  · exact hs.executed_lt

theorem tokens_set_perm {i : ℕ} {x : Call ℕ} (h : s.calls[i]? = some x) (y : Call ℕ)
    {queue : RefreshQueue ℕ} (hqueue : queue.tasks = s.queue.tasks) :
    (x.token.toList ++ ConcurrentState.tokens { s with
        queue := queue
        calls := s.calls.set i y }).Perm (y.token.toList ++ s.tokens) := by
  simp only [ConcurrentState.tokens]
  rw [hqueue, ← List.append_assoc, ← List.append_assoc]
  exact (filterMap_set_perm h y Call.token).append_right s.queue.tasks

theorem pending_set_iff {i : ℕ} {x : Call ℕ} (h : s.calls[i]? = some x) {y : Call ℕ}
    (hx : Call.incremented ≠ x) (hy : Call.incremented ≠ y) (queue : RefreshQueue ℕ) :
    ConcurrentState.Pending { s with queue := queue, calls := s.calls.set i y } ↔ s.Pending :=
  mem_set_iff h hx hy

theorem captured_of_set {i : ℕ} {y : Call ℕ} {b : FormID} {generation : ℕ}
    (hmem : Call.captured b generation ∈ s.calls.set i y) (hy : Call.captured b generation ≠ y) :
    Call.captured b generation ∈ s.calls :=
  (List.mem_or_eq_of_mem_set hmem).resolve_right hy

theorem lastNumber_bump_self (queue : RefreshQueue ℕ) (b : FormID) :
    (queueActorRefreshGeneration queue b).2.lastNumber b = queue.lastNumber b + 1 := by
  simp [queueActorRefreshGeneration, RefreshQueue.lastNumber, RefreshQueue.nextActorGeneration]

theorem lastNumber_bump_other (queue : RefreshQueue ℕ) {b : FormID} (h : a ≠ b) :
    (queueActorRefreshGeneration queue b).2.lastNumber a = queue.lastNumber a := by
  simp [queueActorRefreshGeneration, RefreshQueue.lastNumber, h]

theorem numbered_bump {i : ℕ} (hs : Numbered a s) (hepoch : BumpsInEpoch a s (.bump i))
    (h : step s (.bump i) = some t) : Numbered a t := by
  obtain ⟨b, g, hcall, rfl⟩ := step_bump h
  have htokens : (ConcurrentState.tokens { s with
      queue := (queueActorRefreshGeneration s.queue b).2
      calls := s.calls.set i (.bumped ⟨b, g, s.queue.nextActorGeneration b⟩) }).Perm
        (⟨b, g, s.queue.nextActorGeneration b⟩ :: s.tokens) := tokens_set_perm hcall _ rfl
  have hpending := pending_set_iff hcall (y := .bumped ⟨b, g, s.queue.nextActorGeneration b⟩)
    nofun nofun (queueActorRefreshGeneration s.queue b).2
  constructor
  · intro c generation hmem
    exact hs.captured_le c generation (captured_of_set hmem nofun)
  · intro u hu
    rcases List.mem_cons.mp (htokens.mem_iff.mp hu) with rfl | hu
    · exact hs.captured_le b g (List.mem_of_getElem? hcall)
    · exact hs.token_le u hu
  · rw [hpending]
    intro hp
    have hstale : ¬ (b = a ∧ g = s.queue.refreshGeneration) := by
      rintro ⟨rfl, rfl⟩
      exact (hepoch i _ rfl hcall).mp rfl hp
    apply numbers_eq_nil_of_perm htokens
    rw [numbers_cons_other _ hstale]
    exact hs.pending hp
  · rw [hpending]
    intro hidle
    have hperm := numbers_perm a s.queue.refreshGeneration htokens
    by_cases hb : b = a
    · -- A raise outside invalidations hands out the next number of the current generation.
      subst hb
      obtain rfl : g = s.queue.refreshGeneration := (hepoch i g rfl hcall).mpr hidle
      rw [numbers_cons_self] at hperm
      change (numbers b s.queue.refreshGeneration _).Perm _
      rw [lastNumber_bump_self, List.range'_concat, one_mul, add_comm 1]
      exact hperm.trans (((hs.idle hidle).cons _).trans (List.perm_append_singleton _ _).symm)
    · rw [numbers_cons_other _ fun h => hb h.1] at hperm
      change (numbers a s.queue.refreshGeneration _).Perm _
      rw [lastNumber_bump_other _ (Ne.symm hb)]
      exact hperm.trans (hs.idle hidle)
  · exact hs.executed_lt

theorem numbered_addTask {i : ℕ} (hs : Numbered a s) (h : step s (.addTask i) = some t) :
    Numbered a t := by
  obtain ⟨task, hcall, rfl⟩ := step_addTask h
  have htokens : (ConcurrentState.tokens { s with
      queue := addTask s.queue task
      calls := s.calls.set i .finished }).Perm s.tokens := by
    have hset := tokens_set_perm hcall .finished (rfl : s.queue.tasks = _)
    refine List.Perm.trans ?_ hset
    simp only [ConcurrentState.tokens, addTask, Call.token, Option.toList_some]
    rw [← List.append_assoc, List.singleton_append]
    exact List.perm_append_singleton task _
  have hpending := pending_set_iff hcall (y := .finished) nofun nofun
    (addTask s.queue task)
  constructor
  · intro c generation hmem
    exact hs.captured_le c generation (captured_of_set hmem nofun)
  · intro u hu
    exact hs.token_le u (htokens.mem_iff.mp hu)
  · rw [hpending]
    intro hp
    exact numbers_eq_nil_of_perm htokens (hs.pending hp)
  · rw [hpending]
    intro hidle
    exact (numbers_perm a _ htokens).trans (hs.idle hidle)
  · intro k hk
    have hlt := hs.executed_lt k hk
    simp only [addTask, List.length_append, List.length_singleton]
    omega

theorem numbers_eq_nil {generation : ℕ} {tokens : List (RefreshTask ℕ)}
    (h : ∀ t ∈ tokens, t.generation < generation) : numbers a generation tokens = [] := by
  rw [numbers, List.map_eq_nil_iff, List.filter_eq_nil_iff]
  intro t ht
  have hlt := h t ht
  simp only [decide_eq_true_eq, not_and]
  omega

theorem numbered_beginInvalidate (hs : Numbered a s) (h : step s .beginInvalidate = some t) :
    Numbered a t := by
  obtain rfl := step_beginInvalidate h
  have htokens : ConcurrentState.tokens { s with
      queue := incrementRefreshGeneration s.queue
      calls := s.calls ++ [.incremented] } = s.tokens := by
    simp [ConcurrentState.tokens, Call.token, incrementRefreshGeneration]
  have hpending : ConcurrentState.Pending { s with
      queue := incrementRefreshGeneration s.queue
      calls := s.calls ++ [.incremented] } := by
    simp [ConcurrentState.Pending]
  constructor
  · intro c generation hmem
    have hmem' : Call.captured c generation ∈ s.calls := by simpa using hmem
    exact Nat.le_succ_of_le (hs.captured_le c generation hmem')
  · rw [htokens]
    intro u hu
    exact Nat.le_succ_of_le (hs.token_le u hu)
  · intro _
    rw [htokens]
    exact numbers_eq_nil fun u hu => Nat.lt_succ_of_le (hs.token_le u hu)
  · intro hidle
    exact absurd hpending hidle
  · exact hs.executed_lt

theorem numbered_clear {i : ℕ} (hs : Numbered a s) (h : step s (.clear i) = some t) :
    Numbered a t := by
  obtain ⟨hcall, rfl⟩ := step_clear h
  have htokens : (ConcurrentState.tokens { s with
      queue := clearQueuedActorRefreshes s.queue
      calls := s.calls.set i .finished }).Perm s.tokens := tokens_set_perm hcall .finished rfl
  have hnone : numbers a s.queue.refreshGeneration (ConcurrentState.tokens { s with
      queue := clearQueuedActorRefreshes s.queue
      calls := s.calls.set i .finished }) = [] :=
    numbers_eq_nil_of_perm htokens (hs.pending (List.mem_of_getElem? hcall))
  constructor
  · intro c generation hmem
    exact hs.captured_le c generation (captured_of_set hmem nofun)
  · intro u hu
    exact hs.token_le u (htokens.mem_iff.mp hu)
  · intro _
    exact hnone
  · intro _
    change (numbers a s.queue.refreshGeneration _).Perm _
    rw [hnone]
    exact List.Perm.refl _
  · exact hs.executed_lt

theorem numbered_runTask {k : ℕ} (hs : Numbered a s) (h : step s (.runTask k) = some t) :
    Numbered a t := by
  obtain ⟨hlt, -, rfl⟩ := step_runTask h
  constructor
  · exact hs.captured_le
  · exact hs.token_le
  · exact hs.pending
  · exact hs.idle
  · intro j hj
    rcases List.mem_cons.mp hj with rfl | hj
    · exact hlt
    · exact hs.executed_lt j hj

theorem numbered_step {e : Event} (hepoch : BumpsInEpoch a s e) (hs : Numbered a s)
    (h : step s e = some t) : Numbered a t := by
  cases e with
  | beginQueue b => exact numbered_beginQueue hs h
  | bump i => exact numbered_bump hs hepoch h
  | addTask i => exact numbered_addTask hs h
  | beginInvalidate => exact numbered_beginInvalidate hs h
  | clear i => exact numbered_clear hs h
  | runTask k => exact numbered_runTask hs h

end Invariant

/-! ## After a call of the last epoch has begun -/

/-- The step begins no invalidation and runs no task of the actor. -/
def LeavesAlone (a : FormID) (s : ConcurrentState ℕ) (e : Event) : Prop :=
  e ≠ .beginInvalidate ∧
    ∀ k task, e = .runTask k → s.queue.tasks[k]? = some task → task.actorFormID ≠ a

instance (a : FormID) (s : ConcurrentState ℕ) (e : Event) : Decidable (LeavesAlone a s e) :=
  match e with
  | .runTask k => decidable_of_iff (∀ task ∈ s.queue.tasks[k]?, task.actorFormID ≠ a) (by
      constructor
      · rintro h
        refine ⟨nofun, ?_⟩
        rintro _ task ⟨⟩ htask
        exact h task htask
      · exact fun h task htask => h.2 k task rfl htask)
  | .beginInvalidate => isFalse fun h => h.1 rfl
  | .beginQueue _ | .bump _ | .addTask _ | .clear _ => isTrue ⟨nofun, nofun⟩

/-- What holds since a call for the actor, at the position `call`, began in the state `s₀`. -/
structure Since (a : FormID) (s₀ : ConcurrentState ℕ) (call : ℕ) (s : ConcurrentState ℕ) : Prop where
  generation_eq : s.queue.refreshGeneration = s₀.queue.refreshGeneration
  idle : ¬ s.Pending
  tasks : s₀.queue.tasks <+: s.queue.tasks
  last_le : s₀.queue.lastNumber a ≤ s.queue.lastNumber a
  raised : (∃ generation, s.calls[call]? = some (.captured a generation)) ∨
    s₀.queue.lastNumber a < s.queue.lastNumber a
  executed : ∀ k ∈ s.executed, k ∈ s₀.executed ∨
    ∃ task, s.queue.tasks[k]? = some task ∧ task.actorFormID ≠ a

section Since

variable {a : FormID} {s₀ s t : ConcurrentState ℕ} {call : ℕ}

theorem since_beginQueue {b : FormID} (hs : Since a s₀ call s) (h : step s (.beginQueue b) = some t) :
    Since a s₀ call t := by
  obtain rfl := step_beginQueue h
  constructor
  · exact hs.generation_eq
  · have hidle := hs.idle
    simpa [ConcurrentState.Pending] using hidle
  · exact hs.tasks
  · exact hs.last_le
  · apply hs.raised.imp_left
    rintro ⟨generation, hcall⟩
    have hlt := (List.getElem?_eq_some_iff.mp hcall).1
    exact ⟨generation, by rw [List.getElem?_append_left hlt, hcall]⟩
  · exact hs.executed

theorem since_bump {i : ℕ} (hs : Since a s₀ call s) (h : step s (.bump i) = some t) :
    Since a s₀ call t := by
  obtain ⟨b, g, hcall, rfl⟩ := step_bump h
  have hlast : (queueActorRefreshGeneration s.queue b).2.lastNumber a =
      if a = b then s.queue.lastNumber a + 1 else s.queue.lastNumber a := by
    split_ifs with hb
    · subst hb
      exact lastNumber_bump_self s.queue a
    · exact lastNumber_bump_other s.queue hb
  have hle := hs.last_le
  constructor
  · exact hs.generation_eq
  · exact fun hpending => hs.idle ((pending_set_iff hcall (by nofun) (by nofun) _).mp hpending)
  · exact hs.tasks
  · change _ ≤ (queueActorRefreshGeneration s.queue b).2.lastNumber a
    rw [hlast]
    split_ifs <;> omega
  · change _ ∨ _ < (queueActorRefreshGeneration s.queue b).2.lastNumber a
    rw [hlast]
    by_cases hi : i = call
    · rcases hs.raised with ⟨generation, hraised⟩ | hraised
      · rw [← hi, hcall] at hraised
        obtain ⟨rfl, -⟩ := Call.captured.inj (Option.some.inj hraised)
        right
        rw [if_pos rfl]
        omega
      · right
        split_ifs <;> omega
    · rcases hs.raised with ⟨generation, hraised⟩ | hraised
      · left
        exact ⟨generation, by rw [List.getElem?_set_ne hi, hraised]⟩
      · right
        split_ifs <;> omega
  · exact hs.executed

theorem since_addTask {i : ℕ} (hs : Since a s₀ call s) (h : step s (.addTask i) = some t) :
    Since a s₀ call t := by
  obtain ⟨task, hcall, rfl⟩ := step_addTask h
  constructor
  · exact hs.generation_eq
  · exact fun hpending => hs.idle ((pending_set_iff hcall (by nofun) (by nofun) _).mp hpending)
  · exact hs.tasks.trans (List.prefix_append _ _)
  · exact hs.last_le
  · apply hs.raised.imp_left
    rintro ⟨generation, hraised⟩
    have hi : i ≠ call := by
      rintro rfl
      rw [hcall] at hraised
      exact nomatch Option.some.inj hraised
    exact ⟨generation, by rw [List.getElem?_set_ne hi, hraised]⟩
  · intro k hk
    apply (hs.executed k hk).imp_right
    rintro ⟨other, hother, hne⟩
    have hlt := (List.getElem?_eq_some_iff.mp hother).1
    exact ⟨other, by rw [addTask, List.getElem?_append_left hlt, hother], hne⟩

theorem since_runTask {k : ℕ} (hs : Since a s₀ call s) (halone : LeavesAlone a s (.runTask k))
    (h : step s (.runTask k) = some t) : Since a s₀ call t := by
  obtain ⟨hlt, -, rfl⟩ := step_runTask h
  constructor
  · exact hs.generation_eq
  · exact hs.idle
  · exact hs.tasks
  · exact hs.last_le
  · exact hs.raised
  · intro j hj
    rcases List.mem_cons.mp hj with rfl | hj
    · have htask := List.getElem?_eq_getElem hlt
      exact Or.inr ⟨_, htask, halone.2 j _ rfl htask⟩
    · exact hs.executed j hj

theorem since_step {e : Event} (halone : LeavesAlone a s e) (hs : Since a s₀ call s)
    (h : step s e = some t) : Since a s₀ call t := by
  cases e with
  | beginQueue b => exact since_beginQueue hs h
  | bump i => exact since_bump hs h
  | addTask i => exact since_addTask hs h
  | beginInvalidate => exact absurd rfl halone.1
  | clear i => exact absurd (List.mem_of_getElem? (step_clear h).1) hs.idle
  | runTask k => exact since_runTask hs halone h

theorem since_begin (hidle : ¬ s₀.Pending) (h : step s₀ (.beginQueue a) = some t) :
    Since a s₀ s₀.calls.length t := by
  obtain rfl := step_beginQueue h
  constructor
  · rfl
  · simpa [ConcurrentState.Pending] using hidle
  · exact List.prefix_refl _
  · exact le_refl _
  · exact Or.inl ⟨s₀.queue.refreshGeneration, by simp⟩
  · exact fun k hk => Or.inl hk

end Since

/-! ## Delivery -/

/-- A task in the queue that has not run, belongs to the actor and passes its guard. -/
def Deliverable (s : ConcurrentState ℕ) (a : FormID) (k : ℕ) : Prop :=
  k ∉ s.executed ∧ ∃ task, s.queue.tasks[k]? = some task ∧ task.actorFormID = a ∧
    taskPasses s.queue task = true

section Delivery

variable {a : FormID} {s : ConcurrentState ℕ}

theorem tokens_of_quiescent (h : s.Quiescent) : s.tokens = s.queue.tasks := by
  have hnone : s.calls.filterMap Call.token = [] := by
    rw [List.filterMap_eq_nil_iff]
    intro call hcall
    rw [h call hcall]
    rfl
  rw [ConcurrentState.tokens, hnone, List.nil_append]

theorem idle_of_quiescent (h : s.Quiescent) : ¬ s.Pending := fun hp =>
  nomatch h _ hp

theorem mem_numbers_iff {generation n : ℕ} {tokens : List (RefreshTask ℕ)} :
    n ∈ numbers a generation tokens ↔ ⟨a, generation, n⟩ ∈ tokens := by
  simp only [numbers, List.mem_map, List.mem_filter, decide_eq_true_eq]
  constructor
  · rintro ⟨⟨b, g, m⟩, ⟨hmem, rfl, rfl⟩, rfl⟩
    exact hmem
  · intro hmem
    exact ⟨_, ⟨hmem, rfl, rfl⟩, rfl⟩

theorem task_unique {generation n i j : ℕ} {tasks : List (RefreshTask ℕ)}
    (hnodup : (numbers a generation tasks).Nodup) (hi : tasks[i]? = some ⟨a, generation, n⟩)
    (hj : tasks[j]? = some ⟨a, generation, n⟩) : i = j := by
  rw [numbers, List.Nodup, List.pairwise_map, List.pairwise_filter,
    List.pairwise_iff_getElem] at hnodup
  obtain ⟨hilt, hi⟩ := List.getElem?_eq_some_iff.mp hi
  obtain ⟨hjlt, hj⟩ := List.getElem?_eq_some_iff.mp hj
  by_contra hne
  rcases Nat.lt_or_gt_of_ne hne with hlt | hlt
  · exact hnodup i j hilt hjlt hlt (by simp [hi]) (by simp [hj]) (by rw [hi, hj])
  · exact hnodup j i hjlt hilt hlt (by simp [hj]) (by simp [hi]) (by rw [hi, hj])

theorem deliverable_iff {k : ℕ} :
    Deliverable s a k ↔ k ∉ s.executed ∧ ∃ n, s.queue.actorRefreshGeneration a = some n ∧
      s.queue.tasks[k]? = some ⟨a, s.queue.refreshGeneration, n⟩ := by
  simp only [Deliverable, taskPasses_iff]
  apply and_congr_right
  intro _
  constructor
  · rintro ⟨⟨b, g, n⟩, htask, rfl, rfl, hlast⟩
    exact ⟨n, hlast, htask⟩
  · rintro ⟨n, hlast, htask⟩
    exact ⟨_, htask, rfl, rfl, hlast⟩

/-- A task with a number given out after the call began has not run: one that ran earlier has
one of the numbers given out before. -/
theorem Since.not_executed {s₀ : ConcurrentState ℕ} {call k n : ℕ} (hsince : Since a s₀ call s)
    (hn₀ : Numbered a s₀) (hidle : ¬ s₀.Pending)
    (hk : s.queue.tasks[k]? = some ⟨a, s.queue.refreshGeneration, n⟩)
    (hnew : s₀.queue.lastNumber a < n) : k ∉ s.executed := by
  intro hexecuted
  rcases hsince.executed k hexecuted with hold | ⟨task, htask, hne⟩
  · have hlt := hn₀.executed_lt k hold
    have hk₀ : s₀.queue.tasks[k]? = some ⟨a, s₀.queue.refreshGeneration, n⟩ := by
      rw [← hsince.generation_eq, ← hk]
      obtain ⟨added, hadded⟩ := hsince.tasks
      rw [← hadded, List.getElem?_append_left hlt]
    have hmem₀ : n ∈ numbers a s₀.queue.refreshGeneration s₀.tokens :=
      mem_numbers_iff.mpr (List.mem_append_right _ (List.mem_of_getElem? hk₀))
    rw [(hn₀.idle hidle).mem_iff, List.mem_range'_1] at hmem₀
    omega
  · rw [hk] at htask
    exact hne (Option.some.inj htask ▸ rfl)

/-- When all calls have finished, an actor for which a call began after the last invalidation
and none of whose tasks has run since has exactly one refresh to be delivered, if its
numbers were raised in their own epoch. -/
theorem refresh_delivered {before after : List Event} {s₀ : ConcurrentState ℕ}
    (hbefore : runFrom step ConcurrentState.initial before = some s₀) (hidle : ¬ s₀.Pending)
    (hafter : runFrom step s₀ (.beginQueue a :: after) = some s)
    (halone : Along step (LeavesAlone a) s₀ (.beginQueue a :: after)) (hquiet : s.Quiescent)
    (hepoch : Along step (BumpsInEpoch a) ConcurrentState.initial
      (before ++ .beginQueue a :: after)) :
    ∃! k, Deliverable s a k := by
  obtain ⟨hepochBefore, hepochAfter⟩ := hepoch.of_append hbefore
  have hn₀ : Numbered a s₀ := invariant_of_along (fun _ _ _ h hs hstep => numbered_step h hs hstep)
    hepochBefore (numbered_initial a) hbefore
  have hn : Numbered a s := invariant_of_along (fun _ _ _ h hs hstep => numbered_step h hs hstep)
    hepochAfter hn₀ hafter
  obtain ⟨s₁, hbegin, hrest⟩ := runFrom_cons_iff.mp hafter
  have hsince : Since a s₀ s₀.calls.length s := invariant_of_along
    (fun _ _ _ h hs hstep => since_step h hs hstep) (halone.2 s₁ hbegin)
    (since_begin hidle hbegin) hrest
  -- The call has finished, so it has raised the actor's number.
  have hraised : s₀.queue.lastNumber a < s.queue.lastNumber a := by
    rcases hsince.raised with ⟨generation, hcall⟩ | hraised
    · exact nomatch hquiet _ (List.mem_of_getElem? hcall)
    · exact hraised
  have hnumbers := hn.idle (idle_of_quiescent hquiet)
  rw [tokens_of_quiescent hquiet] at hnumbers
  obtain ⟨n, hlast⟩ : ∃ n, s.queue.actorRefreshGeneration a = some n := by
    apply Option.ne_none_iff_exists'.mp
    intro hnone
    rw [RefreshQueue.lastNumber, RefreshQueue.lastNumber, hnone] at hraised
    exact Nat.not_lt_zero _ hraised
  have hn_eq : s.queue.lastNumber a = n := by rw [RefreshQueue.lastNumber, hlast]; rfl
  have hmem : (⟨a, s.queue.refreshGeneration, n⟩ : RefreshTask ℕ) ∈ s.queue.tasks := by
    rw [← mem_numbers_iff, hnumbers.mem_iff, hn_eq, List.mem_range'_1]
    omega
  obtain ⟨k, hk⟩ := List.mem_iff_getElem?.mp hmem
  refine ⟨k, deliverable_iff.mpr ⟨?_, n, hlast, hk⟩, fun j hj => ?_⟩
  · exact hsince.not_executed hn₀ hidle hk (hn_eq ▸ hraised)
  · obtain ⟨-, m, hm, hj⟩ := deliverable_iff.mp hj
    obtain rfl : n = m := Option.some.inj (hlast.symm.trans hm)
    exact task_unique (hnumbers.nodup_iff.mpr List.nodup_range') hj hk

end Delivery

/-- A call for actor 1 that overlaps an invalidation. -/
def overlappedEvents : List Event :=
  [.beginQueue 1, .bump 0, .beginInvalidate, .addTask 0, .clear 1]

/-- Behind the beginning of a call for actor 1, another call for it and one for actor 2, whose
task runs in between. -/
def contestedEvents : List Event :=
  [.beginQueue 2, .beginQueue 1, .bump 4, .bump 3, .addTask 3, .runTask 1, .bump 2, .addTask 2,
    .addTask 4]

/-- Of the two calls that began after the invalidation the one that was numbered last is
delivered. -/
theorem refresh_delivered_contested :
    ∃ s, runFrom step ConcurrentState.initial (overlappedEvents ++ .beginQueue 1 :: contestedEvents) =
        some s ∧
      (∃! k, Deliverable s 1 k) ∧ Deliverable s 1 2 := by
  have hdelivered := refresh_delivered (a := 1)
    (rfl : runFrom step ConcurrentState.initial overlappedEvents = some _) (by decide)
    (rfl : runFrom step _ (.beginQueue 1 :: contestedEvents) = some _) (by decide) (by decide)
    (by decide)
  refine ⟨_, rfl, hdelivered, ?_⟩
  exact deliverable_iff.mpr ⟨by decide, 2, rfl, rfl⟩

/-- A call that read its generation before an invalidation and raises the number after it
strands the refresh of a later call. -/
theorem straddling_call_strands_refresh :
    ¬ ∀ (a : FormID) (before after : List Event) (s₀ s : ConcurrentState ℕ),
      runFrom step ConcurrentState.initial before = some s₀ → ¬ s₀.Pending →
      runFrom step s₀ (.beginQueue a :: after) = some s →
      Along step (LeavesAlone a) s₀ (.beginQueue a :: after) → s.Quiescent →
      ∃! k, Deliverable s a k := by
  intro h
  obtain ⟨k, hk, -⟩ := h 1 [.beginQueue 1, .beginInvalidate, .clear 1]
    [.bump 2, .bump 0, .addTask 2, .addTask 0] _ _ rfl (by decide) rfl (by decide) (by decide)
  obtain ⟨-, n, hlast, htask⟩ := deliverable_iff.mp hk
  have hstranded : ∀ n ∈ some 2, (⟨1, 1, n⟩ : RefreshTask ℕ) ∉
      [(⟨1, 1, 1⟩ : RefreshTask ℕ), ⟨1, 0, 2⟩] := by decide
  exact hstranded n hlast (List.mem_of_getElem? htask)

end FittingSchlongs.Refresh
