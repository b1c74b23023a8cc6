import FittingSchlongs.Refresh.Driven

/-! # Coalescing of queued refreshes

With each call atomic, of the requests for one actor since the last invalidation only the
latest counts, whatever order the tasks run in.
-/

namespace FittingSchlongs.Refresh
open Armor Foundation.Transition

inductive Operation where
  | queueRefreshFor (actor : Actor)
  | invalidateQueuedRefreshes
  | runTask (task : ℕ)
  deriving DecidableEq

structure AtomicState where
  queue : RefreshQueue ℕ
  /-- Positions of the tasks that have run. -/
  executed : List ℕ

def AtomicState.initial : AtomicState := ⟨.empty, []⟩

/-- Requests are for actors with a form ID, with the task interface there; tasks run once, in
any order. -/
def atomicStep (s : AtomicState) : Operation → Option AtomicState
  | .queueRefreshFor actor =>
    if actor.formID = 0 then none
    else some { s with queue := queueRefreshFor true s.queue (some actor) }
  | .invalidateQueuedRefreshes => some { s with queue := invalidateQueuedRefreshes s.queue }
  | .runTask task =>
    if task < s.queue.tasks.length ∧ task ∉ s.executed then
      some { s with executed := task :: s.executed }
    else none

/-- The operation ends the validity of the actor's latest request. -/
def Supersedes (a : FormID) : Operation → Prop
  | .queueRefreshFor actor => actor.formID = a
  | .invalidateQueuedRefreshes => True
  | .runTask _ => False

/-! ## The operations drive the queue -/

def Operation.effect : Operation → QueueEffect
  | .queueRefreshFor actor => ⟨false, some actor, true⟩
  | .invalidateQueuedRefreshes => ⟨true, none, true⟩
  | .runTask _ => ⟨false, none, true⟩

def Operation.ran : Operation → Option ℕ
  | .runTask task => some task
  | _ => none

variable {s t : AtomicState} {ops : List Operation}

theorem atomicStep_queueRefreshFor {actor : Actor}
    (h : atomicStep s (.queueRefreshFor actor) = some t) :
    actor.formID ≠ 0 ∧ t = { s with queue := queueRefreshFor true s.queue (some actor) } := by
  simp only [atomicStep] at h
  split_ifs at h with hid
  exact ⟨hid, (Option.some.inj h).symm⟩

theorem atomicStep_runTask {task : ℕ} (h : atomicStep s (.runTask task) = some t) :
    task < s.queue.tasks.length ∧ t = { s with executed := task :: s.executed } := by
  simp only [atomicStep] at h
  split_ifs at h with hguard
  exact ⟨hguard.1, (Option.some.inj h).symm⟩

theorem atomic_drives : Drives atomicStep AtomicState.queue AtomicState.executed
    (fun _ op => op.effect) Operation.ran where
  queue_step {s op t} h := by
    cases op with
    | queueRefreshFor actor =>
      obtain ⟨-, rfl⟩ := atomicStep_queueRefreshFor h
      rfl
    | invalidateQueuedRefreshes =>
      obtain rfl := Option.some.inj h
      rfl
    | runTask task =>
      obtain ⟨-, rfl⟩ := atomicStep_runTask h
      rfl
  executed_step {s op t} h := by
    cases op with
    | queueRefreshFor actor =>
      obtain ⟨-, rfl⟩ := atomicStep_queueRefreshFor h
      rfl
    | invalidateQueuedRefreshes =>
      obtain rfl := Option.some.inj h
      rfl
    | runTask task =>
      obtain ⟨-, rfl⟩ := atomicStep_runTask h
      rfl
  ran_lt {s op t k} h hran := by
    cases op with
    | queueRefreshFor actor => exact absurd hran (Option.some_ne_none k).symm
    | invalidateQueuedRefreshes => exact absurd hran (Option.some_ne_none k).symm
    | runTask task =>
      obtain rfl : task = k := Option.some.inj hran
      exact (atomicStep_runTask h).1

theorem asked_effect_iff {op : Operation} {a : FormID} :
    op.effect.asked = some a ↔ ∃ actor, op = .queueRefreshFor actor ∧ actor.formID ≠ 0 ∧
      actor.formID = a := by
  rw [QueueEffect.asked_eq_some_iff]
  cases op <;> simp [Operation.effect]

theorem supersedes_effect_iff {op : Operation} {a : FormID} (ha : a ≠ 0) :
    op.effect.Supersedes a ↔ Supersedes a op := by
  rw [QueueEffect.Supersedes, asked_effect_iff]
  cases op with
  | queueRefreshFor actor =>
    simp only [Operation.effect, Supersedes, Bool.false_eq_true, false_or,
      Operation.queueRefreshFor.injEq, exists_eq_left']
    exact ⟨fun h => h.2, fun h => ⟨h ▸ ha, h⟩⟩
  | invalidateQueuedRefreshes => simp [Operation.effect, Supersedes]
  | runTask task => simp [Operation.effect, Supersedes]

/-! ## Runs -/

def Operation.isRequest : Operation → Bool
  | .queueRefreshFor _ => true
  | .invalidateQueuedRefreshes => false
  | .runTask _ => false

/-- The position of the task that a request after these operations adds. -/
def requestCount (ops : List Operation) : ℕ := ops.countP Operation.isRequest

theorem tasks_length_run (hrun : runFrom atomicStep s ops = some t) :
    t.queue.tasks.length = s.queue.tasks.length + requestCount ops := by
  induction ops generalizing s with
  | nil =>
    obtain rfl : s = t := Option.some.inj hrun
    rfl
  | cons op ops ih =>
    obtain ⟨u, hu, hrest⟩ := runFrom_cons_iff.mp hrun
    have hlength := atomic_drives.length_step hu
    rw [ih hrest, requestCount, requestCount, List.countP_cons]
    cases op with
    | queueRefreshFor actor =>
      have hasked : (Operation.queueRefreshFor actor).effect.asked = some actor.formID :=
        asked_effect_iff.mpr ⟨actor, rfl, (atomicStep_queueRefreshFor hu).1, rfl⟩
      rw [hasked] at hlength
      have hadded : u.queue.tasks.length = s.queue.tasks.length + 1 := hlength
      simp only [hadded, Operation.isRequest, ↓reduceIte]
      omega
    | invalidateQueuedRefreshes =>
      have hkept : u.queue.tasks.length = s.queue.tasks.length := hlength
      simp [hkept, Operation.isRequest]
    | runTask task =>
      have hkept : u.queue.tasks.length = s.queue.tasks.length := hlength
      simp [hkept, Operation.isRequest]

theorem tasks_length_reached (hrun : runFrom atomicStep .initial ops = some s) :
    s.queue.tasks.length = requestCount ops :=
  (tasks_length_run hrun).trans (Nat.zero_add _)

theorem refines_reached (hrun : runFrom atomicStep .initial ops = some s) :
    ∃ slots, Refines slots s.queue :=
  atomic_drives.refines_run ⟨_, refines_initial⟩ hrun

/-- The task of a request passes until an operation supersedes the request. -/
theorem request_passes_iff {before after : List Operation} {actor : Actor}
    (hrun : runFrom atomicStep .initial (before ++ .queueRefreshFor actor :: after) = some s) :
    ∃ task, s.queue.tasks[requestCount before]? = some task ∧
      task.actorFormID = actor.formID ∧
      (taskPasses s.queue task = true ↔ ∀ op ∈ after, ¬Supersedes actor.formID op) := by
  obtain ⟨s₁, hbefore, hrest⟩ := runFrom_append_iff.mp hrun
  obtain ⟨s₂, hrequest, hafter⟩ := runFrom_cons_iff.mp hrest
  have hid := (atomicStep_queueRefreshFor hrequest).1
  obtain ⟨task, htask, hsame, hpasses⟩ := atomic_drives.request_passes_iff
    (refines_reached hbefore) (asked_effect_iff.mpr ⟨actor, rfl, hid, rfl⟩) rfl hrequest hafter
  rw [tasks_length_reached hbefore] at htask
  refine ⟨task, htask, hsame, ?_⟩
  rw [hpasses, along_iff_forall (p := fun op => ¬op.effect.Supersedes actor.formID) hafter]
  simp only [supersedes_effect_iff hid]

theorem executed_after_request {before after : List Operation} {actor : Actor}
    (hrun : runFrom atomicStep .initial (before ++ .queueRefreshFor actor :: after) = some s)
    (hexecuted : requestCount before ∈ s.executed) :
    ∃ earlier later t, after = earlier ++ .runTask (requestCount before) :: later ∧
      runFrom atomicStep .initial (before ++ .queueRefreshFor actor :: earlier) = some t ∧
      runFrom atomicStep t (.runTask (requestCount before) :: later) = some s := by
  obtain ⟨s₁, hbefore, hrest⟩ := runFrom_append_iff.mp hrun
  obtain ⟨s₂, hrequest, hafter⟩ := runFrom_cons_iff.mp hrest
  have hs₁ : ∀ k ∈ s₁.executed, k < s₁.queue.tasks.length :=
    atomic_drives.executed_lt_run (fun _ h => absurd h List.not_mem_nil) hbefore
  have hfresh := atomic_drives.not_executed_step hs₁ hrequest
  rw [tasks_length_reached hbefore] at hfresh
  obtain ⟨t, op, v, later, hin, hran⟩ := atomic_drives.exists_ran hafter hfresh hexecuted
  obtain ⟨earlier, rfl, hearlier, hstep⟩ := id hin
  obtain rfl : op = .runTask (requestCount before) := by
    cases op with
    | queueRefreshFor actor => exact absurd hran (Option.some_ne_none _).symm
    | invalidateQueuedRefreshes => exact absurd hran (Option.some_ne_none _).symm
    | runTask task => exact congrArg Operation.runTask (Option.some.inj hran)
  refine ⟨earlier, later, t, rfl, ?_, ?_⟩
  · exact runFrom_append_iff.mpr ⟨s₁, hbefore, runFrom_cons_iff.mpr ⟨s₂, hrequest, hearlier⟩⟩
  · exact runFrom_cons_iff.mpr ⟨v, hstep, hin.runFrom_after hafter⟩

theorem exists_latest_request {before after : List Operation} {actor : Actor}
    (hrun : runFrom atomicStep .initial (before ++ .queueRefreshFor actor :: after) = some s)
    (hkept : .invalidateQueuedRefreshes ∉ after) :
    ∃ before' actor' after', before ++ .queueRefreshFor actor :: after =
        before' ++ .queueRefreshFor actor' :: after' ∧
      actor'.formID = actor.formID ∧ ∀ op ∈ after', ¬Supersedes actor.formID op := by
  obtain ⟨s₁, hbefore, hrest⟩ := runFrom_append_iff.mp hrun
  obtain ⟨s₂, hrequest, hafter⟩ := runFrom_cons_iff.mp hrest
  have hin : StepIn atomicStep .initial (before ++ .queueRefreshFor actor :: after) s₁
      (.queueRefreshFor actor) s₂ after := ⟨before, rfl, hbefore, hrequest⟩
  have hnone : Along atomicStep (fun _ op => ¬op = .invalidateQueuedRefreshes) s₂ after :=
    (along_iff_forall hafter).mpr fun op hop heq => hkept (heq ▸ hop)
  obtain ⟨u, op, v, after', hin', ⟨actor', rfl, hsame⟩, hlast⟩ := hin.exists_last
    (p := fun _ op => ∃ x, op = .queueRefreshFor x ∧ x.formID = actor.formID) hrun
    ⟨actor, rfl, rfl⟩ hnone
  obtain ⟨before', hops, -, -⟩ := id hin'
  refine ⟨before', actor', after', hops, hsame, fun op hop hsupersedes => ?_⟩
  have hquiet := (along_iff_forall (hin'.runFrom_after hrun)).mp hlast op hop
  cases op with
  | queueRefreshFor later => exact hquiet (Or.inr ⟨later, rfl, hsupersedes⟩)
  | invalidateQueuedRefreshes => exact hquiet (Or.inl rfl)
  | runTask task => exact hsupersedes

/-- Queued refreshes coalesce exactly. A task passes until its actor's next request or the next
invalidation, so no two tasks of one actor pass, and the latest request since the last
invalidation has passed or is pending and passes. -/
theorem refreshes_coalesce (hrun : runFrom atomicStep .initial ops = some s) :
    (∀ k < s.queue.tasks.length, ∃ before actor after,
      ops = before ++ .queueRefreshFor actor :: after ∧ requestCount before = k) ∧
    (∀ before actor after, ops = before ++ .queueRefreshFor actor :: after →
      ∃ task, s.queue.tasks[requestCount before]? = some task ∧
        task.actorFormID = actor.formID ∧
        (taskPasses s.queue task = true ↔ ∀ op ∈ after, ¬Supersedes actor.formID op)) ∧
    (∀ (j k : ℕ) task task', s.queue.tasks[j]? = some task → s.queue.tasks[k]? = some task' →
      task.actorFormID = task'.actorFormID →
      taskPasses s.queue task = true → taskPasses s.queue task' = true → j = k) ∧
    (∀ before actor after, ops = before ++ .queueRefreshFor actor :: after →
      .invalidateQueuedRefreshes ∉ after →
      ∃ before' actor' after', ops = before' ++ .queueRefreshFor actor' :: after' ∧
        actor'.formID = actor.formID ∧ (∀ op ∈ after', ¬Supersedes actor.formID op) ∧
        ∃ task, s.queue.tasks[requestCount before']? = some task ∧
          ((requestCount before' ∉ s.executed ∧ taskPasses s.queue task = true) ∨
            ∃ earlier later t, after' = earlier ++ .runTask (requestCount before') :: later ∧
              runFrom atomicStep .initial (before' ++ .queueRefreshFor actor' :: earlier) = some t ∧
              t.queue.tasks[requestCount before']? = some task ∧
              taskPasses t.queue task = true)) := by
  refine ⟨?_, ?_, ?_, ?_⟩
  · intro k hk
    obtain ⟨u, op, v, after, a, hin, hlength, -, hasked, -⟩ :=
      atomic_drives.exists_request hrun (Nat.zero_le k) hk
    obtain ⟨actor, rfl, -, -⟩ := asked_effect_iff.mp hasked
    obtain ⟨before, hops, hbefore, -⟩ := hin
    exact ⟨before, actor, after, hops, (tasks_length_reached hbefore).symm.trans hlength⟩
  · rintro before actor after rfl
    exact request_passes_iff hrun
  · intro j k task task' hj hk hactor hpasses hpasses'
    obtain ⟨slots, hrefines⟩ := refines_reached hrun
    exact hrefines.unique hj hk hactor hpasses hpasses'
  · rintro before actor after rfl hkept
    obtain ⟨before', actor', after', hops, hactor, hafter⟩ := exists_latest_request hrun hkept
    rw [hops] at hrun ⊢
    refine ⟨before', actor', after', rfl, hactor, hafter, ?_⟩
    rw [← hactor] at hafter
    obtain ⟨task, htask, -, hpasses⟩ := request_passes_iff hrun
    refine ⟨task, htask, ?_⟩
    by_cases hexecuted : requestCount before' ∈ s.executed
    · -- When the task ran, nothing had superseded its request either.
      right
      obtain ⟨earlier, later, t, rfl, ht, hlater⟩ := executed_after_request hrun hexecuted
      obtain ⟨task', htask', -, hpasses'⟩ := request_passes_iff ht
      obtain rfl : task' = task :=
        Option.some.inj (((atomic_drives.advances_run hlater).getElem? htask').symm.trans htask)
      refine ⟨earlier, later, t, rfl, ht, htask', hpasses'.mpr ?_⟩
      exact fun op hop => hafter op (List.mem_append_left _ hop)
    · exact Or.inl ⟨hexecuted, hpasses.mpr hafter⟩

/-- A request repeated after an invalidation, with both tasks run. -/
theorem refreshes_coalesce_repeated :
    let request : Operation := .queueRefreshFor ⟨0x14, none, false, false, true, true, none⟩
    ∃ s, runFrom atomicStep .initial [request, .invalidateQueuedRefreshes, request,
        .runTask 0, .runTask 1] = some s ∧
      ∃ task, s.queue.tasks[1]? = some task ∧ task.actorFormID = 0x14 ∧
        (taskPasses s.queue task = true ↔
          ∀ op ∈ [Operation.runTask 0, .runTask 1], ¬Supersedes 0x14 op) := by
  intro request
  have hpossible : (runFrom atomicStep .initial [request, .invalidateQueuedRefreshes, request,
      .runTask 0, .runTask 1]).isSome = true := by decide
  obtain ⟨s, hrun⟩ := Option.isSome_iff_exists.mp hpossible
  exact ⟨s, hrun,
    (refreshes_coalesce hrun).2.1 [request, .invalidateQueuedRefreshes] _ [.runTask 0, .runTask 1] rfl⟩

end FittingSchlongs.Refresh
