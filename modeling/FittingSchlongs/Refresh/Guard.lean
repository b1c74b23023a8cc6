import FittingSchlongs.Foundation.History
import FittingSchlongs.Refresh.Concurrent

/-! # The guard of a task in its two reads

A task compares the generation first and the actor's number afterwards, under the lock. Steps of
other calls may come between. The task then counts as run at its last read, and decides there as
if both reads had been made at once, unless an invalidation has begun between them.
-/

namespace FittingSchlongs.Refresh
open Armor Foundation.Transition

/-! ## Tasks that run in two steps -/

structure GuardedState where
  /-- The calls, and as executed the tasks whose guard has decided. -/
  state : ConcurrentState ℕ
  /-- Positions of the tasks that have found their generation and not read the number yet. -/
  reading : List ℕ

def GuardedState.initial : GuardedState := ⟨.initial, []⟩

inductive GuardedEvent where
  /-- A step of `QueueRefreshFor` or `InvalidateQueuedRefreshes`. -/
  | call (event : Event)
  | readGeneration (task : ℕ)
  | readNumber (task : ℕ)
  deriving DecidableEq

def Event.isRunTask : Event → Bool
  | .runTask _ => true
  | _ => false

/-- The generation is not the one that the task has captured. -/
def GuardedState.outdated (s : GuardedState) (task : ℕ) : Bool :=
  (s.state.queue.tasks[task]?).any
    (fun captured => s.state.queue.refreshGeneration != captured.generation)

/-- Behind a generation of another epoch the number is not read. -/
def guardedStep (s : GuardedState) : GuardedEvent → Option GuardedState
  | .call event =>
    if event.isRunTask then none
    else (step s.state event).map fun state => { s with state := state }
  | .readGeneration task =>
    if task < s.state.queue.tasks.length ∧ task ∉ s.state.executed ∧ task ∉ s.reading then
      some (if s.outdated task then
        { s with state := { s.state with executed := task :: s.state.executed } }
      else { s with reading := task :: s.reading })
    else none
  | .readNumber task =>
    if task ∈ s.reading then
      some ⟨{ s.state with executed := task :: s.state.executed }, s.reading.erase task⟩
    else none

/-- The answer of a guard at the read that decides it. -/
def guardedDecision (s : GuardedState) : GuardedEvent → Option Bool
  | .call _ => none
  | .readGeneration task => if s.outdated task then some false else none
  | .readNumber task => (s.state.queue.tasks[task]?).map fun captured =>
      isLatestActorRefreshGeneration s.state.queue captured.actorFormID captured.actorGeneration

/-- The same for a guard that reads both at once. -/
def decision {Counter : Type} [BEq Counter] (s : ConcurrentState Counter) : Event → Option Bool
  | .runTask task => (s.queue.tasks[task]?).map (taskPasses s.queue)
  | _ => none

/-- A task runs at the read that decides its guard. -/
def decidingEvent (s : GuardedState) : GuardedEvent → Option Event
  | .call event => some event
  | .readGeneration task => if s.outdated task then some (.runTask task) else none
  | .readNumber task => some (.runTask task)

/-- No invalidation begins while a guard is between its reads. -/
def Undisturbed (s : GuardedState) (event : GuardedEvent) : Prop :=
  event = .call .beginInvalidate → s.reading = []

/-! ## What the steps keep -/

/-- A step of a call runs no task, adds tasks at the end, and changes the generation only if an
invalidation begins. -/
theorem step_call {s t : ConcurrentState ℕ} {event : Event} (hevent : event.isRunTask = false)
    (h : step s event = some t) :
    t.executed = s.executed ∧ s.queue.tasks <+: t.queue.tasks ∧
      (event ≠ .beginInvalidate → t.queue.refreshGeneration = s.queue.refreshGeneration) := by
  cases event with
  | beginQueue a =>
    rw [step_beginQueue h]
    exact ⟨rfl, List.prefix_refl _, fun _ => rfl⟩
  | bump i =>
    obtain ⟨a, g, -, rfl⟩ := step_bump h
    exact ⟨rfl, List.prefix_refl _, fun _ => rfl⟩
  | addTask i =>
    obtain ⟨task, -, rfl⟩ := step_addTask h
    exact ⟨rfl, List.prefix_append _ _, fun _ => rfl⟩
  | beginInvalidate =>
    rw [step_beginInvalidate h]
    exact ⟨rfl, List.prefix_refl _, fun hne => absurd rfl hne⟩
  | clear i =>
    obtain ⟨-, rfl⟩ := step_clear h
    exact ⟨rfl, List.prefix_refl _, fun _ => rfl⟩
  | runTask k => exact absurd hevent Bool.true_eq_false_eq_False

/-- The tasks between their reads are queued and have not run. -/
structure Reading (s : GuardedState) : Prop where
  nodup : s.reading.Nodup
  queued : ∀ k ∈ s.reading, k < s.state.queue.tasks.length
  waiting : ∀ k ∈ s.reading, k ∉ s.state.executed

section Steps

variable {s t : GuardedState}

theorem guardedStep_call {event : Event} (h : guardedStep s (.call event) = some t) :
    event.isRunTask = false ∧ step s.state event = some t.state ∧ t.reading = s.reading := by
  simp only [guardedStep] at h
  split_ifs at h with hevent
  obtain ⟨state, hstep, rfl⟩ := Option.map_eq_some_iff.mp h
  exact ⟨Bool.eq_false_iff.mpr hevent, hstep, rfl⟩

theorem guardedStep_readGeneration {k : ℕ} (h : guardedStep s (.readGeneration k) = some t) :
    (k < s.state.queue.tasks.length ∧ k ∉ s.state.executed ∧ k ∉ s.reading) ∧
      t = if s.outdated k then
        { s with state := { s.state with executed := k :: s.state.executed } }
      else { s with reading := k :: s.reading } := by
  simp only [guardedStep] at h
  split_ifs at h with hk hout
  · exact ⟨hk, by rw [if_pos hout]; exact (Option.some.inj h).symm⟩
  · exact ⟨hk, by rw [if_neg hout]; exact (Option.some.inj h).symm⟩

theorem guardedStep_readNumber {k : ℕ} (h : guardedStep s (.readNumber k) = some t) :
    k ∈ s.reading ∧
      t = ⟨{ s.state with executed := k :: s.state.executed }, s.reading.erase k⟩ := by
  simp only [guardedStep] at h
  split_ifs at h with hk
  exact ⟨hk, (Option.some.inj h).symm⟩

theorem reading_step {event : GuardedEvent} (hs : Reading s)
    (h : guardedStep s event = some t) : Reading t := by
  cases event with
  | call event =>
    obtain ⟨hevent, hstep, hreading⟩ := guardedStep_call h
    obtain ⟨hexecuted, htasks, -⟩ := step_call hevent hstep
    refine ⟨hreading ▸ hs.nodup, fun k hk => ?_, fun k hk => ?_⟩
    · exact (hs.queued k (hreading ▸ hk)).trans_le htasks.length_le
    · rw [hexecuted]
      exact hs.waiting k (hreading ▸ hk)
  | readGeneration k =>
    obtain ⟨⟨hqueued, hwaiting, hnew⟩, rfl⟩ := guardedStep_readGeneration h
    split_ifs
    · refine ⟨hs.nodup, hs.queued, fun j hj => ?_⟩
      exact List.not_mem_cons_of_ne_of_not_mem (fun heq => hnew (heq ▸ hj)) (hs.waiting j hj)
    · refine ⟨List.nodup_cons.mpr ⟨hnew, hs.nodup⟩, ?_, ?_⟩
      · exact List.forall_mem_cons.mpr ⟨hqueued, hs.queued⟩
      · exact List.forall_mem_cons.mpr ⟨hwaiting, hs.waiting⟩
  | readNumber k =>
    obtain ⟨-, rfl⟩ := guardedStep_readNumber h
    refine ⟨hs.nodup.erase k, fun j hj => hs.queued j (List.mem_of_mem_erase hj), fun j hj => ?_⟩
    have hne : j ≠ k := fun heq => hs.nodup.not_mem_erase (heq ▸ hj)
    exact List.not_mem_cons_of_ne_of_not_mem hne (hs.waiting j (List.mem_of_mem_erase hj))

theorem current_step {event : GuardedEvent} (hs : Reading s)
    (hcurrent : ∀ k ∈ s.reading, s.outdated k = false) (hok : Undisturbed s event)
    (h : guardedStep s event = some t) : ∀ k ∈ t.reading, t.outdated k = false := by
  cases event with
  | call event =>
    obtain ⟨hevent, hstep, hreading⟩ := guardedStep_call h
    obtain ⟨-, htasks, hgeneration⟩ := step_call hevent hstep
    intro k hk
    rw [hreading] at hk
    have hne : event ≠ .beginInvalidate := by
      rintro rfl
      exact List.not_mem_nil (hok rfl ▸ hk)
    obtain ⟨added, hadded⟩ := htasks
    rw [GuardedState.outdated, ← hadded, List.getElem?_append_left (hs.queued k hk),
      hgeneration hne]
    exact hcurrent k hk
  | readGeneration k =>
    obtain ⟨-, rfl⟩ := guardedStep_readGeneration h
    cases hout : s.outdated k with
    | true => exact hcurrent
    | false => exact List.forall_mem_cons.mpr ⟨hout, hcurrent⟩
  | readNumber k =>
    obtain ⟨-, rfl⟩ := guardedStep_readNumber h
    exact fun j hj => hcurrent j (List.mem_of_mem_erase hj)

/-! ## The run of the deciding reads -/

theorem named_step {event : GuardedEvent} (hs : Reading s) (h : guardedStep s event = some t)
    {atomic : Event} (hatomic : decidingEvent s event = some atomic) :
    step s.state atomic = some t.state := by
  cases event with
  | call event =>
    obtain rfl := Option.some.inj hatomic
    exact (guardedStep_call h).2.1
  | readGeneration k =>
    obtain ⟨⟨hqueued, hwaiting, -⟩, rfl⟩ := guardedStep_readGeneration h
    simp only [decidingEvent] at hatomic
    split_ifs at hatomic with hout
    obtain rfl := Option.some.inj hatomic
    rw [if_pos hout]
    exact if_pos ⟨hqueued, hwaiting⟩
  | readNumber k =>
    obtain ⟨hk, rfl⟩ := guardedStep_readNumber h
    obtain rfl := Option.some.inj hatomic
    exact if_pos ⟨hs.queued k hk, hs.waiting k hk⟩

theorem silent_step {event : GuardedEvent} (h : guardedStep s event = some t)
    (hsilent : decidingEvent s event = none) : t.state = s.state := by
  cases event with
  | call event => exact absurd hsilent (Option.some_ne_none event)
  | readGeneration k =>
    obtain ⟨-, rfl⟩ := guardedStep_readGeneration h
    simp only [decidingEvent] at hsilent
    split_ifs at hsilent with hout
    rw [if_neg hout]
  | readNumber k => exact absurd hsilent (Option.some_ne_none _)

theorem guarded_linearises {ok : GuardedState → GuardedEvent → Prop} :
    Linearises guardedStep step GuardedState.state decidingEvent ok Reading where
  keeps _ _ _ hs _ hstep := reading_step hs hstep
  named _ _ _ hs hstep _ hatomic := named_step hs hstep hatomic
  silent _ _ _ _ hstep hsilent := silent_step hstep hsilent

theorem decision_related {event : GuardedEvent} (h : guardedStep s event = some t)
    {R : Bool → Bool → Prop} (hfalse : R false false)
    (hnumber : ∀ k captured, event = .readNumber k → s.state.queue.tasks[k]? = some captured →
      R (taskPasses s.state.queue captured)
        (isLatestActorRefreshGeneration s.state.queue captured.actorFormID
          captured.actorGeneration)) :
    Option.Rel R ((decidingEvent s event).bind (decision s.state)) (guardedDecision s event) := by
  cases event with
  | call event =>
    have hevent := (guardedStep_call h).1
    cases event with
    | runTask k => exact absurd hevent Bool.true_eq_false_eq_False
    | beginQueue | bump | addTask | beginInvalidate | clear => exact .none
  | readGeneration k =>
    obtain ⟨⟨hqueued, -, -⟩, -⟩ := guardedStep_readGeneration h
    simp only [decidingEvent, guardedDecision]
    split_ifs with hout
    · have hcaptured := List.getElem?_eq_getElem hqueued
      rw [GuardedState.outdated, hcaptured, Option.any_some, bne_iff_ne] at hout
      simp only [Option.bind_some, decision, hcaptured, Option.map_some, taskPasses,
        beq_eq_false_iff_ne.mpr hout, Bool.false_and]
      exact .some hfalse
    · exact .none
  | readNumber k =>
    simp only [decidingEvent, guardedDecision, Option.bind_some, decision]
    cases hcaptured : s.state.queue.tasks[k]? with
    | none => exact .none
    | some captured => exact .some (hnumber k captured rfl hcaptured)

end Steps

/-! ## What the guards decide in a run -/

/-- The tasks of a run of split guards take effect at the read that decides, in a run of the
queue with atomic guards. A guard that passes at once passes in two reads, and without an
invalidation that begins between the reads of a guard all decide the same. -/
theorem guard_linearises {events : List GuardedEvent} {s : GuardedState}
    (hrun : runFrom guardedStep .initial events = some s) :
    let atomic := observations guardedStep decidingEvent .initial events
    runFrom step .initial atomic = some s.state ∧
    List.Forall₂ (fun atOnce split => atOnce = true → split = true)
      (observations step decision .initial atomic)
      (observations guardedStep guardedDecision .initial events) ∧
    (Along guardedStep Undisturbed .initial events →
      observations guardedStep guardedDecision .initial events =
        observations step decision .initial atomic) := by
  intro atomic
  have hinitial : Reading .initial := ⟨List.nodup_nil, by simp [GuardedState.initial],
    by simp [GuardedState.initial]⟩
  have hall : Along guardedStep (fun _ _ => True) .initial events :=
    along_of_forall (fun _ _ => trivial) _
  refine ⟨guarded_linearises.runFrom_observations hinitial hall hrun, ?_, fun hundisturbed => ?_⟩
  · refine guarded_linearises.forall₂_observations (fun u e v _ _ hstep => ?_) hinitial hall hrun
    refine decision_related hstep id fun k captured _ _ hpasses => ?_
    rw [taskPasses, Bool.and_eq_true] at hpasses
    exact hpasses.2
  · have hcurrent : Linearises guardedStep step GuardedState.state decidingEvent Undisturbed
        (fun u => Reading u ∧ ∀ k ∈ u.reading, u.outdated k = false) :=
      { keeps := fun _ _ _ hu hok hstep =>
          ⟨reading_step hu.1 hstep, current_step hu.1 hu.2 hok hstep⟩
        named := fun _ _ _ hu hstep _ hatomic => named_step hu.1 hstep hatomic
        silent := fun _ _ _ _ hstep hsilent => silent_step hstep hsilent }
    have hsame : List.Forall₂ Eq (observations step decision .initial atomic)
        (observations guardedStep guardedDecision .initial events) := by
      refine hcurrent.forall₂_observations (fun u e v hu _ hstep => ?_)
        ⟨hinitial, by simp [GuardedState.initial]⟩ hundisturbed hrun
      refine decision_related hstep rfl fun k captured he hcaptured => ?_
      subst he
      have hgeneration := hu.2 k (guardedStep_readNumber hstep).1
      rw [GuardedState.outdated, hcaptured, Option.any_some, bne_eq_false_iff_eq] at hgeneration
      rw [taskPasses, hgeneration, beq_self_eq_true, Bool.true_and]
    rw [List.forall₂_eq_eq_eq] at hsame
    exact hsame.symm

/-- The next request of the player overtakes its task between the two reads. -/
def overtakenEvents : List GuardedEvent :=
  [.call (.beginQueue 0x14), .call (.bump 0), .call (.addTask 0), .readGeneration 0,
    .call (.beginQueue 0x14), .call (.bump 1), .readNumber 0]

theorem guard_linearises_overtaken :
    observations guardedStep guardedDecision .initial overtakenEvents = [false] := by
  have hrun : runFrom guardedStep .initial overtakenEvents = some ⟨_, []⟩ := rfl
  have hnone : ∀ e ∈ overtakenEvents, e ≠ .call .beginInvalidate := by decide
  have hundisturbed : Along guardedStep Undisturbed .initial overtakenEvents :=
    (along_of_forall hnone _).mono fun _ _ hne heq => absurd heq hne
  exact ((guard_linearises hrun).2.2 hundisturbed).trans (by decide)

/-- A stale task passes if an invalidation and a new request come between its two reads. -/
example :
    let events : List GuardedEvent := [.call (.beginQueue 0x14), .call (.bump 0),
      .call (.addTask 0), .readGeneration 0, .call .beginInvalidate, .call (.clear 1),
      .call (.beginQueue 0x14), .call (.bump 2), .readNumber 0]
    observations guardedStep guardedDecision .initial events = [true] ∧
      observations step decision .initial (observations guardedStep decidingEvent .initial events) =
        [false] := by
  decide

end FittingSchlongs.Refresh
