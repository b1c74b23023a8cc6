import FittingSchlongs.Hooks.AllOrNothing
import FittingSchlongs.Hooks.Queries

/-! # The hooks of an installation

An installer builds its stub from the call site it has found, in the memory that the installers
before it have left. In the end each site of the layout leads to a stub that corrects the call
which the site made before, and comes out behind its window.
-/

namespace FittingSchlongs.Hooks
open Armor Correction Foundation.ByteMemory Foundation.X64

/-! ## The stubs that are generated -/

/-- A call site and what its installer constructs `Code` from. -/
structure InstalledHook where
  hookAddress : Address
  stub : Stub
  resumeAddress : Address
  original : Address
  deriving DecidableEq

/-- The installers so far: their answer, the memory and the stubs they have generated. -/
structure Installation where
  succeeded : Bool
  memory : MemoryImage
  hooks : List InstalledHook

def Installation.result (done : Installation) : Bool × MemoryImage := (done.succeeded, done.memory)

variable (rel : Module) (trampoline : BranchWriter)

/-- An installer behind `&&`, with its `Code code{hookAddress + 0x5, callSite.target}`. -/
def installStub (stub : Stub) (hookAddress expectedTarget : Address) (done : Installation) :
    Installation :=
  if !done.succeeded then done
  else
    let callSite := inspectCallSite done.memory hookAddress expectedTarget
    if !callSite.valid then { done with succeeded := false }
    else ⟨true, trampoline.writeBranch done.memory hookAddress,
      done.hooks ++ [⟨hookAddress, stub, hookAddress + 0x5, callSite.target⟩]⟩

/-- `InstallSkinningHooks` with the stubs that this call generates. -/
def installStubs (s : HookState) : Installation :=
  if s.installOnce then ⟨s.installSucceeded, s.memory, []⟩
  else
    let layout := selectRuntimeLayout rel.version
    if layout = .kUnsupported then ⟨s.installSucceeded, s.memory, []⟩
    else if !validateHookSites rel s.memory layout then ⟨s.installSucceeded, s.memory, []⟩
    else
      let vanillaInstalled := installStub trampoline .dontVanillaSkin
        (relocationAddress rel 24232 24736 0x302 0x302) (relocation rel 17392 17792)
        ⟨true, s.memory, []⟩
      if layout = .kAE161170 then
        installStub trampoline .customSkinAE (rel.address 24725 + 0x1EF)
          (relocation rel 15856 16096)
          (installStub trampoline .shimWornFlagsAE (rel.address 24724 + 0x80)
            (relocation rel 15806 16044) vanillaInstalled)
      else
        installStub trampoline .customSkinSE (rel.address 24231 + 0x81)
          (relocation rel 15856 16096)
          (installStub trampoline .shimWornFlagsSE (rel.address 24220 + 0x7C)
            (relocation rel 15806 16044) vanillaInstalled)

variable {rel}

theorem result_installStub (stub : Stub) (hookAddress expectedTarget : Address)
    (done : Installation) :
    (installStub trampoline stub hookAddress expectedTarget done).result =
      andThen done.result fun memory =>
        installCallSiteHook trampoline memory hookAddress expectedTarget := by
  obtain ⟨succeeded, memory, hooks⟩ := done
  cases succeeded with
  | false => rfl
  | true =>
    cases hvalid : (inspectCallSite memory hookAddress expectedTarget).valid <;>
      simp [installStub, andThen, installCallSiteHook, Installation.result, hvalid]

theorem result_installStubs (s : HookState) :
    (installStubs rel trampoline s).result =
      ((installSkinningHooks rel trampoline s).1,
        (installSkinningHooks rel trampoline s).2.memory) := by
  simp only [installStubs, installSkinningHooks]
  split_ifs
  · rfl
  · rfl
  · rfl
  · simp only [result_installStub]
    rfl
  · simp only [result_installStub]
    rfl

/-! ## The stubs of a layout -/

def layoutStubs : RuntimeLayout → List Stub
  | .kUnsupported => []
  | .kSE1597 => [.dontVanillaSkin, .shimWornFlagsSE, .customSkinSE]
  | .kAE161170 => [.dontVanillaSkin, .shimWornFlagsAE, .customSkinAE]

def layoutHooks (rel : Module) (layout : RuntimeLayout) : List (Stub × HookSite) :=
  (layoutStubs layout).zip (hookSites rel layout)

def hookOf (hook : Stub × HookSite) : InstalledHook :=
  ⟨hook.2.address, hook.1, hook.2.address + 5, hook.2.expectedTarget⟩

theorem map_layoutHooks (rel : Module) (layout : RuntimeLayout) :
    (layoutHooks rel layout).map Prod.fst = layoutStubs layout ∧
      (layoutHooks rel layout).map Prod.snd = hookSites rel layout := by
  cases layout <;> exact ⟨rfl, rfl⟩

theorem target_of_valid {memory : MemoryImage} {hookAddress expectedTarget : Address}
    (h : (inspectCallSite memory hookAddress expectedTarget).valid = true) :
    (inspectCallSite memory hookAddress expectedTarget).target = expectedTarget := by
  simp only [inspectCallSite] at h ⊢
  split_ifs at h ⊢ with _ hcall
  exact hcall.2

def installList (hooks : List (Stub × HookSite)) (done : Installation) : Installation :=
  hooks.foldl (fun done hook => installStub trampoline hook.1 hook.2.address
    hook.2.expectedTarget done) done

theorem hooks_installList {hooks : List (Stub × HookSite)}
    (hsep : (hooks.map Prod.snd).Pairwise Separate) {memory : MemoryImage}
    (hverified : ∀ hook ∈ hooks, hook.2.Verified memory) (before : List InstalledHook) :
    (installList trampoline hooks ⟨true, memory, before⟩).hooks =
      before ++ hooks.map hookOf := by
  induction hooks generalizing memory before with
  | nil => simp [installList]
  | cons first hooks ih =>
    rw [List.map_cons, List.pairwise_cons] at hsep
    have hvalid := inspectCallSite_valid_iff.mpr (hverified first List.mem_cons_self)
    have hfirst : installStub trampoline first.1 first.2.address first.2.expectedTarget
          ⟨true, memory, before⟩ =
        ⟨true, trampoline.writeBranch memory first.2.address,
          before ++ [hookOf first]⟩ := by
      simp [installStub, hookOf, hvalid, target_of_valid hvalid]
    have hrest : ∀ hook ∈ hooks,
        hook.2.Verified (trampoline.writeBranch memory first.2.address) := by
      -- The branch just written lies outside the windows still to come.
      intro hook hhook
      have hseparate := hsep.1 hook.2 (List.mem_map_of_mem hhook)
      rw [hook.2.verified_congr fun x hx => trampoline.outside memory first.2.address x
        fun hfirst => hseparate x hfirst hx]
      exact hverified hook (List.mem_cons_of_mem first hhook)
    have hlist := ih hsep.2 hrest (before ++ [hookOf first])
    rw [installList] at hlist
    rw [installList, List.foldl_cons, hfirst, hlist, List.map_cons, List.append_assoc]
    rfl

section Layout

variable (hAE : LayoutAgrees rel)
  (hsep : (hookSites rel (selectRuntimeLayout rel.version)).Pairwise Separate)
include hAE hsep

/-- An accepted installation generates the stubs of the layout, a refused one none. -/
theorem hooks_installStubs (memory : MemoryImage) :
    (installStubs rel trampoline (.initial memory)).hooks =
      if (installSkinningHooks rel trampoline (.initial memory)).1 then
        (layoutHooks rel (selectRuntimeLayout rel.version)).map hookOf
      else [] := by
  rcases installSkinningHooks_cases trampoline hAE hsep memory with
    ⟨⟨hlayout, hverified⟩, heq⟩ | ⟨hrefuse, heq⟩
  · have hvalid := (validateHookSites_iff hAE memory hlayout).mpr hverified
    have hsites := (map_layoutHooks rel (selectRuntimeLayout rel.version)).2
    have hlist := hooks_installList trampoline (hsites.symm ▸ hsep)
      (fun hook hhook => hverified hook.2 (List.of_mem_zip hhook).2) []
    rw [heq, if_pos rfl]
    simp only [LayoutAgrees] at hAE
    simp only [installStubs, HookState.initial, Bool.false_eq_true, ↓reduceIte, hlayout, hvalid,
      Bool.not_true]
    cases hcase : selectRuntimeLayout rel.version with
    | kUnsupported => exact absurd hcase hlayout
    | kSE1597 =>
      rw [hcase] at hAE hlist
      simp only at hAE
      simp only [relocationAddress, relocation, hAE, Bool.false_eq_true, ↓reduceIte, reduceCtorEq]
      exact hlist
    | kAE161170 =>
      rw [hcase] at hAE hlist
      simp only at hAE
      simp only [relocationAddress, relocation, hAE, ↓reduceIte]
      exact hlist
  · rw [heq, if_neg Bool.false_ne_true]
    simp only [installStubs, HookState.initial, Bool.false_eq_true, ↓reduceIte]
    by_cases hlayout : selectRuntimeLayout rel.version = .kUnsupported
    · rw [if_pos hlayout]
    · have hinvalid : validateHookSites rel memory (selectRuntimeLayout rel.version) = false := by
        rw [← Bool.not_eq_true, validateHookSites_iff hAE memory hlayout]
        exact fun h => hrefuse ⟨hlayout, h⟩
      simp [hlayout, hinvalid]

end Layout

/-! ## The calls of the hooked game -/

/-- From any aligned state the stub of the hook comes out behind the window of the site, with the
call that the site made before corrected. -/
def CorrectsCall (pointers : Pointers) (game : GameData) (order : SetOrder TESObjectARMO)
    (gameDataLoaded : Bool) (stsc : StubFunctions) (callee : Callee) (stack : ℕ)
    (hook : InstalledHook) (site : HookSite) : Prop :=
  ∀ entry : Machine, Aligned entry.rsp →
    Completes (hook.stub.code stsc hook.resumeAddress hook.original) callee
      (start (hook.stub.code stsc hook.resumeAddress hook.original) entry) fun y =>
        Returned entry (0x60 + stack) (site.address + 5) y ∧
          hook.stub.Corrects pointers game order gameDataLoaded stsc site.expectedTarget callee
            entry y

/-- The installation with its stubs is the installation. A successful one leads every site of the
layout to its own stub, which corrects the call the site made in the unmodified memory; a failed
one generates no stub at all. -/
theorem hooked_calls_correct (hAE : LayoutAgrees rel)
    (hsep : (hookSites rel (selectRuntimeLayout rel.version)).Pairwise Separate)
    (memory : MemoryImage) {pointers : Pointers} {game : GameData}
    {order : SetOrder TESObjectARMO} {gameDataLoaded : Bool} {stsc : StubFunctions} {stack : ℕ}
    {callee : Callee} (hroom : 0x60 + stack + 0x20 ≤ 2 ^ 64) (hcallee : Win64 stack callee)
    (hqueries : AnswersQueries pointers game order gameDataLoaded stsc callee) :
    let hooks := (installStubs rel trampoline (.initial memory)).hooks
    let sites := hookSites rel (selectRuntimeLayout rel.version)
    (installStubs rel trampoline (.initial memory)).result =
      ((installSkinningHooks rel trampoline (.initial memory)).1,
        (installSkinningHooks rel trampoline (.initial memory)).2.memory) ∧
    ((installSkinningHooks rel trampoline (.initial memory)).1 = true →
      hooks.map (·.hookAddress) = sites.map (·.address) ∧
        hooks.map (·.stub) = layoutStubs (selectRuntimeLayout rel.version)) ∧
    ((installSkinningHooks rel trampoline (.initial memory)).1 = false → hooks = []) ∧
    ∀ hook ∈ hooks, ∃ site ∈ sites, hook.hookAddress = site.address ∧ site.Verified memory ∧
      CorrectsCall pointers game order gameDataLoaded stsc callee stack hook site := by
  intro hooks sites
  refine ⟨result_installStubs trampoline _, ?_⟩
  have hhooks : hooks = _ := hooks_installStubs trampoline hAE hsep memory
  obtain ⟨hstubs, hsites⟩ : _ ∧ (layoutHooks rel _).map Prod.snd = sites :=
    map_layoutHooks rel (selectRuntimeLayout rel.version)
  rcases installSkinningHooks_cases trampoline hAE hsep memory with
    ⟨⟨-, hverified⟩, heq⟩ | ⟨-, heq⟩
  · rw [heq, if_pos rfl] at hhooks
    rw [heq, hhooks]
    refine ⟨fun _ => ⟨?_, ?_⟩, fun h => absurd h.symm Bool.false_ne_true, ?_⟩
    · rw [← hsites, List.map_map, List.map_map]
      rfl
    · rw [← hstubs, List.map_map]
      rfl
    · intro hook hhook
      obtain ⟨pair, hpair, rfl⟩ := List.mem_map.mp hhook
      have hsite := (List.of_mem_zip hpair).2
      exact ⟨pair.2, hsite, rfl, hverified pair.2 hsite, fun entry haligned =>
        stub_corrects pair.1 _ _ entry hroom hcallee hqueries haligned⟩
  · rw [heq, if_neg Bool.false_ne_true] at hhooks
    rw [heq, hhooks]
    exact ⟨fun h => absurd h Bool.false_ne_true, fun _ => rfl, fun _ h => absurd h List.not_mem_nil⟩

/-- Every nonzero pointer to an armor is one to genital armor, and every actor wears it under a
dress. -/
def plainPointers : Pointers where
  armor pointer := if pointer = 0 then none else some (plainArmor 2 "Schlong" genitalSlotMask)
  refr pointer := if pointer = 0 then none
    else some (.actor (plainActor 0x14 true
      [plainArmor 1 "Dress" bodySlotMask, plainArmor 2 "Schlong" genitalSlotMask]))

/-- In the hooked SE game the genital armor under the dress is not drawn: the original function is
skipped. The worn mask is read once and then corrected. -/
theorem hooked_calls_correct_dressed :
    let hooks := (installStubs plainModule plainTrampoline (.initial plainMemory)).hooks
    let callee := pluginCallee plainPointers bareGame SetOrder.dedup true ⟨1, 2, 3, 4, 5⟩ plainCallee
    hooks.map (·.stub) = [.dontVanillaSkin, .shimWornFlagsSE, .customSkinSE] ∧
      ∀ hook ∈ hooks, ∃ site ∈ hookSites plainModule .kSE1597, hook.hookAddress = site.address ∧
        Completes (hook.stub.code ⟨1, 2, 3, 4, 5⟩ hook.resumeAddress hook.original) callee
          (start (hook.stub.code ⟨1, 2, 3, 4, 5⟩ hook.resumeAddress hook.original) plainEntry)
          fun y =>
            (hook.stub = .dontVanillaSkin → ∃ ask, y.calls = [ask] ∧ ask.target = 1) ∧
            (hook.stub = .shimWornFlagsSE → ∃ ask original corrected,
              y.calls = [ask, original, corrected] ∧ original.target = site.expectedTarget ∧
                corrected.target = 3) := by
  intro hooks callee
  have hblocked : shouldBlockVanillaArmor bareGame SetOrder.dedup true
      (plainPointers.armor (plainEntry.regs .rcx)) (plainPointers.refr (plainEntry.regs .r13)) =
      true := by
    decide
  have hoverride : shouldOverrideSkinning bareGame SetOrder.dedup true
      (plainPointers.refr (plainEntry.regs .rsi)) = true := by
    decide
  have hinstalled := installSkinningHooks_accepted plainTrampoline plainModule_agrees plainMemory
    (by decide) plainSites_separate plainSites_verified
  obtain ⟨-, hall, -, hcorrects⟩ := hooked_calls_correct plainTrampoline plainModule_agrees
    plainSites_separate plainMemory (by norm_num)
    (pluginCallee_win64 plainPointers bareGame SetOrder.dedup true ⟨1, 2, 3, 4, 5⟩
      plainCallee_win64)
    (pluginCallee_answers plainPointers bareGame SetOrder.dedup true plainCallee)
  refine ⟨(hall (congrArg Prod.fst hinstalled)).2, fun hook hhook => ?_⟩
  obtain ⟨site, hsite, haddress, -, hcall⟩ := hcorrects hook hhook
  refine ⟨site, hsite, haddress, (hcall plainEntry (by decide)).imp fun y h =>
    ⟨fun hstub => ?_, fun hstub => ?_⟩⟩
  · have hblocks := h.2
    rw [hstub] at hblocks
    obtain ⟨ask, htarget, hcalls⟩ := hblocks
    rw [if_pos hblocked] at hcalls
    exact ⟨ask, hcalls, htarget⟩
  · have hmask := h.2
    rw [hstub] at hmask
    obtain ⟨ask, original, -, htarget, -, -, -, hcalls⟩ := hmask
    rw [if_pos hoverride] at hcalls
    obtain ⟨corrected, hcalls, hcorrected⟩ := hcalls
    exact ⟨ask, original, corrected, hcalls, htarget, hcorrected⟩

end FittingSchlongs.Hooks
