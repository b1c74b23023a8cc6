import FittingSchlongs.Correction.WornMask
import FittingSchlongs.Foundation.X64.Answers
import FittingSchlongs.Hooks.CallingConvention

/-! # The hooked game

With the plugin's functions behind the labels, a stub is the query it asks: the original
skin function runs for the armors that are not blocked and for no other, and the worn mask
is the corrected one, also where the stub does not call the function that corrects it.
-/

namespace FittingSchlongs.Hooks
open Armor Correction Foundation.X64

/-- The forms that the pointers in the registers point to. -/
structure Pointers where
  armor : Word → Option TESObjectARMO
  refr : Word → Option TESObjectREFR

section Definitions

variable (pointers : Pointers) (game : GameData) (order : SetOrder TESObjectARMO)
  (gameDataLoaded : Bool) (stsc : StubFunctions)

/-- The callee answers at the addresses of the plugin as the functions of the plugin do. -/
structure AnswersQueries (callee : Callee) : Prop where
  shouldBlockVanillaArmor : ∀ n m, (callee n stsc.shouldBlockVanillaArmor m).al = 0 ↔
    shouldBlockVanillaArmor game order gameDataLoaded (pointers.armor (m.regs .rcx))
      (pointers.refr (m.regs .rdx)) = false
  shouldOverrideSkinning : ∀ n m, (callee n stsc.shouldOverrideSkinning m).al = 0 ↔
    shouldOverrideSkinning game order gameDataLoaded (pointers.refr (m.regs .rcx)) = false
  getCorrectedWornMask : ∀ n m, (callee n stsc.getCorrectedWornMask m).eax =
    getCorrectedWornMask game order gameDataLoaded (pointers.refr (m.regs .rdx))
      ((m.regs .r8).setWidth 32)

/-- `ShouldBlockVanillaArmor` is called, and unless the armor is blocked on the target the original
function behind it, with the arguments of the replaced call. -/
def BlocksVanilla (nextTarget : Word) (entry : Machine) (x : Execution StubLabel) : Prop :=
  ∃ ask, ask.target = stsc.shouldBlockVanillaArmor ∧
    if shouldBlockVanillaArmor game order gameDataLoaded (pointers.armor (entry.regs .rcx))
        (pointers.refr (entry.regs .r13)) then x.calls = [ask]
    else
      ∃ original, x.calls = [ask, original] ∧ original.target = nextTarget ∧
        original.before.rsp = entry.rsp ∧
        ∀ r ∈ [Reg.rcx, .rdx, .r8, .r9], original.before.regs r = entry.regs r

/-- The replaced call is made once, and its answer comes back corrected for the target.
`GetCorrectedWornMask` is called where the skinning is overridden. -/
def CorrectsWornMask (target : Reg) (getWornMask : Word) (callee : Callee) (entry : Machine)
    (x : Execution StubLabel) : Prop :=
  ∃ ask original, ask.target = stsc.shouldOverrideSkinning ∧ original.target = getWornMask ∧
    original.before.regs .rcx = entry.regs .rcx ∧
    original.after = callee 1 getWornMask original.before ∧
    x.machine.eax = getCorrectedWornMask game order gameDataLoaded
      (pointers.refr (entry.regs target)) original.after.eax ∧
    if shouldOverrideSkinning game order gameDataLoaded (pointers.refr (entry.regs target)) then
      ∃ corrected, x.calls = [ask, original, corrected] ∧
        corrected.target = stsc.getCorrectedWornMask
    else x.calls = [ask, original]

/-- The visit goes through the filter, and the additional armors are applied where the skinning
is overridden. -/
def FiltersVisit (weightModel : Reg) (visitWornItems : Word) (entry : Machine)
    (x : Execution StubLabel) : Prop :=
  ∃ visit ask, visit.target = stsc.visitWornItemsWithGenitalFilter ∧
    visit.before.regs .rcx = entry.regs .rcx ∧ visit.before.regs .rdx = entry.regs .rdx ∧
    visit.before.regs .r8 = entry.regs .rbx ∧ visit.before.regs .r9 = visitWornItems ∧
    ask.target = stsc.shouldOverrideSkinning ∧
    if shouldOverrideSkinning game order gameDataLoaded (pointers.refr (entry.regs .rbx)) then
      ∃ additional, x.calls = [visit, ask, additional] ∧
        additional.target = stsc.applyAdditionalDisplayArmors ∧
        additional.before.regs .rcx = entry.regs .rbx ∧
        additional.before.regs .rdx = entry.regs weightModel
    else x.calls = [visit, ask]

def Stub.Corrects (original : Word) (callee : Callee) (entry : Machine) :
    Stub → Execution StubLabel → Prop
  | dontVanillaSkin => BlocksVanilla pointers game order gameDataLoaded stsc original entry
  | shimWornFlagsSE =>
    CorrectsWornMask pointers game order gameDataLoaded stsc .rsi original callee entry
  | shimWornFlagsAE =>
    CorrectsWornMask pointers game order gameDataLoaded stsc .rbx original callee entry
  | customSkinSE => FiltersVisit pointers game order gameDataLoaded stsc .rdi original entry
  | customSkinAE => FiltersVisit pointers game order gameDataLoaded stsc .r15 original entry

end Definitions

section Answers

/-- A stub that branches on the low byte of an answer branches on the answer. -/
theorem ite_al_iff {m : Machine} {answer : Bool} (h : m.al = 0 ↔ answer = false) (p q : Prop) :
    (if m.al = 0 then p else q) ↔ if answer then q else p := by
  cases answer with
  | true => rw [if_neg fun hzero => Bool.false_ne_true (h.mp hzero).symm, if_pos rfl]
  | false => rw [if_pos (h.mpr rfl), if_neg Bool.false_ne_true]

variable {pointers : Pointers} {game : GameData} {order : SetOrder TESObjectARMO}
  {gameDataLoaded : Bool} {stsc : StubFunctions} {callee : Callee} {entry : Machine}
  {x : Execution StubLabel}
  (hqueries : AnswersQueries pointers game order gameDataLoaded stsc callee)
  (hanswered : Answered callee x)
include hqueries hanswered

theorem blocksVanilla_of_outcome {nextTarget : Word}
    (h : DontVanillaSkinOutcome stsc nextTarget entry x) :
    BlocksVanilla pointers game order gameDataLoaded stsc nextTarget entry x := by
  obtain ⟨ask, rest, hcalls, htarget, hrcx, hrdx, hrest⟩ := h
  have hask : ask.after = callee 0 ask.target ask.before := hanswered 0 ask (by rw [hcalls]; rfl)
  have hiff := hqueries.shouldBlockVanillaArmor 0 ask.before
  rw [← htarget, ← hask, hrcx, hrdx] at hiff
  rw [ite_al_iff hiff] at hrest
  refine ⟨ask, htarget, ?_⟩
  split_ifs at hrest ⊢
  · rw [hcalls, hrest]
  · obtain ⟨original, rfl, horiginal, hrsp, hregs⟩ := hrest
    exact ⟨original, hcalls, horiginal, hrsp, hregs⟩

theorem correctsWornMask_of_outcome {target : Reg} {getWornMask : Word}
    (h : ShimWornFlagsOutcome stsc target getWornMask entry x) :
    CorrectsWornMask pointers game order gameDataLoaded stsc target getWornMask callee entry x := by
  obtain ⟨ask, original, rest, hcalls, htarget, hrcx, horiginal, hinventory, hrest⟩ := h
  have hask : ask.after = callee 0 ask.target ask.before := hanswered 0 ask (by rw [hcalls]; rfl)
  have hmask : original.after = callee 1 original.target original.before :=
    hanswered 1 original (by rw [hcalls]; rfl)
  have hiff := hqueries.shouldOverrideSkinning 0 ask.before
  rw [← htarget, ← hask, hrcx] at hiff
  rw [ite_al_iff hiff] at hrest
  refine ⟨ask, original, htarget, horiginal, hinventory, horiginal ▸ hmask, ?_⟩
  split_ifs at hrest ⊢ with hoverride
  · obtain ⟨corrected, rfl, hcorrected, -, hrdx, hr8, heax⟩ := hrest
    have hafter : corrected.after = callee 2 corrected.target corrected.before :=
      hanswered 2 corrected (by rw [hcalls]; rfl)
    refine ⟨?_, corrected, hcalls, hcorrected⟩
    rw [heax, hafter, hcorrected, hqueries.getCorrectedWornMask, hrdx, hr8]
    simp
  · -- The stub returns the original mask, as the function would.
    rw [hrest.2, getCorrectedWornMask_inactive (Bool.eq_false_iff.mpr hoverride), hcalls, hrest.1]
    exact ⟨rfl, rfl⟩

theorem filtersVisit_of_outcome {weightModel : Reg} {visitWornItems : Word}
    (h : CustomSkinOutcome stsc weightModel visitWornItems entry x) :
    FiltersVisit pointers game order gameDataLoaded stsc weightModel visitWornItems entry x := by
  obtain ⟨visit, ask, rest, hcalls, hvisit, hrcx, hrdx, hr8, hr9, htarget, hrbx, hrest⟩ := h
  have hask : ask.after = callee 1 ask.target ask.before := hanswered 1 ask (by rw [hcalls]; rfl)
  have hiff := hqueries.shouldOverrideSkinning 1 ask.before
  rw [← htarget, ← hask, hrbx] at hiff
  rw [ite_al_iff hiff] at hrest
  refine ⟨visit, ask, hvisit, hrcx, hrdx, hr8, hr9, htarget, ?_⟩
  split_ifs at hrest ⊢
  · obtain ⟨additional, rfl, hadditional⟩ := hrest
    exact ⟨additional, hcalls, hadditional⟩
  · rw [hcalls, hrest]

end Answers

/-- With the plugin's functions behind its labels every stub ends, keeps the convention and does
what the query says: no original call for a blocked armor and an unchanged one for every other,
the corrected worn mask, the filtered visit. -/
theorem stub_corrects (stub : Stub) {pointers : Pointers} {game : GameData}
    {order : SetOrder TESObjectARMO} {gameDataLoaded : Bool} {stsc : StubFunctions}
    (resumeAddress original : Word) (entry : Machine) {stack : ℕ} {callee : Callee}
    (hroom : 0x60 + stack + 0x20 ≤ 2 ^ 64) (hcallee : Win64 stack callee)
    (hqueries : AnswersQueries pointers game order gameDataLoaded stsc callee)
    (haligned : Aligned entry.rsp) :
    Completes (stub.code stsc resumeAddress original) callee
      (start (stub.code stsc resumeAddress original) entry) fun y =>
        Returned entry (0x60 + stack) resumeAddress y ∧
          stub.Corrects pointers game order gameDataLoaded stsc original callee entry y := by
  cases stub with
  | dontVanillaSkin =>
    exact (dontVanillaSkinCode_completes hroom hcallee haligned original).answered.imp
      fun _ h => ⟨h.2.1, blocksVanilla_of_outcome hqueries h.1 h.2.2⟩
  | shimWornFlagsSE =>
    exact (shimWornFlagsCode_completes hroom hcallee haligned original (.inl rfl)).answered.imp
      fun _ h => ⟨h.2.1, correctsWornMask_of_outcome hqueries h.1 h.2.2⟩
  | shimWornFlagsAE =>
    exact (shimWornFlagsCode_completes hroom hcallee haligned original (.inr rfl)).answered.imp
      fun _ h => ⟨h.2.1, correctsWornMask_of_outcome hqueries h.1 h.2.2⟩
  | customSkinSE =>
    exact (customSkinCode_completes hroom hcallee haligned original (.inl rfl)).answered.imp
      fun _ h => ⟨h.2.1, filtersVisit_of_outcome hqueries h.1 h.2.2⟩
  | customSkinAE =>
    exact (customSkinCode_completes hroom hcallee haligned original (.inr rfl)).answered.imp
      fun _ h => ⟨h.2.1, filtersVisit_of_outcome hqueries h.1 h.2.2⟩

/-! ## A plugin at fixed addresses -/

/-- The plugin's functions at its addresses, before another callee. -/
def pluginCallee (pointers : Pointers) (game : GameData) (order : SetOrder TESObjectARMO)
    (gameDataLoaded : Bool) (stsc : StubFunctions) (other : Callee) : Callee := fun n target m =>
  if target = stsc.shouldBlockVanillaArmor then
    m.setReg .rax (if shouldBlockVanillaArmor game order gameDataLoaded
      (pointers.armor (m.regs .rcx)) (pointers.refr (m.regs .rdx)) then 1 else 0)
  else if target = stsc.shouldOverrideSkinning then
    m.setReg .rax (if shouldOverrideSkinning game order gameDataLoaded
      (pointers.refr (m.regs .rcx)) then 1 else 0)
  else if target = stsc.getCorrectedWornMask then
    m.setReg .rax ((getCorrectedWornMask game order gameDataLoaded
      (pointers.refr (m.regs .rdx)) ((m.regs .r8).setWidth 32)).setWidth 64)
  else other n target m

theorem al_setReg_rax (m : Machine) (answer : Bool) :
    (m.setReg .rax (if answer then 1 else 0)).al = 0 ↔ answer = false := by
  simp only [Machine.al, Machine.setReg, Function.update_self]
  cases answer <;> decide

theorem eax_setReg_rax (m : Machine) (mask : SlotMask) :
    (m.setReg .rax (mask.setWidth 64)).eax = mask := by
  simp only [Machine.eax, Machine.setReg, Function.update_self]
  simp

theorem pluginCallee_answers (pointers : Pointers) (game : GameData)
    (order : SetOrder TESObjectARMO) (gameDataLoaded : Bool) (other : Callee) :
    AnswersQueries pointers game order gameDataLoaded ⟨1, 2, 3, 4, 5⟩
      (pluginCallee pointers game order gameDataLoaded ⟨1, 2, 3, 4, 5⟩ other) where
  shouldBlockVanillaArmor _ m := al_setReg_rax m _
  shouldOverrideSkinning _ m := al_setReg_rax m _
  getCorrectedWornMask _ m := eax_setReg_rax m _

theorem pluginCallee_win64 (pointers : Pointers) (game : GameData)
    (order : SetOrder TESObjectARMO) (gameDataLoaded : Bool) (stsc : StubFunctions) {stack : ℕ}
    {other : Callee} (hother : Win64 stack other) :
    Win64 stack (pluginCallee pointers game order gameDataLoaded stsc other) := by
  have hkept : ∀ (m : Machine) v (r : Reg), r.isVolatile = false →
      (m.setReg .rax v).regs r = m.regs r := by
    intro m v r hr
    have hrax : r ≠ .rax := by
      rintro rfl
      cases hr
    exact Function.update_of_ne hrax _ _
  constructor
  · intro n target m halign r hr
    rw [pluginCallee]
    split
    · exact hkept m _ r hr
    split
    · exact hkept m _ r hr
    split
    · exact hkept m _ r hr
    · exact hother.nonvolatile n target m halign r hr
  · intro n target m halign a ha
    rw [pluginCallee]
    split
    · rfl
    split
    · rfl
    split
    · rfl
    · exact hother.memory n target m halign a ha

end FittingSchlongs.Hooks
