import FittingSchlongs.Foundation.X64.Frame
import FittingSchlongs.Hooks.Stubs

/-! # The stubs keep the calling convention

Each stub is followed from call to call. The frames say what is saved where, and that the
registers are those of the entry wherever the original function or the game reads them.
-/

namespace FittingSchlongs.Hooks
open Foundation.X64 Foundation.ByteMemory

/-! ## Outcomes -/

/-- `ShouldBlockVanillaArmor` is asked about the armor and the target. When it answers false, and
only then, the original function is called, with the arguments of the replaced call. -/
def DontVanillaSkinOutcome (stsc : StubFunctions) (nextTarget : Word) (entry : Machine)
    (x : Execution StubLabel) : Prop :=
  ∃ ask rest, x.calls = ask :: rest ∧
    ask.target = stsc.shouldBlockVanillaArmor ∧
    ask.before.regs .rcx = entry.regs .rcx ∧ ask.before.regs .rdx = entry.regs .r13 ∧
    if ask.after.al = 0 then
      ∃ original, rest = [original] ∧ original.target = nextTarget ∧
        original.before.rsp = entry.rsp ∧
        ∀ r ∈ [Reg.rcx, .rdx, .r8, .r9], original.before.regs r = entry.regs r
    else rest = []

/-- The original mask comes back as it is when `ShouldOverrideSkinning` answers false, else what
`GetCorrectedWornMask` makes of it. -/
def ShimWornFlagsOutcome (stsc : StubFunctions) (target : Reg) (getWornMask : Word)
    (entry : Machine) (x : Execution StubLabel) : Prop :=
  ∃ ask original rest, x.calls = ask :: original :: rest ∧
    ask.target = stsc.shouldOverrideSkinning ∧ ask.before.regs .rcx = entry.regs target ∧
    original.target = getWornMask ∧ original.before.regs .rcx = entry.regs .rcx ∧
    if ask.after.al = 0 then rest = [] ∧ x.machine.eax = original.after.eax
    else
      ∃ corrected, rest = [corrected] ∧ corrected.target = stsc.getCorrectedWornMask ∧
        corrected.before.regs .rcx = entry.regs .rcx ∧
        corrected.before.regs .rdx = entry.regs target ∧
        corrected.before.regs .r8 = original.after.eax.setWidth 64 ∧
        x.machine.eax = corrected.after.eax

/-- The filtered visit replaces the original one, which it is handed with the target. When
`ShouldOverrideSkinning` answers true, the additional armors are applied. -/
def CustomSkinOutcome (stsc : StubFunctions) (weightModel : Reg) (visitWornItems : Word)
    (entry : Machine) (x : Execution StubLabel) : Prop :=
  ∃ visit ask rest, x.calls = visit :: ask :: rest ∧
    visit.target = stsc.visitWornItemsWithGenitalFilter ∧
    visit.before.regs .rcx = entry.regs .rcx ∧ visit.before.regs .rdx = entry.regs .rdx ∧
    visit.before.regs .r8 = entry.regs .rbx ∧ visit.before.regs .r9 = visitWornItems ∧
    ask.target = stsc.shouldOverrideSkinning ∧ ask.before.regs .rcx = entry.regs .rbx ∧
    if ask.after.al = 0 then rest = []
    else
      ∃ additional, rest = [additional] ∧ additional.target = stsc.applyAdditionalDisplayArmors ∧
        additional.before.regs .rcx = entry.regs .rbx ∧
        additional.before.regs .rdx = entry.regs weightModel

/-! ## The three codes -/

section Runs

variable {stsc : StubFunctions} {resumeAddress : Word} {entry : Machine} {stack : ℕ}
  {callee : Callee} (hroom : 0x60 + stack + 0x20 ≤ 2 ^ 64) (hcallee : Win64 stack callee)
  (haligned : Aligned entry.rsp)
include hroom hcallee haligned

theorem dontVanillaSkinCode_completes (nextTarget : Word) :
    Completes (dontVanillaSkinCode stsc resumeAddress nextTarget) callee
      (start (dontVanillaSkinCode stsc resumeAddress nextTarget) entry) fun y =>
        Returned entry (0x60 + stack) resumeAddress y ∧
          DontVanillaSkinOutcome stsc nextTarget entry y := by
  let code := dontVanillaSkinCode stsc resumeAddress nextTarget
  let saved := [(0x20, entry.regs .r8), (0x18, entry.regs .r9), (0x10, entry.regs .rdx),
    (8, entry.regs .rcx)]
  let asking := Function.update entry.regs .rdx (entry.regs .r13)
  apply Frame.Ensures.completes 0x60 stack
  apply Frame.Ensures.follow hroom 6 (g := ⟨code.drop 6, 0x60, saved, asking, none, []⟩) rfl
  apply Frame.Ensures.call hroom hcallee haligned rfl rfl (by simp [Frame.callable, saved])
  intro ask hask
  let restored := Function.update (Function.update (Function.update (Function.update
    ask.after.regs .r8 (entry.regs .r8)) .r9 (entry.regs .r9)) .rdx (entry.regs .rdx)) .rcx
    (entry.regs .rcx)
  apply Frame.Ensures.follow hroom 6
    (g := ⟨code.drop 13, 0, [], restored, some (ask.after.al == 0), [ask]⟩) rfl
  cases hanswer : ask.after.al == 0 with
  | true =>
    apply Frame.Ensures.follow hroom 1 (g := ⟨code.drop 14, 0, [], restored, some true, [ask]⟩) rfl
    apply Frame.Ensures.call hroom hcallee haligned rfl rfl (by simp [Frame.callable])
    intro original horiginal
    apply Frame.Ensures.follow hroom 1
      (g := ⟨code.drop 16, 0, [], original.after.regs, some original.after.zf, [ask, original]⟩) rfl
    apply Frame.Ensures.leave hroom rfl rfl
    intro y hregs hcalls hreturned
    refine ⟨hreturned, ask, [original], hcalls, hask.target, hask.regs .rcx, hask.regs .rdx, ?_⟩
    rw [if_pos (beq_iff_eq.mp hanswer)]
    refine ⟨original, rfl, horiginal.target, horiginal.rsp.trans below_zero, ?_⟩
    intro r hr
    simp only [List.mem_cons, List.not_mem_nil, or_false] at hr
    rcases hr with rfl | rfl | rfl | rfl <;> exact horiginal.regs _
  | false =>
    apply Frame.Ensures.follow hroom 1 (g := ⟨code.drop 16, 0, [], restored, some false, [ask]⟩) rfl
    apply Frame.Ensures.leave hroom rfl rfl
    intro y hregs hcalls hreturned
    refine ⟨hreturned, ask, [], hcalls, hask.target, hask.regs .rcx, hask.regs .rdx, ?_⟩
    rw [if_neg (beq_eq_false_iff_ne.mp hanswer)]

theorem shimWornFlagsCode_completes (getWornMask : Word) {target : Reg}
    (htarget : target = .rsi ∨ target = .rbx) :
    Completes (shimWornFlagsCode stsc target resumeAddress getWornMask) callee
      (start (shimWornFlagsCode stsc target resumeAddress getWornMask) entry) fun y =>
        Returned entry (0x60 + stack) resumeAddress y ∧
          ShimWornFlagsOutcome stsc target getWornMask entry y := by
  let code := shimWornFlagsCode stsc target resumeAddress getWornMask
  apply Frame.Ensures.completes 0x60 stack
  let asking := Function.update entry.regs .rcx (entry.regs target)
  apply Frame.Ensures.follow hroom 4
    (g := ⟨code.drop 4, 0x30, [(8, entry.regs .rcx)], asking, none, []⟩)
    (by rcases htarget with rfl | rfl <;> rfl)
  apply Frame.Ensures.call hroom hcallee haligned rfl rfl (by simp [Frame.callable])
  intro ask hask
  let restored := Function.update ask.after.regs .rcx (entry.regs .rcx)
  apply Frame.Ensures.follow hroom 4
    (g := ⟨code.drop 9, 0, [], restored, some (ask.after.al == 0), [ask]⟩) rfl
  cases hanswer : ask.after.al == 0 with
  | true =>
    apply Frame.Ensures.follow hroom 1 (g := ⟨code.drop 10, 0, [], restored, some true, [ask]⟩) rfl
    apply Frame.Ensures.call hroom hcallee haligned rfl rfl (by simp [Frame.callable])
    intro original horiginal
    apply Frame.Ensures.follow hroom 1
      (g := ⟨code.drop 24, 0, [], original.after.regs, some original.after.zf, [ask, original]⟩) rfl
    apply Frame.Ensures.leave hroom rfl rfl
    intro y hregs hcalls hreturned
    refine ⟨hreturned, ask, original, [], hcalls, hask.target, hask.regs .rcx,
      horiginal.target, horiginal.regs .rcx, ?_⟩
    rw [if_pos (beq_iff_eq.mp hanswer)]
    refine ⟨rfl, ?_⟩
    rw [Machine.eax, Machine.eax, hregs .rax]
  | false =>
    -- These slots lie above the shadow area of both calls, not above that of the caller.
    let saved := [(8, ask.after.regs .rdx), (0x10, entry.regs .rcx)]
    apply Frame.Ensures.follow hroom 4
      (g := ⟨code.drop 16, 0x30, saved, restored, none, [ask]⟩) rfl
    apply Frame.Ensures.call hroom hcallee haligned rfl rfl (by simp [Frame.callable, saved])
    intro original horiginal
    let correcting := Function.update (Function.update (Function.update original.after.regs .r8
      (original.after.eax.setWidth 64)) .rcx (entry.regs .rcx)) .rdx (original.after.regs target)
    apply Frame.Ensures.follow hroom 3
      (g := ⟨code.drop 20, 0x30, saved, correcting, some original.after.zf, [ask, original]⟩)
      (by rcases htarget with rfl | rfl <;> rfl)
    apply Frame.Ensures.call hroom hcallee haligned rfl rfl (by simp [Frame.callable, saved])
    intro corrected hcorrected
    let finished := Function.update corrected.after.regs .rdx (ask.after.regs .rdx)
    apply Frame.Ensures.follow hroom 3
      (g := ⟨code.drop 24, 0, saved, finished, none, [ask, original, corrected]⟩) rfl
    apply Frame.Ensures.leave hroom rfl rfl
    intro y hregs hcalls hreturned
    refine ⟨hreturned, ask, original, [corrected], hcalls, hask.target, hask.regs .rcx,
      horiginal.target, horiginal.regs .rcx, ?_⟩
    rw [if_neg (beq_eq_false_iff_ne.mp hanswer)]
    refine ⟨corrected, rfl, hcorrected.target, hcorrected.regs .rcx, ?_, hcorrected.regs .r8, ?_⟩
    · have hkept : original.after.regs target = entry.regs target := by
        rcases htarget with rfl | rfl <;> exact horiginal.kept _ rfl
      exact (hcorrected.regs .rdx).trans hkept
    · rw [Machine.eax, Machine.eax, hregs .rax]
      rfl

theorem customSkinCode_completes (visitWornItems : Word) {weightModel : Reg}
    (hmodel : weightModel = .rdi ∨ weightModel = .r15) :
    Completes (customSkinCode stsc weightModel resumeAddress visitWornItems) callee
      (start (customSkinCode stsc weightModel resumeAddress visitWornItems) entry) fun y =>
        Returned entry (0x60 + stack) resumeAddress y ∧
          CustomSkinOutcome stsc weightModel visitWornItems entry y := by
  let code := customSkinCode stsc weightModel resumeAddress visitWornItems
  apply Frame.Ensures.completes 0x60 stack
  let visiting := Function.update (Function.update entry.regs .r8 (entry.regs .rbx)) .r9
    visitWornItems
  apply Frame.Ensures.follow hroom 3 (g := ⟨code.drop 3, 0x20, [], visiting, none, []⟩) rfl
  apply Frame.Ensures.call hroom hcallee haligned rfl rfl (by simp [Frame.callable])
  intro visit hvisit
  let saved := [(0x10, visit.after.regs .rdx), (8, visit.after.regs .rcx)]
  let asking := Function.update visit.after.regs .rcx (visit.after.regs .rbx)
  apply Frame.Ensures.follow hroom 5 (g := ⟨code.drop 9, 0x30, saved, asking, none, [visit]⟩) rfl
  apply Frame.Ensures.call hroom hcallee haligned rfl rfl (by simp [Frame.callable, saved])
  intro ask hask
  have htarget : ask.before.regs .rcx = entry.regs .rbx :=
    (hask.regs .rcx).trans (hvisit.kept .rbx rfl)
  let restored := Function.update (Function.update ask.after.regs .rdx (visit.after.regs .rdx)) .rcx
    (visit.after.regs .rcx)
  apply Frame.Ensures.follow hroom 4
    (g := ⟨code.drop 14, 0, [], restored, some (ask.after.al == 0), [visit, ask]⟩) rfl
  cases hanswer : ask.after.al == 0 with
  | true =>
    apply Frame.Ensures.follow hroom 1
      (g := ⟨code.drop 25, 0, [], restored, some true, [visit, ask]⟩) rfl
    apply Frame.Ensures.leave hroom rfl rfl
    intro y hregs hcalls hreturned
    refine ⟨hreturned, visit, ask, [], hcalls, hvisit.target, hvisit.regs .rcx, hvisit.regs .rdx,
      hvisit.regs .r8, hvisit.regs .r9, hask.target, htarget, ?_⟩
    rw [if_pos (beq_iff_eq.mp hanswer)]
  | false =>
    let saved' := [(0x10, visit.after.regs .rcx), (8, visit.after.regs .rdx)]
    let applying := Function.update (Function.update restored .rcx (ask.after.regs .rbx)) .rdx
      (ask.after.regs weightModel)
    apply Frame.Ensures.follow hroom 6
      (g := ⟨code.drop 20, 0x30, saved', applying, none, [visit, ask]⟩)
      (by rcases hmodel with rfl | rfl <;> rfl)
    apply Frame.Ensures.call hroom hcallee haligned rfl rfl (by simp [Frame.callable, saved'])
    intro additional hadditional
    let finished := Function.update (Function.update additional.after.regs .rcx
      (visit.after.regs .rcx)) .rdx (visit.after.regs .rdx)
    apply Frame.Ensures.follow hroom 4
      (g := ⟨code.drop 25, 0, [], finished, none, [visit, ask, additional]⟩) rfl
    apply Frame.Ensures.leave hroom rfl rfl
    intro y hregs hcalls hreturned
    refine ⟨hreturned, visit, ask, [additional], hcalls, hvisit.target, hvisit.regs .rcx,
      hvisit.regs .rdx, hvisit.regs .r8, hvisit.regs .r9, hask.target, htarget, ?_⟩
    rw [if_neg (beq_eq_false_iff_ne.mp hanswer)]
    have hkept : ask.after.regs weightModel = entry.regs weightModel := by
      rcases hmodel with rfl | rfl <;> exact hask.kept _ rfl
    exact ⟨additional, rfl, hadditional.target,
      (hadditional.regs .rcx).trans (hask.kept .rbx rfl), (hadditional.regs .rdx).trans hkept⟩

end Runs

/-! ## Every stub -/

inductive Stub where
  | dontVanillaSkin
  | shimWornFlagsSE
  | shimWornFlagsAE
  | customSkinSE
  | customSkinAE
  deriving DecidableEq

def Stub.code (stsc : StubFunctions) (resumeAddress original : Word) : Stub → List (Instr StubLabel)
  | dontVanillaSkin => dontVanillaSkinCode stsc resumeAddress original
  | shimWornFlagsSE => shimWornFlagsCodeSE stsc resumeAddress original
  | shimWornFlagsAE => shimWornFlagsCodeAE stsc resumeAddress original
  | customSkinSE => customSkinCodeSE stsc resumeAddress original
  | customSkinAE => customSkinCodeAE stsc resumeAddress original

def Stub.Outcome (stsc : StubFunctions) (original : Word) (entry : Machine) :
    Stub → Execution StubLabel → Prop
  | dontVanillaSkin => DontVanillaSkinOutcome stsc original entry
  | shimWornFlagsSE => ShimWornFlagsOutcome stsc .rsi original entry
  | shimWornFlagsAE => ShimWornFlagsOutcome stsc .rbx original entry
  | customSkinSE => CustomSkinOutcome stsc .rdi original entry
  | customSkinAE => CustomSkinOutcome stsc .r15 original entry

/-- Whatever the callees do within their convention, and whatever the registers hold: a stub
issues its calls with an aligned stack and clear shadow areas, comes out at the resume address
with everything in place that the game relies on, and has passed the right arguments on. -/
theorem stub_keeps_convention (stub : Stub) (stsc : StubFunctions)
    (resumeAddress original : Word) (entry : Machine) {stack : ℕ} {callee : Callee}
    (hroom : 0x60 + stack + 0x20 ≤ 2 ^ 64) (hcallee : Win64 stack callee)
    (haligned : Aligned entry.rsp) :
    Completes (stub.code stsc resumeAddress original) callee
      (start (stub.code stsc resumeAddress original) entry) fun y =>
        Returned entry (0x60 + stack) resumeAddress y ∧ stub.Outcome stsc original entry y := by
  cases stub with
  | dontVanillaSkin => exact dontVanillaSkinCode_completes hroom hcallee haligned original
  | shimWornFlagsSE => exact shimWornFlagsCode_completes hroom hcallee haligned original (.inl rfl)
  | shimWornFlagsAE => exact shimWornFlagsCode_completes hroom hcallee haligned original (.inr rfl)
  | customSkinSE => exact customSkinCode_completes hroom hcallee haligned original (.inl rfl)
  | customSkinAE => exact customSkinCode_completes hroom hcallee haligned original (.inr rfl)

/-- A callee that answers true, with garbage in the other volatile registers and in its shadow
area. -/
def plainCallee : Callee := fun n target m =>
  { m with
    regs := fun r =>
      if r = .rax then 1 else if r.isVolatile then target + BitVec.ofNat 64 n else m.regs r
    memory := fun a => if InRange (m.rsp - 8) 0x28 a then 0xCC else m.memory a }

def plainEntry : Machine := ⟨fun r => if r = .rsp then 0x8000 else 0x77, fun _ => 0, false⟩

theorem plainCallee_win64 : Win64 8 plainCallee := by
  constructor
  · intro n target m _ r hr
    have hrax : r ≠ .rax := by
      rintro rfl
      cases hr
    simp [plainCallee, hrax, hr]
  · intro n target m _ a ha
    exact if_neg ha

theorem stub_keeps_convention_plain :
    Completes (shimWornFlagsCodeSE ⟨1, 2, 3, 4, 5⟩ 0x105 0x200) plainCallee
      (start (shimWornFlagsCodeSE ⟨1, 2, 3, 4, 5⟩ 0x105 0x200) plainEntry) fun y =>
        Returned plainEntry 0x68 0x105 y ∧
          ShimWornFlagsOutcome ⟨1, 2, 3, 4, 5⟩ .rsi 0x200 plainEntry y :=
  stub_keeps_convention .shimWornFlagsSE ⟨1, 2, 3, 4, 5⟩ 0x105 0x200 plainEntry (by norm_num)
    plainCallee_win64 (by decide)

end FittingSchlongs.Hooks
