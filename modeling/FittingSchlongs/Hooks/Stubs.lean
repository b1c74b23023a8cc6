import FittingSchlongs.Foundation.X64.Machine

/-! # The generated stubs

The code behind the five branches. Each stub asks the plugin, calls or skips the original
function of the game, and jumps back behind the replaced call.
-/

namespace FittingSchlongs.Hooks
open Foundation.X64

/-- The labels of the five generators. -/
inductive StubLabel where
  | out
  | fNextTarget
  | fShouldBlockVanillaArmor
  | suppressVanilla
  | fShouldOverrideSkinning
  | fGetWornMask
  | fGetCorrectedWornMask
  | skipAdditional
  | fApplyAdditionalDisplayArmors
  | fVisitWornItems
  | fVisitWornItemsWithGenitalFilter
  deriving DecidableEq

/-- The addresses of the functions of the plugin that stubs call. -/
structure StubFunctions where
  shouldBlockVanillaArmor : Word
  shouldOverrideSkinning : Word
  getCorrectedWornMask : Word
  applyAdditionalDisplayArmors : Word
  visitWornItemsWithGenitalFilter : Word

variable (stsc : StubFunctions)

/-- `Code` of `InstallDontVanillaSkinHook`. -/
def dontVanillaSkinCode (resumeAddress nextTarget : Word) : List (Instr StubLabel) :=
  [.push .rcx,
    .push .rdx,
    .push .r9,
    .push .r8,
    .mov .rdx .r13,
    .subRsp 0x40,
    .call .fShouldBlockVanillaArmor,
    .addRsp 0x40,
    .pop .r8,
    .pop .r9,
    .pop .rdx,
    .pop .rcx,
    .testAl,
    .jnz .out,
    .call .fNextTarget,
    .label .out,
    .jmpData,
    .dq resumeAddress,
    .label .fNextTarget,
    .dq nextTarget,
    .label .fShouldBlockVanillaArmor,
    .dq stsc.shouldBlockVanillaArmor]

/-- The worn-mask stubs differ in the register that holds the target. -/
def shimWornFlagsCode (target : Reg) (resumeAddress getWornMask : Word) :
    List (Instr StubLabel) :=
  [.push .rcx,
    .mov .rcx target,
    .subRsp 0x8,
    .subRsp 0x20,
    .call .fShouldOverrideSkinning,
    .addRsp 0x20,
    .addRsp 0x8,
    .pop .rcx,
    .testAl,
    .jnz .suppressVanilla,
    .call .fGetWornMask,
    .jmp .out,
    .label .suppressVanilla,
    .subRsp 0x30,
    .storeRsp 0x20 .rcx,
    .storeRsp 0x28 .rdx,
    .call .fGetWornMask,
    .mov32 .r8 .rax,
    .loadRsp .rcx 0x20,
    .mov .rdx target,
    .call .fGetCorrectedWornMask,
    .loadRsp .rdx 0x28,
    .addRsp 0x30,
    .label .out,
    .jmpData,
    .dq resumeAddress,
    .label .fShouldOverrideSkinning,
    .dq stsc.shouldOverrideSkinning,
    .label .fGetWornMask,
    .dq getWornMask,
    .label .fGetCorrectedWornMask,
    .dq stsc.getCorrectedWornMask]

def shimWornFlagsCodeSE : Word → Word → List (Instr StubLabel) := shimWornFlagsCode stsc .rsi

def shimWornFlagsCodeAE : Word → Word → List (Instr StubLabel) := shimWornFlagsCode stsc .rbx

/-- The custom-skin stubs differ in the register that holds the weight model. -/
def customSkinCode (weightModel : Reg) (resumeAddress visitWornItems : Word) :
    List (Instr StubLabel) :=
  [.mov .r8 .rbx,
    .loadData .r9 .fVisitWornItems,
    .subRsp 0x20,
    .call .fVisitWornItemsWithGenitalFilter,
    .addRsp 0x20,
    .push .rcx,
    .push .rdx,
    .mov .rcx .rbx,
    .subRsp 0x20,
    .call .fShouldOverrideSkinning,
    .addRsp 0x20,
    .pop .rdx,
    .pop .rcx,
    .testAl,
    .jz .skipAdditional,
    .push .rdx,
    .push .rcx,
    .mov .rcx .rbx,
    .mov .rdx weightModel,
    .subRsp 0x20,
    .call .fApplyAdditionalDisplayArmors,
    .addRsp 0x20,
    .pop .rcx,
    .pop .rdx,
    .label .skipAdditional,
    .jmpData,
    .dq resumeAddress,
    .label .fApplyAdditionalDisplayArmors,
    .dq stsc.applyAdditionalDisplayArmors,
    .label .fVisitWornItems,
    .dq visitWornItems,
    .label .fVisitWornItemsWithGenitalFilter,
    .dq stsc.visitWornItemsWithGenitalFilter,
    .label .fShouldOverrideSkinning,
    .dq stsc.shouldOverrideSkinning]

def customSkinCodeSE : Word → Word → List (Instr StubLabel) := customSkinCode stsc .rdi

def customSkinCodeAE : Word → Word → List (Instr StubLabel) := customSkinCode stsc .r15

end FittingSchlongs.Hooks
