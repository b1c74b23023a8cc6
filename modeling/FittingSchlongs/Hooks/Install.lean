import FittingSchlongs.Foundation.ByteMemory

/-! # Installing the skinning hooks

Three near calls of the game are replaced by branches to generated code. All three call
sites are checked before the first one is written, and each installer checks its own
site again in the memory the installers before it have left.
-/

namespace FittingSchlongs.Hooks
open Foundation.ByteMemory

abbrev Address := BitVec 64

abbrev MemoryImage := Memory 64

/-! ## Runtime layouts -/

structure GameVersion where
  major : BitVec 16
  minor : BitVec 16
  patch : BitVec 16
  build : BitVec 16
  deriving DecidableEq

inductive RuntimeLayout where
  | kUnsupported
  | kSE1597
  | kAE161170
  deriving DecidableEq

def selectRuntimeLayout (version : GameVersion) : RuntimeLayout :=
  if version = ⟨1, 5, 97, 0⟩ then .kSE1597
  else if version = ⟨1, 6, 1170, 0⟩ then .kAE161170
  else .kUnsupported

/-- What CommonLib and the Address Library say about the executable. -/
structure Module where
  /-- `CurrentGameVersion()`. -/
  version : GameVersion
  /-- `REL::Module::IsAE()`. -/
  isAE : Bool
  /-- `REL::ID(id).address()`. -/
  address : ℕ → Address

def relocationAddress (rel : Module) (seId aeId : ℕ) (seOffset aeOffset : Address) : Address :=
  if rel.isAE then rel.address aeId + aeOffset else rel.address seId + seOffset

/-- `REL::Relocation` of `RELOCATION_ID(seId, aeId)`. -/
def relocation (rel : Module) (seId aeId : ℕ) : Address :=
  if rel.isAE then rel.address aeId else rel.address seId

/-! ## Call sites -/

structure CallSiteBranch where
  opcode : BitVec 8
  target : Address
  valid : Bool

/-- The signed displacement behind the opcode. -/
def displacement (memory : MemoryImage) (hookAddress : Address) : BitVec 32 :=
  BitVec.ofNat 32 (load memory (hookAddress + 1) 4)

def inspectCallSite (memory : MemoryImage) (hookAddress expectedTarget : Address) :
    CallSiteBranch :=
  let opcode := memory hookAddress
  if opcode ≠ 0xE8 then ⟨opcode, 0, false⟩
  else
    let target := hookAddress + 5 + (displacement memory hookAddress).signExtend 64
    if opcode = 0xE8 ∧ target = expectedTarget then ⟨opcode, target, true⟩
    else ⟨opcode, target, false⟩

def validateHookSites (rel : Module) (memory : MemoryImage) (layout : RuntimeLayout) : Bool :=
  let applyArmorAddon := relocation rel 17392 17792
  let getWornMask := relocation rel 15806 16044
  let visitWornItems := relocation rel 15856 16096
  let vanillaAddress := relocationAddress rel 24232 24736 0x302 0x302
  let vanilla := inspectCallSite memory vanillaAddress applyArmorAddon
  let isAE := layout = .kAE161170
  let wornAddress := if isAE then rel.address 24724 + 0x80 else rel.address 24220 + 0x7C
  let customAddress := if isAE then rel.address 24725 + 0x1EF else rel.address 24231 + 0x81
  let worn := inspectCallSite memory wornAddress getWornMask
  let custom := inspectCallSite memory customAddress visitWornItems
  vanilla.valid && worn.valid && custom.valid

/-! ## Installers -/

/-- `write_branch<5>`: a jump with an opcode of its own, in its own five bytes. -/
structure BranchWriter where
  writeBranch : MemoryImage → Address → MemoryImage
  opcode : ∀ memory hookAddress, writeBranch memory hookAddress hookAddress = 0xE9
  outside : ∀ memory hookAddress x, ¬ InRange hookAddress 5 x →
    writeBranch memory hookAddress x = memory x

variable (rel : Module) (trampoline : BranchWriter)

/-- What the installers share: check the site and write the branch. -/
def installCallSiteHook (memory : MemoryImage) (hookAddress expectedTarget : Address) :
    Bool × MemoryImage :=
  let callSite := inspectCallSite memory hookAddress expectedTarget
  if !callSite.valid then (false, memory)
  else (true, trampoline.writeBranch memory hookAddress)

def installDontVanillaSkinHook (memory : MemoryImage) : Bool × MemoryImage :=
  installCallSiteHook trampoline memory (relocationAddress rel 24232 24736 0x302 0x302)
    (relocation rel 17392 17792)

def installShimWornFlagsHookSE (memory : MemoryImage) : Bool × MemoryImage :=
  installCallSiteHook trampoline memory (rel.address 24220 + 0x7C) (relocation rel 15806 16044)

def installShimWornFlagsHookAE (memory : MemoryImage) : Bool × MemoryImage :=
  installCallSiteHook trampoline memory (rel.address 24724 + 0x80) (relocation rel 15806 16044)

def installCustomSkinHookSE (memory : MemoryImage) : Bool × MemoryImage :=
  installCallSiteHook trampoline memory (rel.address 24231 + 0x81) (relocation rel 15856 16096)

def installCustomSkinHookAE (memory : MemoryImage) : Bool × MemoryImage :=
  installCallSiteHook trampoline memory (rel.address 24725 + 0x1EF) (relocation rel 15856 16096)

/-- The memory of the game and the two globals of the installer. -/
structure HookState where
  memory : MemoryImage
  installOnce : Bool
  installSucceeded : Bool

def HookState.initial (memory : MemoryImage) : HookState := ⟨memory, false, false⟩

/-- `&&` with a right operand that works on the memory the left one leaves. -/
def andThen (left : Bool × MemoryImage) (right : MemoryImage → Bool × MemoryImage) :
    Bool × MemoryImage :=
  if left.1 then right left.2 else (false, left.2)

def installSkinningHooks (s : HookState) : Bool × HookState :=
  if s.installOnce then (s.installSucceeded, s)
  else
    let layout := selectRuntimeLayout rel.version
    if layout = .kUnsupported then (s.installSucceeded, { s with installOnce := true })
    else if !validateHookSites rel s.memory layout then
      (s.installSucceeded, { s with installOnce := true })
    else
      let vanillaInstalled := installDontVanillaSkinHook rel trampoline s.memory
      let (succeeded, memory) :=
        if layout = .kAE161170 then
          andThen (andThen vanillaInstalled (installShimWornFlagsHookAE rel trampoline))
            (installCustomSkinHookAE rel trampoline)
        else
          andThen (andThen vanillaInstalled (installShimWornFlagsHookSE rel trampoline))
            (installCustomSkinHookSE rel trampoline)
      (succeeded, ⟨memory, true, succeeded⟩)

end FittingSchlongs.Hooks
