import FittingSchlongs.Hooks.Install

/-! # All hooks or none

A call site is verified when its near call reaches the expected target. Writing one
window leaves the other sites verified, so no installer fails after another has written.
-/

namespace FittingSchlongs.Hooks
open Foundation.ByteMemory

/-! ## The sites of a layout -/

structure HookSite where
  address : Address
  expectedTarget : Address

/-- Vanilla block, worn mask and custom skin. -/
def hookSites (rel : Module) : RuntimeLayout → List HookSite
  | .kUnsupported => []
  | .kSE1597 =>
    [⟨rel.address 24232 + 0x302, rel.address 17392⟩, ⟨rel.address 24220 + 0x7C, rel.address 15806⟩,
      ⟨rel.address 24231 + 0x81, rel.address 15856⟩]
  | .kAE161170 =>
    [⟨rel.address 24736 + 0x302, rel.address 17792⟩, ⟨rel.address 24724 + 0x80, rel.address 16044⟩,
      ⟨rel.address 24725 + 0x1EF, rel.address 16096⟩]

/-- The window holds a near call whose target, modulo the address space, is the expected one. -/
def HookSite.Verified (site : HookSite) (memory : MemoryImage) : Prop :=
  memory site.address = 0xE8 ∧
    ((site.address.toNat : ℤ) + 5 + (displacement memory site.address).toInt) % 2 ^ 64 =
      site.expectedTarget.toNat

instance (site : HookSite) (memory : MemoryImage) : Decidable (site.Verified memory) :=
  inferInstanceAs (Decidable (_ ∧ _))

/-- Two windows share no address. -/
def Separate (s t : HookSite) : Prop := ∀ x, InRange s.address 5 x → ¬ InRange t.address 5 x

/-- `IsAE` agrees with the version table. -/
def LayoutAgrees (rel : Module) : Prop :=
  match selectRuntimeLayout rel.version with
  | .kUnsupported => True
  | .kSE1597 => rel.isAE = false
  | .kAE161170 => rel.isAE = true

section Inspection

variable {memory : MemoryImage} {hookAddress expectedTarget : Address}

theorem call_target_eq_iff (d : BitVec 32) :
    hookAddress + 5 + d.signExtend 64 = expectedTarget ↔
      ((hookAddress.toNat : ℤ) + 5 + d.toInt) % 2 ^ 64 = expectedTarget.toNat := by
  have hsum : hookAddress + 5 + d.signExtend 64 =
      BitVec.ofInt 64 ((hookAddress.toNat : ℤ) + 5 + d.toInt) := by
    rw [BitVec.ofInt_add, BitVec.ofInt_add, BitVec.ofInt_natCast, BitVec.ofNat_toNat,
      BitVec.setWidth_eq]
    rfl
  rw [hsum, ← BitVec.toNat_inj, BitVec.toNat_ofInt]
  have hnonneg : 0 ≤ ((hookAddress.toNat : ℤ) + 5 + d.toInt) % 2 ^ 64 :=
    Int.emod_nonneg _ (by norm_num)
  norm_cast
  omega

theorem inspectCallSite_valid_iff :
    (inspectCallSite memory hookAddress expectedTarget).valid = true ↔
      HookSite.Verified ⟨hookAddress, expectedTarget⟩ memory := by
  simp only [inspectCallSite, HookSite.Verified, ← call_target_eq_iff]
  split_ifs with hopcode hcall
  · exact iff_of_false not_false fun h => hopcode h.1
  · exact iff_of_true rfl hcall
  · exact iff_of_false not_false hcall

theorem inRange_self (a : Address) : InRange a 5 a := by
  simp [InRange]

theorem HookSite.verified_congr {site : HookSite} {memory' : MemoryImage}
    (h : ∀ x, InRange site.address 5 x → memory x = memory' x) :
    site.Verified memory ↔ site.Verified memory' := by
  have hload : displacement memory site.address = displacement memory' site.address := by
    simp only [displacement]
    rw [load_congr (by norm_num)]
    intro x hx
    exact h x (inRange_of_inRange_offset (k := 1) (by norm_num) hx)
  simp only [HookSite.Verified]
  rw [h _ (inRange_self _), hload]

end Inspection

/-! ## Installing a list of sites -/

section Sites

variable (trampoline : BranchWriter)

/-- Install site after site until one is refused. -/
def installSites : List HookSite → Bool × MemoryImage → Bool × MemoryImage
  | [], result => result
  | site :: sites, result =>
    installSites sites (andThen result fun memory =>
      installCallSiteHook trampoline memory site.address site.expectedTarget)

/-- The memory with a branch in every window. -/
def writeSites (sites : List HookSite) (memory : MemoryImage) : MemoryImage :=
  sites.foldl (fun memory site => trampoline.writeBranch memory site.address) memory

theorem writeSites_outside {sites : List HookSite} {x : Address}
    (h : ∀ site ∈ sites, ¬ InRange site.address 5 x) (memory : MemoryImage) :
    writeSites trampoline sites memory x = memory x := by
  induction sites generalizing memory with
  | nil => rfl
  | cons site sites ih =>
    have hrest := ih (fun s hs => h s (List.mem_cons_of_mem site hs))
      (trampoline.writeBranch memory site.address)
    exact hrest.trans (trampoline.outside memory site.address x (h site List.mem_cons_self))

theorem writeSites_opcode {sites : List HookSite} (hsep : sites.Pairwise Separate)
    {site : HookSite} (hsite : site ∈ sites) (memory : MemoryImage) :
    writeSites trampoline sites memory site.address = 0xE9 := by
  induction sites generalizing memory with
  | nil => exact absurd hsite List.not_mem_nil
  | cons first sites ih =>
    rw [List.pairwise_cons] at hsep
    rcases List.mem_cons.mp hsite with rfl | hsite
    · change writeSites trampoline sites (trampoline.writeBranch memory site.address) _ = _
      rw [writeSites_outside trampoline fun s hs => hsep.1 s hs _ (inRange_self _),
        trampoline.opcode]
    · exact ih hsep.2 hsite _

theorem installSites_verified {sites : List HookSite} (hsep : sites.Pairwise Separate)
    {memory : MemoryImage} (h : ∀ site ∈ sites, site.Verified memory) :
    installSites trampoline sites (true, memory) = (true, writeSites trampoline sites memory) := by
  induction sites generalizing memory with
  | nil => rfl
  | cons first sites ih =>
    rw [List.pairwise_cons] at hsep
    have hvalid := inspectCallSite_valid_iff.mpr (h first List.mem_cons_self)
    have hfirst : andThen (true, memory) (fun memory =>
        installCallSiteHook trampoline memory first.address first.expectedTarget) =
        (true, trampoline.writeBranch memory first.address) := by
      simp [andThen, installCallSiteHook, hvalid]
    rw [installSites, hfirst]
    apply ih hsep.2
    -- The branch just written lies outside the windows still to come.
    intro site hsite
    rw [site.verified_congr fun x hx => trampoline.outside memory first.address x
      fun hfirst => hsep.1 site hsite x hfirst hx]
    exact h site (List.mem_cons_of_mem first hsite)

end Sites

/-! ## The installer -/

section Installer

variable {rel : Module} (trampoline : BranchWriter)

theorem validateHookSites_iff (hAE : LayoutAgrees rel) (memory : MemoryImage)
    (hlayout : selectRuntimeLayout rel.version ≠ .kUnsupported) :
    validateHookSites rel memory (selectRuntimeLayout rel.version) = true ↔
      ∀ site ∈ hookSites rel (selectRuntimeLayout rel.version), site.Verified memory := by
  simp only [LayoutAgrees] at hAE
  cases hcase : selectRuntimeLayout rel.version with
  | kUnsupported => exact absurd hcase hlayout
  | kSE1597 =>
    rw [hcase] at hAE
    simp only at hAE
    simp [validateHookSites, hookSites, relocationAddress, relocation, hAE,
      inspectCallSite_valid_iff, and_assoc]
  | kAE161170 =>
    rw [hcase] at hAE
    simp only at hAE
    simp [validateHookSites, hookSites, relocationAddress, relocation, hAE,
      inspectCallSite_valid_iff, and_assoc]

theorem installSkinningHooks_refused (memory : MemoryImage)
    (h : selectRuntimeLayout rel.version = .kUnsupported ∨
      validateHookSites rel memory (selectRuntimeLayout rel.version) = false) :
    installSkinningHooks rel trampoline (.initial memory) = (false, ⟨memory, true, false⟩) := by
  simp only [installSkinningHooks, HookState.initial, Bool.false_eq_true, ↓reduceIte]
  rcases h with h | h
  · simp [h]
  · split_ifs <;> simp_all

theorem installSkinningHooks_accepted (hAE : LayoutAgrees rel) (memory : MemoryImage)
    (hlayout : selectRuntimeLayout rel.version ≠ .kUnsupported)
    (hsep : (hookSites rel (selectRuntimeLayout rel.version)).Pairwise Separate)
    (hverified : ∀ site ∈ hookSites rel (selectRuntimeLayout rel.version), site.Verified memory) :
    installSkinningHooks rel trampoline (.initial memory) =
      (true, ⟨writeSites trampoline (hookSites rel (selectRuntimeLayout rel.version)) memory,
        true, true⟩) := by
  have hinstall := installSites_verified trampoline hsep hverified
  have hvalid := (validateHookSites_iff hAE memory hlayout).mpr hverified
  simp only [LayoutAgrees] at hAE
  simp only [installSkinningHooks, HookState.initial, Bool.false_eq_true, ↓reduceIte, hlayout,
    hvalid, Bool.not_true]
  cases hcase : selectRuntimeLayout rel.version with
  | kUnsupported => exact absurd hcase hlayout
  | kSE1597 =>
    rw [hcase] at hAE hinstall
    simp only [hookSites, installSites, andThen, ↓reduceIte] at hAE hinstall
    simp only [installDontVanillaSkinHook, installShimWornFlagsHookSE, installCustomSkinHookSE,
      relocationAddress, relocation, hAE, andThen, Bool.false_eq_true, ↓reduceIte, reduceCtorEq]
    rw [hinstall]
    rfl
  | kAE161170 =>
    rw [hcase] at hAE hinstall
    simp only [hookSites, installSites, andThen, ↓reduceIte] at hAE hinstall
    simp only [installDontVanillaSkinHook, installShimWornFlagsHookAE, installCustomSkinHookAE,
      relocationAddress, relocation, hAE, andThen, ↓reduceIte]
    rw [hinstall]
    rfl

/-- The call sites decide between the two outcomes of a first call. -/
theorem installSkinningHooks_cases (hAE : LayoutAgrees rel)
    (hsep : (hookSites rel (selectRuntimeLayout rel.version)).Pairwise Separate)
    (memory : MemoryImage) :
    ((selectRuntimeLayout rel.version ≠ .kUnsupported ∧
        ∀ site ∈ hookSites rel (selectRuntimeLayout rel.version), site.Verified memory) ∧
      installSkinningHooks rel trampoline (.initial memory) =
        (true, ⟨writeSites trampoline (hookSites rel (selectRuntimeLayout rel.version)) memory,
          true, true⟩)) ∨
    (¬ (selectRuntimeLayout rel.version ≠ .kUnsupported ∧
        ∀ site ∈ hookSites rel (selectRuntimeLayout rel.version), site.Verified memory) ∧
      installSkinningHooks rel trampoline (.initial memory) = (false, ⟨memory, true, false⟩)) := by
  by_cases haccept : selectRuntimeLayout rel.version ≠ .kUnsupported ∧
      ∀ site ∈ hookSites rel (selectRuntimeLayout rel.version), site.Verified memory
  · left
    exact ⟨haccept, installSkinningHooks_accepted trampoline hAE memory haccept.1 hsep haccept.2⟩
  · right
    refine ⟨haccept, installSkinningHooks_refused trampoline memory ?_⟩
    by_cases hlayout : selectRuntimeLayout rel.version = .kUnsupported
    · exact Or.inl hlayout
    · right
      rw [← Bool.not_eq_true, validateHookSites_iff hAE memory hlayout]
      exact fun h => haccept ⟨hlayout, h⟩

theorem installSkinningHooks_later (memory : MemoryImage) (answer : Bool) :
    installSkinningHooks rel trampoline ⟨memory, true, answer⟩ =
      (answer, ⟨memory, true, answer⟩) := rfl

/-- Installation modifies no byte and fails, or modifies every window of the layout and
succeeds, as the three call sites decide; later calls repeat the answer. -/
theorem install_all_or_nothing (hAE : LayoutAgrees rel)
    (hsep : (hookSites rel (selectRuntimeLayout rel.version)).Pairwise Separate)
    (memory : MemoryImage) :
    ((installSkinningHooks rel trampoline (.initial memory)).1 = true ↔
      selectRuntimeLayout rel.version ≠ .kUnsupported ∧
        ∀ site ∈ hookSites rel (selectRuntimeLayout rel.version), site.Verified memory) ∧
    ((installSkinningHooks rel trampoline (.initial memory)).1 = false →
      (installSkinningHooks rel trampoline (.initial memory)).2.memory = memory) ∧
    ((installSkinningHooks rel trampoline (.initial memory)).1 = true →
      (∀ site ∈ hookSites rel (selectRuntimeLayout rel.version),
        (installSkinningHooks rel trampoline (.initial memory)).2.memory site.address ≠
          memory site.address) ∧
      ∀ x, (∀ site ∈ hookSites rel (selectRuntimeLayout rel.version),
          ¬ InRange site.address 5 x) →
        (installSkinningHooks rel trampoline (.initial memory)).2.memory x = memory x) ∧
    (∀ memory', installSkinningHooks rel trampoline
        { (installSkinningHooks rel trampoline (.initial memory)).2 with memory := memory' } =
      ((installSkinningHooks rel trampoline (.initial memory)).1,
        { (installSkinningHooks rel trampoline (.initial memory)).2 with memory := memory' })) := by
  rcases installSkinningHooks_cases trampoline hAE hsep memory with
    ⟨haccept, heq⟩ | ⟨hrefuse, heq⟩
  · rw [heq]
    refine ⟨iff_of_true rfl haccept, fun h => absurd h.symm Bool.false_ne_true, fun _ => ⟨?_, ?_⟩,
      fun memory' => installSkinningHooks_later trampoline memory' true⟩
    · intro site hsite
      change writeSites trampoline _ memory site.address ≠ _
      rw [writeSites_opcode trampoline hsep hsite, (haccept.2 site hsite).1]
      decide
    · intro x hx
      exact writeSites_outside trampoline hx memory
  · rw [heq]
    exact ⟨iff_of_false Bool.false_ne_true hrefuse, fun _ => rfl,
      fun h => absurd h Bool.false_ne_true, fun memory' => installSkinningHooks_later trampoline memory' false⟩

end Installer

/-! ## An unmodified executable -/

/-- A branch to nowhere in particular. -/
def plainTrampoline : BranchWriter where
  writeBranch memory hookAddress := store memory hookAddress 5 0xE9
  opcode memory hookAddress := by
    rw [store, if_pos (inRange_self hookAddress), BitVec.sub_self]
    rfl
  outside memory _ _ h := store_outside memory 0xE9 h

/-- Skyrim SE 1.5.97 with one page for each Address Library ID. -/
def plainModule : Module where
  version := ⟨1, 5, 97, 0⟩
  isAE := false
  address id := BitVec.ofNat 64 (id * 0x1000)

def storeCall (memory : MemoryImage) (site : HookSite) : MemoryImage :=
  store memory site.address 5
    (0xE8 + 256 * ((site.expectedTarget - (site.address + 5)).toNat % 2 ^ 32))

/-- The calls of the unmodified game and nothing else. -/
def plainMemory : MemoryImage := (hookSites plainModule .kSE1597).foldl storeCall (fun _ => 0)

theorem plainModule_agrees : LayoutAgrees plainModule := by
  simp only [LayoutAgrees]
  rfl

theorem plainSites_separate : (hookSites plainModule .kSE1597).Pairwise Separate := by
  have hdistance : (hookSites plainModule .kSE1597).Pairwise fun s t =>
      5 ≤ (t.address - s.address).toNat ∧ 5 ≤ (s.address - t.address).toNat := by decide
  refine hdistance.imp ?_
  intro s t h x hx
  exact not_inRange_of_distance h.1 h.2 hx

theorem plainSites_verified : ∀ site ∈ hookSites plainModule .kSE1597, site.Verified plainMemory := by
  decide

/-- The unmodified game gets all hooks. -/
theorem install_all_or_nothing_plain :
    (installSkinningHooks plainModule plainTrampoline (.initial plainMemory)).1 = true :=
  (install_all_or_nothing plainTrampoline plainModule_agrees plainSites_separate plainMemory).1.mpr
    ⟨by decide, plainSites_verified⟩

end FittingSchlongs.Hooks
