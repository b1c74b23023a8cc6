import FittingSchlongs.Foundation.History
import FittingSchlongs.Keywords.SettledVerdict
import FittingSchlongs.Keywords.Unmarked
import FittingSchlongs.Plugin.Effects
import FittingSchlongs.Plugin.EquipEvents

/-! # The keywords over the life of the plugin

The armors in memory are what the passes of the handled load messages made of them, in the
order of the messages. Equip events, tasks and invalidations leave no trace, and after three
loads an armor that is registered each time has the keywords of its verdict for good.
-/

namespace FittingSchlongs.Plugin
open Text Armor Correction Hooks Keywords Foundation.Transition Function

variable {game : GameData} {r : ArmorRef} {armors : ArmorRef → TESObjectARMO}

theorem foldl_applyPass {passes : List (GameData × Option FormArray)}
    (hgame : ∀ pass ∈ passes, pass.1 = game) :
    passes.foldl applyPass armors = runPasses game (passes.map Prod.snd) armors := by
  induction passes generalizing armors with
  | nil => rfl
  | cons pass passes ih =>
    rw [List.forall_mem_cons] at hgame
    rw [List.foldl_cons, List.map_cons, runPasses_cons, ih hgame.2, applyPass, hgame.1]

theorem isListed_correct (editorID : Bytes) {armor : TESObjectARMO}
    (hnodup : armor.keywords.Nodup) :
    isListed game (correct game armor) editorID = isListed game armor editorID := by
  rw [correct_eq hnodup]
  exact isListed_withKeywords game armor _ editorID

theorem isListed_runPasses (editorID : Bytes) (hnodup : (armors r).keywords.Nodup)
    (passes : List (Option FormArray)) :
    isListed game (runPasses game passes armors r) editorID = isListed game (armors r) editorID := by
  have hstep : ∀ armor : TESObjectARMO, (armor.keywords.Nodup ∧
      isListed game armor editorID = isListed game (armors r) editorID) →
      (correct game armor).keywords.Nodup ∧
        isListed game (correct game armor) editorID = isListed game (armors r) editorID :=
    fun armor h => ⟨nodup_correct h.1, (isListed_correct editorID h.1).trans h.2⟩
  exact (runPasses_invariant _ hstep ⟨hnodup, rfl⟩ passes).2

theorem settled_by_passes (hnamed : LookupsNamed game) (hnodup : (armors r).keywords.Nodup)
    {passes : List (Option FormArray)}
    (hregistered : ∀ dataHandler ∈ passes, Registered r dataHandler)
    (hthree : 3 ≤ passes.length) :
    IsFixedPt (correct game) (runPasses game passes armors r) := by
  have hsettled := settled_after_three hnamed hnodup
  have hsplit : passes.length = passes.length - 3 + 3 := by omega
  rw [runPasses_registered hregistered, hsplit, iterate_add_apply, hsettled.iterate]
  exact hsettled

section Runs

variable {rel : Module} {trampoline : BranchWriter} {memory : MemoryImage}
  {actions : List Action} {s t : PluginState}

theorem armors_run (hrun : runFrom (step rel trampoline) s actions = some t) :
    t.armors = (observations (step rel trampoline) appliedPass s actions).foldl applyPass s.armors :=
  foldl_observations PluginState.armors (fun _ _ _ h => (effects_step h).armors) hrun

/-- The passes of the load messages a run has handled. -/
def handledPasses (rel : Module) (trampoline : BranchWriter) (s : PluginState)
    (actions : List Action) : List (GameData × Option FormArray) :=
  observations (step rel trampoline) appliedPass s actions

theorem armors_run_eq (hrun : runFrom (step rel trampoline) s actions = some t)
    (hgame : ∀ pass ∈ handledPasses rel trampoline s actions, pass.1 = game) :
    t.armors =
      runPasses game ((handledPasses rel trampoline s actions).map Prod.snd) s.armors := by
  rw [← foldl_applyPass hgame]
  exact armors_run hrun

/-- Of all actions only the handled load messages change an armor, each by one pass, and they keep
all of it but the managed keywords. Of these none comes up that no branch adds. -/
theorem armors_refine_passes
    (hrun : runFrom (step rel trampoline) (.initial memory armors) actions = some s)
    (hgame : ∀ pass ∈ handledPasses rel trampoline (.initial memory armors) actions,
      pass.1 = game) :
    s.armors = runPasses game ((handledPasses rel trampoline (.initial memory armors) actions).map
        Prod.snd) armors ∧
      ∀ r, LookupsNamed game → Regular game (armors r) →
        Regular game (s.armors r) ∧ Frame game (armors r) (s.armors r) := by
  have harmors := armors_run_eq hrun hgame
  refine ⟨harmors, fun r hnamed hregular => ?_⟩
  rw [harmors]
  exact frame_runPasses hnamed hregular _

/-- After three handled loads that found the armor no action changes it any more, its unmanaged
keywords are the ones it came with, and every wearer gets the classifiers' verdict on it. -/
theorem keywords_settle (hnamed : LookupsNamed game) (hregular : Regular game (armors r))
    (hrun : runFrom (step rel trampoline) (.initial memory armors) actions = some s)
    (hpasses : ∀ pass ∈ handledPasses rel trampoline (.initial memory armors) actions,
      pass.1 = game ∧ Registered r pass.2)
    (hthree : 3 ≤ (handledPasses rel trampoline (.initial memory armors) actions).length) :
    (∀ later t, runFrom (step rel trampoline) s later = some t →
      (∀ pass ∈ handledPasses rel trampoline s later, pass.1 = game) → t.armors r = s.armors r) ∧
    unmanagedKeywords game (s.armors r) = unmanagedKeywords game (armors r) ∧
    (isSosTngGenitalArmor game (armors r) = false →
      isListed game (armors r) kSosRevealingArmors = false →
      isListed game (armors r) kSosConcealingArmors = false →
      ReadsVerdict game (s.armors r)) := by
  have harmors := armors_run_eq hrun fun pass hpass => (hpasses pass hpass).1
  have hregistered : ∀ dataHandler ∈
      (handledPasses rel trampoline (.initial memory armors) actions).map Prod.snd,
      Registered r dataHandler := by
    intro dataHandler hmem
    obtain ⟨pass, hpass, rfl⟩ := List.mem_map.mp hmem
    exact (hpasses pass hpass).2
  have hfixed : IsFixedPt (correct game) (s.armors r) := by
    rw [harmors]
    exact settled_by_passes hnamed hregular.nodup hregistered (by rwa [List.length_map])
  obtain ⟨hregular', hframe⟩ := frame_runPasses hnamed hregular
    ((handledPasses rel trampoline (.initial memory armors) actions).map Prod.snd)
  obtain ⟨-, hgenital', -⟩ := runPasses_keeps hnamed hregular.nodup
    ((handledPasses rel trampoline (.initial memory armors) actions).map Prod.snd)
  refine ⟨?_, ?_, ?_⟩
  · intro later t hlater hgame
    rw [armors_run_eq hlater hgame]
    exact runPasses_settled hfixed _
  · rw [harmors]
    exact hframe.unmanaged
  · intro hgenital hrevealing hconcealing
    have hkeywords : (correct game (s.armors r)).keywords = (s.armors r).keywords :=
      congrArg TESObjectARMO.keywords hfixed
    rw [harmors] at hkeywords ⊢
    apply readsVerdict_of_settled hnamed hregular' (hgenital'.trans hgenital) _ _ hkeywords
    · exact (isListed_runPasses _ hregular.nodup _).trans hrevealing
    · exact (isListed_runPasses _ hregular.nodup _).trans hconcealing

/-- An actor whose armors came without marks or as genital armor gets the answers of the hooks it
would have got on the keywords of the game's files, however often these were rewritten. -/
theorem loads_keep_answers (hnamed : LookupsNamed game)
    (hrun : runFrom (step rel trampoline) (.initial memory armors) actions = some s)
    (hgame : ∀ pass ∈ handledPasses rel trampoline (.initial memory armors) actions, pass.1 = game)
    {worn : List ArmorRef}
    (hworn : ∀ r ∈ worn, isSosTngGenitalArmor game (armors r) = true ∨ Unmarked game (armors r))
    (order order' : SetOrder TESObjectARMO) (actor : Actor) :
    SameAnswers game order order' s.gameDataLoaded (wearing actor (worn.map armors))
      (wearing actor (worn.map s.armors)) := by
  have hlike : ∀ r ∈ worn, LooksLike game (wearing actor (worn.map armors))
      (wearing actor (worn.map s.armors)) (armors r) (s.armors r) := by
    intro r hr
    have hsex : isActorFemale (some (wearing actor (worn.map s.armors))) =
        isActorFemale (some (wearing actor (worn.map armors))) := rfl
    have harmors : s.armors = runPasses game _ armors := armors_run_eq hrun hgame
    have hpasses := looksLike_runPasses hnamed (hworn r hr) hsex
      ((handledPasses rel trampoline (.initial memory armors) actions).map Prod.snd)
    rwa [← harmors] at hpasses
  apply WornAlike.sameAnswers
  constructor
  case forth =>
    intro a ha
    rw [wornArmors_wearing] at ha ⊢
    obtain ⟨r, hr, rfl⟩ := List.mem_map.mp ha
    exact ⟨s.armors r, List.mem_map_of_mem hr, hlike r hr⟩
  case back =>
    intro a ha
    rw [wornArmors_wearing] at ha ⊢
    obtain ⟨r, hr, rfl⟩ := List.mem_map.mp ha
    exact ⟨armors r, List.mem_map_of_mem hr, hlike r hr⟩

end Runs

/-! ## Three plain loads -/

def plainLoads : List Action :=
  [.message plainEnvironment (some .kPostPostLoad), .message plainEnvironment (some .kDataLoaded),
    .message plainEnvironment (some .kPostLoadGame), .message plainEnvironment (some .kPostLoadGame)]

def plainReloaded : PluginState :=
  messageHandler plainModule plainTrampoline plainEnvironment (some .kPostLoadGame)
    (messageHandler plainModule plainTrampoline plainEnvironment (some .kPostLoadGame)
      (plainLoaded plainArmors))

theorem plainLoads_run :
    runFrom (step plainModule plainTrampoline) (.initial plainMemory plainArmors) plainLoads =
      some plainReloaded := by
  simp only [plainLoads, runFrom, plain_postPostLoad, Option.bind_some]
  rfl

theorem plainLoads_handled :
    handledPasses plainModule plainTrampoline (.initial plainMemory plainArmors) plainLoads =
      List.replicate 3 (taggedGame, plainEnvironment.dataHandler) := by
  rw [handledPasses, plainLoads, observations_cons (plain_postPostLoad plainArmors)]
  rfl

theorem plainLoads_game : ∀ pass ∈ handledPasses plainModule plainTrampoline
    (.initial plainMemory plainArmors) plainLoads, pass.1 = taggedGame := by
  rw [plainLoads_handled]
  intro pass hpass
  rw [List.eq_of_mem_replicate hpass]

theorem plainBikini_regular : Regular taggedGame (plainArmors 0) :=
  ⟨by decide, by decide, by decide⟩

theorem armors_refine_passes_plain :
    plainReloaded.armors =
        runPasses taggedGame (List.replicate 3 plainEnvironment.dataHandler) plainArmors ∧
      Regular taggedGame (plainReloaded.armors 0) ∧
      Frame taggedGame (plainArmors 0) (plainReloaded.armors 0) := by
  obtain ⟨harmors, hframe⟩ := armors_refine_passes plainLoads_run plainLoads_game
  rw [plainLoads_handled] at harmors
  exact ⟨harmors, hframe 0 taggedGame_named plainBikini_regular⟩

/-- The bikini conceals on everybody from the third load on. -/
theorem keywords_settle_bikini : ReadsVerdict taggedGame (plainReloaded.armors 0) := by
  have hpasses : ∀ pass ∈ handledPasses plainModule plainTrampoline
      (.initial plainMemory plainArmors) plainLoads,
      pass.1 = taggedGame ∧ Registered 0 pass.2 := by
    rw [plainLoads_handled]
    intro pass hpass
    rw [List.eq_of_mem_replicate hpass]
    exact ⟨rfl, _, rfl, List.mem_cons_self⟩
  exact (keywords_settle taggedGame_named plainBikini_regular plainLoads_run hpasses
    (by rw [plainLoads_handled]; decide)).2.2 (by decide) (by decide) (by decide)

theorem plainBikini_unmarked : Unmarked taggedGame (plainArmors 0) :=
  ⟨by decide, by decide, by decide, by decide⟩

/-- The bikini conceals through its mark what it concealed through its name. -/
theorem loads_keep_answers_bikini :
    shouldBlockVanillaArmor taggedGame SetOrder.dedup true (some (plainArmors 1))
        (some (.actor (wearing (plainActor 0x14 true []) ([0, 1].map plainReloaded.armors)))) =
      true := by
  have hworn : ∀ r ∈ [0, 1], isSosTngGenitalArmor taggedGame (plainArmors r) = true ∨
      Unmarked taggedGame (plainArmors r) := by
    simp only [List.forall_mem_cons, List.not_mem_nil, false_imp_iff, implies_true, and_true]
    exact ⟨Or.inr plainBikini_unmarked, Or.inl (by decide)⟩
  have hsame := loads_keep_answers taggedGame_named plainLoads_run plainLoads_game hworn SetOrder.dedup
    SetOrder.dedup (plainActor 0x14 true [])
  exact (hsame.block (some (plainArmors 1))).trans (by decide)

end FittingSchlongs.Plugin
