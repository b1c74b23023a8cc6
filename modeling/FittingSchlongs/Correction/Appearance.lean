import FittingSchlongs.Correction.WornMask

/-! # What the answers of the hooks depend on

The queries look at the worn armors one by one and at the sex of the actor. So armors that the
classifiers cannot tell apart may stand for each other, the order and the repetitions of the
worn items do not matter, and hiding is a closure: what is hidden stays so when more is worn,
and what is left shows nothing more to hide.
-/

namespace FittingSchlongs.Correction
open Armor

/-! ## Armors that stand for each other -/

/-- To the queries the second armor is on the second actor what the first is on the first. -/
structure LooksLike (game : GameData) (actor actor' : Actor) (a b : TESObjectARMO) : Prop where
  formID : b.formID = a.formID
  slots : getArmorDisplaySlotMask b = getArmorDisplaySlotMask a
  genital : isSosTngGenitalArmor game b = isSosTngGenitalArmor game a
  upperOnly : isLikelyUpperOnlyBodyArmor game b = isLikelyUpperOnlyBodyArmor game a
  reveal : shouldRevealGenitals game (some actor') b = shouldRevealGenitals game (some actor) a
  conceal : shouldConcealGenitals game (some actor') b = shouldConcealGenitals game (some actor) a

/-- Whatever one actor wears, the other wears an armor that looks like it. -/
structure WornAlike (game : GameData) (actor actor' : Actor) : Prop where
  forth : ∀ a ∈ wornArmors actor, ∃ b ∈ wornArmors actor', LooksLike game actor actor' a b
  back : ∀ b ∈ wornArmors actor', ∃ a ∈ wornArmors actor, LooksLike game actor actor' a b

/-- The queries answer for the second actor as they do for the first. -/
structure SameAnswers (game : GameData) (order order' : SetOrder TESObjectARMO)
    (gameDataLoaded : Bool) (actor actor' : Actor) : Prop where
  override : shouldOverrideSkinning game order' gameDataLoaded (some (.actor actor')) =
    shouldOverrideSkinning game order gameDataLoaded (some (.actor actor))
  block : ∀ armor, shouldBlockVanillaArmor game order' gameDataLoaded armor (some (.actor actor')) =
    shouldBlockVanillaArmor game order gameDataLoaded armor (some (.actor actor))
  mask : ∀ baseWornMask,
    getCorrectedWornMask game order' gameDataLoaded (some (.actor actor')) baseWornMask =
      getCorrectedWornMask game order gameDataLoaded (some (.actor actor)) baseWornMask
  visit : ∀ (σ : Type) inventory (visitor : Option (IItemChangeVisitor σ)) visitWornItems (s : σ),
    visitWornItemsWithGenitalFilter game order' gameDataLoaded inventory visitor
        (some (.actor actor')) visitWornItems s =
      visitWornItemsWithGenitalFilter game order gameDataLoaded inventory visitor
        (some (.actor actor)) visitWornItems s

section Marks

variable (game : GameData) {actor actor' : Actor}
  (hsex : isActorFemale (some actor') = isActorFemale (some actor))
include hsex

theorem readers_of_sex (armor : TESObjectARMO) :
    shouldRevealGenitals game (some actor') armor = shouldRevealGenitals game (some actor) armor ∧
      shouldConcealGenitals game (some actor') armor =
        shouldConcealGenitals game (some actor) armor := by
  have hcovering : isGenitalCoveringArmor game (some actor') armor =
      isGenitalCoveringArmor game (some actor) armor := by
    simp only [isGenitalCoveringArmor, hsex]
  have hrevealing : isGenitalRevealingArmor game (some actor') armor =
      isGenitalRevealingArmor game (some actor) armor := by
    simp only [isGenitalRevealingArmor, hsex]
  simp only [shouldRevealGenitals, shouldConcealGenitals, hcovering, hrevealing, and_self]

theorem looksLike_of_sex (armor : TESObjectARMO) : LooksLike game actor actor' armor armor :=
  ⟨rfl, rfl, rfl, rfl, (readers_of_sex game hsex armor).1, (readers_of_sex game hsex armor).2⟩

theorem wornAlike_of_mem (hworn : ∀ a, a ∈ wornArmors actor' ↔ a ∈ wornArmors actor) :
    WornAlike game actor actor' where
  forth a ha := ⟨a, (hworn a).mpr ha, looksLike_of_sex game hsex a⟩
  back a ha := ⟨a, (hworn a).mp ha, looksLike_of_sex game hsex a⟩

end Marks

section Alike

variable {game : GameData} (order order' : SetOrder TESObjectARMO) (gameDataLoaded : Bool)
  {actor actor' : Actor} (halike : WornAlike game actor actor')
include halike

theorem WornAlike.exists_iff {p q : TESObjectARMO → Prop}
    (hpq : ∀ a b, LooksLike game actor actor' a b → (q b ↔ p a)) :
    (∃ b ∈ wornArmors actor', q b) ↔ ∃ a ∈ wornArmors actor, p a := by
  constructor
  · rintro ⟨b, hb, hq⟩
    obtain ⟨a, ha, hlike⟩ := halike.back b hb
    exact ⟨a, ha, (hpq a b hlike).mp hq⟩
  · rintro ⟨a, ha, hp⟩
    obtain ⟨b, hb, hlike⟩ := halike.forth a ha
    exact ⟨b, hb, (hpq a b hlike).mpr hp⟩

theorem WornAlike.demands :
    (GenitalWorn game (wornArmors actor') ↔ GenitalWorn game (wornArmors actor)) ∧
    (RevealDemanded game actor' (wornArmors actor') ↔
      RevealDemanded game actor (wornArmors actor)) ∧
    (ConcealDemanded game actor' (wornArmors actor') ↔
      ConcealDemanded game actor (wornArmors actor)) := by
  refine ⟨?_, ?_, ?_⟩
  · exact halike.exists_iff fun a b hlike => by rw [hlike.genital]
  · exact halike.exists_iff fun a b hlike => by rw [hlike.genital, hlike.reveal]
  · exact halike.exists_iff fun a b hlike => by rw [hlike.genital, hlike.conceal]

theorem WornAlike.active :
    (buildCorrectionSet game order' gameDataLoaded (some actor')).active =
      (buildCorrectionSet game order gameDataLoaded (some actor)).active := by
  obtain ⟨hgenital, hreveal, hconceal⟩ := halike.demands
  rw [Bool.eq_iff_iff, buildCorrectionSet_active, buildCorrectionSet_active, hgenital, hreveal,
    hconceal]

theorem WornAlike.hidden :
    (buildCorrectionSet game order' gameDataLoaded (some actor')).hiddenArmorFormIDs =
      (buildCorrectionSet game order gameDataLoaded (some actor)).hiddenArmorFormIDs := by
  obtain ⟨-, -, hconceal⟩ := halike.demands
  ext id
  rw [mem_hiddenArmorFormIDs, mem_hiddenArmorFormIDs, hconceal]
  apply and_congr_right'
  apply and_congr_right'
  exact halike.exists_iff fun a b hlike => by rw [hlike.genital, hlike.formID]

theorem WornAlike.hides (armor : Option TESObjectARMO) :
    shouldHideArmor (buildCorrectionSet game order' gameDataLoaded (some actor')) armor =
      shouldHideArmor (buildCorrectionSet game order gameDataLoaded (some actor)) armor := by
  cases armor with
  | none => rfl
  | some armor => simp only [shouldHideArmor, halike.hidden order order']

theorem WornAlike.mask (baseWornMask : SlotMask) :
    getCorrectedWornMask game order' gameDataLoaded (some (.actor actor')) baseWornMask =
      getCorrectedWornMask game order gameDataLoaded (some (.actor actor)) baseWornMask := by
  have hactive := halike.active order order' gameDataLoaded
  cases hset : (buildCorrectionSet game order gameDataLoaded (some actor)).active with
  | false =>
    rw [getCorrectedWornMask_inactive (hactive.trans hset), getCorrectedWornMask_inactive hset]
  | true =>
    apply BitVec.eq_of_getLsbD_eq
    intro b _
    rw [Bool.eq_iff_iff, getCorrectedWornMask_getLsbD (hactive.trans hset),
      getCorrectedWornMask_getLsbD hset]
    simp only [VisiblyWorn, and_assoc]
    apply halike.exists_iff
    intro x y hlike
    have hhidden := halike.hides order order' gameDataLoaded (some y)
    have hid : ∀ set, shouldHideArmor set (some y) = shouldHideArmor set (some x) := fun set => by
      simp only [shouldHideArmor, hlike.formID]
    rw [hhidden, hid, Contributes, Contributes, UpperOnlyClothing, UpperOnlyClothing,
      ← getArmorDisplaySlotMask_getLsbD, ← getArmorDisplaySlotMask_getLsbD, hlike.slots,
      hlike.genital, hlike.upperOnly]

theorem WornAlike.sameAnswers : SameAnswers game order order' gameDataLoaded actor actor' where
  override := halike.active order order' gameDataLoaded
  block := halike.hides order order' gameDataLoaded
  mask := halike.mask order order' gameDataLoaded
  visit := by
    intro σ inventory visitor visitWornItems s
    have hvisitor : ∀ visitor : IItemChangeVisitor σ,
        hiddenGenitalFilterVisitor
            (buildCorrectionSet game order' gameDataLoaded (some actor')) visitor =
          hiddenGenitalFilterVisitor
            (buildCorrectionSet game order gameDataLoaded (some actor)) visitor := by
      intro visitor
      simp only [hiddenGenitalFilterVisitor, halike.hides order order']
    simp only [visitWornItemsWithGenitalFilter, Option.isSome_some, ↓reduceIte, Option.bind_some,
      TESObjectREFR.asActor, halike.active order order', halike.hidden order order', hvisitor]

end Alike

/-- For one sex and one set of worn armors every query has one answer, whatever the order and the
repetitions of the worn entries, the other items among them and the orders of the sets. -/
theorem answers_of_worn (game : GameData) (order order' : SetOrder TESObjectARMO)
    (gameDataLoaded : Bool) {actor actor' : Actor}
    (hsex : isActorFemale (some actor') = isActorFemale (some actor))
    (hworn : ∀ a, a ∈ wornArmors actor' ↔ a ∈ wornArmors actor) :
    SameAnswers game order order' gameDataLoaded actor actor' :=
  (wornAlike_of_mem game hsex hworn).sameAnswers order order' gameDataLoaded

theorem wornArmors_plainActor (formID : FormID) (isFemale : Bool) (worn : List TESObjectARMO) :
    wornArmors (plainActor formID isFemale worn) = worn := by
  simp only [wornArmors, plainActor, visitedArmors, List.filterMap_map]
  exact List.filterMap_some

/-- A dress and genital armor, worn in either order and the dress twice. -/
theorem answers_of_worn_dressed :
    shouldOverrideSkinning bareGame SetOrder.dedup true
        (some (.actor (plainActor 4 true [plainArmor 2 "Dress" bodySlotMask,
          plainArmor 1 "Schlong" genitalSlotMask, plainArmor 2 "Dress" bodySlotMask]))) =
      shouldOverrideSkinning bareGame SetOrder.dedup true
        (some (.actor (plainActor 3 true [plainArmor 1 "Schlong" genitalSlotMask,
          plainArmor 2 "Dress" bodySlotMask]))) := by
  have hsex : isActorFemale (some (plainActor 4 true [plainArmor 2 "Dress" bodySlotMask,
        plainArmor 1 "Schlong" genitalSlotMask, plainArmor 2 "Dress" bodySlotMask])) =
      isActorFemale (some (plainActor 3 true [plainArmor 1 "Schlong" genitalSlotMask,
        plainArmor 2 "Dress" bodySlotMask])) := rfl
  refine (answers_of_worn bareGame SetOrder.dedup SetOrder.dedup true hsex fun a => ?_).override
  simp only [wornArmors_plainActor, List.mem_cons, List.not_mem_nil, or_false]
  tauto

/-! ## Hiding is a closure -/

section Closure

variable {game : GameData} {order : SetOrder TESObjectARMO} {gameDataLoaded : Bool}
  {actor actor' : Actor}

theorem block_of_subset (hsex : isActorFemale (some actor') = isActorFemale (some actor))
    (hsub : wornArmors actor ⊆ wornArmors actor') {x : Option TESObjectARMO}
    (h : shouldBlockVanillaArmor game order gameDataLoaded x (some (.actor actor)) = true) :
    shouldBlockVanillaArmor game order gameDataLoaded x (some (.actor actor')) = true := by
  cases x with
  | none => exact absurd h Bool.false_ne_true
  | some x =>
    rw [shouldBlockVanillaArmor_eq, shouldHideArmor_iff, mem_hiddenArmorFormIDs] at h ⊢
    obtain ⟨hloaded, ⟨c, hc, hcover, hconceal⟩, a, ha, hgenital, hid⟩ := h
    have hconceal' := (readers_of_sex game hsex c).2.trans hconceal
    exact ⟨hloaded, ⟨c, hsub hc, hcover, hconceal'⟩, a, hsub ha, hgenital, hid⟩

theorem not_genitalWorn_of_rest
    (hrest : ∀ a, a ∈ wornArmors actor' ↔ VisiblyWorn game order gameDataLoaded actor a)
    (hhides : (buildCorrectionSet game order gameDataLoaded (some actor)).hiddenArmorFormIDs ≠ ∅) :
    ¬GenitalWorn game (wornArmors actor') := by
  rintro ⟨a, ha, hgenital⟩
  obtain ⟨hworn, hvisible⟩ := (hrest a).mp ha
  obtain ⟨id, hid⟩ := Finset.nonempty_iff_ne_empty.mpr hhides
  obtain ⟨hloaded, hconceal, -⟩ := (mem_hiddenArmorFormIDs _ _ _ _ _).mp hid
  have hhidden : shouldHideArmor (buildCorrectionSet game order gameDataLoaded (some actor))
      (some a) = true := by
    rw [shouldHideArmor_iff, mem_hiddenArmorFormIDs]
    exact ⟨hloaded, hconceal, a, hworn, hgenital, rfl⟩
  exact Bool.false_ne_true (hvisible.symm.trans hhidden)

theorem visiblyWorn_of_empty
    (hempty : (buildCorrectionSet game order gameDataLoaded (some actor)).hiddenArmorFormIDs = ∅)
    (a : TESObjectARMO) :
    VisiblyWorn game order gameDataLoaded actor a ↔ a ∈ wornArmors actor := by
  simp [VisiblyWorn, shouldHideArmor, hempty]

theorem exists_block_of_hidden
    (hhides : (buildCorrectionSet game order gameDataLoaded (some actor)).hiddenArmorFormIDs ≠ ∅) :
    ∃ x, shouldBlockVanillaArmor game order gameDataLoaded x (some (.actor actor)) = true := by
  obtain ⟨id, hid⟩ := Finset.nonempty_iff_ne_empty.mpr hhides
  obtain ⟨-, -, a, -, -, rfl⟩ := (mem_hiddenArmorFormIDs _ _ _ _ _).mp hid
  refine ⟨some a, ?_⟩
  rwa [shouldBlockVanillaArmor_eq, shouldHideArmor_iff]

variable (order gameDataLoaded) in
theorem vanilla_of_not_genitalWorn (h : ¬GenitalWorn game (wornArmors actor)) :
    (∀ x, shouldBlockVanillaArmor game order gameDataLoaded x (some (.actor actor)) = false) ∧
      shouldOverrideSkinning game order gameDataLoaded (some (.actor actor)) = false := by
  have hoverride : shouldOverrideSkinning game order gameDataLoaded (some (.actor actor)) =
      false := by
    rw [Bool.eq_false_iff, ne_eq, shouldOverrideSkinning_iff]
    exact fun hactive => h hactive.2.1
  refine ⟨fun x => ?_, hoverride⟩
  by_contra hblock
  rw [Bool.not_eq_false] at hblock
  have hactive := shouldOverrideSkinning_of_block game order gameDataLoaded actor x hblock
  exact Bool.false_ne_true (hoverride.symm.trans hactive)

/-- An actor without the armors that are hidden on it has nothing more hidden. Its skinning is
overridden only where nothing was hidden, and it wears exactly what the corrected mask was
collected from. -/
theorem hidden_taken_off (hsex : isActorFemale (some actor') = isActorFemale (some actor))
    (hrest : ∀ a, a ∈ wornArmors actor' ↔ VisiblyWorn game order gameDataLoaded actor a) :
    (∀ x, shouldBlockVanillaArmor game order gameDataLoaded x (some (.actor actor')) = false) ∧
    (shouldOverrideSkinning game order gameDataLoaded (some (.actor actor')) = true ↔
      shouldOverrideSkinning game order gameDataLoaded (some (.actor actor)) = true ∧
        ∀ x, shouldBlockVanillaArmor game order gameDataLoaded x (some (.actor actor)) = false) ∧
    (shouldOverrideSkinning game order gameDataLoaded (some (.actor actor)) = true →
      ∀ baseWornMask b,
        (getCorrectedWornMask game order gameDataLoaded (some (.actor actor))
            baseWornMask).getLsbD b = true ↔
          ∃ a ∈ wornArmors actor', Contributes game a b) := by
  have hmask : shouldOverrideSkinning game order gameDataLoaded (some (.actor actor)) = true →
      ∀ baseWornMask b,
        (getCorrectedWornMask game order gameDataLoaded (some (.actor actor))
            baseWornMask).getLsbD b = true ↔ ∃ a ∈ wornArmors actor', Contributes game a b := by
    intro hactive baseWornMask b
    simp only [getCorrectedWornMask_getLsbD hactive, hrest]
  by_cases hempty : (buildCorrectionSet game order gameDataLoaded
    (some actor)).hiddenArmorFormIDs = ∅
  · have hsame : SameAnswers game order order gameDataLoaded actor actor' :=
      (wornAlike_of_mem game hsex fun a =>
        (hrest a).trans (visiblyWorn_of_empty hempty a)).sameAnswers order order gameDataLoaded
    have hnone : ∀ x, shouldBlockVanillaArmor game order gameDataLoaded x (some (.actor actor)) =
        false := by
      intro x
      cases x <;> simp [shouldBlockVanillaArmor_eq, shouldHideArmor, hempty]
    refine ⟨fun x => (hsame.block x).trans (hnone x), ?_, hmask⟩
    rw [hsame.override]
    exact ⟨fun h => ⟨h, hnone⟩, And.left⟩
  · obtain ⟨hnone, hoverride⟩ :=
      vanilla_of_not_genitalWorn order gameDataLoaded (not_genitalWorn_of_rest hrest hempty)
    refine ⟨hnone, ?_, hmask⟩
    rw [hoverride]
    refine iff_of_false Bool.false_ne_true fun h => ?_
    obtain ⟨x, hx⟩ := exists_block_of_hidden hempty
    exact Bool.false_ne_true ((h.2 x).symm.trans hx)

/-- Whoever wears more has no less hidden, and an actor that takes the hidden armors off has
nothing more hidden and wears exactly what its corrected mask was collected from. -/
theorem hiding_closure (game : GameData) (order : SetOrder TESObjectARMO) (gameDataLoaded : Bool)
    {actor actor' : Actor} (hsex : isActorFemale (some actor') = isActorFemale (some actor)) :
    (wornArmors actor ⊆ wornArmors actor' → ∀ x,
      shouldBlockVanillaArmor game order gameDataLoaded x (some (.actor actor)) = true →
      shouldBlockVanillaArmor game order gameDataLoaded x (some (.actor actor')) = true) ∧
    ((∀ a, a ∈ wornArmors actor' ↔ VisiblyWorn game order gameDataLoaded actor a) →
      (∀ x, shouldBlockVanillaArmor game order gameDataLoaded x (some (.actor actor')) = false) ∧
      (shouldOverrideSkinning game order gameDataLoaded (some (.actor actor')) = true ↔
        shouldOverrideSkinning game order gameDataLoaded (some (.actor actor)) = true ∧
          ∀ x, shouldBlockVanillaArmor game order gameDataLoaded x (some (.actor actor)) = false) ∧
      (shouldOverrideSkinning game order gameDataLoaded (some (.actor actor)) = true →
        ∀ baseWornMask b,
          (getCorrectedWornMask game order gameDataLoaded (some (.actor actor))
              baseWornMask).getLsbD b = true ↔
            ∃ a ∈ wornArmors actor', Contributes game a b)) :=
  ⟨fun hsub _ h => block_of_subset hsex hsub h, hidden_taken_off hsex⟩

/-- Boots over the dress leave the genital armor hidden, and without the hidden genital armor the
dress hides nothing. -/
theorem hiding_closure_dressed :
    shouldBlockVanillaArmor bareGame SetOrder.dedup true
        (some (plainArmor 1 "Schlong" genitalSlotMask))
        (some (.actor (plainActor 3 true [plainArmor 1 "Schlong" genitalSlotMask,
          plainArmor 2 "Dress" bodySlotMask, plainArmor 4 "Boots" 0x80]))) = true ∧
      shouldBlockVanillaArmor bareGame SetOrder.dedup true
        (some (plainArmor 1 "Schlong" genitalSlotMask))
        (some (.actor (plainActor 3 true [plainArmor 2 "Dress" bodySlotMask]))) = false := by
  let dressed := [plainArmor 1 "Schlong" genitalSlotMask, plainArmor 2 "Dress" bodySlotMask]
  have hmore : isActorFemale (some (plainActor 3 true (dressed ++ [plainArmor 4 "Boots" 0x80]))) =
      isActorFemale (some (plainActor 3 true dressed)) := rfl
  have hless : isActorFemale (some (plainActor 3 true [plainArmor 2 "Dress" bodySlotMask])) =
      isActorFemale (some (plainActor 3 true dressed)) := rfl
  constructor
  · refine (hiding_closure bareGame SetOrder.dedup true hmore).1 ?_ _ (by decide)
    rw [wornArmors_plainActor, wornArmors_plainActor]
    exact List.subset_append_left dressed _
  · refine ((hiding_closure bareGame SetOrder.dedup true hless).2 fun a => ?_).1 _
    have hvisible : ∀ a ∈ dressed, shouldHideArmor (buildCorrectionSet bareGame SetOrder.dedup true
        (some (plainActor 3 true dressed))) (some a) = false ↔
          a = plainArmor 2 "Dress" bodySlotMask := by
      decide
    simp only [VisiblyWorn, wornArmors_plainActor, List.mem_singleton]
    constructor
    · rintro rfl
      have hdress := List.mem_cons_of_mem (plainArmor 1 "Schlong" genitalSlotMask)
        (List.mem_singleton_self (plainArmor 2 "Dress" bodySlotMask))
      exact ⟨hdress, (hvisible _ hdress).mpr rfl⟩
    · exact fun h => (hvisible a h.1).mp h.2

end Closure

end FittingSchlongs.Correction
