import FittingSchlongs.Correction.Queries
import FittingSchlongs.Foundation.StoppableLoop

/-! # The filtering visitor

The game enumerates the worn entries and calls a visitor for each until it is told to
stop. Through the filtering visitor the wrapped one is driven exactly as over the list
without the hidden entries.
-/

namespace FittingSchlongs.Correction
open Armor Foundation.StoppableLoop

/-- What an enumeration hands to a visitor with one entry. -/
structure VisitArguments where
  entryData : Option InventoryEntryData
  object : Option TESBoundObject
  arg2 : BitVec 64
  /-- The value behind the continue flag, when that pointer is not null. -/
  arg3 : Option Bool

/-- How an enumeration calls its visitor for one entry. -/
inductive VisitProtocol where
  /-- `ShouldVisit` and then, if it answers true, `Visit`. -/
  | shouldVisit
  /-- `Unk_03`. -/
  | unk03
  deriving DecidableEq

section Drive

variable {σ : Type}

/-- The calls for one entry; the output is what is left behind the continue flag. -/
def visitEntry (visitor : IItemChangeVisitor σ) (protocol : VisitProtocol) (args : VisitArguments)
    (s : σ) : Round σ (Option Bool) :=
  match protocol with
  | .shouldVisit =>
    let (wanted, s) := visitor.shouldVisit args.entryData args.object s
    if wanted then
      let (result, s) := visitor.visit args.entryData s
      ⟨result == .kStop, args.arg3, s⟩
    else ⟨false, args.arg3, s⟩
  | .unk03 =>
    let (result, flag, s) := visitor.unk03 args.entryData args.arg2 args.arg3 s
    ⟨result == .kStop, flag, s⟩

def enumerateEntries (visitor : IItemChangeVisitor σ) (protocol : VisitProtocol)
    (entries : List VisitArguments) (s : σ) : Outcome VisitArguments σ (Option Bool) :=
  run (visitEntry visitor protocol) entries s

/-- A call of one of the three entry points. -/
inductive VisitorCall where
  | visit (entryData : Option InventoryEntryData)
  | shouldVisit (entryData : Option InventoryEntryData) (object : Option TESBoundObject)
  | unk03 (entryData : Option InventoryEntryData) (arg2 : BitVec 64) (arg3 : Option Bool)

/-- The visitor with a record of the calls it gets. -/
def IItemChangeVisitor.recording (visitor : IItemChangeVisitor σ) :
    IItemChangeVisitor (σ × List VisitorCall) where
  visit entryData := fun (s, calls) =>
    let (result, s) := visitor.visit entryData s
    (result, s, calls ++ [.visit entryData])
  shouldVisit entryData object := fun (s, calls) =>
    let (wanted, s) := visitor.shouldVisit entryData object s
    (wanted, s, calls ++ [.shouldVisit entryData object])
  unk03 entryData arg2 arg3 := fun (s, calls) =>
    let (result, flag, s) := visitor.unk03 entryData arg2 arg3 s
    (result, flag, s, calls ++ [.unk03 entryData arg2 arg3])

end Drive

/-! ## Hidden entries -/

section Filter

variable {σ : Type} (set : CorrectionSet)

/-- The entry holds no armor whose form ID is in the set. -/
def isVisible (args : VisitArguments) : Bool :=
  (getEntryArmor args.entryData).all (fun armor => armor.formID ∉ set.hiddenArmorFormIDs)

variable {set} {visitor : IItemChangeVisitor σ} {protocol : VisitProtocol} {args : VisitArguments}

theorem shouldHideArmor_eq_not_isVisible :
    shouldHideArmor set (getEntryArmor args.entryData) = !isVisible set args := by
  rw [isVisible]
  cases getEntryArmor args.entryData with
  | none => rfl
  | some armor => simp [shouldHideArmor]

theorem visitEntry_visible (h : isVisible set args = true) (s : σ) :
    visitEntry (hiddenGenitalFilterVisitor set visitor) protocol args s =
      visitEntry visitor protocol args s := by
  have hkept : shouldHideArmor set (getEntryArmor args.entryData) = false := by
    rw [shouldHideArmor_eq_not_isVisible, h]
    rfl
  cases protocol <;>
    simp [visitEntry, hiddenGenitalFilterVisitor, IItemChangeVisitor.skipping, hkept]

theorem visitEntry_hidden (h : isVisible set args = false) (s : σ) :
    visitEntry (hiddenGenitalFilterVisitor set visitor) protocol args s =
      ⟨false, if protocol = .unk03 then args.arg3.map (fun _ => true) else args.arg3, s⟩ := by
  have hhidden : shouldHideArmor set (getEntryArmor args.entryData) = true := by
    rw [shouldHideArmor_eq_not_isVisible, h]
    rfl
  cases protocol <;>
    simp [visitEntry, hiddenGenitalFilterVisitor, IItemChangeVisitor.skipping, hhidden]

/-- Filtering in the visitor is filtering the list. -/
theorem enumerateEntries_filter (visitor : IItemChangeVisitor σ) (protocol : VisitProtocol)
    (entries : List VisitArguments) (s : σ) :
    enumerateEntries visitor protocol (entries.filter (isVisible set)) s =
      (enumerateEntries (hiddenGenitalFilterVisitor set visitor) protocol entries s).restrict
        (isVisible set) := by
  apply run_filter
  · exact fun args s h => visitEntry_visible h s
  · intro args s h
    rw [visitEntry_hidden h]
    exact ⟨rfl, rfl⟩

theorem flag_of_hidden {entries : List VisitArguments} {s : σ} {flag : Option Bool}
    (hreached : (args, flag) ∈
      (enumerateEntries (hiddenGenitalFilterVisitor set visitor) .unk03 entries s).outputs)
    (h : isVisible set args = false) : flag = args.arg3.map (fun _ => true) := by
  obtain ⟨t, hflag⟩ := output_eq hreached
  rw [hflag, visitEntry_hidden h]
  rfl

end Filter

section Query

variable {game : GameData} {order : SetOrder TESObjectARMO} {gameDataLoaded : Bool} {σ : Type}

theorem visitWornItemsWithGenitalFilter_inactive {inventory : InventoryChanges}
    {visitor : IItemChangeVisitor σ} {target : Option TESObjectREFR}
    {visitWornItems : InventoryChanges → IItemChangeVisitor σ → σ → σ} {s : σ}
    (h : (buildCorrectionSet game order gameDataLoaded
      ((if target.isSome then target else inventory.owner).bind TESObjectREFR.asActor)).active =
        false) :
    visitWornItemsWithGenitalFilter game order gameDataLoaded (some inventory) (some visitor) target
      (some visitWornItems) s = visitWornItems inventory visitor s := by
  simp [visitWornItemsWithGenitalFilter, h]

end Query

/-- Driven through the filtering visitor, the wrapped one gets the same calls in the same order,
ends in the same state and stops at the same entry as over the list of the entries that are not
hidden; hidden entries set the continue flag, and an inactive set filters nothing. -/
theorem filtering_visitor_filters_list {σ : Type} (set : CorrectionSet)
    (visitor : IItemChangeVisitor σ) (protocol : VisitProtocol) (entries : List VisitArguments)
    (s : σ) :
    let filtered := enumerateEntries (hiddenGenitalFilterVisitor set visitor) protocol entries s
    let direct := enumerateEntries visitor protocol (entries.filter (isVisible set)) s
    (enumerateEntries (hiddenGenitalFilterVisitor set visitor.recording) protocol entries
        (s, [])).state =
      (enumerateEntries visitor.recording protocol (entries.filter (isVisible set))
        (s, [])).state ∧
    filtered.state = direct.state ∧
    filtered.stoppedAt.map (fun stop => (stop.1, stop.2.filter (isVisible set))) =
      direct.stoppedAt ∧
    (protocol = .unk03 → ∀ args flag, (args, flag) ∈ filtered.outputs →
      isVisible set args = false → flag = args.arg3.map (fun _ => true)) ∧
    ∀ (game : GameData) (order : SetOrder TESObjectARMO) (gameDataLoaded : Bool)
        (inventory : InventoryChanges) (target : Option TESObjectREFR)
        (visitWornItems : InventoryChanges → IItemChangeVisitor σ → σ → σ),
      (buildCorrectionSet game order gameDataLoaded
        ((if target.isSome then target else inventory.owner).bind TESObjectREFR.asActor)).active =
          false →
      visitWornItemsWithGenitalFilter game order gameDataLoaded (some inventory) (some visitor)
        target (some visitWornItems) s = visitWornItems inventory visitor s := by
  intro filtered direct
  have hdirect : direct = filtered.restrict (isVisible set) :=
    enumerateEntries_filter visitor protocol entries s
  refine ⟨?_, ?_, ?_, ?_, ?_⟩
  · rw [enumerateEntries_filter]
    rfl
  · rw [hdirect]
    rfl
  · rw [hdirect]
    rfl
  · rintro rfl args flag hreached hhidden
    exact flag_of_hidden hreached hhidden
  · intro game order gameDataLoaded inventory target visitWornItems hinactive
    exact visitWornItemsWithGenitalFilter_inactive hinactive

end FittingSchlongs.Correction
