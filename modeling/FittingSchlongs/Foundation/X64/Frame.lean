import FittingSchlongs.Foundation.X64.StackSlots

/-! # Stack frames of straight-line code

Between calls, code with a fixed frame is followed on a description of the machine: how far
`rsp` is below its entry value, which offsets hold which saved words, and the registers.
Following the description is following the machine, and a call issued where the description
allows it keeps everything the description says about the stack.
-/

namespace FittingSchlongs.Foundation.X64
open ByteMemory

variable {entry : Machine} {size stack : ℕ}

/-! ## Describing the machine -/

/-- A description of the machine between two calls. -/
structure Frame (L : Type) where
  rest : List (Instr L)
  /-- How far `rsp` is below the entry stack pointer. -/
  depth : ℕ
  /-- Offsets below the entry stack pointer, each with the word saved there. -/
  slots : List (ℕ × Word)
  /-- All registers but `rsp`. -/
  regs : Reg → Word
  /-- The zero flag, where the description says what it is. -/
  zf : Option Bool
  /-- The calls so far. -/
  calls : List Call

variable {L : Type} {f g : Frame L} {x : Execution L}

/-- The execution is as the frame says, relative to the machine on entry. -/
structure Describes (entry : Machine) (size stack : ℕ) (f : Frame L) (x : Execution L) :
    Prop where
  rest : x.rest = f.rest
  rsp : x.machine.rsp = below entry.rsp f.depth
  depth : f.depth ≤ size
  regs : ∀ r, r ≠ .rsp → x.machine.regs r = f.regs r
  nonvolatile : ∀ r, r.isVolatile = false → r ≠ .rsp → f.regs r = entry.regs r
  zf : ∀ b, f.zf = some b → x.machine.zf = b
  keeps : Keeps entry size stack f.slots x.machine.memory
  saved : x.saved = f.slots.map fun s => below entry.rsp s.1
  calls : x.calls = f.calls
  issued : ∀ c ∈ f.calls, c.WellIssued
  resumed : x.resumed = none

theorem describes_start (code : List (Instr L)) (entry : Machine) (size stack : ℕ) :
    Describes entry size stack ⟨code, 0, [], entry.regs, none, []⟩ (start code entry) := by
  constructor
  case rsp => simp [start]
  case keeps => exact ⟨by simp, by simp, fun _ _ => rfl⟩
  all_goals simp [start]

section Effects

theorem Describes.rsp_add (h : Describes entry size stack f x) {n : Word} (hn : n.toNat ≤ f.depth) :
    x.machine.rsp + n = below entry.rsp (f.depth - n.toNat) := by
  rw [h.rsp, ← below_add hn, BitVec.ofNat_toNat, BitVec.setWidth_eq]

theorem Describes.rsp_sub (h : Describes entry size stack f x) (n : Word) :
    x.machine.rsp - n = below entry.rsp (f.depth + n.toNat) := by
  rw [h.rsp, ← below_sub, BitVec.ofNat_toNat, BitVec.setWidth_eq]

theorem Describes.goto (h : Describes entry size stack f x) (rest : List (Instr L)) :
    Describes entry size stack { f with rest := rest } { x with rest := rest } :=
  { h with rest := rfl }

theorem Describes.setReg (h : Describes entry size stack f x) {r : Reg} (v : Word)
    (hr : r.isVolatile = true) :
    Describes entry size stack { f with regs := Function.update f.regs r v }
      { x with machine := x.machine.setReg r v } := by
  have hrsp : Reg.rsp ≠ r := by
    rintro rfl
    cases hr
  refine { h with rsp := ?_, regs := ?_, nonvolatile := ?_ }
  · exact (Function.update_of_ne hrsp _ _).trans h.rsp
  · intro k hk
    by_cases heq : k = r
    · subst heq
      simp [Machine.setReg]
    · simpa [Machine.setReg, heq] using h.regs k hk
  · intro k hvolatile hk
    have hne : k ≠ r := by
      rintro rfl
      cases hr.symm.trans hvolatile
    exact (Function.update_of_ne hne _ _).trans (h.nonvolatile k hvolatile hk)

theorem Describes.setRsp (h : Describes entry size stack f x) {d : ℕ} (hd : d ≤ size) :
    Describes entry size stack { f with depth := d }
      { x with machine := x.machine.setReg .rsp (below entry.rsp d) } := by
  refine { h with rsp := ?_, depth := hd, regs := ?_ }
  · simp [Machine.setReg, Machine.rsp]
  · intro k hk
    exact (Function.update_of_ne hk _ _).trans (h.regs k hk)

theorem Describes.moveRsp (h : Describes entry size stack f x) {d : ℕ} (hd : d ≤ size) :
    Describes entry size stack { f with depth := d, zf := none }
      { x with machine := x.machine.moveRsp (below entry.rsp d) } := by
  exact { h.setRsp hd with zf := nofun }

theorem Describes.save (h : Describes entry size stack f x) {o : ℕ} {r : Reg} (hr : r ≠ .rsp)
    (ho : 8 ≤ o) (hsize : o ≤ size) (hfree : Free f.slots o)
    (hroom : size + stack + 0x20 ≤ 2 ^ 64) :
    Describes entry size stack { f with slots := (o, f.regs r) :: f.slots }
      { x with machine := x.machine.store64 (below entry.rsp o) (x.machine.regs r)
               saved := below entry.rsp o :: x.saved } := by
  refine { h with keeps := ?_, saved := ?_ }
  · rw [h.regs r hr]
    exact h.keeps.save _ ho hsize hfree hroom
  · simp [h.saved]

theorem Describes.lookup (h : Describes entry size stack f x) {o : ℕ} {v : Word}
    (hlookup : f.slots.lookup o = some v) :
    8 ≤ o ∧ x.machine.load64 (below entry.rsp o) = v := by
  obtain ⟨l, l', hslots, -⟩ := List.lookup_eq_some_iff.mp hlookup
  have hmem : (o, v) ∈ f.slots := by
    rw [hslots]
    exact List.mem_append_right l List.mem_cons_self
  have hheld := h.keeps.held (o, v) hmem
  constructor
  · exact (h.keeps.bounds (o, v) hmem).1
  · rw [Machine.load64]
    exact hheld

theorem Describes.pop (h : Describes entry size stack f x) {r : Reg} {v : Word}
    (hr : r.isVolatile = true) (hlookup : f.slots.lookup f.depth = some v)
    (hroom : size + stack + 0x20 ≤ 2 ^ 64) :
    Describes entry size stack
      { f with depth := f.depth - 8, regs := Function.update f.regs r v
               slots := f.slots.filter (·.1 ≠ f.depth) }
      { x with machine := (x.machine.setReg .rsp (x.machine.rsp + 8)).setReg r
                            (x.machine.load64 x.machine.rsp)
               saved := x.saved.filter (· ≠ x.machine.rsp) } := by
  obtain ⟨height, hload⟩ := h.lookup hlookup
  have hsize := h.depth
  have hrsp : x.machine.rsp + 8 = below entry.rsp (f.depth - 8) := h.rsp_add (n := 8) height
  have hfreed : Describes entry size stack
      { f with slots := f.slots.filter (·.1 ≠ f.depth) }
      { x with saved := x.saved.filter (· ≠ x.machine.rsp) } := by
    refine { h with keeps := h.keeps.filter _, saved := ?_ }
    simp only [h.saved, h.rsp, List.filter_map]
    congr 1
    apply List.filter_congr
    intro s hs
    have hbound := h.keeps.bounds s hs
    rcases Nat.lt_trichotomy s.1 f.depth with hlt | heq | hgt
    · simp [below_ne hlt (show f.depth < 2 ^ 64 by omega), hlt.ne]
    · simp [heq]
    · simp [(below_ne hgt (show s.1 < 2 ^ 64 by omega)).symm, hgt.ne']
  rw [hrsp, h.rsp, hload]
  rw [h.rsp] at hfreed
  exact (hfreed.setRsp (by omega)).setReg v hr

/-- A call keeps the description: the stack is aligned, and every slot is above the callee's
shadow area. -/
def Frame.callable (f : Frame L) : Bool :=
  f.depth % 16 == 0 && f.slots.all fun s => s.1 + 0x20 ≤ f.depth

/-- What a call from a callable frame owes its callee. -/
theorem Describes.issues (hroom : size + stack + 0x20 ≤ 2 ^ 64) (h : Describes entry size stack f x)
    (haligned : Aligned entry.rsp) (hcallable : f.callable = true) (target : Word)
    (after : Machine) :
    (∀ s ∈ f.slots, s.1 + 0x20 ≤ f.depth) ∧
      Call.WellIssued ⟨target, x.machine, after, x.saved⟩ := by
  simp only [Frame.callable, Bool.and_eq_true, beq_iff_eq, List.all_eq_true, decide_eq_true_eq]
    at hcallable
  obtain ⟨hdepth, habove⟩ := hcallable
  have hsize := h.depth
  refine ⟨habove, ?_, fun slot hslot a ha => ?_⟩
  · rw [h.rsp]
    exact haligned.below hdepth
  · simp only [h.saved, List.mem_map] at hslot
    obtain ⟨s, hs, rfl⟩ := hslot
    simp only [h.rsp]
    exact below_disjoint (habove s hs) (by omega) (by omega) ha

end Effects

/-! ## Following the code -/

variable [DecidableEq L] (code : List (Instr L)) (size)

/-- The description after one instruction. Calls and the jump out of the code have rules of
their own; an instruction that could leave the frame has no description. -/
def Frame.next (f : Frame L) : Option (Frame L) :=
  match f.rest with
  | .push r :: rest =>
    let o := f.depth + 8
    if r ≠ .rsp ∧ o ≤ size ∧ Free f.slots o then
      some { f with rest := rest, depth := o, slots := (o, f.regs r) :: f.slots }
    else none
  | .pop r :: rest =>
    if r.isVolatile then
      (f.slots.lookup f.depth).map fun v =>
        { f with rest := rest, depth := f.depth - 8, regs := Function.update f.regs r v
                 slots := f.slots.filter (·.1 ≠ f.depth) }
    else none
  | .mov dst src :: rest =>
    if dst.isVolatile ∧ src ≠ .rsp then
      some { f with rest := rest, regs := Function.update f.regs dst (f.regs src) }
    else none
  | .mov32 dst src :: rest =>
    if dst.isVolatile ∧ src ≠ .rsp then
      some { f with rest := rest
                    regs := Function.update f.regs dst (((f.regs src).setWidth 32).setWidth 64) }
    else none
  | .storeRsp disp src :: rest =>
    let o := f.depth - disp.toNat
    if src ≠ .rsp ∧ disp.toNat + 8 ≤ f.depth ∧ Free f.slots o then
      some { f with rest := rest, slots := (o, f.regs src) :: f.slots }
    else none
  | .loadRsp dst disp :: rest =>
    if dst.isVolatile ∧ disp.toNat ≤ f.depth then
      (f.slots.lookup (f.depth - disp.toNat)).map fun v =>
        { f with rest := rest, regs := Function.update f.regs dst v }
    else none
  | .loadData dst l :: rest =>
    if dst.isVolatile then
      (dataAt l code).map fun v => { f with rest := rest, regs := Function.update f.regs dst v }
    else none
  | .addRsp n :: rest =>
    if n.toNat ≤ f.depth then
      some { f with rest := rest, depth := f.depth - n.toNat, zf := none }
    else none
  | .subRsp n :: rest =>
    if f.depth + n.toNat ≤ size then
      some { f with rest := rest, depth := f.depth + n.toNat, zf := none }
    else none
  | .testAl :: rest => some { f with rest := rest, zf := some ((f.regs .rax).setWidth 8 == 0) }
  | .jnz l :: rest =>
    match f.zf with
    | some true => some { f with rest := rest }
    | some false => (afterLabel l code).map fun rest => { f with rest := rest }
    | none => none
  | .jz l :: rest =>
    match f.zf with
    | some true => (afterLabel l code).map fun rest => { f with rest := rest }
    | some false => some { f with rest := rest }
    | none => none
  | .jmp l :: _ => (afterLabel l code).map fun rest => { f with rest := rest }
  | .label _ :: rest => some { f with rest := rest }
  | _ => none

def Frame.follow : ℕ → Frame L → Option (Frame L)
  | 0, f => some f
  | n + 1, f => (f.next size code).bind (Frame.follow n)

variable {code size} {callee : Callee}

/-- Following one instruction on the description follows it on the machine. -/
theorem next_sound (hroom : size + stack + 0x20 ≤ 2 ^ 64) (hnext : f.next size code = some g)
    (h : Describes entry size stack f x) :
    ∃ y, step code callee x = some y ∧ Describes entry size stack g y := by
  have hrest := h.rest
  have hdepth := h.depth
  rcases hcode : f.rest with _ | ⟨i, rest⟩
  · simp [Frame.next, hcode] at hnext
  rw [hcode] at hrest
  cases i with
  | push r =>
    simp only [Frame.next, hcode, Option.ite_none_right_eq_some, Option.some.injEq] at hnext
    obtain ⟨⟨hr, hsize, hfree⟩, rfl⟩ := hnext
    have hslot : x.machine.rsp - 8 = below entry.rsp (f.depth + 8) := h.rsp_sub 8
    simp only [step, hrest, Option.some.injEq, exists_eq_left', hslot]
    exact ((h.save hr (by omega) hsize hfree hroom).setRsp hsize).goto rest
  | pop r =>
    simp only [Frame.next, hcode, Option.ite_none_right_eq_some, Option.map_eq_some_iff] at hnext
    obtain ⟨hr, v, hlookup, rfl⟩ := hnext
    simp only [step, hrest, Option.some.injEq, exists_eq_left']
    exact (h.pop hr hlookup hroom).goto rest
  | mov dst src =>
    simp only [Frame.next, hcode, Option.ite_none_right_eq_some, Option.some.injEq] at hnext
    obtain ⟨⟨hdst, hsrc⟩, rfl⟩ := hnext
    simp only [step, hrest, Option.some.injEq, exists_eq_left', h.regs src hsrc]
    exact (h.setReg _ hdst).goto rest
  | mov32 dst src =>
    simp only [Frame.next, hcode, Option.ite_none_right_eq_some, Option.some.injEq] at hnext
    obtain ⟨⟨hdst, hsrc⟩, rfl⟩ := hnext
    simp only [step, hrest, Option.some.injEq, exists_eq_left', h.regs src hsrc]
    exact (h.setReg _ hdst).goto rest
  | storeRsp disp src =>
    simp only [Frame.next, hcode, Option.ite_none_right_eq_some, Option.some.injEq] at hnext
    obtain ⟨⟨hsrc, hdisp, hfree⟩, rfl⟩ := hnext
    have hslot := h.rsp_add (show disp.toNat ≤ f.depth by omega)
    simp only [step, hrest, Option.some.injEq, exists_eq_left', hslot]
    exact (h.save hsrc (by omega) (by omega) hfree hroom).goto rest
  | loadRsp dst disp =>
    simp only [Frame.next, hcode, Option.ite_none_right_eq_some, Option.map_eq_some_iff] at hnext
    obtain ⟨⟨hdst, hdisp⟩, v, hlookup, rfl⟩ := hnext
    simp only [step, hrest, Option.some.injEq, exists_eq_left', h.rsp_add hdisp,
      (h.lookup hlookup).2]
    exact (h.setReg v hdst).goto rest
  | loadData dst l =>
    simp only [Frame.next, hcode, Option.ite_none_right_eq_some, Option.map_eq_some_iff] at hnext
    obtain ⟨hdst, v, hdata, rfl⟩ := hnext
    simp only [step, hrest, hdata, Option.map_some, Option.some.injEq, exists_eq_left']
    exact (h.setReg v hdst).goto rest
  | addRsp n =>
    simp only [Frame.next, hcode, Option.ite_none_right_eq_some, Option.some.injEq] at hnext
    obtain ⟨hn, rfl⟩ := hnext
    simp only [step, hrest, Option.some.injEq, exists_eq_left', h.rsp_add hn]
    exact (h.moveRsp (by omega)).goto rest
  | subRsp n =>
    simp only [Frame.next, hcode, Option.ite_none_right_eq_some, Option.some.injEq] at hnext
    obtain ⟨hn, rfl⟩ := hnext
    simp only [step, hrest, Option.some.injEq, exists_eq_left', h.rsp_sub n]
    exact (h.moveRsp hn).goto rest
  | call l => simp [Frame.next, hcode] at hnext
  | testAl =>
    simp only [Frame.next, hcode, Option.some.injEq] at hnext
    subst hnext
    have hflag : x.machine.al = (f.regs .rax).setWidth 8 := by
      rw [Machine.al, h.regs .rax (by decide)]
    simp only [step, hrest, Option.some.injEq, exists_eq_left', hflag]
    refine { h with rest := rfl, zf := ?_ }
    simp
  | jnz l =>
    simp only [Frame.next, hcode] at hnext
    split at hnext
    case h_1 hzf =>
      simp only [Option.some.injEq] at hnext
      subst hnext
      simp only [step, hrest, h.zf _ hzf, if_true, Option.some.injEq, exists_eq_left']
      exact h.goto rest
    case h_2 hzf =>
      simp only [Option.map_eq_some_iff] at hnext
      obtain ⟨target, htarget, rfl⟩ := hnext
      simp only [step, hrest, h.zf _ hzf, htarget, Bool.false_eq_true, if_false, Option.map_some,
        Option.some.injEq, exists_eq_left']
      exact h.goto target
    case h_3 => cases hnext
  | jz l =>
    simp only [Frame.next, hcode] at hnext
    split at hnext
    case h_1 hzf =>
      simp only [Option.map_eq_some_iff] at hnext
      obtain ⟨target, htarget, rfl⟩ := hnext
      simp only [step, hrest, h.zf _ hzf, htarget, if_true, Option.map_some, Option.some.injEq,
        exists_eq_left']
      exact h.goto target
    case h_2 hzf =>
      simp only [Option.some.injEq] at hnext
      subst hnext
      simp only [step, hrest, h.zf _ hzf, Bool.false_eq_true, if_false, Option.some.injEq,
        exists_eq_left']
      exact h.goto rest
    case h_3 => cases hnext
  | jmp l =>
    simp only [Frame.next, hcode, Option.map_eq_some_iff] at hnext
    obtain ⟨target, htarget, rfl⟩ := hnext
    simp only [step, hrest, htarget, Option.map_some, Option.some.injEq, exists_eq_left']
    exact h.goto target
  | jmpData => simp [Frame.next, hcode] at hnext
  | label l =>
    simp only [Frame.next, hcode, Option.some.injEq] at hnext
    subst hnext
    simp only [step, hrest, Option.some.injEq, exists_eq_left']
    exact h.goto rest
  | dq v => simp [Frame.next, hcode] at hnext

/-! ## Rules -/

/-- Every run from an execution the frame describes ends, and meets the condition. -/
def Frame.Ensures (code : List (Instr L)) (callee : Callee) (entry : Machine) (size stack : ℕ)
    (f : Frame L) (post : Execution L → Prop) : Prop :=
  ∀ x, Describes entry size stack f x → Completes code callee x post

theorem Frame.Ensures.completes {post : Execution L → Prop} (size stack : ℕ)
    (h : Frame.Ensures code callee entry size stack ⟨code, 0, [], entry.regs, none, []⟩ post) :
    Completes code callee (start code entry) post :=
  h _ (describes_start code entry size stack)

/-- A call issued in the frame. -/
structure Issued (entry : Machine) (f : Frame L) (target : Word) (c : Call) : Prop where
  target : c.target = target
  rsp : c.before.rsp = below entry.rsp f.depth
  regs : ∀ (r : Reg) (_ : r ≠ .rsp := by decide), c.before.regs r = f.regs r
  kept : ∀ (r : Reg) (_ : r.isVolatile = false) (_ : r ≠ .rsp := by decide),
    c.after.regs r = entry.regs r

section Rules

variable {post : Execution L → Prop} (hroom : size + stack + 0x20 ≤ 2 ^ 64)
include hroom

theorem Frame.Ensures.follow (n : ℕ) (hfollow : f.follow size code n = some g)
    (h : g.Ensures code callee entry size stack post) :
    f.Ensures code callee entry size stack post := by
  induction n generalizing f with
  | zero =>
    obtain rfl : f = g := by simpa [Frame.follow] using hfollow
    exact h
  | succ n ih =>
    intro x hx
    obtain ⟨k, hnext, hfollow⟩ := Option.bind_eq_some_iff.mp hfollow
    obtain ⟨y, hstep, hy⟩ := next_sound hroom hnext hx
    exact Completes.of_step hstep (ih hfollow y hy)

theorem Frame.Ensures.call (hcallee : Win64 stack callee) (haligned : Aligned entry.rsp) {l : L}
    {rest : List (Instr L)} {target : Word} (hcode : f.rest = .call l :: rest)
    (hdata : dataAt l code = some target) (hcallable : f.callable = true)
    (h : ∀ c, Issued entry f target c →
      Frame.Ensures code callee entry size stack
        { f with rest := rest, regs := c.after.regs, zf := some c.after.zf
                 calls := f.calls ++ [c] } post) :
    f.Ensures code callee entry size stack post := by
  intro x hx
  let after := callee x.calls.length target x.machine
  let c : Call := ⟨target, x.machine, after, x.saved⟩
  obtain ⟨habove, hissued⟩ := hx.issues hroom haligned hcallable target after
  have hrsp : Aligned x.machine.rsp := hissued.1
  have hregs : ∀ r, r.isVolatile = false → after.regs r = x.machine.regs r :=
    hcallee.nonvolatile _ _ _ hrsp
  have hkept : ∀ r, r.isVolatile = false → r ≠ .rsp → after.regs r = entry.regs r := by
    intro r hvolatile hr
    rw [← hx.nonvolatile r hvolatile hr, ← hx.regs r hr]
    exact hregs r hvolatile
  have hstep : step code callee x =
      some { x with machine := after, rest := rest, calls := x.calls ++ [c] } := by
    simp [step, hx.rest, hcode, hdata, c, after]
  apply Completes.of_step hstep
  apply h c ⟨rfl, hx.rsp, hx.regs, hkept⟩
  refine { hx with rest := rfl, rsp := ?_, regs := fun _ _ => rfl, nonvolatile := hkept
                   zf := ?_, keeps := ?_, calls := ?_, issued := ?_ }
  · exact (hregs .rsp rfl).trans hx.rsp
  · intro b hb
    exact Option.some.inj hb
  · apply hx.keeps.clobber hx.depth habove hroom
    rw [← hx.rsp]
    exact hcallee.memory _ _ _ hrsp
  · simp [hx.calls]
  · intro k hk
    rcases List.mem_append.mp hk with hk | hk
    · exact hx.issued k hk
    · rw [List.mem_singleton.mp hk]
      exact hissued

theorem Frame.Ensures.leave {v : Word} {rest : List (Instr L)}
    (hcode : f.rest = .jmpData :: .dq v :: rest) (hdepth : f.depth = 0)
    (h : ∀ y, (∀ (r : Reg) (_ : r ≠ .rsp := by decide), y.machine.regs r = f.regs r) →
      y.calls = f.calls →
      Returned entry (size + stack) v y → post y) :
    f.Ensures code callee entry size stack post := by
  intro x hx
  let y : Execution L := { x with rest := [], resumed := some v }
  have hstep : step code callee x = some y := by
    simp [step, hx.rest, hcode, y]
  apply Completes.of_step hstep
  refine ⟨y, StateTransition.mem_eval.mpr ⟨Relation.ReflTransGen.refl, rfl⟩, ?_⟩
  apply h y hx.regs hx.calls
  constructor
  case resumed => rfl
  case calls =>
    intro c hc
    apply hx.issued
    rw [← hx.calls]
    exact hc
  case nonvolatile =>
    intro r hvolatile
    by_cases hr : r = .rsp
    · subst hr
      have hrsp := hx.rsp
      rw [hdepth, below_zero] at hrsp
      exact hrsp
    · exact (hx.regs r hr).trans (hx.nonvolatile r hvolatile hr)
  case memory =>
    intro a hstack hshadow
    apply hx.keeps.outside
    intro howned
    rcases howned.cases hroom with h | h
    · exact hstack h
    · exact hshadow h

end Rules

end FittingSchlongs.Foundation.X64
