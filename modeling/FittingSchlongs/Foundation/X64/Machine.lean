import FittingSchlongs.Foundation.ByteMemory
import Mathlib.Computability.StateTransition

/-! # A fragment of x86-64 that calls Win64 functions

Sixteen registers, the zero flag and byte memory. Code is a list of instructions and
eight-byte data items; a call hands the machine to a callee and takes it back. What is
called, and where the code keeps saved registers meanwhile, is recorded on the way.
-/

namespace FittingSchlongs.Foundation.X64
open ByteMemory

abbrev Word := BitVec 64

inductive Reg where
  | rax | rcx | rdx | rbx | rsp | rbp | rsi | rdi
  | r8 | r9 | r10 | r11 | r12 | r13 | r14 | r15
  deriving DecidableEq

/-- The registers a Win64 function may change. -/
def Reg.isVolatile : Reg → Bool
  | rax | rcx | rdx | r8 | r9 | r10 | r11 => true
  | rbx | rsp | rbp | rsi | rdi | r12 | r13 | r14 | r15 => false

structure Machine where
  regs : Reg → Word
  memory : Memory 64
  zf : Bool

namespace Machine

def rsp (m : Machine) : Word := m.regs .rsp

def al (m : Machine) : BitVec 8 := (m.regs .rax).setWidth 8

def eax (m : Machine) : BitVec 32 := (m.regs .rax).setWidth 32

def setReg (m : Machine) (r : Reg) (v : Word) : Machine :=
  { m with regs := Function.update m.regs r v }

def load64 (m : Machine) (a : Word) : Word := BitVec.ofNat 64 (load m.memory a 8)

def store64 (m : Machine) (a v : Word) : Machine :=
  { m with memory := store m.memory a 8 v.toNat }

/-- Move the stack pointer by an addition or subtraction, which sets the zero flag. -/
def moveRsp (m : Machine) (a : Word) : Machine := { m.setReg .rsp a with zf := a == 0 }

end Machine

/-! ## Instructions -/

inductive Instr (L : Type) where
  | push (r : Reg)
  | pop (r : Reg)
  | mov (dst src : Reg)
  /-- The low halves; the upper half of `dst` becomes zero. -/
  | mov32 (dst src : Reg)
  /-- `mov [rsp + disp], src`. -/
  | storeRsp (disp : Word) (src : Reg)
  /-- `mov dst, [rsp + disp]`. -/
  | loadRsp (dst : Reg) (disp : Word)
  /-- `mov dst, [rip + l]`. -/
  | loadData (dst : Reg) (l : L)
  | addRsp (n : Word)
  | subRsp (n : Word)
  /-- `call [rip + l]`. -/
  | call (l : L)
  /-- `test al, al`. -/
  | testAl
  | jnz (l : L)
  | jz (l : L)
  | jmp (l : L)
  /-- `jmp [rip]`, through the item behind the instruction. -/
  | jmpData
  | label (l : L)
  | dq (v : Word)

variable {L : Type} [DecidableEq L]

/-- The code behind a label. -/
def afterLabel (l : L) : List (Instr L) → Option (List (Instr L))
  | [] => none
  | .label k :: rest => if k = l then some rest else afterLabel l rest
  | _ :: rest => afterLabel l rest

/-- The item a label stands before. -/
def dataAt (l : L) (code : List (Instr L)) : Option Word :=
  match afterLabel l code with
  | some (.dq v :: _) => some v
  | _ => none

/-! ## Execution -/

/-- One call: its target, the machine at the call instruction and after the return, and the
addresses that held saved registers. -/
structure Call where
  target : Word
  before : Machine
  after : Machine
  saved : List Word

structure Execution (L : Type) where
  machine : Machine
  rest : List (Instr L)
  /-- The addresses of the registers saved and not yet taken back. -/
  saved : List Word
  calls : List Call
  /-- Where control has left the code to. -/
  resumed : Option Word

def start (code : List (Instr L)) (entry : Machine) : Execution L := ⟨entry, code, [], [], none⟩

/-- What the `n`-th call of a run does from the call instruction to the return. -/
abbrev Callee := ℕ → Word → Machine → Machine

variable (code : List (Instr L)) (callee : Callee)

def step (x : Execution L) : Option (Execution L) :=
  let m := x.machine
  match x.rest with
  | .push r :: rest =>
    let slot := m.rsp - 8
    some { x with machine := (m.store64 slot (m.regs r)).setReg .rsp slot, rest := rest
                  saved := slot :: x.saved }
  | .pop r :: rest =>
    some { x with machine := (m.setReg .rsp (m.rsp + 8)).setReg r (m.load64 m.rsp), rest := rest
                  saved := x.saved.filter (· ≠ m.rsp) }
  | .mov dst src :: rest => some { x with machine := m.setReg dst (m.regs src), rest := rest }
  | .mov32 dst src :: rest =>
    some { x with machine := m.setReg dst (((m.regs src).setWidth 32).setWidth 64), rest := rest }
  | .storeRsp disp src :: rest =>
    let slot := m.rsp + disp
    some { x with machine := m.store64 slot (m.regs src), rest := rest, saved := slot :: x.saved }
  | .loadRsp dst disp :: rest =>
    some { x with machine := m.setReg dst (m.load64 (m.rsp + disp)), rest := rest }
  | .loadData dst l :: rest =>
    (dataAt l code).map fun v => { x with machine := m.setReg dst v, rest := rest }
  | .addRsp n :: rest => some { x with machine := m.moveRsp (m.rsp + n), rest := rest }
  | .subRsp n :: rest => some { x with machine := m.moveRsp (m.rsp - n), rest := rest }
  | .call l :: rest =>
    (dataAt l code).map fun target =>
      let after := callee x.calls.length target m
      { x with machine := after, rest := rest, calls := x.calls ++ [⟨target, m, after, x.saved⟩] }
  | .testAl :: rest => some { x with machine := { m with zf := m.al == 0 }, rest := rest }
  | .jnz l :: rest =>
    if m.zf then some { x with rest := rest }
    else (afterLabel l code).map fun rest => { x with rest := rest }
  | .jz l :: rest =>
    if m.zf then (afterLabel l code).map fun rest => { x with rest := rest }
    else some { x with rest := rest }
  | .jmp l :: _ => (afterLabel l code).map fun rest => { x with rest := rest }
  | .jmpData :: .dq v :: _ => some { x with rest := [], resumed := some v }
  | .label _ :: rest => some { x with rest := rest }
  | _ => none

/-- The run from here ends, in an execution that meets the condition. -/
def Completes (x : Execution L) (post : Execution L → Prop) : Prop :=
  ∃ y ∈ StateTransition.eval (step code callee) x, post y

variable {code callee} in
theorem Completes.of_step {x y : Execution L} {post : Execution L → Prop}
    (hstep : step code callee x = some y) (h : Completes code callee y post) :
    Completes code callee x post := by
  have hreach : StateTransition.Reaches (step code callee) x y :=
    Relation.ReflTransGen.single hstep
  simp only [Completes]
  rw [StateTransition.reaches_eval hreach]
  exact h

/-! ## The calling convention -/

def Aligned (a : Word) : Prop := a.toNat % 16 = 0

instance (a : Word) : Decidable (Aligned a) := inferInstanceAs (Decidable (a.toNat % 16 = 0))

/-- A Win64 function called with an aligned stack keeps the nonvolatile registers, `rsp` among
them, and all memory but the 32 bytes its caller leaves it at `rsp` and the `stack` bytes below,
where the return address and its own stack are. -/
structure Win64 (stack : ℕ) (callee : Callee) : Prop where
  nonvolatile : ∀ n target m, Aligned m.rsp → ∀ r, r.isVolatile = false →
    (callee n target m).regs r = m.regs r
  memory : ∀ n target m, Aligned m.rsp →
    ∀ a, ¬ InRange (m.rsp - BitVec.ofNat 64 stack) (stack + 0x20) a →
      (callee n target m).memory a = m.memory a

/-- The stack is aligned and no saved register lies in the callee's shadow area. -/
def Call.WellIssued (c : Call) : Prop :=
  Aligned c.before.rsp ∧
    ∀ slot ∈ c.saved, ∀ a, InRange slot 8 a → ¬ InRange c.before.rsp 0x20 a

/-- Control left the code for `target` with every call well issued, the nonvolatile registers as
on entry, and the memory too but for `room` bytes below the entry stack pointer and the 32 bytes
at it. -/
structure Returned (entry : Machine) (room : ℕ) (target : Word) (x : Execution L) : Prop where
  resumed : x.resumed = some target
  calls : ∀ c ∈ x.calls, c.WellIssued
  nonvolatile : ∀ r, r.isVolatile = false → x.machine.regs r = entry.regs r
  memory : ∀ a, ¬ InRange (entry.rsp - BitVec.ofNat 64 room) room a →
    ¬ InRange entry.rsp 0x20 a → x.machine.memory a = entry.memory a

end FittingSchlongs.Foundation.X64
