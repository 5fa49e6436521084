/-
The cursor and the block-transfer rule.

A cursor points at an instruction by the position of its block and its position in the block. `Screenplay.follow` moves it
along an edge: to the next instruction of the block while there is one, whatever the edge; from the last instruction to
the first one of the block that the edge names; and nowhere when the block has no edges and the edge is the first, which
ends the screenplay. Any other edge is refused.
-/
import VisualNovel.Screenplay.Basic

namespace VisualNovel

/-- a position in a screenplay -/
structure Cursor where
  block : Nat
  instruction : Nat
  deriving DecidableEq, Repr

/-- the first instruction of the first block -/
def Cursor.start : Cursor := ⟨0, 0⟩

/-- why the walk cannot go on -/
inductive WalkError where
  /-- there is no block at this position -/
  | blockOutOfRange (index blocks : Nat)
  /-- there is no instruction at this position of the block -/
  | instructionOutOfRange (block : Int) (index instructions : Nat)
  /-- the block has no such edge -/
  | edgeOutOfRange (block : Int) (edge edges : Nat)
  /-- no block has this id -/
  | unknownBlockId (id : Int)
  /-- a choice was made, and none is on offer -/
  | noPendingDecision
  /-- the screenplay is over -/
  | finished
  /-- one advance has executed as many instructions as it may -/
  | runaway (steps : Nat)
  deriving DecidableEq, Repr

namespace WalkError

/-- the wording of a walk error -/
def message : WalkError → String
  | blockOutOfRange index blocks => s!"Block index {index} out of range ({blocks} blocks)"
  | instructionOutOfRange block index instructions =>
    s!"Instruction index {index} out of range in block {block} ({instructions} instructions)"
  | edgeOutOfRange block edge edges => s!"Block {block} has no edge {edge} ({edges} edges)"
  | unknownBlockId id => s!"Unknown block id {id}"
  | noPendingDecision => "No decision is pending"
  | finished => "Screenplay has ended"
  | runaway steps => s!"Execution exceeded {steps} instructions without reaching a suspension point"

/-- whether cursor and screenplay do not fit together -/
def isStructural : WalkError → Bool
  | blockOutOfRange .. | instructionOutOfRange .. | edgeOutOfRange .. | unknownBlockId _ => true
  | noPendingDecision | finished | runaway _ => false

end WalkError

/-- where a cursor goes -/
inductive Move where
  /-- on, within its block -/
  | stepped (next : Cursor)
  /-- to another block; the ids of both blocks -/
  | transferred (source target : Int) (next : Cursor)
  /-- nowhere: the screenplay is over -/
  | exhausted
  deriving DecidableEq, Repr

namespace Screenplay

/-- the block under a cursor -/
def blockAt (s : Screenplay) (c : Cursor) : Except WalkError Block :=
  match s.blocks[c.block]? with
  | some b => .ok b
  | none => .error (.blockOutOfRange c.block s.size)

/-- the instruction under a cursor -/
def instructionAt (s : Screenplay) (c : Cursor) : Except WalkError Instruction :=
  match s.blockAt c with
  | .error e => .error e
  | .ok b =>
    match b.instructions[c.instruction]? with
    | some i => .ok i
    | none => .error (.instructionOutOfRange b.id c.instruction b.instructions.length)

/-- whether a cursor points at an instruction -/
def check (s : Screenplay) (c : Cursor) : Except WalkError Unit := (s.instructionAt c).map fun _ => ()

/-- the block-transfer rule: where the cursor goes along an edge -/
def follow (s : Screenplay) (edge : Nat) (c : Cursor) : Except WalkError Move :=
  match s.blockAt c with
  | .error e => .error e
  | .ok b =>
    if c.instruction + 1 < b.instructions.length then .ok (.stepped ⟨c.block, c.instruction + 1⟩)
    else if edge = 0 ∧ b.isTerminal then .ok .exhausted
    else
      match b.edges[edge]? with
      | none => .error (.edgeOutOfRange b.id edge b.edges.length)
      | some target =>
        match s.indexOf target with
        | none => .error (.unknownBlockId target)
        | some index => .ok (.transferred b.id target ⟨index, 0⟩)

theorem instructionAt_ok_iff {s : Screenplay} {c : Cursor} {i : Instruction} :
    s.instructionAt c = .ok i ↔ ∃ b, s.blocks[c.block]? = some b ∧ b.instructions[c.instruction]? = some i := by
  unfold instructionAt blockAt
  cases hb : s.blocks[c.block]? with
  | none => simp
  | some b => cases hi : b.instructions[c.instruction]? <;> simp [hi]

theorem check_ok_iff {s : Screenplay} {c : Cursor} : s.check c = .ok () ↔ ∃ i, s.instructionAt c = .ok i := by
  unfold check
  cases h : s.instructionAt c <;> simp [Except.map]

end Screenplay

end VisualNovel
