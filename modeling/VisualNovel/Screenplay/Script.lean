/-
Scripts: the decoded payload of a screenplay file, blocks of instructions and a text pool. A block is addressed by its id
and has outgoing edges, which name blocks by id; a block without edges ends the screenplay.

A script is written as one JSON document with all members in declared order (`Script.toJson`). Its text without gaps is
the canonical text of the script, and the fingerprint is the MD5 of that text.
-/
import VisualNovel.Digest.Md5
import VisualNovel.Json.Printer
import VisualNovel.Instruction

namespace VisualNovel

/-- instructions in sequence, with edges to what follows them -/
structure Block where
  id : Int
  instructions : List Instruction
  /-- ids of the blocks that may follow; edge 0 is the one taken without a choice -/
  edges : List Int
  deriving DecidableEq, Repr

/-- whether the screenplay ends with this block -/
def Block.isTerminal (b : Block) : Bool := b.edges.isEmpty

/-- blocks and text pool of a screenplay, not yet validated -/
structure Script where
  blocks : List Block
  pool : List String
  deriving DecidableEq, Repr

/-- the document of a block -/
def Block.toJson (b : Block) : Json :=
  .object [("evId", .int b.id), ("instructions", .arr (b.instructions.map Instruction.toJson)),
    ("returnValues", .arr (b.edges.map .int))]

/-- a block; only the id has to be there -/
def Block.ofJson : Json.Decoder Block := fun v => do
  let f ← Json.Fields.ofRecord ["evId", "instructions", "returnValues"] "a block" v
  let id ← f.required "evId" Json.asInt64
  let instructions ← f.withDefault "instructions" (Json.asList Instruction.ofJson) []
  let edges ← f.withDefault "returnValues" (Json.asList Json.asInt64) []
  return ⟨id, instructions, edges⟩

/-- the document of a script -/
def Script.toJson (s : Script) : Json :=
  .object [("events", .arr (s.blocks.map Block.toJson)), ("textPool", .texts s.pool)]

/-- a script; blocks and pool may be left out -/
def Script.ofJson : Json.Decoder Script := fun v => do
  let f ← Json.Fields.ofRecord ["events", "textPool"] "a screenplay" v
  let blocks ← f.withDefault "events" (Json.asList Block.ofJson) []
  let pool ← f.withDefault "textPool" (Json.asList Json.asText) []
  return ⟨blocks, pool⟩

/-- the text that the fingerprint is taken from -/
def Script.canonicalText (s : Script) : String := s.toJson.compact

/-- identifies a script: the MD5 of its canonical text -/
def Script.fingerprint (s : Script) : String := Digest.Md5.hex s.canonicalText.toUTF8

end VisualNovel
