/-
The report on a loaded screenplay: how much it holds, its fingerprint, and the tokens that will be shown as they are.
-/
import VisualNovel.Screenplay.Basic

namespace VisualNovel

/-- summary of a screenplay -/
structure Report where
  blocks : Nat
  instructions : Nat
  pooledTexts : Nat
  terminalBlocks : Nat
  /-- one line per token that refers to nothing -/
  degraded : List String
  fingerprint : String
  deriving DecidableEq, Repr

namespace Report

/-- one line about a token -/
def degradedLine (t : DegradedToken) : String :=
  let block := t.block
  let index := t.instruction
  s!"block {block} instruction {index}: " ++ t.token

/-- the report on a screenplay -/
def ofScreenplay (s : Screenplay) : Report where
  blocks := s.size
  instructions := (s.blocks.flatMap (·.instructions)).length
  pooledTexts := s.pool.length
  terminalBlocks := s.blocks.countP (·.isTerminal)
  degraded := s.degraded.map degradedLine
  fingerprint := s.fingerprint

/-- the report as lines of text -/
def lines (r : Report) : List String :=
  ["blocks:          " ++ toString r.blocks, "instructions:    " ++ toString r.instructions,
    "pooled strings:  " ++ toString r.pooledTexts, "terminal blocks: " ++ toString r.terminalBlocks,
    "fingerprint:     " ++ r.fingerprint] ++
    if r.degraded.isEmpty then ["all string tokens resolve"]
    else ("unresolved string tokens (" ++ toString r.degraded.length ++ "):") :: r.degraded.map ("  " ++ ·)

end Report

end VisualNovel
