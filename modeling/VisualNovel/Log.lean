/-
The log. A record says what happened (`Record`); its level and category follow from that, and its wording is one
function (`Record.text`). Records about the walk pass a filter (`LogFilter`): it lets a record through when logging is
on, the level is at or above the threshold and the category is enabled. All other records are always written.
-/
import VisualNovel.Text.Quoted
import VisualNovel.Store.Basic
import VisualNovel.Instruction

namespace VisualNovel

/-- how much a record matters -/
inductive Level where
  | trace
  | debug
  | info
  | warn
  | error
  deriving DecidableEq, Repr

namespace Level

/-- all levels, from the least important up -/
def all : List Level := [trace, debug, info, warn, error]

/-- the position in the order of importance -/
def rank : Level → Nat
  | trace => 0
  | debug => 1
  | info => 2
  | warn => 3
  | error => 4

/-- the name in documents -/
def name : Level → String
  | trace => "Trace"
  | debug => "Debug"
  | info => "Info"
  | warn => "Warn"
  | error => "Error"

/-- the name in log records -/
def label : Level → String
  | trace => "TRACE"
  | debug => "DEBUG"
  | info => "INFO"
  | warn => "WARN"
  | error => "ERROR"

/-- levels by name -/
def choices : List (String × Level) := all.map fun l => (l.name, l)

end Level

/-- what a record is about -/
inductive Category where
  /-- execution of instructions -/
  | engine
  /-- block transfers and decisions -/
  | flow
  /-- resolution of texts -/
  | text
  /-- voice cues -/
  | voice
  /-- saving and restoring -/
  | save
  deriving DecidableEq, Repr

namespace Category

/-- all categories -/
def all : List Category := [engine, flow, text, voice, save]

/-- the name in documents -/
def name : Category → String
  | engine => "Engine"
  | flow => "Flow"
  | text => "Text"
  | voice => "Voice"
  | save => "Save"

/-- the target that records of a category are written under -/
def target : Category → String
  | engine => "tsuzuri::engine"
  | flow => "tsuzuri::flow"
  | text => "tsuzuri::text"
  | voice => "tsuzuri::voice"
  | save => "tsuzuri::save"

/-- categories by name -/
def choices : List (String × Category) := all.map fun c => (c.name, c)

end Category

/-- one log record: what happened -/
inductive Record where
  /-- a screenplay was loaded -/
  | loaded (blocks texts : Nat)
  /-- a loaded screenplay has tokens that refer to nothing; the first of them and its block -/
  | degraded (count : Nat) (token : String) (block : Int)
  /-- a token of an executed instruction refers to nothing -/
  | unresolved (token : String) (poolSize : Nat)
  /-- an instruction is executed -/
  | executing (block instruction : Nat) (tag : String)
  /-- the cursor went over to another block -/
  | transferred (source target : Int)
  /-- a choice took the cursor to another block -/
  | chosen (choice : Nat) (source target : Int)
  /-- a decision waits -/
  | awaiting (labels : List String)
  /-- a choice had no effect: instructions follow the decision in its block -/
  | idleChoice (choice : Nat)
  /-- the screenplay has ended -/
  | ended
  /-- an instruction with too few texts was passed over -/
  | incomplete (kind : Kind)
  /-- a line is voiced -/
  | voiced (path : String)
  /-- line counters start over -/
  | countersReset (count : Nat)
  /-- a save belongs to another screenplay -/
  | foreignSave (saved present : String)
  /-- the cursor was put where a save says -/
  | cursorRestored (block instruction : Nat)
  /-- a save was restored -/
  | restored (block instruction : Nat)
  /-- a slot could not be written -/
  | writeFailed (slot : Nat) (reason : StoreError)
  /-- a slot could not be read -/
  | readFailed (slot : Nat) (reason : StoreError)
  /-- a slot could not be cleared -/
  | deleteFailed (slot : Nat) (reason : StoreError)
  /-- a slot holds no save -/
  | corrupt (slot : Nat) (reason : Json.DecodeError)
  /-- any other message -/
  | note (category : Category) (level : Level) (text : String)
  deriving DecidableEq, Repr

namespace Record

/-- how much a record matters -/
def level : Record → Level
  | loaded .. | ended | cursorRestored .. | restored .. => .info
  | degraded .. | idleChoice _ | foreignSave .. | corrupt .. => .warn
  | unresolved .. | transferred .. | chosen .. | awaiting _ | countersReset _ => .debug
  | executing .. | incomplete _ | voiced _ => .trace
  | writeFailed .. | readFailed .. | deleteFailed .. => .error
  | note _ level _ => level

/-- what a record is about -/
def category : Record → Category
  | loaded .. | executing .. | ended | incomplete _ => .engine
  | transferred .. | chosen .. | awaiting _ | idleChoice _ => .flow
  | degraded .. | unresolved .. => .text
  | voiced _ | countersReset _ => .voice
  | foreignSave .. | cursorRestored .. | restored .. => .save
  | writeFailed .. | readFailed .. | deleteFailed .. | corrupt .. => .save
  | note category _ _ => category

/-- the wording of a record -/
def text : Record → String
  | loaded blocks texts => s!"Loaded screenplay: {blocks} blocks, {texts} pooled strings"
  | degraded count token block =>
    s!"{count} string tokens do not resolve and will be shown verbatim (first: " ++ Text.quoted token ++
      s!" in block {block})"
  | unresolved token poolSize => "unresolved pool token " ++ Text.quoted token ++ s!" (pool size {poolSize})"
  | executing block instruction tag => s!"[Engine] Block {block} instruction {instruction}: " ++ tag
  | transferred source target => s!"[Flow] Block {source} -> {target}"
  | chosen choice source target => s!"[Flow] Choice {choice}: block {source} -> {target}"
  | awaiting labels => "[Flow] Waiting for decision: " ++ Text.quotedList labels
  | idleChoice choice => s!"Decision is not the last instruction of its block; choice {choice} ignored"
  | ended => "[Engine] Reached end of screenplay"
  | incomplete kind => "Ignoring " ++ kind.name ++ " with missing parameters"
  | voiced path => "Voice cue " ++ path
  | countersReset count => s!"Resetting {count} line counters"
  | foreignSave saved present =>
    "Save was taken against a different screenplay (" ++ saved ++ " != " ++ present ++ ")"
  | cursorRestored block instruction => s!"[Save] Cursor restored to block {block} instruction {instruction}"
  | restored block instruction => s!"Restored block {block} instruction {instruction}"
  | writeFailed slot reason => s!"Failed to write slot {slot}: " ++ reason.message
  | readFailed slot reason => s!"Failed to read slot {slot}: " ++ reason.message
  | deleteFailed slot reason => s!"Failed to delete slot {slot}: " ++ reason.message
  | corrupt slot reason => s!"Ignoring corrupt save in slot {slot}: " ++ reason.message
  | note _ _ text => text

end Record

/-- which records about the walk are written -/
structure LogFilter where
  enabled : Bool
  /-- the least level that is written -/
  threshold : Level
  categories : List Category
  deriving DecidableEq, Repr

namespace LogFilter

/-- nothing is written; were it enabled, all but texts and voices from debug on would be -/
def standard : LogFilter := ⟨false, .debug, [.engine, .flow, .save]⟩

/-- everything is written -/
def verbose : LogFilter := ⟨true, .trace, Category.all⟩

/-- whether records of a category and level are written -/
def allows (f : LogFilter) (category : Category) (level : Level) : Bool :=
  f.enabled && decide (f.threshold.rank ≤ level.rank) && decide (category ∈ f.categories)

/-- the record, if it is written -/
def pass (f : LogFilter) (r : Record) : List Record := if f.allows r.category r.level then [r] else []

end LogFilter

end VisualNovel
