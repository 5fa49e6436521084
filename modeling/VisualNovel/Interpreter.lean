/-
The walk through a screenplay.

A `Setting` is what does not change: the screenplay, the roster, what is logged and how many instructions one advance may
execute. A `Playhead` is what does: the cursor, the instruction executed last, the decision that waits and whether the
screenplay is over. `Setting.advance` runs from one suspension to the next (a line, a decision, the end), with a choice
first if one is given; `Setting.restore` puts the playhead where a save says; `Setting.capture` takes a save.

A call answers with a `Turn`: the answer, the playhead after it, and every event in between in order, notifications and
log records alike. An advance executes instructions one by one (`Setting.tick`) on a budget; when the budget is used up
it answers `WalkError.runaway`, and the playhead stands where the next advance goes on.

`Setting.runOn_succ` describes the accumulating loop by plain recursion.
-/
import VisualNovel.Cursor
import VisualNovel.Notification
import VisualNovel.SaveState
import VisualNovel.Speech

namespace VisualNovel

/-- why the walk handed control back -/
inductive Suspension where
  /-- a line is ready; the cursor has gone on, or stays on it where nothing follows -/
  | line (line : DialogLine)
  /-- a decision is ready; the cursor stays on it -/
  | decision (labels : List String)
  /-- the screenplay is over -/
  | ended
  deriving DecidableEq, Repr

/-- the speaker of a line; empty for narration and for every other suspension -/
def Suspension.speaker : Suspension → String
  | line l => l.speech.speaker
  | decision _ | ended => ""

/-- a decision that waits for a choice -/
structure Pending where
  cursor : Cursor
  labels : List String
  deriving DecidableEq, Repr

/-- how far the screenplay has come -/
inductive Progress where
  | running
  /-- the cursor cannot go on; the next advance ends the screenplay -/
  | exhausted
  | finished
  deriving DecidableEq, Repr

/-- what one walk through a screenplay does not change -/
structure Setting where
  screenplay : Screenplay
  roster : Roster
  filter : LogFilter
  /-- instructions that one advance may execute; none counts as one -/
  maxSteps : Nat

/-- the state of a walk -/
structure Playhead where
  cursor : Cursor
  lastExecuted : Option Cursor
  pending : Option Pending
  progress : Progress
  deriving DecidableEq, Repr

/-- at the first instruction, nothing executed -/
def Playhead.start : Playhead := ⟨.start, none, none, .running⟩

/-- something that happens during a call -/
inductive Event where
  /-- those who watch are told -/
  | told (notification : Notification)
  /-- a log record is written -/
  | logged (record : Record)
  deriving DecidableEq, Repr

namespace Event

/-- the notifications among events, in order -/
def notifications (es : List Event) : List Notification :=
  es.filterMap fun
    | told n => some n
    | logged _ => none

/-- the log records among events, in order -/
def records (es : List Event) : List Record :=
  es.filterMap fun
    | logged r => some r
    | told _ => none

end Event

/-- the outcome of a call: the answer, the playhead after it and what happened in between -/
structure Turn (α : Type) where
  answer : Except WalkError α
  head : Playhead
  events : List Event

/-- the outcome of executing one instruction: it answers the call, or the walk goes on -/
structure Tick where
  answer : Option (Except WalkError Suspension)
  head : Playhead
  events : List Event

namespace Setting

/-- instructions that one advance may execute -/
def limit (s : Setting) : Nat := max 1 s.maxSteps

/-- the event of writing a record, if the filter lets it through -/
def log (s : Setting) (r : Record) : List Event := (s.filter.pass r).map .logged

/-- the records of an instruction's tokens that refer to nothing -/
def unresolvedRecords (s : Setting) (i : Instruction) : List Event :=
  (i.unresolved s.screenplay.pool).map fun token => .logged (.unresolved token s.screenplay.pool.length)

/-- go on from a consumed instruction along the first edge -/
def goOn (s : Setting) (h : Playhead) : Except WalkError (Playhead × List Event) :=
  match s.screenplay.follow 0 h.cursor with
  | .error e => .error e
  | .ok (.stepped next) => .ok ({ h with cursor := next }, [])
  | .ok (.transferred source target next) => .ok ({ h with cursor := next }, s.log (.transferred source target))
  | .ok .exhausted => .ok ({ h with progress := .exhausted }, [])

/-- the line of a dialog instruction, once the walk has gone on from it -/
def lineOf (s : Setting) (r : Resolved) (h : Playhead) : DialogLine :=
  ⟨.ofLine s.roster r.text, h.cursor.block, r.lineNumber⟩

/-- what comes of an instruction that has been read and told -/
def dispatch (s : Setting) (r : Resolved) (h : Playhead) : Tick :=
  match r.kind with
  | .playDialog =>
    match s.goOn h with
    | .error e => ⟨some (.error e), h, []⟩
    | .ok (h, moved) =>
      let line := s.lineOf r h
      ⟨some (.ok (.line line)), h, moved ++ [.told (.dialogLine line)]⟩
  | .showDecision =>
    ⟨some (.ok (.decision r.labels)), { h with pending := some ⟨h.cursor, r.labels⟩ },
      s.log (.awaiting r.labels) ++ [.told (.decision r.labels)]⟩
  | _ =>
    match s.goOn h with
    | .error e => ⟨some (.error e), h, []⟩
    | .ok (h, moved) =>
      if h.progress = .exhausted then
        ⟨some (.ok .ended), { h with progress := .finished }, moved ++ s.log .ended⟩
      else ⟨none, h, moved⟩

/-- execute the instruction under the cursor -/
def tick (s : Setting) (h : Playhead) : Tick :=
  match s.screenplay.instructionAt h.cursor with
  | .error e => ⟨some (.error e), h, []⟩
  | .ok i =>
    let r := i.resolve s.screenplay.pool
    let read := s.unresolvedRecords i ++ s.log (.executing h.cursor.block h.cursor.instruction i.tag) ++
      [.told (.instruction r)]
    let t := s.dispatch r { h with lastExecuted := some h.cursor }
    { t with events := read ++ t.events }

/-- execute instructions until one answers or the budget is used up; `done` are the events so far, last first -/
def runOn (s : Setting) : Nat → Playhead → List Event → Turn Suspension
  | 0, h, done => ⟨.error (.runaway s.limit), h, done.reverse⟩
  | budget + 1, h, done =>
    let t := s.tick h
    match t.answer with
    | some answer => ⟨answer, t.head, (t.events.reverse ++ done).reverse⟩
    | none => runOn s budget t.head (t.events.reverse ++ done)

/-- run to the next suspension -/
def run (s : Setting) (h : Playhead) : Turn Suspension :=
  match h.progress with
  | .finished => ⟨.error .finished, h, []⟩
  | .exhausted => ⟨.ok .ended, { h with progress := .finished }, s.log .ended⟩
  | .running => s.runOn s.limit h []

/-- take an edge of the decision that waits -/
def takeBranch (s : Setting) (choice : Nat) (h : Playhead) : Except WalkError (Playhead × List Event) :=
  match h.pending with
  | none => .error .noPendingDecision
  | some p =>
    if p.cursor ≠ h.cursor then .error .noPendingDecision
    else
      match s.screenplay.follow choice h.cursor with
      | .error e => .error e
      | .ok (.stepped next) => .ok ({ h with cursor := next, pending := none }, [.logged (.idleChoice choice)])
      | .ok (.transferred source target next) =>
        .ok ({ h with cursor := next, pending := none }, s.log (.chosen choice source target))
      | .ok .exhausted => .ok ({ h with pending := none, progress := .exhausted }, [])

/-- run to the next suspension; a choice is taken first, and line counters start over with it -/
def advance (s : Setting) (choice : Option Nat) (h : Playhead) : Turn Suspension :=
  match choice with
  | none => s.run h
  | some choice =>
    match s.takeBranch choice h with
    | .error e => ⟨.error e, h, []⟩
    | .ok (h, moved) =>
      let t := s.run h
      { t with events := moved ++ .told .resetLineCounters :: t.events }

/-- the instruction executed last, resolved, and the log records that resolving it again writes -/
def lastExecuted (s : Setting) (h : Playhead) : Option (Resolved × List Event) :=
  match h.lastExecuted with
  | none => none
  | some c =>
    match s.screenplay.instructionAt c with
    | .error _ => none
    | .ok i => some (i.resolve s.screenplay.pool, s.unresolvedRecords i)

/-- a save of the playhead and a presentation -/
def capture (s : Setting) (h : Playhead) (p : Presentation) (now : Nat) : SaveState where
  blockIndex := h.cursor.block
  instructionIndex := h.cursor.instruction
  background := p.background
  portrait := p.portrait
  bgm := p.bgm
  savedAt := now
  eventId := s.screenplay.blocks[h.cursor.block]?.map (·.id)
  fingerprint := some s.screenplay.fingerprint

/-- the record of a save that belongs to another screenplay -/
def foreignRecord (s : Setting) (state : SaveState) : List Event :=
  match state.fingerprint with
  | some saved =>
    if saved = s.screenplay.fingerprint then [] else [.logged (.foreignSave saved s.screenplay.fingerprint)]
  | none => []

/-- put the playhead where a save says; a cursor that points at no instruction is refused -/
def restore (s : Setting) (state : SaveState) (h : Playhead) : Turn Unit :=
  let cursor : Cursor := ⟨state.blockIndex, state.instructionIndex⟩
  match s.screenplay.check cursor with
  | .error e => ⟨.error e, h, s.foreignRecord state⟩
  | .ok () =>
    ⟨.ok (), ⟨cursor, none, none, .running⟩,
      s.foreignRecord state ++ s.log (.cursorRestored cursor.block cursor.instruction) ++
        [.told (.restoreGraphics state.background state.portrait), .told (.restoreMusic state.bgm),
          .logged (.restored cursor.block cursor.instruction)]⟩

end Setting

namespace Playhead

/-- the labels of the decision that waits -/
def choices (h : Playhead) : Option (List String) := h.pending.map (·.labels)

/-- whether the screenplay is over -/
def isFinished (h : Playhead) : Bool := h.progress = .finished

end Playhead

namespace Setting

theorem runOn_done (s : Setting) (budget : Nat) (h : Playhead) (done : List Event) :
    s.runOn budget h done =
      { s.runOn budget h [] with events := done.reverse ++ (s.runOn budget h []).events } := by
  induction budget generalizing h done with
  | zero => simp [runOn]
  | succ budget ih =>
    simp only [runOn]
    cases (s.tick h).answer with
    | some answer => simp
    | none =>
      simp only []
      rw [ih, ih _ ((s.tick h).events.reverse ++ [])]
      simp

/-- one instruction and the rest of the run -/
theorem runOn_succ (s : Setting) (budget : Nat) (h : Playhead) :
    s.runOn (budget + 1) h [] =
      match (s.tick h).answer with
      | some answer => ⟨answer, (s.tick h).head, (s.tick h).events⟩
      | none =>
        { s.runOn budget (s.tick h).head [] with
          events := (s.tick h).events ++ (s.runOn budget (s.tick h).head []).events } := by
  simp only [runOn]
  cases (s.tick h).answer with
  | some answer => simp
  | none =>
    simp only []
    rw [runOn_done]
    simp

end Setting

end VisualNovel
