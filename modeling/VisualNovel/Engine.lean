/-
The engine: the walk together with those who watch it.

A `Production` is what does not change while a screenplay plays: the setting of the walk, where assets lie and who is
voiced. An `Engine` is the playhead, the stage, the voice tracker and the directives that have not been handed over yet.
Every event of a call is heard by stage, tracker and directive buffer in program order (`Production.hear`), whether the
call succeeds or not; a successful step, choice or restore hands over all directives (`Production.deliver`), and after a
voiced line the voice follows. What a failed call left behind is handed over by the next successful one.

A call answers with a `Reply`: the answer, the engine after it and all events, those that stage and tracker logged
included.
-/
import VisualNovel.Config
import VisualNovel.Directive
import VisualNovel.Interpreter

namespace VisualNovel

/-- a slot number that no slot has -/
structure SlotOutOfRange where
  slot : Nat
  maxSlots : Nat
  deriving DecidableEq, Repr

/-- the wording of a refused slot number -/
def SlotOutOfRange.message (e : SlotOutOfRange) : String :=
  let slot := e.slot
  let maxSlots := e.maxSlots
  s!"Save slot {slot} out of range (0..{maxSlots})"

/-- why the engine did not do what it was asked -/
inductive EngineError where
  | load (reason : LoadError)
  | walk (reason : WalkError)
  | slot (reason : SlotOutOfRange)
  /-- the operation is not possible now -/
  | invalid (text : String)
  deriving DecidableEq, Repr

/-- the wording of an engine error -/
def EngineError.message : EngineError → String
  | .load reason => "load error: " ++ reason.message
  | .walk reason => "engine error: " ++ reason.message
  | .slot reason => "storage error: " ++ reason.message
  | .invalid text => "invalid operation: " ++ text

/-- what one playing of a screenplay does not change -/
structure Production where
  setting : Setting
  assets : Assets
  speakers : Speakers

/-- the state of a playing -/
structure Engine where
  head : Playhead
  stage : Presentation
  voice : VoiceTracker
  /-- directives that have not been handed over -/
  buffer : List Directive
  deriving DecidableEq, Repr

/-- at the first instruction, with an empty stage -/
def Engine.start : Engine := ⟨.start, .empty, .start, []⟩

/-- the outcome of a call: the answer, the engine after it and what happened in between -/
structure Reply (α : Type) where
  answer : Except EngineError α
  engine : Engine
  events : List Event

namespace Production

/-- a screenplay under a configuration -/
def make (s : Screenplay) (c : Config) : Production :=
  ⟨⟨s, c.speakers.roster, c.filter, c.maxSteps⟩, c.assets, c.speakers⟩

/-- a screenplay from its source -/
def ofSource (source : List Json.Symbol) (c : Config) : Except EngineError Production :=
  match Screenplay.ofSource source with
  | .error reason => .error (.load reason)
  | .ok s => .ok (make s c)

/-! ## Watching the walk -/

/-- the engine's watchers after the notifications of a call -/
def hear (p : Production) (e : Engine) (ns : List Notification) : Engine :=
  { e with
    stage := ns.foldl (Presentation.hear p.assets) e.stage
    voice := ns.foldl (VoiceTracker.hear p.assets p.speakers) e.voice
    buffer := e.buffer ++ ns.flatMap (Directive.ofNotification p.assets) }

/-- what stage and tracker log about one event, the event itself first -/
def remarks (p : Production) (voice : VoiceTracker) : Event → List Event
  | .logged r => [.logged r]
  | .told n =>
    .told n :: (Presentation.remarks n ++ voice.remarks p.assets p.speakers n).map .logged

/-- the voice tracker after an event -/
def voiceAfter (p : Production) (voice : VoiceTracker) : Event → VoiceTracker
  | .logged _ => voice
  | .told n => voice.hear p.assets p.speakers n

/-- the events of a call with what stage and tracker log about them -/
def annotate (p : Production) (voice : VoiceTracker) (es : List Event) : List Event :=
  (es.foldl (fun (acc : VoiceTracker × List Event) e =>
    (p.voiceAfter acc.1 e, (p.remarks acc.1 e).reverse ++ acc.2)) (voice, [])).2.reverse

/-- the engine after a call of the walk, whatever it answered, and all events of the call -/
def watch {α : Type} (p : Production) (e : Engine) (t : Turn α) : Engine × List Event :=
  (p.hear { e with head := t.head } (Event.notifications t.events), p.annotate e.voice t.events)

/-! ## Calls -/

/-- the voice directive of the last line -/
def voiceDirectives (voice : VoiceTracker) : List Directive :=
  (voice.lastCue.map fun cue => Directive.playVoice cue.path).toList

/-- the result of a step: all directives not handed over yet, and after a line its voice -/
def resultOf (e : Engine) : Suspension → StepResult
  | .line _ => ⟨.waitUser, e.buffer ++ voiceDirectives e.voice⟩
  | .decision _ => ⟨.waitBranch, e.buffer⟩
  | .ended => ⟨.halt, e.buffer⟩

/-- hand over what a call of the walk led to -/
def deliver (p : Production) (e : Engine) (t : Turn Suspension) : Reply StepResult :=
  let (e, events) := p.watch e t
  match t.answer with
  | .error reason => ⟨.error (.walk reason), e, events⟩
  | .ok suspension => ⟨.ok (resultOf e suspension), { e with buffer := [] }, events⟩

/-- a call that is refused -/
def refuse {α : Type} (e : Engine) (text : String) : Reply α := ⟨.error (.invalid text), e, []⟩

/-- run to the next line, decision or the end -/
def step (p : Production) (e : Engine) : Reply StepResult :=
  match e.head.pending with
  | some _ => refuse e "A decision is waiting for a choice"
  | none => p.deliver e (p.setting.advance none e.head)

/-- take a choice and run on -/
def choose (p : Production) (index : Nat) (e : Engine) : Reply StepResult :=
  match e.head.pending with
  | none => refuse e "No choices available"
  | some pending =>
    if pending.labels.length ≤ index then
      let last := pending.labels.length - 1
      refuse e s!"Choice index {index} out of range (0-{last})"
    else p.deliver e (p.setting.advance (some index) e.head)

/-- a save of the engine -/
def capture (p : Production) (now : Nat) (e : Engine) : SaveState := p.setting.capture e.head e.stage now

/-- go on from a save; the directives put its presentation back -/
def restore (p : Production) (state : SaveState) (e : Engine) : Reply (List Directive) :=
  let t := p.setting.restore state e.head
  let (e, events) := p.watch e t
  match t.answer with
  | .error reason => ⟨.error (.walk reason), e, events⟩
  | .ok () => ⟨.ok e.buffer, { e with buffer := [] }, events⟩

/-- the cue of the line on screen, without counting it again; and the log records of looking it up -/
def replayVoice (p : Production) (e : Engine) : Option VoiceCue × List Event :=
  match p.setting.lastExecuted e.head with
  | none => (none, [])
  | some (r, events) =>
    match r.kind with
    | .playDialog =>
      (e.voice.replay p.assets p.speakers (.ofLine p.setting.roster r.text) e.head.cursor.block r.lineNumber, events)
    | _ => (none, events)

end Production

end VisualNovel
