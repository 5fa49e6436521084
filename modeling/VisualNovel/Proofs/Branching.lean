/-
What a choice does, from the labels on offer to the lines that are counted behind it.

Three parts have a say in a choice. The engine knows how many labels there are, the walk whether a decision waits, and
the block which edges it has. `Branches` puts them together: in each of its cases the decision either waits as before or
has been taken altogether.

- `Engine.taken`: the engine at the moment a choice has been taken. The cursor is where the edge leads, nothing is on
  offer, and line counters have started over.
- `GoesOn`: the reply to a choice that is accepted is that of a step from there, behind the reset. So the lines that are
  counted afterwards are those of the call, and a runaway leaves no offer and no count.
- `deliver_reset`: what the engine hears behind a reset it hears as from cleared counters.
- `choice_branches`: from every reachable engine every choice comes to one of the cases.
-/
import VisualNovel.Proofs.Rejections

namespace VisualNovel

/-! ## What a choice comes to -/

/-- a reply with events before it -/
def Reply.behind {α : Type} (es : List Event) (r : Reply α) : Reply α := { r with events := es ++ r.events }

/-- what happens when line counters start over -/
def VoiceTracker.startsOver (t : VoiceTracker) : List Event :=
  [.told .resetLineCounters, .logged (.countersReset t.counters.length)]

/-- the engine when a choice has been taken -/
def Engine.taken (e : Engine) (next : Option Cursor) : Engine :=
  { e with head := .past e.head.cursor next, voice := e.voice.reset }

/-- a choice has been taken: the decision is released and the counters are cleared, and only then the walk goes on -/
structure GoesOn (p : Production) (e : Engine) (next : Option Cursor) (r : Reply StepResult) : Prop where
  released : (e.taken next).head.pending = none
  cleared : (e.taken next).voice.counters = []
  /-- the reply is that of a step from there, behind what the branch logs and the reset -/
  steps : ∃ moved, Event.notifications moved = [] ∧ r = (p.step (e.taken next)).behind (moved ++ e.voice.startsOver)
  /-- the reset is told first, and the lines of the call are all that is counted -/
  counts : ∃ ns, Event.notifications r.events = .resetLineCounters :: ns ∧ .resetLineCounters ∉ ns ∧
    ∀ key, r.engine.voice.count key = ns.countP (p.speakers.voices key)
  /-- the instruction where the edge leads is the first to be executed -/
  first : ∀ c, next = some c → ∃ i ns, p.setting.screenplay.instructionAt c = .ok i ∧
    Event.notifications r.events = .resetLineCounters :: .instruction (p.setting.reading i) :: ns
  /-- a runaway comes after release and reset as well -/
  runaway : ∀ steps, r.answer = .error (.walk (.runaway steps)) →
    r.engine.head.pending = none ∧ r.engine.voice.counters = []

/-- what a choice comes to -/
inductive Branches (p : Production) (e : Engine) (index : Nat) : Reply StepResult → Prop where
  /-- no decision waits -/
  | noDecision (hnone : e.head.pending = none) : Branches p e index (Production.refuse e "No choices available")
  /-- the decision has no such label -/
  | noLabel {d : Pending} (hd : e.head.pending = some d) (hindex : d.labels.length ≤ index) :
    Branches p e index (Production.refuse e s!"Choice index {index} out of range (0-{d.labels.length - 1})")
  /-- the block goes on behind the decision, and so does the walk, whatever was chosen -/
  | within {d : Pending} {b : Block} {r : Reply StepResult} (hd : e.head.pending = some d)
    (hindex : index < d.labels.length) (hb : p.setting.screenplay.blocks[d.cursor.block]? = some b)
    (hnext : d.cursor.instruction + 1 < b.instructions.length)
    (hr : GoesOn p e (some ⟨d.cursor.block, d.cursor.instruction + 1⟩) r) : Branches p e index r
  /-- the block ends with the decision and has the edge -/
  | across {d : Pending} {b target : Block} {k : Nat} {r : Reply StepResult} (hd : e.head.pending = some d)
    (hindex : index < d.labels.length) (hlast : p.setting.screenplay.IsLast d.cursor b)
    (hedge : b.edges[index]? = some target.id) (hk : p.setting.screenplay.blocks[k]? = some target)
    (hr : GoesOn p e (some ⟨k, 0⟩) r) : Branches p e index r
  /-- the block ends with the decision and has no edges, and the first label is chosen -/
  | off {d : Pending} {b : Block} {r : Reply StepResult} (hd : e.head.pending = some d)
    (hindex : index < d.labels.length) (hlast : p.setting.screenplay.IsLast d.cursor b) (hedges : b.edges = [])
    (hfirst : index = 0) (hr : GoesOn p e none r) (hhalt : r.answer = .ok ⟨.halt, e.buffer⟩) : Branches p e index r
  /-- the block ends with the decision and lacks the edge: the decision goes on waiting -/
  | noEdge {d : Pending} {b : Block} (hd : e.head.pending = some d) (hindex : index < d.labels.length)
    (hlast : p.setting.screenplay.IsLast d.cursor b) (hshort : b.edges.length ≤ index)
    (hother : ¬ (b.edges = [] ∧ index = 0)) :
    Branches p e index ⟨.error (.walk (.edgeOutOfRange b.id index b.edges.length)), e, []⟩

/-! ## The walk behind a choice -/

section Runs

variable {s : Setting} {budget : Nat} {h g : Playhead} {answer : Except WalkError Suspension} {ns : List Notification}

/-- a run executes the instruction under the cursor first -/
theorem Runs.first {i : Instruction} (hbudget : 0 < budget) (hruns : Runs s budget h answer g ns)
    (hi : s.screenplay.instructionAt h.cursor = .ok i) : ∃ ms, ns = .instruction (s.reading i) :: ms := by
  -- it is the first one passed, or the one that ends the run if none was passed
  cases hruns with
  | line hrs hj | decision hrs hj | ended hrs hj =>
    cases hrs with
    | nil =>
      obtain rfl := Screenplay.instruction_unique hi hj
      exact ⟨_, rfl⟩
    | cons hi' =>
      obtain rfl := Screenplay.instruction_unique hi hi'
      exact ⟨_, rfl⟩
  | runaway hrs hlength =>
    cases hrs with
    | nil => exact absurd hlength (Nat.ne_of_lt hbudget)
    | cons hi' =>
      obtain rfl := Screenplay.instruction_unique hi hi'
      exact ⟨_, rfl⟩

theorem Runs.no_reset (hruns : Runs s budget h answer g ns) : .resetLineCounters ∉ ns := by
  cases hruns <;> simp

/-- a run that fails leaves nothing on offer and has told instructions only -/
theorem Runs.failed {reason : WalkError} (hbudget : 0 < budget) (hruns : Runs s budget h (.error reason) g ns) :
    g.pending = none ∧ ∃ rs : List Resolved, ns = rs.map .instruction := by
  cases hruns with
  | @runaway g rs hrs hlength =>
    have hne : rs ≠ [] := List.ne_nil_of_length_pos (hlength ▸ hbudget)
    exact ⟨(hrs.last hne).1, rs, rfl⟩

end Runs

/-- how the walk goes on where a choice leads: its turn, and what it tells -/
structure Onward (s : Setting) (next : Option Cursor) (t : Turn Suspension) (ns : List Notification) : Prop where
  no_reset : .resetLineCounters ∉ ns
  first : ∀ c, next = some c → ∃ i ms, s.screenplay.instructionAt c = .ok i ∧ ns = .instruction (s.reading i) :: ms
  failed : ∀ reason, t.answer = .error reason → t.head.pending = none ∧ ∃ rs : List Resolved, ns = rs.map .instruction

theorem Screenplay.Leads.onward {s : Setting} {edge : Nat} {c : Cursor} {next : Option Cursor}
    (hleads : s.screenplay.Leads edge c next) :
    Onward s next (s.run (.past c next)) (Event.notifications (s.run (.past c next)).events) := by
  cases next with
  | some next =>
    obtain ⟨i, hi⟩ := hleads.instruction
    have hsound : Sound s (.past c (some next)) := .moved hleads
    have hruns := run_runs s hsound rfl
    refine ⟨hruns.no_reset, ?_, fun reason hreason => ?_⟩
    · rintro _ ⟨⟩
      obtain ⟨ms, hms⟩ := hruns.first s.limit_pos hi
      exact ⟨i, ms, hi, hms⟩
    · rw [hreason] at hruns
      exact hruns.failed s.limit_pos
  | none =>
    rw [s.run_exhausted rfl, s.notifications_log]
    exact ⟨List.not_mem_nil, nofun, nofun⟩

/-! ## Counting behind a reset -/

theorem sinceReset_eq_self {ns : List Notification} (hns : .resetLineCounters ∉ ns) : sinceReset ns = ns := by
  -- from the right, as the last reset is looked for
  induction ns using List.reverseRecOn with
  | nil => rfl
  | append_singleton ns n ih =>
    rw [List.mem_append, List.mem_singleton, not_or] at hns
    rw [sinceReset_concat ns (Ne.symm hns.2), ih hns.1]

namespace Production

variable {p : Production} {e : Engine} {next : Option Cursor} {index : Nat}

/-- from cleared counters, the lines that are heard are counted, and nothing else -/
theorem count_reset (p : Production) (voice : VoiceTracker) {ns : List Notification} (hns : .resetLineCounters ∉ ns)
    (key : String) : (p.heardBy voice.reset ns).count key = ns.countP (p.speakers.voices key) := by
  rw [p.count_heardBy, if_neg hns, sinceReset_eq_self hns]
  exact Nat.zero_add _

theorem heardBy_instructions (p : Production) (voice : VoiceTracker) (rs : List Resolved) :
    p.heardBy voice (rs.map .instruction) = voice := by
  induction rs with
  | nil => rfl
  | cons r rs ih => exact ih

/-- log records are annotated with nothing -/
theorem annotate_logged (p : Production) (voice : VoiceTracker) {es : List Event} (hes : Event.notifications es = [])
    (fs : List Event) : p.annotate voice (es ++ fs) = es ++ p.annotate voice fs := by
  induction es with
  | nil => rfl
  | cons event es ih =>
    cases event with
    | told n => cases hes
    | logged r =>
      have hrest := ih hes
      rw [List.cons_append, annotate_cons]
      exact congrArg (.logged r :: ·) hrest

/-- **What is heard behind a reset is heard from cleared counters**, whatever the playhead was. -/
theorem deliver_reset (p : Production) (e : Engine) (head : Playhead) (t : Turn Suspension) {moved : List Event}
    (hmoved : Event.notifications moved = []) :
    p.deliver e { t with events := moved ++ .told .resetLineCounters :: t.events } =
      (p.deliver { e with head := head, voice := e.voice.reset } t).behind (moved ++ e.voice.startsOver) := by
  have hevents : p.annotate e.voice (moved ++ .told .resetLineCounters :: t.events) =
      moved ++ e.voice.startsOver ++ p.annotate e.voice.reset t.events := by
    rw [p.annotate_logged _ hmoved, annotate_cons, List.append_assoc]
    rfl
  simp only [deliver, watch, hevents, Event.notifications_append, hmoved, Event.notifications_told, List.nil_append]
  cases t.answer <;> rfl

/-! ## A choice that is accepted -/

theorem taken_released (e : Engine) (next : Option Cursor) : (e.taken next).head.pending = none := by
  cases next <;> rfl

theorem step_taken (p : Production) (e : Engine) (next : Option Cursor) :
    p.step (e.taken next) = p.deliver (e.taken next) (p.setting.run (.past e.head.cursor next)) := by
  simp only [step, taken_released]
  rfl

theorem step_taken_tells (p : Production) (e : Engine) (next : Option Cursor) :
    Event.notifications (p.step (e.taken next)).events =
      Event.notifications (p.setting.run (.past e.head.cursor next)).events := by
  rw [step_taken]
  exact p.deliver_tells (e.taken next) _

theorem step_taken_head (p : Production) (e : Engine) (next : Option Cursor) :
    (p.step (e.taken next)).engine.head = (p.setting.run (.past e.head.cursor next)).head := by
  rw [step_taken, deliver_head]

theorem step_taken_voice (p : Production) (e : Engine) (next : Option Cursor) :
    (p.step (e.taken next)).engine.voice =
      p.heardBy e.voice.reset (Event.notifications (p.step (e.taken next)).events) :=
  p.perform_voice (e.taken next) .step

/-- a step where there is nothing more ends the screenplay, and hands over what was collected -/
theorem step_over (p : Production) (e : Engine) : (p.step (e.taken none)).answer = .ok ⟨.halt, e.buffer⟩ := by
  rw [step_taken, p.setting.run_exhausted rfl]
  simp only [deliver, watch, p.setting.notifications_log, hear_nil]
  rfl

/-- **An accepted choice goes on where the edge leads.** -/
theorem goesOn (p : Production) (e : Engine) (hleads : p.setting.screenplay.Leads index e.head.cursor next)
    {moved : List Event} (hmoved : Event.notifications moved = []) :
    GoesOn p e next ((p.step (e.taken next)).behind (moved ++ e.voice.startsOver)) := by
  have honward := hleads.onward
  have hvoice := p.step_taken_voice e next
  rw [← p.step_taken_tells] at honward
  have htold : Event.notifications ((p.step (e.taken next)).behind (moved ++ e.voice.startsOver)).events =
      .resetLineCounters :: Event.notifications (p.step (e.taken next)).events := by
    simp [Reply.behind, VoiceTracker.startsOver, hmoved]
  refine ⟨taken_released e next, rfl, ⟨moved, hmoved, rfl⟩, ⟨_, htold, honward.no_reset, ?counts⟩, ?first, ?runaway⟩
  case counts =>
    intro key
    simp only [Reply.behind, hvoice, p.count_reset e.voice honward.no_reset]
  case first =>
    intro c hc
    obtain ⟨i, ms, hi, hms⟩ := honward.first c hc
    exact ⟨i, ms, hi, by rw [htold, hms]⟩
  case runaway =>
    intro steps hanswer
    simp only [Reply.behind] at hanswer ⊢
    rw [p.step_taken] at hanswer
    obtain ⟨reason, hreason, -⟩ := deliver_failed hanswer
    obtain ⟨hpending, rs, hrs⟩ := honward.failed reason hreason
    rw [p.step_taken_head, hvoice, hrs, p.heardBy_instructions]
    exact ⟨hpending, rfl⟩

/-- what the walk rejects leaves the engine as it is -/
theorem deliver_idle (p : Production) (e : Engine) (reason : WalkError) :
    p.deliver e ⟨.error reason, e.head, []⟩ = ⟨.error (.walk reason), e, []⟩ := by
  simp only [deliver, watch, Event.notifications_nil, hear_nil]
  rfl

/-- **What a choice comes to.** -/
theorem choose_branches (hs : Sound p.setting e.head) (index : Nat) : Branches p e index (p.choose index e) := by
  unfold choose
  cases hd : e.head.pending with
  | none => exact .noDecision hd
  | some d =>
    obtain ⟨-, hcursor, -⟩ := hs.waits d hd
    by_cases hindex : d.labels.length ≤ index
    · simp only [if_pos hindex]
      exact .noLabel hd hindex
    rw [Nat.not_le] at hindex
    simp only [if_neg (Nat.not_le.2 hindex)]
    have hc := hs.chosen index
    generalize p.setting.advance (some index) e.head = t at hc
    cases hc with
    | noDecision hnone => cases hnone.symm.trans hd
    | noEdge _ hlast hshort hfirst =>
      rw [deliver_idle]
      exact .noEdge hd hindex (hcursor ▸ hlast) hshort fun h => hfirst h.2
    | @taken _ next moved _ hleads hmoved =>
      have hpast : e.head.released.goTo next = .past e.head.cursor next := hs.released_goTo hd next
      have hstep : p.deliver { e with head := .past e.head.cursor next, voice := e.voice.reset }
          (p.setting.run (.past e.head.cursor next)) = p.step (e.taken next) := (p.step_taken e next).symm
      rw [hpast, p.deliver_reset e (.past e.head.cursor next) _ hmoved, hstep]
      have hgoes := p.goesOn e hleads hmoved
      rw [← hcursor] at hleads
      cases hleads with
      | within hb hnext => exact .within hd hindex hb hnext hgoes
      | across hlast hedge hk => exact .across hd hindex hlast hedge hk hgoes
      | off hlast hedges hfirst => exact .off hd hindex hlast hedges hfirst hgoes (p.step_over e)

end Production

theorem Branches.goesOn {p : Production} {e : Engine} {index : Nat} {r : Reply StepResult} (hr : Branches p e index r)
    (haccepted : r.rejected = false) : ∃ next, GoesOn p e next r := by
  cases hr with
  | noDecision => cases haccepted
  | noLabel => cases haccepted
  | within _ _ _ _ hr => exact ⟨_, hr⟩
  | across _ _ _ _ _ hr => exact ⟨_, hr⟩
  | off _ _ _ _ _ hr => exact ⟨_, hr⟩
  | noEdge => cases haccepted

/-- **The effect of a choice, end to end.** From any reachable engine a choice is refused as invalid if no decision waits
or it has no such label. Otherwise the position of the decision in its block and the edges of the block decide. Behind a
decision that does not end its block the walk goes on with the next instruction, whatever was chosen; else with the first
instruction of the block that the chosen edge names; the first label of a block without edges ends the screenplay; any
other choice is rejected for its edge, and the engine stays as it was. Whatever is accepted, the decision is released and
line counters are cleared before anything is executed, told or counted, even if the walk runs away. -/
theorem choice_branches (p : Production) (calls : List EngineCall) (index : Nat) :
    let e := p.after calls .start
    let r := p.choose index e
    Branches p e index r ∧ (r.rejected = false → ∃ next, GoesOn p e next r) := by
  intro e r
  have hr : Branches p e index r := Production.choose_branches (p.after_start_sound calls) index
  exact ⟨hr, hr.goesOn⟩

/-- a voiced line, a decision, a picture and another line, shown on a budget of one instruction -/
def porchProduction : Production where
  setting := {
    screenplay :=
      let script : Script :=
        ⟨[⟨1, [⟨"PlayDialog", [], ["Ann「one」"]⟩, ⟨"ShowDecision", [], ["on", "off"]⟩, ⟨"SetBgImg", [], ["ROOM", "A01"]⟩,
          ⟨"PlayDialog", [], ["Ann「two」"]⟩], []⟩], []⟩
      ⟨script, script.fingerprint, Script.wellFormed_of_fault? (by decide), rfl⟩
    roster := ⟨["Ann"]⟩
    filter := .standard
    maxSteps := 1 }
  assets := .standard
  speakers := ⟨["Ann"], [("Ann", "ANN")], []⟩

/-- the second label is taken though the block has no edges, and the picture uses the budget up: nothing is on offer
then, and the line is not counted any more -/
theorem porch_runs_away :
    let p := porchProduction
    let e := p.after [.step, .step] .start
    let r := p.choose 1 e
    e.head.choices = some ["on", "off"] ∧ e.voice.counters = [("ANN", 1)] ∧ r.rejected = false ∧
      (∃ next, GoesOn p e next r) ∧ r.answer = .error (.walk (.runaway 1)) ∧ r.engine.head.pending = none ∧
      r.engine.voice.counters = [] := by
  intro p e r
  have hoffer : e.head.choices = some ["on", "off"] := by decide
  have hcounted : e.voice.counters = [("ANN", 1)] := by decide
  have haccepted : r.rejected = false := by decide
  have hanswer : r.answer = .error (.walk (.runaway 1)) := by decide
  have hgoes : ∃ next, GoesOn p e next r := (choice_branches p [.step, .step] 1).2 haccepted
  have hafter : r.engine.head.pending = none ∧ r.engine.voice.counters = [] := by
    obtain ⟨next, hnext⟩ := hgoes
    exact hnext.runaway 1 hanswer
  exact ⟨hoffer, hcounted, haccepted, hgoes, hanswer, hafter⟩

end VisualNovel
