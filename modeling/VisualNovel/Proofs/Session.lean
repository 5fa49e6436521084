/-
The player and the engine, in step and out of step.

A session keeps the result on screen, and the engine has gone on from there by its own calls. The two are in step when
the result waits for a choice exactly while a decision waits, and for the player exactly while none does and the
screenplay is not over.

- `perform_inStep`: every result is in step with the engine that it comes from.
- `Ready`: no decision waits and the screenplay is not over, as wherever the two are in step and the player is waited
  for. A step from there fails only by a runaway (`Ready.breaksOff`).
- `Obeyed`: what one command comes to (`obey_obeyed`). The session is over; or it comes back to the prompt with the
  engine as it was; or a result is shown, which is in step again; or a choice was accepted and has run away. Then the
  prompt comes back as well, but the decision is gone (`Lost`).
- `Adrift`: these lines have led to such a prompt. Nothing but a load that restores a save leads out of it.
- `after_stands`: at every prompt that lines can lead to, session and engine are in step, or the session is adrift and
  has lost its decision. Adrift it refuses both Enter and every choice (`Lost.refusesTurns`).
-/
import VisualNovel.Proofs.Ending
import VisualNovel.Proofs.Loading
import VisualNovel.Proofs.Results

namespace VisualNovel

/-! ## Results and engines -/

/-- a result on screen and an engine, in step -/
structure InStep (e : Engine) (r : StepResult) : Prop where
  branch : r.next = .waitBranch ↔ e.head.pending ≠ none
  user : r.next = .waitUser ↔ e.head.pending = none ∧ e.head.isFinished = false
  /-- what is listed is what is on offer -/
  offer : r.next = .waitBranch → r.choices = e.head.choices

/-- what every call of the engine keeps: the playhead is sound, and what has been collected sets the scene -/
structure Steady (p : Production) (e : Engine) : Prop where
  sound : Sound p.setting e.head
  scene : Directive.SetsScene e.buffer

/-- an error of a call that came when it was not its turn -/
def EngineError.outOfTurn : EngineError → Bool
  | .invalid _ | .walk .noPendingDecision | .walk .finished => true
  | _ => false

theorem EngineError.isRunaway_iff {reason : EngineError} :
    reason.isRunaway = true ↔ ∃ steps, reason = .walk (.runaway steps) := by
  constructor
  · intro hreason
    cases reason with
    | walk walk =>
      cases walk with
      | runaway steps => exact ⟨steps, rfl⟩
      | _ => cases hreason
    | _ => cases hreason
  · rintro ⟨steps, rfl⟩
    rfl

theorem Reply.map_ok_iff {α β : Type} {f : α → β} {reply : Reply α} {b : β} :
    (reply.map f).answer = .ok b ↔ ∃ a, reply.answer = .ok a ∧ f a = b := by
  simp only [Reply.map]
  cases reply.answer <;> simp [Except.map]

theorem Reply.map_error_iff {α β : Type} {f : α → β} {reply : Reply α} {reason : EngineError} :
    (reply.map f).answer = .error reason ↔ reply.answer = .error reason := by
  simp only [Reply.map]
  cases reply.answer <;> simp [Except.map]

/-- an engine that is to take a step: no decision waits, and the screenplay is not over -/
structure Ready (p : Production) (e : Engine) : Prop where
  sound : Sound p.setting e.head
  free : e.head.pending = none
  goesOn : e.head.isFinished = false

/-- the error of a step that has used up the budget of one advance -/
def Production.BreaksOff (p : Production) (reason : EngineError) : Prop := reason = .walk (.runaway p.setting.limit)

section Results

variable {p : Production} {e : Engine} {r : StepResult}

theorem Playhead.choices_eq_none {h : Playhead} : h.choices = none ↔ h.pending = none := Option.map_eq_none_iff

theorem Steady.start (p : Production) : Steady p .start := ⟨.start p.setting, List.forall_mem_nil _⟩

theorem Steady.perform (he : Steady p e) (call : EngineCall) : Steady p (p.perform call e).engine :=
  ⟨Production.perform_sound he.sound call, Production.perform_scene he.sound he.scene call⟩

/-- a suspension is the end exactly when the walk is finished by it -/
theorem Sound.finished_iff {s : Setting} {h : Playhead} (hs : Sound s h) {choice : Option Nat} {suspension : Suspension}
    (hanswer : (s.advance choice h).answer = .ok suspension) :
    (s.advance choice h).head.isFinished = true ↔ suspension = .ended := by
  have hending := (hs.advances choice).ending hs
  rw [hanswer] at hending
  rcases hending with ⟨hended, -, hafter⟩ | ⟨hended, hkeeps⟩
  · exact iff_of_true hafter (Except.ok.inj hended)
  · refine iff_of_false ?_ fun h => hended (congrArg _ h)
    rw [hkeeps]
    intro hover
    have hover := Playhead.isFinished_iff.1 hover
    -- a walk that is over answers with an error
    cases choice with
    | none =>
      have ht : s.advance none h = _ := s.run_finished hover
      rw [ht] at hanswer
      cases hanswer
    | some edge =>
      rw [s.advance_none_waiting (hs.ends (by simp [hover])).1] at hanswer
      cases hanswer

theorem Production.deliver_halts (hs : Sound p.setting e.head) {choice : Option Nat}
    (hr : (p.deliver e (p.setting.advance choice e.head)).answer = .ok r) :
    (p.deliver e (p.setting.advance choice e.head)).engine.head.isFinished = true ↔ r.next = .halt := by
  simp only [deliver, watch, hear] at hr ⊢
  cases hanswer : (p.setting.advance choice e.head).answer with
  | error reason =>
    rw [hanswer] at hr
    cases hr
  | ok suspension =>
    have hfinished := hs.finished_iff hanswer
    rw [hanswer] at hr
    cases hr
    simp only [hfinished]
    cases suspension <;> simp [resultOf]

theorem Production.perform_halts (hs : Sound p.setting e.head) {call : EngineCall}
    (hdone : (p.perform call e).answer = .ok (.stepped r)) :
    (p.perform call e).engine.head.isFinished = true ↔ r.next = .halt := by
  by_cases hrefused : call.Refused e
  · obtain ⟨text, hanswer, -⟩ := perform_refused (p := p) hrefused
    cases hanswer.symm.trans hdone
  · have hdelivers : ∀ choice, call.walk = .advance choice →
        ((p.perform call e).engine.head.isFinished = true ↔ r.next = .halt) := by
      intro choice hwalk
      rw [perform_advance hrefused hwalk] at hdone ⊢
      obtain ⟨result, hanswer, hresult⟩ := Reply.map_ok_iff.1 hdone
      cases hresult
      exact deliver_halts hs hanswer
    cases call with
    | step => exact hdelivers none rfl
    | choose index => exact hdelivers (some index) rfl
    | restore state =>
      obtain ⟨directives, -, hrestored⟩ := Reply.map_ok_iff.1 hdone
      cases hrestored

/-- **Every result is in step with the engine that it comes from.** -/
theorem perform_inStep (he : Steady p e) {call : EngineCall} (hdone : (p.perform call e).answer = .ok (.stepped r)) :
    InStep (p.perform call e).engine r := by
  have hshaped := perform_shaped he.sound he.scene call hdone
  have hhalts := Production.perform_halts he.sound hdone
  have hsound := (he.perform call).sound
  generalize (p.perform call e).engine = f at hshaped hhalts hsound
  cases hshaped with
  | line _ _ _ _ hpending =>
    have hnone := Playhead.choices_eq_none.1 hpending
    have hopen : f.head.isFinished = false := by simpa using hhalts
    exact ⟨by simp [hnone], by simp [hnone, hopen], by simp⟩
  | decision hds hpending =>
    have hsome : f.head.pending ≠ none := by
      intro hnone
      cases (Playhead.choices_eq_none.2 hnone).symm.trans hpending
    exact ⟨by simp [hsome], by simp [hsome], fun _ => (hds.choices _ _).trans hpending.symm⟩
  | ended _ hpending hover =>
    have hnone := Playhead.choices_eq_none.1 hpending
    exact ⟨by simp [hnone], by simp [hover], by simp⟩

/-- a choice is refused, or taken by the walk -/
theorem Production.choose_cases (p : Production) (index : Nat) (e : Engine) :
    (∃ text, p.choose index e = refuse e text) ∨
      p.choose index e = p.deliver e (p.setting.advance (some index) e.head) := by
  unfold choose
  cases e.head.pending with
  | none => exact Or.inl ⟨_, rfl⟩
  | some d =>
    simp only
    split
    · exact Or.inl ⟨_, rfl⟩
    · exact Or.inr rfl

theorem Ready.start (p : Production) : Ready p .start := ⟨.start p.setting, rfl, rfl⟩

theorem InStep.ready {r : StepResult} (hr : InStep e r) (he : Steady p e) (hnext : r.next = .waitUser) : Ready p e := by
  obtain ⟨hfree, hopen⟩ := hr.user.1 hnext
  exact ⟨he.sound, hfree, hopen⟩

/-- **A step that is in turn fails only by a runaway.** -/
theorem Ready.breaksOff (he : Ready p e) {reason : EngineError} (hfails : (p.step e).answer = .error reason) :
    p.BreaksOff reason := by
  simp only [Production.step, he.free] at hfails
  obtain ⟨walk, hanswer, rfl⟩ := Production.deliver_failed hfails
  cases advance_refusal he.sound hanswer with
  | finished hover =>
    have hopen := he.goesOn
    simp [Playhead.isFinished, hover] at hopen
  | runaway => rfl

/-- in step, Enter where the player is waited for does not come out of turn -/
theorem InStep.step_inTurn (hr : InStep e r) (he : Steady p e) (hnext : r.next = .waitUser) {reason : EngineError}
    (hfails : (p.step e).answer = .error reason) : reason.outOfTurn = false := by
  rw [(hr.ready he hnext).breaksOff hfails]
  rfl

/-- nor does a choice that is listed -/
theorem InStep.choose_inTurn (hr : InStep e r) (he : Steady p e) (hnext : r.next = .waitBranch) {labels : List String}
    {index : Nat} (hlabels : r.choices = some labels) (hindex : index < labels.length) {reason : EngineError}
    (hfails : (p.choose index e).answer = .error reason) : reason.outOfTurn = false := by
  obtain ⟨d, hd⟩ := Option.ne_none_iff_exists'.1 (hr.branch.1 hnext)
  have hoffer : some labels = e.head.choices := hlabels.symm.trans (hr.offer hnext)
  simp only [Playhead.choices, hd, Option.map_some, Option.some.injEq] at hoffer
  have hlisted : ¬ d.labels.length ≤ index := by rw [← hoffer]; omega
  simp only [Production.choose, hd, if_neg hlisted] at hfails
  obtain ⟨walk, hanswer, rfl⟩ := Production.deliver_failed hfails
  cases advance_refusal he.sound hanswer with
  | noDecision hnone => cases hnone.symm.trans hd
  | noEdge => rfl
  | runaway => rfl

end Results

/-! ## A choice that runs away -/

/-- an accepted choice that runs away has used up the decision, and the walk is under way -/
theorem Sound.runaway_choice {s : Setting} {h : Playhead} (hs : Sound s h) {edge steps : Nat}
    (hanswer : (s.advance (some edge) h).answer = .error (.runaway steps)) :
    (s.advance (some edge) h).head.pending = none ∧ (s.advance (some edge) h).head.isFinished = false := by
  have ha := hs.advances (some edge)
  rw [hanswer] at ha
  generalize (s.advance (some edge) h).head = g at ha ⊢
  generalize Event.notifications (s.advance (some edge) h).events = ns at ha
  cases ha with
  | refused _ he => exact absurd rfl (he steps)
  | chose hd hnext hruns =>
    cases hruns with
    | @runaway g rs hrs hlength =>
      have hne : rs ≠ [] := List.ne_nil_of_length_pos (hlength ▸ s.limit_pos)
      exact ⟨(hrs.last hne).1, by simp [Playhead.isFinished, hrs.running rfl]⟩

theorem Production.choose_runaway {p : Production} {e : Engine} (he : Steady p e) {index steps : Nat}
    (hanswer : (p.choose index e).answer = .error (.walk (.runaway steps))) :
    (p.choose index e).engine.head.pending = none ∧ (p.choose index e).engine.head.isFinished = false := by
  rcases p.choose_cases index e with ⟨text, hrefuses⟩ | hdelivers
  · rw [hrefuses] at hanswer
    cases hanswer
  · rw [hdelivers] at hanswer ⊢
    obtain ⟨walk, hwalk, hreason⟩ := deliver_failed hanswer
    cases hreason
    rw [deliver_head]
    exact he.sound.runaway_choice hwalk

/-- any other choice that fails leaves the engine -/
theorem Production.choose_failed {p : Production} {e : Engine} (he : Steady p e) {index : Nat} {reason : EngineError}
    (hanswer : (p.choose index e).answer = .error reason) (hreason : reason.isRunaway = false) :
    (p.choose index e).engine = e := by
  have hrejected : (p.perform (.choose index) e).rejected = true :=
    Reply.rejected_iff.2 ⟨reason, Reply.map_error_iff.2 hanswer, hreason⟩
  exact (perform_rejected he.sound hrejected).1

/-! ## Commands -/

/-- after a load that restores, the engine stands at the cursor of the save with nothing to hand over -/
theorem Loads.steady {σ : Type} {p : Production} {slots : SaveSlots σ} {slot : Nat} {e engine : Engine} {contents : σ}
    {answer : Except EngineError (Option (List Directive))} {ns : List Notification} {directives : List Directive}
    (hloads : Loads p slots slot e contents answer engine ns) (hanswer : answer = .ok (some directives)) :
    Steady p engine := by
  cases hloads with
  | found _ _ _ hrestores =>
    cases hrestores with
    | done hholds =>
      obtain ⟨i, hi⟩ := Screenplay.holds_iff.1 hholds
      exact ⟨.fresh hi, List.forall_mem_nil _⟩
    | refused => cases hanswer
  | _ => cases hanswer

namespace Player

variable {σ : Type}

/-- a choice is accepted and runs away -/
def Strands (p : Player σ) (s : Session σ) (input : Input) : Prop :=
  ∃ index steps, input = .choose index ∧ s.shown.next = .waitBranch ∧
    (p.production.choose index s.engine).answer = .error (.walk (.runaway steps))

/-- a save is loaded and restored -/
def Reloads (p : Player σ) (s : Session σ) (input : Input) : Prop :=
  ∃ slots slot directives, p.slots = some slots ∧ input = .load slot ∧
    (p.production.restoreSlot slots slot s.engine s.contents).reply.answer = .ok (some directives)

/-- the player goes on where waited for, or takes a choice that the engine accepts -/
def Moves (p : Player σ) (s : Session σ) (input : Input) : Prop :=
  (input = .next ∧ s.shown.next = .waitUser) ∨
    ∃ index result, input = .choose index ∧ (p.production.choose index s.engine).answer = .ok result

/-- what a command at a prompt comes to -/
inductive Obeyed (p : Player σ) (s : Session σ) (input : Input) : Scene σ → Prop where
  /-- the session is over -/
  | closed (contents : σ) (failure : Option EngineError) : Obeyed p s input (.closed contents failure)
  /-- back to the prompt, with the engine as it was -/
  | returned {s' : Session σ} (hstrands : ¬ p.Strands s input) (hreloads : ¬ p.Reloads s input)
    (hengine : s'.engine = s.engine) (hshown : s'.shown = s.shown) : Obeyed p s input (.prompting s')
  /-- back to the prompt, but the decision is gone -/
  | stranded {s' : Session σ} (hstrands : p.Strands s input) (hpending : s'.engine.head.pending = none)
    (hopen : s'.engine.head.isFinished = false) (hsteady : Steady p.production s'.engine)
    (hshown : s'.shown = s.shown) : Obeyed p s input (.prompting s')
  /-- a result is shown -/
  | shown {s' : Session σ} (hstrands : ¬ p.Strands s input) (hcause : p.Moves s input ∨ p.Reloads s input)
    (hsteady : Steady p.production s'.engine) (hinStep : InStep s'.engine s'.shown) :
    Obeyed p s input (.prompting s')

variable {p : Player σ} {s : Session σ} {input : Input}

theorem not_strands (hinput : ∀ index, input ≠ .choose index) : ¬ p.Strands s input := by
  rintro ⟨index, _, rfl, -⟩
  exact hinput index rfl

theorem not_reloads (hinput : ∀ slot, input ≠ .load slot) : ¬ p.Reloads s input := by
  rintro ⟨_, slot, _, -, rfl, -⟩
  exact hinput slot rfl

theorem present_cases (p : Player σ) (engine : Engine) (contents : σ) (view : View) (result : StepResult) :
    (∃ rest failure, (p.present engine contents view result).1 = .closed rest failure) ∨
      ∃ seen, (p.present engine contents view result).1 = .prompting ⟨engine, contents, seen, result⟩ := by
  simp only [present]
  cases result.next with
  | halt => exact Or.inl ⟨_, _, rfl⟩
  | waitUser => exact Or.inr ⟨_, rfl⟩
  | waitBranch => exact Or.inr ⟨_, rfl⟩

/-- a step ends the session, or shows a result in step -/
theorem advance_cases (p : Player σ) {engine : Engine} (hsteady : Steady p.production engine) (contents : σ)
    (view : View) : (∃ rest failure, (p.advance engine contents view).1 = .closed rest failure) ∨
      ∃ s' : Session σ, (p.advance engine contents view).1 = .prompting s' ∧ Steady p.production s'.engine ∧
        InStep s'.engine s'.shown := by
  cases hanswer : (p.production.step engine).answer with
  | error reason =>
    simp only [advance, hanswer]
    exact Or.inl ⟨_, _, rfl⟩
  | ok result =>
    have hdone : (p.production.perform .step engine).answer = .ok (.stepped result) :=
      Reply.map_ok_iff.2 ⟨result, hanswer, rfl⟩
    simp only [advance, hanswer]
    rcases p.present_cases (p.production.step engine).engine contents view result with hclosed | ⟨seen, hshown⟩
    · exact Or.inl hclosed
    · exact Or.inr ⟨_, hshown, hsteady.perform .step, perform_inStep hsteady hdone⟩

/-- commands other than choices and loads that come back to the prompt -/
theorem obeyed_answer (hchoose : ∀ index, input ≠ .choose index) (hload : ∀ slot, input ≠ .load slot)
    (contents : σ) (text : List String) : Obeyed p s input (answer { s with contents := contents } text).1 :=
  .returned (not_strands hchoose) (not_reloads hload) rfl rfl

/-- a command that steps an engine which is steady -/
theorem advance_obeyed (hstrands : ¬ p.Strands s input) (hcause : p.Moves s input ∨ p.Reloads s input)
    {engine : Engine} (hsteady : Steady p.production engine) (contents : σ) (view : View) :
    Obeyed p s input (p.advance engine contents view).1 := by
  rcases p.advance_cases hsteady contents view with ⟨rest, failure, hclosed⟩ | ⟨s', hshown, hsteady', hinStep⟩
  · rw [hclosed]
    exact .closed rest failure
  · rw [hshown]
    exact .shown hstrands hcause hsteady' hinStep

theorem choose_obeyed (hsteady : Steady p.production s.engine) (hnext : s.shown.next = .waitBranch) (index : Nat) :
    Obeyed p s (.choose index) (p.choose index s).1 := by
  have hload : ¬ p.Reloads s (.choose index) := not_reloads (by simp)
  cases hanswer : (p.production.choose index s.engine).answer with
  | ok result =>
    have hdone : (p.production.perform (.choose index) s.engine).answer = .ok (.stepped result) :=
      Reply.map_ok_iff.2 ⟨result, hanswer, rfl⟩
    have hstrands : ¬ p.Strands s (.choose index) := by
      rintro ⟨_, _, hinput, -, hfails⟩
      cases hinput
      cases hanswer.symm.trans hfails
    simp only [choose, hanswer]
    rcases p.present_cases (p.production.choose index s.engine).engine s.contents s.view result with
      ⟨rest, failure, hclosed⟩ | ⟨seen, hshown⟩
    · rw [hclosed]
      exact .closed rest failure
    · rw [hshown]
      exact .shown hstrands (.inl (.inr ⟨index, result, rfl, hanswer⟩)) (hsteady.perform (.choose index))
        (perform_inStep hsteady hdone)
  | error reason =>
    simp only [choose, hanswer, answer]
    cases hreason : reason.isRunaway with
    | false =>
      have hstrands : ¬ p.Strands s (.choose index) := by
        rintro ⟨_, _, hinput, -, hfails⟩
        cases hinput
        cases hanswer.symm.trans hfails
        cases hreason
      exact .returned hstrands hload (Production.choose_failed hsteady hanswer hreason) rfl
    | true =>
      obtain ⟨steps, rfl⟩ := EngineError.isRunaway_iff.1 hreason
      obtain ⟨hpending, hopen⟩ := Production.choose_runaway hsteady hanswer
      exact .stranded ⟨index, steps, rfl, hnext, hanswer⟩ hpending hopen (hsteady.perform (.choose index)) rfl

/-- no message is told of a load only when a save was restored -/
theorem loadMessage_eq_none {slot : Nat} {answer : Except EngineError (Option (List Directive))}
    (hmessage : loadMessage slot answer = none) : ∃ directives, answer = .ok (some directives) := by
  cases answer with
  | error reason => cases hmessage
  | ok found =>
    cases found with
    | none => cases hmessage
    | some directives => exact ⟨directives, rfl⟩

theorem load_obeyed {slots : SaveSlots σ} (hslots : p.slots = some slots) (slot : Nat) :
    Obeyed p s (.load slot) (p.load slots slot s).1 := by
  have hstrands : ¬ p.Strands s (.load slot) := not_strands (by simp)
  have hloads := restoreSlot_loads p.production slots slot s.engine s.contents
  cases hmessage : loadMessage slot (p.production.restoreSlot slots slot s.engine s.contents).reply.answer with
  | some message =>
    have hengine := hloads.unchanged hmessage
    rw [p.load_told slots slot s hmessage]
    refine .returned hstrands ?_ hengine.1 rfl
    rintro ⟨slots', slot', directives, hslots', hinput, hrestored⟩
    cases hslots.symm.trans hslots'
    cases hinput
    rw [hrestored] at hmessage
    cases hmessage
  | none =>
    obtain ⟨directives, hanswer⟩ := loadMessage_eq_none hmessage
    have hreloads : p.Reloads s (.load slot) := ⟨slots, slot, directives, hslots, rfl, hanswer⟩
    simp only [load, hanswer]
    exact advance_obeyed hstrands (.inr hreloads) (hloads.steady hanswer) _ _

/-- Enter is refused where the player is not waited for -/
theorem obey_next_refused (hnext : s.shown.next ≠ .waitUser) (now : Nat) :
    p.obey now s .next = answer s ["Select a choice first."] := by
  simp only [obey]
  split
  · exact absurd ‹_› hnext
  all_goals rfl

/-- **What a command comes to.** -/
theorem obey_obeyed (hsteady : Steady p.production s.engine) (now : Nat) (input : Input) :
    Obeyed p s input (p.obey now s input).1 := by
  cases input with
  | quit => exact .closed _ _
  | next =>
    by_cases hnext : s.shown.next = .waitUser
    · simp only [obey, hnext]
      exact advance_obeyed (not_strands (by simp)) (.inl (.inl ⟨rfl, hnext⟩)) hsteady s.contents s.view
    · rw [obey_next_refused hnext]
      exact obeyed_answer (by simp) (by simp) s.contents _
  | choose index =>
    by_cases hnext : s.shown.next = .waitBranch
    · simp only [obey, hnext]
      exact choose_obeyed hsteady hnext index
    · have hrefuses : p.obey now s (.choose index) = answer s ["Press Enter to continue."] := by
        simp only [obey]
        split
        · exact absurd ‹_› hnext
        all_goals rfl
      rw [hrefuses]
      refine .returned ?_ (not_reloads (by simp)) rfl rfl
      rintro ⟨_, _, -, hbranch, -⟩
      exact hnext hbranch
  | voice =>
    simp only [obey]
    split <;> exact obeyed_answer (by simp) (by simp) s.contents _
  | save slot =>
    simp only [obey]
    split
    · exact obeyed_answer (by simp) (by simp) _ _
    · exact obeyed_answer (by simp) (by simp) s.contents _
  | load slot =>
    simp only [obey]
    split
    · exact load_obeyed ‹_› slot
    · rename_i hoff
      refine .returned (not_strands (by simp)) ?_ rfl rfl
      rintro ⟨_, _, _, hslots, -⟩
      cases hoff.symm.trans hslots
  | list =>
    simp only [obey]
    split
    · exact obeyed_answer (by simp) (by simp) _ _
    · exact obeyed_answer (by simp) (by simp) s.contents _
  | invalid hint => exact obeyed_answer (by simp) (by simp) s.contents _

/-! ## Lines -/

/-- the scene after lines that come at their own times -/
def after (p : Player σ) (scene : Scene σ) (lines : List (Nat × String)) : Scene σ :=
  lines.foldl (fun scene line => (p.feed line.1 scene line.2).1) scene

theorem after_append (p : Player σ) (scene : Scene σ) (lines more : List (Nat × String)) :
    p.after scene (lines ++ more) = p.after (p.after scene lines) more := List.foldl_append

theorem after_closed (p : Player σ) (contents : σ) (failure : Option EngineError) (lines : List (Nat × String)) :
    p.after (.closed contents failure) lines = .closed contents failure := by
  induction lines with
  | nil => rfl
  | cons line lines ih => exact ih

/-- what is run is fed line after line -/
theorem run_scene (p : Player σ) (now : Nat) (scene : Scene σ) (lines : List String) :
    (p.run now scene lines).1 = p.after scene (lines.map (now, ·)) := by
  induction lines generalizing scene with
  | nil => rfl
  | cons line lines ih =>
    cases scene with
    | opening engine contents => exact ih _
    | prompting s => exact ih _
    | closed contents failure => exact (p.after_closed contents failure _).symm

/-- what is asked for is a choice that was taken before -/
structure Lost (s : Session σ) : Prop where
  asked : s.shown.next = .waitBranch
  gone : s.engine.head.pending = none
  goesOn : s.engine.head.isFinished = false

/-- after these lines, a choice has run away and no save has been restored since -/
inductive Adrift (p : Player σ) (contents : σ) : List (Nat × String) → Prop where
  /-- it has run away just now -/
  | stranded {lines : List (Nat × String)} {s : Session σ} {line : Nat × String}
    (hs : p.after (opened contents) lines = .prompting s) (hstrands : p.Strands s (.ofLine line.2)) :
    Adrift p contents (lines ++ [line])
  /-- it has run away before -/
  | stays {lines : List (Nat × String)} {s : Session σ} {line : Nat × String} (hadrift : Adrift p contents lines)
    (hs : p.after (opened contents) lines = .prompting s) (hreloads : ¬ p.Reloads s (.ofLine line.2)) :
    Adrift p contents (lines ++ [line])

/-- what the last line had to do with it -/
theorem adrift_append_iff {contents : σ} {lines : List (Nat × String)} {line : Nat × String} :
    p.Adrift contents (lines ++ [line]) ↔
      ∃ s, p.after (opened contents) lines = .prompting s ∧
        (p.Strands s (.ofLine line.2) ∨ p.Adrift contents lines ∧ ¬ p.Reloads s (.ofLine line.2)) := by
  constructor
  · intro hadrift
    generalize hlines : lines ++ [line] = all at hadrift
    cases hadrift with
    | stranded hs hstrands =>
      obtain ⟨rfl, rfl⟩ := List.append_singleton_inj.1 hlines
      exact ⟨_, hs, Or.inl hstrands⟩
    | stays hadrift hs hreloads =>
      obtain ⟨rfl, rfl⟩ := List.append_singleton_inj.1 hlines
      exact ⟨_, hs, Or.inr ⟨hadrift, hreloads⟩⟩
  · rintro ⟨s, hs, hstrands | ⟨hadrift, hreloads⟩⟩
    · exact .stranded hs hstrands
    · exact .stays hadrift hs hreloads

/-- nothing can run away at the first line -/
theorem not_adrift_first (p : Player σ) (contents : σ) (line : Nat × String) : ¬ p.Adrift contents ([] ++ [line]) := by
  rw [adrift_append_iff]
  rintro ⟨s, hs, -⟩
  cases hs

theorem Lost.choose_refused (hs : Lost s) (p : Production) (index : Nat) :
    p.choose index s.engine = Production.refuse s.engine "No choices available" := by
  simp only [Production.choose, hs.gone]

/-- from in step, a command keeps in step unless its choice runs away -/
theorem Obeyed.inStep {s' : Session σ} (ho : Obeyed p s input (.prompting s')) (hsteady : Steady p.production s.engine)
    (hinStep : InStep s.engine s.shown) :
    Steady p.production s'.engine ∧
      (InStep s'.engine s'.shown ∧ ¬ p.Strands s input ∨ Lost s' ∧ p.Strands s input) := by
  cases ho with
  | returned hstrands _ hengine hshown =>
    rw [hengine, hshown]
    exact ⟨hsteady, Or.inl ⟨hinStep, hstrands⟩⟩
  | stranded hstrands hpending hopen hsteady' hshown =>
    have hasked : s'.shown.next = .waitBranch := by
      obtain ⟨_, _, -, hnext, -⟩ := hstrands
      rw [hshown]
      exact hnext
    exact ⟨hsteady', Or.inr ⟨⟨hasked, hpending, hopen⟩, hstrands⟩⟩
  | shown hstrands _ hsteady' hinStep' => exact ⟨hsteady', Or.inl ⟨hinStep', hstrands⟩⟩

/-- once lost, only a save that is restored brings it back in step -/
theorem Obeyed.lost {s' : Session σ} (ho : Obeyed p s input (.prompting s')) (hsteady : Steady p.production s.engine)
    (hlost : Lost s) :
    Steady p.production s'.engine ∧ ¬ p.Strands s input ∧
      (InStep s'.engine s'.shown ∧ p.Reloads s input ∨ Lost s' ∧ ¬ p.Reloads s input) := by
  have hrefused := hlost.choose_refused p.production
  cases ho with
  | returned hstrands hreloads hengine hshown =>
    have hlost' : Lost s' := ⟨hshown ▸ hlost.asked, hengine ▸ hlost.gone, hengine ▸ hlost.goesOn⟩
    exact ⟨hengine ▸ hsteady, hstrands, Or.inr ⟨hlost', hreloads⟩⟩
  | stranded hstrands =>
    obtain ⟨index, _, -, -, hfails⟩ := hstrands
    rw [hrefused] at hfails
    cases hfails
  | shown hstrands hcause hsteady' hinStep' =>
    refine ⟨hsteady', hstrands, Or.inl ⟨hinStep', ?_⟩⟩
    rcases hcause with (⟨-, hnext⟩ | ⟨index, _, -, htaken⟩) | hreloads
    · cases hlost.asked.symm.trans hnext
    · rw [hrefused] at htaken
      cases htaken
    · exact hreloads

/-- where a session stands after lines -/
inductive Stands (p : Player σ) (contents : σ) : List (Nat × String) → Scene σ → Prop where
  | opening : Stands p contents [] (opened contents)
  | prompting {lines : List (Nat × String)} {s : Session σ} (hsteady : Steady p.production s.engine)
    (hstep : InStep s.engine s.shown ∧ ¬ p.Adrift contents lines ∨ Lost s ∧ p.Adrift contents lines) :
    Stands p contents lines (.prompting s)
  | closed {lines : List (Nat × String)} (rest : σ) (failure : Option EngineError) :
    Stands p contents lines (.closed rest failure)

/-- **Where a session stands after any lines.** -/
theorem after_stands (p : Player σ) (contents : σ) (lines : List (Nat × String)) :
    p.Stands contents lines (p.after (opened contents) lines) := by
  induction lines using List.reverseRecOn with
  | nil => exact .opening
  | append_singleton lines line ih =>
    rw [after_append]
    generalize hbefore : p.after (opened contents) lines = before at ih
    cases ih with
    | closed rest failure => exact .closed rest failure
    | opening =>
      -- the first line, whatever it is, steps the engine
      change p.Stands contents ([] ++ [line]) (p.advance .start contents .empty).1
      rcases p.advance_cases (.start p.production) contents .empty with
        ⟨rest, failure, hclosed⟩ | ⟨s, hshown, hsteady, hinStep⟩
      · rw [hclosed]
        exact .closed rest failure
      · rw [hshown]
        exact .prompting hsteady (Or.inl ⟨hinStep, p.not_adrift_first contents line⟩)
    | @prompting _ s hsteady hstep =>
      change p.Stands contents (lines ++ [line]) (p.obey line.1 s (.ofLine line.2)).1
      have ho := obey_obeyed hsteady line.1 (.ofLine line.2)
      generalize (p.obey line.1 s (.ofLine line.2)).1 = scene at ho
      cases scene with
      | opening => cases ho
      | closed rest failure => exact .closed rest failure
      | prompting s' =>
        have hadrift_iff : p.Adrift contents (lines ++ [line]) ↔
            p.Strands s (.ofLine line.2) ∨ p.Adrift contents lines ∧ ¬ p.Reloads s (.ofLine line.2) := by
          simp [adrift_append_iff, hbefore]
        rcases hstep with ⟨hinStep, hadrift⟩ | ⟨hlost, hadrift⟩
        · obtain ⟨hsteady', hkept⟩ := ho.inStep hsteady hinStep
          refine .prompting hsteady' ?_
          simpa only [hadrift_iff, hadrift, false_and, or_false] using hkept
        · obtain ⟨hsteady', hstrands, hkept⟩ := ho.lost hsteady hlost
          refine .prompting hsteady' ?_
          simpa only [hadrift_iff, hadrift, hstrands, true_and, false_or, not_not] using hkept

/-- the engine takes Enter where the player is waited for, and a listed choice where one is asked for; what may still
fail is the walk -/
structure TakesTurns (p : Player σ) (s : Session σ) : Prop where
  enter : s.shown.next = .waitUser → (∀ now, p.obey now s .next = p.advance s.engine s.contents s.view) ∧
    ∀ reason, (p.production.step s.engine).answer = .error reason → reason.outOfTurn = false
  listed : ∀ labels, s.shown.next = .waitBranch → s.shown.choices = some labels → ∀ index, index < labels.length →
    (∀ now, p.obey now s (.choose index) = p.choose index s) ∧
      ∀ reason, (p.production.choose index s.engine).answer = .error reason → reason.outOfTurn = false

/-- neither Enter nor any choice gets past the prompt -/
structure RefusesTurns (p : Player σ) (s : Session σ) : Prop where
  enter : ∀ now, p.obey now s .next = answer s ["Select a choice first."]
  choices : ∀ now index, p.obey now s (.choose index) = answer s ["invalid operation: No choices available"]

theorem takesTurns (hsteady : Steady p.production s.engine) (hinStep : InStep s.engine s.shown) : p.TakesTurns s where
  enter hnext := by
    refine ⟨fun now => ?_, fun reason => hinStep.step_inTurn hsteady hnext⟩
    simp only [obey, hnext]
  listed labels hnext hlabels index hindex := by
    refine ⟨fun now => ?_, fun reason => hinStep.choose_inTurn hsteady hnext hlabels hindex⟩
    simp only [obey, hnext]

theorem Lost.refusesTurns (hs : Lost s) (p : Player σ) : p.RefusesTurns s where
  enter now := by simp only [obey, hs.asked]
  choices now index := by
    simp only [obey, hs.asked, choose, hs.choose_refused, Production.refuse]
    rfl

theorem Lost.not_inStep (hs : Lost s) : ¬ InStep s.engine s.shown := by
  intro hinStep
  exact hinStep.branch.1 hs.asked hs.gone

/-- **In step, unless a choice has run away.** At every prompt that lines can lead to, what is shown asks for a choice
exactly while a decision waits, and for the player exactly while none does and the screenplay is not over; then Enter
and the listed choices are taken in turn. That fails in one case only: a choice was accepted and has run away, and no
save has been restored since. Then the choices are still asked for, but the decision is gone, and Enter and every choice
are refused. -/
theorem in_step_unless_adrift (p : Player σ) (contents : σ) (lines : List (Nat × String))
    (hs : p.after (opened contents) lines = .prompting s) :
    (InStep s.engine s.shown ↔ ¬ p.Adrift contents lines) ∧
      (¬ p.Adrift contents lines → p.TakesTurns s) ∧
      (p.Adrift contents lines → Lost s ∧ p.RefusesTurns s) := by
  have hstands := p.after_stands contents lines
  rw [hs] at hstands
  cases hstands with
  | prompting hsteady hstep =>
    rcases hstep with ⟨hinStep, hadrift⟩ | ⟨hlost, hadrift⟩
    · refine ⟨iff_of_true hinStep hadrift, fun _ => takesTurns hsteady hinStep, ?_⟩
      exact fun h => absurd h hadrift
    · refine ⟨iff_of_false hlost.not_inStep (not_not_intro hadrift), ?_, fun _ => ⟨hlost, hlost.refusesTurns p⟩⟩
      exact fun h => absurd hadrift h

end Player

/-- a decision, a picture and a line, played on a budget of one instruction -/
def hallPlayer : Player Memory where
  production := {
    setting := {
      screenplay :=
        let decision : Instruction := ⟨"ShowDecision", [], ["on"]⟩
        let script : Script := ⟨[⟨1, [decision, ⟨"SetBgImg", [], ["ROOM", "A01"]⟩, ⟨"PlayDialog", [], ["a"]⟩], []⟩], []⟩
        ⟨script, script.fingerprint, Script.wellFormed_of_fault? (by decide), rfl⟩
      roster := ⟨[]⟩
      filter := .standard
      maxSteps := 1 }
    assets := .standard
    speakers := .standard }
  slots := none
  verbose := false

/-- **A prompt can ask for a choice that no longer waits**: the only choice is taken, the budget is used up by the
picture behind it, and from then on Enter and the choice are refused. -/
theorem hall_adrift :
    ∃ s, hallPlayer.after (Player.opened []) [(0, ""), (0, "1")] = .prompting s ∧ s.shown.next = .waitBranch ∧
      s.shown.choices = some ["on"] ∧ s.engine.head.pending = none ∧ s.engine.head.isFinished = false ∧
      hallPlayer.obey 0 s .next = Player.answer s ["Select a choice first."] ∧
      hallPlayer.obey 0 s (.choose 0) = Player.answer s ["invalid operation: No choices available"] :=
  ⟨_, rfl, rfl, rfl, rfl, rfl, rfl, rfl⟩

/-- after the first line the session is in step, and after the choice that runs away it is adrift -/
theorem hall_runs_away :
    (∃ s, hallPlayer.after (Player.opened []) [(0, "")] = .prompting s ∧ s.shown.next = .waitBranch ∧
        InStep s.engine s.shown ∧ hallPlayer.TakesTurns s) ∧
      ∃ s, hallPlayer.after (Player.opened []) [(0, ""), (0, "1")] = .prompting s ∧
        hallPlayer.Adrift [] [(0, ""), (0, "1")] ∧ Player.Lost s ∧ hallPlayer.RefusesTurns s := by
  have hbranch : ∃ s, hallPlayer.after (Player.opened []) [(0, "")] = .prompting s ∧ s.shown.next = .waitBranch ∧
      hallPlayer.Strands s (.ofLine "1") := ⟨_, rfl, rfl, 0, 1, rfl, rfl, rfl⟩
  obtain ⟨s, hs, hnext, hstrands⟩ := hbranch
  have hfirst : ¬ hallPlayer.Adrift [] [(0, "")] := hallPlayer.not_adrift_first [] (0, "")
  have hadrift : hallPlayer.Adrift [] [(0, ""), (0, "1")] := .stranded hs hstrands
  obtain ⟨hinStep, htakes, -⟩ := Player.in_step_unless_adrift hallPlayer [] [(0, "")] hs
  have hlast : ∃ t, hallPlayer.after (Player.opened []) [(0, ""), (0, "1")] = .prompting t := ⟨_, rfl⟩
  obtain ⟨t, ht⟩ := hlast
  obtain ⟨-, -, hrefuses⟩ := Player.in_step_unless_adrift hallPlayer [] [(0, ""), (0, "1")] ht
  exact ⟨⟨s, hs, hnext, hinStep.2 hfirst, htakes hfirst⟩, t, ht, hadrift, hrefuses hadrift⟩

end VisualNovel
