/-
How a session can fail.

A session ends with a failure only when a step of the engine does, and there are three places for one: the first line,
Enter where the player is waited for, and a load that has restored a save. At each of them the engine is ready: no
decision waits and the screenplay is not over (`Ready.start`, `InStep.ready`, `Loads.ready`). So none of the errors of a
call that came out of turn is left, the cursor points at an instruction, and what can still go wrong is that the budget
is used up (`Ready.breaksOff`).

- `obey_breaksOff`: a command at any prompt, in step or adrift, fails only so, because a choice or a save that is refused
  comes back to the prompt.
- `session_fails_by_runaway`: hence every session, whatever is typed and whatever the medium holds and answers.
-/
import VisualNovel.Proofs.Session

namespace VisualNovel

/-- an engine is ready after a load that has restored a save -/
theorem Loads.ready {σ : Type} {p : Production} {e engine : Engine} {slots : SaveSlots σ} {slot : Nat} {contents : σ}
    {answer : Except EngineError (Option (List Directive))} {ns : List Notification} {directives : List Directive}
    (hloads : Loads p slots slot e contents answer engine ns) (hanswer : answer = .ok (some directives)) :
    Ready p engine := by
  have hsteady := hloads.steady hanswer
  cases hloads with
  | found _ _ _ hrestores =>
    cases hrestores with
    | done => exact ⟨hsteady.sound, rfl, rfl⟩
    | refused => cases hanswer
  | _ => cases hanswer

/-! ## Commands -/

namespace Player

variable {σ : Type} {p : Player σ} {s : Session σ}

/-- a result that is shown is no failure -/
theorem present_failure (p : Player σ) (engine : Engine) (contents : σ) (view : View) (result : StepResult) :
    (p.present engine contents view result).1.failure = none := by
  simp only [present]
  cases result.next <;> rfl

theorem advance_breaksOff {engine : Engine} (hready : Ready p.production engine) (contents : σ) (view : View)
    {reason : EngineError} (hfails : (p.advance engine contents view).1.failure = some reason) :
    p.production.BreaksOff reason := by
  simp only [advance] at hfails
  cases hanswer : (p.production.step engine).answer with
  | error walk =>
    rw [hanswer] at hfails
    cases hfails
    exact hready.breaksOff hanswer
  | ok result =>
    rw [hanswer] at hfails
    rw [p.present_failure] at hfails
    cases hfails

theorem choose_failure (p : Player σ) (index : Nat) (s : Session σ) : (p.choose index s).1.failure = none := by
  simp only [choose]
  cases (p.production.choose index s.engine).answer with
  | ok result => exact p.present_failure _ _ _ result
  | error reason => rfl

theorem load_breaksOff (p : Player σ) (slots : SaveSlots σ) (slot : Nat) (s : Session σ) {reason : EngineError}
    (hfails : (p.load slots slot s).1.failure = some reason) : p.production.BreaksOff reason := by
  have hloads := restoreSlot_loads p.production slots slot s.engine s.contents
  cases hmessage : loadMessage slot (p.production.restoreSlot slots slot s.engine s.contents).reply.answer with
  | some message =>
    rw [p.load_told slots slot s hmessage] at hfails
    cases hfails
  | none =>
    obtain ⟨directives, hanswer⟩ := loadMessage_eq_none hmessage
    simp only [load, hanswer] at hfails
    exact advance_breaksOff (hloads.ready hanswer) _ _ hfails

/-- **A command fails only by a runaway**, wherever what is shown asks for a step only of an engine that is ready. -/
theorem obey_breaksOff (hready : s.shown.next = .waitUser → Ready p.production s.engine) (now : Nat) (input : Input)
    {reason : EngineError} (hfails : (p.obey now s input).1.failure = some reason) : p.production.BreaksOff reason := by
  cases input with
  | next =>
    cases hnext : s.shown.next with
    | waitUser =>
      simp only [obey, hnext] at hfails
      exact advance_breaksOff (hready hnext) _ _ hfails
    | waitBranch => simp [obey, hnext, answer, Scene.failure] at hfails
    | halt => simp [obey, hnext, answer, Scene.failure] at hfails
  | choose index =>
    cases hnext : s.shown.next with
    | waitBranch =>
      simp only [obey, hnext] at hfails
      rw [p.choose_failure] at hfails
      cases hfails
    | waitUser => simp [obey, hnext, answer, Scene.failure] at hfails
    | halt => simp [obey, hnext, answer, Scene.failure] at hfails
  | load slot =>
    simp only [obey] at hfails
    split at hfails
    · exact p.load_breaksOff _ slot s hfails
    · cases hfails
  | voice =>
    simp only [obey] at hfails
    split at hfails <;> cases hfails
  | save slot =>
    simp only [obey] at hfails
    split at hfails <;> cases hfails
  | list =>
    simp only [obey] at hfails
    split at hfails <;> cases hfails
  | quit => cases hfails
  | invalid hint => cases hfails

/-! ## Sessions -/

/-- at every prompt, what is shown asks for a step only of an engine that is ready -/
theorem after_ready (p : Player σ) (contents : σ) (lines : List (Nat × String))
    (hs : p.after (opened contents) lines = .prompting s) (hnext : s.shown.next = .waitUser) :
    Ready p.production s.engine := by
  have hstands := p.after_stands contents lines
  rw [hs] at hstands
  cases hstands with
  | prompting hsteady hstep =>
    rcases hstep with ⟨hinStep, -⟩ | ⟨hlost, -⟩
    · exact hinStep.ready hsteady hnext
    · cases hlost.asked.symm.trans hnext

theorem after_breaksOff (p : Player σ) (contents : σ) (lines : List (Nat × String)) {reason : EngineError}
    (hfails : (p.after (opened contents) lines).failure = some reason) : p.production.BreaksOff reason := by
  induction lines using List.reverseRecOn with
  | nil => cases hfails
  | append_singleton lines line ih =>
    rw [after_append] at hfails
    cases hbefore : p.after (opened contents) lines with
    | opening engine rest =>
      -- nothing but the very first line finds the session unopened
      have hstands := p.after_stands contents lines
      rw [hbefore] at hstands hfails
      cases hstands
      exact advance_breaksOff (.start p.production) _ _ hfails
    | prompting s =>
      rw [hbefore] at hfails
      exact obey_breaksOff (p.after_ready contents lines hbefore) line.1 (.ofLine line.2) hfails
    | closed rest failure =>
      rw [hbefore] at hfails ih
      exact ih hfails

/-- **A session fails only by a runaway.** Whatever is typed, line after line, and whatever the medium of the saves holds
and answers: if the session ends with a failure, the budget of one advance was used up. That holds of every step of the
engine that a session makes: the first one, the one after Enter where the player is waited for, and the one after a
load that has restored a save. -/
theorem session_fails_by_runaway (p : Player σ) (contents : σ) (lines : List (Nat × String)) :
    (∀ reason, (p.after (opened contents) lines).failure = some reason → p.production.BreaksOff reason) ∧
      (∀ reason, (p.production.step .start).answer = .error reason → p.production.BreaksOff reason) ∧
      ∀ s, p.after (opened contents) lines = .prompting s →
        (s.shown.next = .waitUser →
          ∀ reason, (p.production.step s.engine).answer = .error reason → p.production.BreaksOff reason) ∧
        ∀ slots slot directives,
          (p.production.restoreSlot slots slot s.engine s.contents).reply.answer = .ok (some directives) →
          ∀ reason, (p.production.step (p.production.restoreSlot slots slot s.engine s.contents).reply.engine).answer =
            .error reason → p.production.BreaksOff reason := by
  refine ⟨fun reason => p.after_breaksOff contents lines, fun reason => (Ready.start p.production).breaksOff, ?_⟩
  intro s hs
  refine ⟨fun hnext reason => (p.after_ready contents lines hs hnext).breaksOff, ?_⟩
  intro slots slot directives hanswer reason
  have hloads := restoreSlot_loads p.production slots slot s.engine s.contents
  exact (hloads.ready hanswer).breaksOff

end Player

/-- a line, a picture and a line -/
def landingScreenplay : Screenplay :=
  let line : Instruction := ⟨"PlayDialog", [], ["a"]⟩
  let script : Script := ⟨[⟨1, [line, ⟨"SetBgImg", [], ["ROOM", "A01"]⟩, line], []⟩], []⟩
  ⟨script, script.fingerprint, Script.wellFormed_of_fault? (by decide), rfl⟩

/-- the landing on a budget of so many instructions, with saves in memory -/
def landingPlayer (maxSteps : Nat) : Player Memory where
  production := ⟨⟨landingScreenplay, ⟨[]⟩, .standard, maxSteps⟩, .standard, .standard⟩
  slots := some ⟨.memory, .standard⟩
  verbose := false

/-- a save of the picture in the first slot -/
def landingMemory : Memory :=
  [("alive_save_0", "\x7b\"currentBlockIndex\": 0, \"currentInstructionIndex\": 1\x7d".toUTF8)]

/-- After the first line both Enter and a load of that save run away on the picture. -/
theorem landing_fails :
    (∃ s, (landingPlayer 1).after (Player.opened landingMemory) [(0, "")] = .prompting s ∧
        s.shown.next = .waitUser ∧ ∀ reason, ((landingPlayer 1).production.step s.engine).answer = .error reason →
          (landingPlayer 1).production.BreaksOff reason) ∧
      ∀ line ∈ ["", "l 0"],
        ∃ reason, ((landingPlayer 1).after (Player.opened landingMemory) [(0, ""), (0, line)]).failure = some reason ∧
          (landingPlayer 1).production.BreaksOff reason := by
  have hline : ∃ s, (landingPlayer 1).after (Player.opened landingMemory) [(0, "")] = .prompting s ∧
      s.shown.next = .waitUser := ⟨_, rfl, rfl⟩
  have hfailures : ∀ line ∈ ["", "l 0"],
      ((landingPlayer 1).after (Player.opened landingMemory) [(0, ""), (0, line)]).failure =
        some (.walk (.runaway 1)) := by decide +kernel
  obtain ⟨s, hs, hnext⟩ := hline
  obtain ⟨-, -, hprompts⟩ := Player.session_fails_by_runaway (landingPlayer 1) landingMemory [(0, "")]
  refine ⟨⟨s, hs, hnext, (hprompts s hs).1 hnext⟩, fun line hmem => ⟨_, hfailures line hmem, ?_⟩⟩
  obtain ⟨hfails, -⟩ := Player.session_fails_by_runaway (landingPlayer 1) landingMemory [(0, ""), (0, line)]
  exact hfails _ (hfailures line hmem)

end VisualNovel
