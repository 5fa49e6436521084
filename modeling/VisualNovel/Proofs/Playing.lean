/-
The engine as a state machine: steps, choices and restored saves in any order.

An `EngineCall` is what a host may ask for, and `Performed` says once what it can come to. Either the engine refuses it and
nothing changes (`perform_refused`); or the walk performs the call that it stands for (`perform_allowed`), everybody hears
what happened, and the engine hands over what has been collected if the walk succeeded, and keeps it if not.
-/
import VisualNovel.Proofs.Walk
import VisualNovel.Engine

namespace VisualNovel

/-- what a host asks of the engine -/
inductive EngineCall where
  | step
  | choose (index : Nat)
  | restore (state : SaveState)
  deriving DecidableEq, Repr

/-- what a host gets -/
inductive EngineAnswer where
  | stepped (result : StepResult)
  | restored (directives : List Directive)
  deriving DecidableEq, Repr

/-- the directives that are handed over -/
def EngineAnswer.directives : EngineAnswer → List Directive
  | stepped result => result.directives
  | restored directives => directives

/-- a reply with another answer -/
def Reply.map {α β : Type} (f : α → β) (r : Reply α) : Reply β := ⟨r.answer.map f, r.engine, r.events⟩

namespace EngineCall

/-- the call of the walk that a call stands for -/
def walk : EngineCall → Call
  | step => .advance none
  | choose index => .advance (some index)
  | restore state => .restore state

/-- a step while a decision waits, or a choice that is not on offer -/
def Refused (e : Engine) : EngineCall → Prop
  | step => e.head.pending ≠ none
  | choose index => ∀ d, e.head.pending = some d → d.labels.length ≤ index
  | restore _ => False

end EngineCall

namespace Production

/-- a call of the engine -/
def perform (p : Production) : EngineCall → Engine → Reply EngineAnswer
  | .step, e => (p.step e).map .stepped
  | .choose index, e => (p.choose index e).map .stepped
  | .restore state, e => (p.restore state e).map .restored

/-- the engine when everybody has heard what happened in a call of the walk -/
def heard {α : Type} (p : Production) (e : Engine) (t : Turn α) : Engine :=
  p.hear { e with head := t.head } (Event.notifications t.events)

@[simp] theorem hear_nil (p : Production) (e : Engine) : p.hear e [] = e := by
  simp only [hear, List.foldl_nil, List.flatMap_nil, List.append_nil]

/-- what is handed over when the walk has reached a suspension, or none when a save was restored -/
def handOver (e : Engine) : Option Suspension → EngineAnswer
  | some suspension => .stepped (resultOf e suspension)
  | none => .restored e.buffer

/-- what a turn of the walk is answered with, and the engine after it -/
def outcome (p : Production) (e : Engine) (t : Turn (Option Suspension)) : Except EngineError EngineAnswer × Engine :=
  match t.answer with
  | .error reason => (.error (.walk reason), p.heard e t)
  | .ok suspension => (.ok (handOver (p.heard e t) suspension), { p.heard e t with buffer := [] })

end Production

/-- what a call of the engine comes to: the answer, and the engine after it -/
inductive Performed (p : Production) (e : Engine) (call : EngineCall) :
    Except EngineError EngineAnswer → Engine → Prop where
  /-- refused by the engine: nothing changes -/
  | refused {text : String} (hrefused : call.Refused e) : Performed p e call (.error (.invalid text)) e
  /-- refused by the walk: what was collected is kept -/
  | failed {reason : WalkError} (hallowed : ¬ call.Refused e)
    (hfails : (p.setting.perform call.walk e.head).answer = .error reason) :
    Performed p e call (.error (.walk reason)) (p.heard e (p.setting.perform call.walk e.head))
  /-- done: what was collected is handed over -/
  | done {suspension : Option Suspension} (hallowed : ¬ call.Refused e)
    (hdone : (p.setting.perform call.walk e.head).answer = .ok suspension) :
    Performed p e call (.ok (Production.handOver (p.heard e (p.setting.perform call.walk e.head)) suspension))
      { p.heard e (p.setting.perform call.walk e.head) with buffer := [] }

namespace Production

variable {p : Production} {e : Engine}

/-- a refusal and its wording depend on the playhead alone -/
theorem perform_refuses {call : EngineCall} (hrefused : call.Refused e) :
    ∃ text, ∀ f : Engine, f.head = e.head → p.perform call f = refuse f text := by
  cases call with
  | step =>
    obtain ⟨d, hd⟩ := Option.ne_none_iff_exists'.1 hrefused
    refine ⟨"A decision is waiting for a choice", fun f hf => ?_⟩
    simp only [perform, step, hf, hd]
    rfl
  | choose index =>
    cases hd : e.head.pending with
    | none =>
      refine ⟨"No choices available", fun f hf => ?_⟩
      simp only [perform, choose, hf, hd]
      rfl
    | some d =>
      let last := d.labels.length - 1
      refine ⟨s!"Choice index {index} out of range (0-{last})", fun f hf => ?_⟩
      simp only [perform, choose, hf, hd, if_pos (hrefused d hd)]
      rfl
  | restore state => exact hrefused.elim

theorem perform_refused {call : EngineCall} (hrefused : call.Refused e) :
    ∃ text, (p.perform call e).answer = .error (.invalid text) ∧ (p.perform call e).engine = e := by
  obtain ⟨text, hrefuses⟩ := perform_refuses (p := p) hrefused
  rw [hrefuses e rfl]
  exact ⟨text, rfl, rfl⟩

theorem deliver_outcome (p : Production) (e : Engine) (t : Turn Suspension) :
    (((p.deliver e t).map EngineAnswer.stepped).answer, (p.deliver e t).engine) =
      p.outcome e ⟨t.answer.map some, t.head, t.events⟩ := by
  obtain ⟨answer, head, events⟩ := t
  cases answer with
  | error reason => rfl
  | ok suspension => rfl

theorem deliver_head (p : Production) (e : Engine) (t : Turn Suspension) :
    (p.deliver e t).engine.head = t.head := by
  simp only [deliver]
  cases t.answer <;> rfl

theorem deliver_failed {t : Turn Suspension} {reason : EngineError}
    (hfails : (p.deliver e t).answer = .error reason) : ∃ walk, t.answer = .error walk ∧ reason = .walk walk := by
  simp only [deliver] at hfails
  cases hanswer : t.answer <;> rw [hanswer] at hfails <;> cases hfails
  exact ⟨_, rfl, rfl⟩

/-- a step or a choice that the engine allows delivers an advance -/
theorem perform_advance {call : EngineCall} {choice : Option Nat} (hallowed : ¬ call.Refused e)
    (hwalk : call.walk = .advance choice) :
    p.perform call e = (p.deliver e (p.setting.advance choice e.head)).map .stepped := by
  cases call with
  | step =>
    cases hwalk
    have hd : e.head.pending = none := not_not.1 hallowed
    simp only [perform, step, hd]
  | choose index =>
    cases hwalk
    simp only [EngineCall.Refused, not_forall] at hallowed
    obtain ⟨d, hd, hindex⟩ := hallowed
    simp only [perform, choose, hd, if_neg hindex]
  | restore state => cases hwalk

theorem perform_allowed {call : EngineCall} (hallowed : ¬ call.Refused e) :
    ((p.perform call e).answer, (p.perform call e).engine) = p.outcome e (p.setting.perform call.walk e.head) := by
  cases call with
  | step =>
    rw [perform_advance hallowed rfl]
    exact p.deliver_outcome e _
  | choose index =>
    rw [perform_advance hallowed rfl]
    exact p.deliver_outcome e _
  | restore state =>
    simp only [perform, restore, watch, outcome, Setting.perform, EngineCall.walk]
    cases (p.setting.restore state e.head).answer with
    | error reason => rfl
    | ok _ => rfl

/-- **What a call of the engine can come to.** -/
theorem performed (p : Production) (e : Engine) (call : EngineCall) :
    Performed p e call (p.perform call e).answer (p.perform call e).engine := by
  by_cases hrefused : call.Refused e
  · obtain ⟨text, hanswer, hengine⟩ := perform_refused hrefused
    rw [hanswer, hengine]
    exact .refused hrefused
  · have hallowed := perform_allowed (p := p) hrefused
    unfold outcome at hallowed
    cases ha : (p.setting.perform call.walk e.head).answer with
    | error reason =>
      rw [ha, Prod.mk.injEq] at hallowed
      rw [hallowed.1, hallowed.2]
      exact .failed hrefused ha
    | ok suspension =>
      rw [ha, Prod.mk.injEq] at hallowed
      rw [hallowed.1, hallowed.2]
      exact .done hrefused ha

end Production

end VisualNovel
