/-
A call that is rejected leaves no trace.

A call fails for two kinds of reason. A runaway has executed instructions until its budget was used up; every other
error is a rejection, decided before anything is executed or told.

- `Turn.rejected`, `Reply.rejected`: the call was answered with an error that is no runaway.
- `advance_rejected`, `perform_rejected`: a rejected call leaves the playhead or the engine as it was, and tells nothing.
  A choice is taken only when its edge is there, and past the first instruction nothing can be rejected: from a sound
  playhead a run fails only when its budget is used up (`Runs.isRunaway`).
- `history_accepted`, `exchanges_accepted`: so the calls that are rejected can be left out of a playing, and all others
  are answered as they were and tell what they told.
- `rejected_changes_nothing` puts it together for every reachable walk and every reachable engine.
-/
import VisualNovel.Proofs.Forgetting

namespace VisualNovel

/-! ## Rejections -/

/-- the budget was used up -/
def WalkError.isRunaway : WalkError → Bool
  | runaway _ => true
  | _ => false

/-- the budget of the walk was used up -/
def EngineError.isRunaway : EngineError → Bool
  | walk reason => reason.isRunaway
  | _ => false

/-- answered with an error that is no runaway -/
def Turn.rejected {α : Type} (t : Turn α) : Bool :=
  match t.answer with
  | .error reason => !reason.isRunaway
  | .ok _ => false

/-- answered with an error that is no runaway -/
def Reply.rejected {α : Type} (r : Reply α) : Bool :=
  match r.answer with
  | .error reason => !reason.isRunaway
  | .ok _ => false

theorem Turn.rejected_iff {α : Type} {t : Turn α} :
    t.rejected ↔ ∃ reason, t.answer = .error reason ∧ reason.isRunaway = false := by
  unfold rejected
  cases t.answer <;> simp

theorem Reply.rejected_iff {α : Type} {r : Reply α} :
    r.rejected ↔ ∃ reason, r.answer = .error reason ∧ reason.isRunaway = false := by
  unfold rejected
  cases r.answer <;> simp

@[simp] theorem Reply.rejected_map {α β : Type} (f : α → β) (r : Reply α) : (r.map f).rejected = r.rejected := by
  unfold rejected map
  cases r.answer <;> rfl

/-! ## The walk -/

section Walk

variable {s : Setting} {h : Playhead}

/-- past its first instruction a run fails only when its budget is used up -/
theorem Runs.isRunaway {budget : Nat} {reason : WalkError} {g : Playhead} {ns : List Notification}
    (hruns : Runs s budget h (.error reason) g ns) : reason.isRunaway := by
  cases hruns
  rfl

/-- **A rejected advance changes nothing and tells nothing.** -/
theorem advance_rejected (hs : Sound s h) {choice : Option Nat} (hr : (s.advance choice h).rejected) :
    (s.advance choice h).head = h ∧ Event.notifications (s.advance choice h).events = [] := by
  obtain ⟨reason, hanswer, hreason⟩ := Turn.rejected_iff.1 hr
  have ha := hs.advances choice
  rw [hanswer] at ha
  generalize (s.advance choice h).head = g at ha ⊢
  generalize Event.notifications (s.advance choice h).events = ns at ha ⊢
  -- a run, whether a choice came before it or not, has executed something and fails as a runaway only
  cases ha with
  | refused => exact ⟨rfl, rfl⟩
  | ran _ hruns => exact absurd hruns.isRunaway (by simp [hreason])
  | chose _ _ hruns => exact absurd hruns.isRunaway (by simp [hreason])

@[simp] theorem Setting.rejected_advance (s : Setting) (choice : Option Nat) (h : Playhead) :
    (s.perform (.advance choice) h).rejected = (s.advance choice h).rejected := by
  simp only [Turn.rejected, perform]
  cases (s.advance choice h).answer <;> rfl

/-- a rejected call of the walk changes nothing and tells nothing; a save that is refused may be logged -/
theorem Setting.perform_rejected (hs : Sound s h) {call : Call} (hr : (s.perform call h).rejected) :
    (s.perform call h).head = h ∧ Event.notifications (s.perform call h).events = [] := by
  cases call with
  | advance choice => exact advance_rejected hs (by simpa using hr)
  | restore state =>
    rcases s.restore_cases state h with ⟨i, es, -, ht, -⟩ | ⟨reason, es, -, ht, hes⟩
    · simp only [perform, ht] at hr
      cases hr
    · simp only [perform, ht, hes, and_self]

/-- the calls that are not rejected, each made when its turn comes -/
def Setting.accepted (s : Setting) : List Call → Playhead → List Call
  | [], _ => []
  | call :: calls, h =>
    if (s.perform call h).rejected then s.accepted calls (s.perform call h).head
    else call :: s.accepted calls (s.perform call h).head

/-- **Rejected calls can be left out.** The playhead comes to the same, and so does every other turn. -/
theorem history_accepted (hs : Sound s h) (calls : List Call) :
    s.play (s.accepted calls h) h = s.play calls h ∧
      s.history (s.accepted calls h) h = (s.history calls h).filter fun call => !call.2.rejected := by
  -- over all sound playheads; past a rejected call the rest is played from the same playhead
  induction calls generalizing h with
  | nil => exact ⟨rfl, rfl⟩
  | cons call calls ih =>
    obtain ⟨hplay, hhistory⟩ := ih (perform_sound s hs call)
    simp only [Setting.accepted, Setting.history, List.filter_cons]
    by_cases hr : (s.perform call h).rejected
    · have hhead := (Setting.perform_rejected hs hr).1
      simp only [hr, if_true, Bool.not_true, Bool.false_eq_true, if_false]
      rw [hhead] at hplay hhistory ⊢
      refine ⟨hplay.trans ?_, hhistory⟩
      simp only [Setting.play, List.foldl_cons, hhead]
    · rw [Bool.not_eq_true] at hr
      simp only [hr, Bool.false_eq_true, if_false, Bool.not_false, if_true, Setting.history]
      exact ⟨hplay, congrArg _ hhistory⟩

end Walk

/-! ## The engine -/

namespace Production

variable {p : Production} {e : Engine}

/-- a turn that leaves the playhead and tells nothing leaves the engine -/
theorem heard_idle {α : Type} {t : Turn α} (hhead : t.head = e.head) (htold : Event.notifications t.events = []) :
    p.heard e t = e := by
  simp only [heard, hhead, htold, hear_nil]

theorem rejected_of_refused {call : EngineCall} (hrefused : call.Refused e) : (p.perform call e).rejected := by
  obtain ⟨text, hanswer, -⟩ := perform_refused (p := p) hrefused
  exact Reply.rejected_iff.2 ⟨_, hanswer, rfl⟩

/-- a call that the engine allows is rejected when the walk rejects it -/
theorem rejected_of_allowed {call : EngineCall} (hallowed : ¬ call.Refused e) :
    (p.perform call e).rejected = (p.setting.perform call.walk e.head).rejected := by
  have hanswer := congrArg Prod.fst (perform_allowed (p := p) hallowed)
  simp only [outcome] at hanswer
  simp only [Reply.rejected, Turn.rejected, hanswer]
  cases (p.setting.perform call.walk e.head).answer <;> rfl

/-- **A rejected call of the engine changes nothing and tells nothing.** -/
theorem perform_rejected (hs : Sound p.setting e.head) {call : EngineCall} (hr : (p.perform call e).rejected) :
    (p.perform call e).engine = e ∧ Event.notifications (p.perform call e).events = [] := by
  by_cases hrefused : call.Refused e
  · obtain ⟨text, -, hengine⟩ := perform_refused (p := p) hrefused
    exact ⟨hengine, congrArg Event.notifications (perform_tells_nothing hrefused)⟩
  · -- the walk has rejected what it was asked, so nobody has heard anything
    obtain ⟨reason, hanswer, -⟩ := Reply.rejected_iff.1 hr
    have hp := p.performed e call
    rw [rejected_of_allowed hrefused] at hr
    obtain ⟨hhead, htold⟩ := Setting.perform_rejected hs hr
    rw [perform_tells hrefused]
    rw [hanswer] at hp
    generalize (p.perform call e).engine = engine at hp ⊢
    cases hp with
    | refused => exact ⟨rfl, htold⟩
    | failed => exact ⟨heard_idle hhead htold, htold⟩

/-- neither replaying nor saving is rejected, and neither changes anything -/
theorem respond_rejected (hs : Sound p.setting e.head) {request : EngineRequest}
    (hr : (p.respond e request).rejected) : (p.respond e request).engine = e := by
  cases request with
  | call call =>
    simp only [respond, Reply.rejected_map] at hr
    exact (perform_rejected hs hr).1
  | replay => rfl
  | save now => rfl

/-- requests with their replies -/
def exchanges (p : Production) : List EngineRequest → Engine → List (EngineRequest × Reply EngineResponse)
  | [], _ => []
  | request :: requests, e => (request, p.respond e request) :: p.exchanges requests (p.respond e request).engine

/-- the requests that are not rejected, each made when its turn comes -/
def accepted (p : Production) : List EngineRequest → Engine → List EngineRequest
  | [], _ => []
  | request :: requests, e =>
    if (p.respond e request).rejected then p.accepted requests (p.respond e request).engine
    else request :: p.accepted requests (p.respond e request).engine

/-- **Rejected requests can be left out.** The engine comes to the same, and so does every other reply. -/
theorem exchanges_accepted (hs : Sound p.setting e.head) (requests : List EngineRequest) :
    p.serve (p.accepted requests e) e = p.serve requests e ∧
      p.exchanges (p.accepted requests e) e = (p.exchanges requests e).filter fun request => !request.2.rejected := by
  induction requests generalizing e with
  | nil => exact ⟨rfl, rfl⟩
  | cons request requests ih =>
    obtain ⟨hserve, hexchanges⟩ := ih (respond_sound hs request)
    simp only [accepted, exchanges, List.filter_cons]
    by_cases hr : (p.respond e request).rejected
    · have hengine := respond_rejected hs hr
      simp only [hr, if_true, Bool.not_true, Bool.false_eq_true, if_false]
      rw [hengine] at hserve hexchanges ⊢
      refine ⟨hserve.trans ?_, hexchanges⟩
      simp only [serve, List.foldl_cons, hengine]
    · rw [Bool.not_eq_true] at hr
      simp only [hr, Bool.false_eq_true, if_false, Bool.not_false, if_true, exchanges]
      exact ⟨hserve, congrArg _ hexchanges⟩

end Production

/-- **What is rejected leaves no trace.** From any reachable playhead, an advance with a choice or without that fails for
any reason but a runaway leaves the whole playhead as it was, and nobody is told anything; from any reachable engine
the same holds for every call, and stage, tracker and what was collected stay as well. Hence all that is rejected can
be left out of a playing: playhead and engine come to the same, and all other calls are answered as they were, with the
same events. -/
theorem rejected_changes_nothing (p : Production) :
    (∀ (calls : List Call) (choice : Option Nat),
        let h := p.setting.play calls .start
        let t := p.setting.advance choice h
        t.rejected → t.head = h ∧ Event.notifications t.events = []) ∧
      (∀ calls : List Call,
        let kept := p.setting.accepted calls .start
        p.setting.play kept .start = p.setting.play calls .start ∧
          p.setting.history kept .start = (p.setting.history calls .start).filter fun call => !call.2.rejected) ∧
      (∀ (calls : List EngineCall) (call : EngineCall),
        let e := p.after calls .start
        let r := p.perform call e
        r.rejected → r.engine = e ∧ Event.notifications r.events = []) ∧
      ∀ requests : List EngineRequest,
        let kept := p.accepted requests .start
        p.serve kept .start = p.serve requests .start ∧
          p.exchanges kept .start = (p.exchanges requests .start).filter fun request => !request.2.rejected := by
  refine ⟨fun calls choice hr => ?_, fun calls => ?_, fun calls call hr => ?_, fun requests => ?_⟩
  · exact advance_rejected (play_sound p.setting (.start p.setting) calls) hr
  · exact history_accepted (.start p.setting) calls
  · exact Production.perform_rejected (p.after_start_sound calls) hr
  · exact Production.exchanges_accepted (e := .start) (.start p.setting) requests

/-- the script of a decision with one edge, played -/
def crossingProduction : Production := ⟨crossingSetting, .standard, .standard⟩

/-- while the decision waits, the walk rejects its missing second edge, and the engine a step -/
theorem crossing_unchanged :
    let p := crossingProduction
    let h := p.setting.play [.advance none] .start
    let e := p.after [.step] .start
    (p.setting.advance (some 1) h).rejected ∧ (p.setting.advance (some 1) h).head = h ∧
      (p.perform .step e).rejected ∧ (p.perform .step e).engine = e := by
  intro p h e
  obtain ⟨hwalk, -, hengine, -⟩ := rejected_changes_nothing p
  exact ⟨rfl, (hwalk [.advance none] (some 1) rfl).1, rfl, (hengine [.step] .step rfl).1⟩

end VisualNovel
