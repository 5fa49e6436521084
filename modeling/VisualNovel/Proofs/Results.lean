/-
The shape of a step's result.

What the host is to do next can be read off the directives alone: a line that ends them, with its voice at most after
it, waits for the player; a choice that ends them waits for a choice; and where there is neither, the screenplay is
over.

- `Shaped`: what a result can be, with the playhead after it. What was collected before sets the scene only, because a
  line or a decision that is told goes out with the call that tells it (`perform_scene`), so nothing stale can be in a
  result.
- `perform_shaped`: every result of an engine that has nothing but scene left is shaped.
- `result_shape`: for every reachable engine, the next action says which shape the directives have, and the shape says
  which action is next; the choices on offer are those that wait, and at the end the engine is finished.
-/
import VisualNovel.Proofs.Delivery
import VisualNovel.Proofs.Screen

namespace VisualNovel

/-! ## Shapes -/

namespace Directive

/-- one line, last but for a voice at most, and no choice -/
def Speaks (ds : List Directive) : Prop :=
  (ds.map role).count .line = 1 ∧ (ds.map role).count .choice = 0 ∧
    ∃ front said voices, ds = front ++ said :: voices ∧ said.role = .line ∧ voices.length ≤ 1 ∧
      ∀ d ∈ voices, d.role = .voice

/-- one choice, last, and neither line nor voice -/
def Offers (labels : List String) (ds : List Directive) : Prop :=
  (ds.map role).count .choice = 1 ∧ (ds.map role).count .line = 0 ∧ (ds.map role).count .voice = 0 ∧
    ds.getLast? = some (.branch labels)

theorem count_role {ds : List Directive} {x y : Role} (hds : ∀ d ∈ ds, d.role = y) (hx : x ≠ y) :
    (ds.map role).count x = 0 := by
  refine List.count_eq_zero.2 fun hmem => ?_
  obtain ⟨d, hd, rfl⟩ := List.mem_map.1 hmem
  exact hx (hds d hd)

theorem SetsScene.choices {ds : List Directive} (hds : SetsScene ds) (next : NextAction) (labels : List String) :
    StepResult.choices ⟨next, ds ++ [.branch labels]⟩ = some labels := by
  induction ds with
  | nil => rfl
  | cons d ds ih =>
    obtain ⟨hd, hds⟩ := List.forall_mem_cons.1 hds
    have hrest := ih hds
    cases d with
    | branch choices => cases hd
    | _ => exact hrest

end Directive

/-- what a result can be, with the playhead after it -/
inductive Shaped (g : Playhead) : StepResult → Prop where
  | line {ds voices : List Directive} {said : Directive} (hds : Directive.SetsScene ds) (hsaid : said.role = .line)
    (hlength : voices.length ≤ 1) (hvoices : ∀ d ∈ voices, d.role = .voice) (hpending : g.choices = none) :
    Shaped g ⟨.waitUser, ds ++ said :: voices⟩
  | decision {ds : List Directive} {labels : List String} (hds : Directive.SetsScene ds)
    (hpending : g.choices = some labels) : Shaped g ⟨.waitBranch, ds ++ [.branch labels]⟩
  | ended {ds : List Directive} (hds : Directive.SetsScene ds) (hpending : g.choices = none)
    (hover : g.isFinished = true) : Shaped g ⟨.halt, ds⟩

namespace Shaped

open Directive

variable {g : Playhead} {r : StepResult}

theorem speaks_iff (hr : Shaped g r) : r.next = .waitUser ↔ Speaks r.directives := by
  cases hr with
  | @line ds voices said hds hsaid hlength hvoices =>
    refine iff_of_true rfl ⟨?_, ?_, ds, said, voices, rfl, hsaid, hlength, hvoices⟩
    · simp [count_role hds, count_role hvoices, hsaid]
    · simp [count_role hds, count_role hvoices, hsaid]
  | @decision ds labels hds =>
    refine iff_of_false (by simp) fun hspeaks => ?_
    obtain ⟨hline, -⟩ := hspeaks
    simp [count_role hds, role] at hline
  | @ended ds hds =>
    refine iff_of_false (by simp) fun hspeaks => ?_
    obtain ⟨hline, -⟩ := hspeaks
    simp [count_role hds] at hline

theorem offers_iff (hr : Shaped g r) : r.next = .waitBranch ↔ ∃ labels, Offers labels r.directives := by
  cases hr with
  | @line ds voices said hds hsaid hlength hvoices =>
    refine iff_of_false (by simp) fun hoffers => ?_
    obtain ⟨labels, -, hline, -⟩ := hoffers
    simp [hsaid] at hline
  | @decision ds labels hds =>
    refine iff_of_true rfl ⟨labels, ?_, ?_, ?_, by simp⟩
    · simp [count_role hds, role]
    · simp [count_role hds, role]
    · simp [count_role hds, role]
  | @ended ds hds =>
    refine iff_of_false (by simp) fun hoffers => ?_
    obtain ⟨labels, hchoice, -⟩ := hoffers
    simp [count_role hds] at hchoice

theorem setsScene_iff (hr : Shaped g r) : r.next = .halt ↔ SetsScene r.directives := by
  cases hr with
  | @line ds voices said hds hsaid =>
    refine iff_of_false (by simp) fun hscene => ?_
    have := hscene said (by simp)
    simp [hsaid] at this
  | @decision ds labels hds =>
    refine iff_of_false (by simp) fun hscene => ?_
    have := hscene (.branch labels) (by simp)
    simp [role] at this
  | ended hds => exact iff_of_true rfl hds

theorem choices (hr : Shaped g r) {labels : List String} (hoffers : Offers labels r.directives) :
    r.choices = some labels ∧ g.choices = some labels := by
  have hnext := hr.offers_iff.2 ⟨labels, hoffers⟩
  cases hr with
  | line => cases hnext
  | @decision ds labels' hds hpending =>
    obtain ⟨-, -, -, hlast⟩ := hoffers
    obtain rfl : labels' = labels := by simpa using hlast
    exact ⟨hds.choices _ _, hpending⟩
  | ended => cases hnext

end Shaped

/-! ## Results -/

theorem handOver_shaped {p : Production} {e : Engine} {t : Turn (Option Suspension)} {suspension : Option Suspension}
    {r : StepResult} (hscene : Directive.SetsScene e.buffer)
    (hc : Closes p.setting (.ok suspension) t.head (Event.notifications t.events))
    (hr : Production.handOver (p.heard e t) suspension = .stepped r) : Shaped t.head r := by
  -- the directives are known to be the script, so the next action settles the result
  have hscript : ∀ next, r.next = next → r = ⟨next, e.buffer ++ p.script e.voice (Event.notifications t.events)⟩ := by
    rintro - rfl
    rw [← Production.handOver_script hc, hr]
    rfl
  generalize p.heard e t = heard at hr
  generalize Event.notifications t.events = ns at hc hscript
  generalize t.head = g at hc ⊢
  cases hc with
  | @line g ns said es hquiet _ _ hpending =>
    have hds := Production.collected_scene (p := p) hscene hquiet
    rw [hscript .waitUser (by cases hr; rfl), p.script_append, p.script_quiet e.voice hquiet, ← List.append_assoc,
      p.script_single]
    exact .line hds rfl (p.voiceOf_length _ _) (p.voiceOf_voice _ _) (congrArg _ hpending)
  | @decision g ns labels hquiet hpending =>
    have hds := Production.collected_scene (p := p) hscene hquiet
    rw [hscript .waitBranch (by cases hr; rfl), p.script_append, p.script_quiet e.voice hquiet, ← List.append_assoc,
      p.script_single]
    exact .decision hds hpending
  | ended hquiet hpending hover =>
    have hds := Production.collected_scene (p := p) hscene hquiet
    rw [hscript .halt (by cases hr; rfl), p.script_quiet e.voice hquiet]
    exact .ended hds (congrArg _ hpending) (decide_eq_true hover)
  | restored => cases hr

/-- **Every result is shaped**, when what is left from before sets the scene. -/
theorem perform_shaped {p : Production} {e : Engine} (hs : Sound p.setting e.head)
    (hscene : Directive.SetsScene e.buffer) (call : EngineCall) {r : StepResult}
    (hdone : (p.perform call e).answer = .ok (.stepped r)) : Shaped (p.perform call e).engine.head r := by
  have hc := hs.closes call.walk
  have hp := p.performed e call
  generalize (p.perform call e).answer = answer at hp hdone
  generalize (p.perform call e).engine = engine at hp ⊢
  cases hp with
  | refused => cases hdone
  | failed => cases hdone
  | done _ hwalk =>
    rw [hwalk] at hc
    exact handOver_shaped hscene hc (Except.ok.inj hdone)

/-- **The shape of a result.** After any calls, successful or failing, let a step or a choice succeed. The host is to
wait for the player exactly when the directives contain one line, last but for a voice at most, and no choice; for a
choice exactly when they contain one choice, last, and neither line nor voice, and then that choice is on offer; and
it is to halt exactly when they contain none of the three, and then the engine is finished. No choice is on offer
unless the host is to wait for one. -/
theorem result_shape (p : Production) (calls : List EngineCall) (call : EngineCall) (r : StepResult)
    (hdone : (p.perform call (p.after calls .start)).answer = .ok (.stepped r)) :
    let g := (p.perform call (p.after calls .start)).engine.head
    (r.next = .waitUser ↔ Directive.Speaks r.directives) ∧
      (r.next = .waitBranch ↔ ∃ labels, Directive.Offers labels r.directives) ∧
      (r.next = .halt ↔ Directive.SetsScene r.directives) ∧
      (∀ labels, Directive.Offers labels r.directives → r.choices = some labels ∧ g.choices = some labels) ∧
      (r.next = .halt → g.isFinished = true) ∧ (r.next ≠ .waitBranch → g.choices = none) := by
  intro g
  have hr : Shaped g r := perform_shaped (p.after_start_sound calls) (p.after_start_scene calls) call hdone
  refine ⟨hr.speaks_iff, hr.offers_iff, hr.setsScene_iff, fun labels hoffers => hr.choices hoffers, ?_, ?_⟩
  · intro hnext
    cases hr with
    | line => cases hnext
    | decision => cases hnext
    | ended _ _ hover => exact hover
  · intro hnext
    cases hr with
    | line _ _ _ _ hpending => exact hpending
    | decision => exact absurd rfl hnext
    | ended _ hpending => exact hpending

/-- the first step uses up its budget on the picture; the second answers with the line, and the picture goes before it
-/
theorem result_shape_room :
    let r : StepResult := ⟨.waitUser, [Directive.showBackground (some (Assets.standard.background ⟨"ROOM", "A01"⟩)),
      .say "" "a" .hidden]⟩
    (roomProduction.perform .step (roomProduction.after [.step] .start)).answer = .ok (.stepped r) ∧
      Directive.Speaks r.directives := by
  intro r
  have hdone : (roomProduction.perform .step (roomProduction.after [.step] .start)).answer = .ok (.stepped r) := rfl
  exact ⟨hdone, (result_shape roomProduction [.step] .step r hdone).1.1 rfl⟩

end VisualNovel
