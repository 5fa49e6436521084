/-
Going on from a save.

A save holds the cursor and the presentation; the playhead also holds the instruction executed last, the decision that
waits and the progress. What a restored walk does is settled by what those three are when the save is taken.

- `observed_alike`: the instruction executed last has no influence on any call (`perform_forget`), so two playheads that
  differ in nothing else answer all calls alike and let happen the same events.
- `run_decision`: a decision under the cursor is told by the first instruction of a run, and then the playhead is the one
  that stood there with the decision waiting.
- `run_last`: where no instruction follows, a run is answered by its first instruction.
- `resumes_where_stopped`: a walk that is under way and waits for no choice goes on from its save as if nothing had
  happened; one that waits for a choice does so after one advance, which tells the decision again. A walk at its end
  executes its last instruction again, because a save does not hold the end (`end_not_saved`).
-/
import VisualNovel.Proofs.Invariant

namespace VisualNovel

/-! ## The instruction executed last has no influence -/

/-- the playhead without the instruction executed last -/
def Playhead.forget (h : Playhead) : Playhead := { h with lastExecuted := none }

/-- two turns with the same answer and events, and playheads that differ in the instruction executed last at most -/
structure Turn.Alike {α : Type} (t u : Turn α) : Prop where
  answer : t.answer = u.answer
  head : t.head.forget = u.head.forget
  events : t.events = u.events

namespace Setting

variable (s : Setting) (h : Playhead)

theorem tick_forget {i : Instruction} (hi : s.screenplay.instructionAt h.cursor = .ok i) :
    s.tick h.forget = s.tick h := by
  have hi' : s.screenplay.instructionAt h.forget.cursor = .ok i := hi
  simp only [tick, hi, hi']
  rfl

theorem runOn_forget (budget : Nat) : (s.runOn budget h.forget []).Alike (s.runOn budget h []) := by
  cases budget with
  | zero => exact ⟨rfl, rfl, rfl⟩
  | succ budget =>
    rw [runOn_succ, runOn_succ]
    cases hi : s.screenplay.instructionAt h.cursor with
    | ok i =>
      -- executing an instruction overwrites the difference
      rw [s.tick_forget h hi]
      exact ⟨rfl, rfl, rfl⟩
    | error e =>
      have hi' : s.screenplay.instructionAt h.forget.cursor = .error e := hi
      simp only [tick, hi, hi']
      exact ⟨rfl, rfl, rfl⟩

theorem run_forget : (s.run h.forget).Alike (s.run h) := by
  have hp : h.forget.progress = h.progress := rfl
  simp only [run, hp]
  cases h.progress with
  | running => exact s.runOn_forget h s.limit
  | exhausted => exact ⟨rfl, rfl, rfl⟩
  | finished => exact ⟨rfl, rfl, rfl⟩

theorem takeBranch_forget (edge : Nat) : s.takeBranch edge h.forget =
    (s.takeBranch edge h).map fun (h, es) => (h.forget, es) := by
  obtain ⟨c, last, pending, progress⟩ := h
  cases pending with
  | none => rfl
  | some d =>
    simp only [takeBranch, Playhead.forget]
    by_cases hd : d.cursor = c
    · simp only [hd, ne_eq, not_true, if_false]
      cases s.screenplay.follow edge c with
      | error e => rfl
      | ok m => cases m <;> rfl
    · simp only [ne_eq, hd, not_false_eq_true, if_true]
      rfl

theorem advance_forget (choice : Option Nat) : (s.advance choice h.forget).Alike (s.advance choice h) := by
  cases choice with
  | none => exact s.run_forget h
  | some edge =>
    simp only [advance, s.takeBranch_forget h]
    cases s.takeBranch edge h with
    | error e => exact ⟨rfl, rfl, rfl⟩
    | ok taken =>
      obtain ⟨answer, head, events⟩ := s.run_forget taken.1
      exact ⟨answer, head, by simp only [Except.map, events]⟩

theorem restore_forget (state : SaveState) : (s.restore state h.forget).Alike (s.restore state h) := by
  simp only [restore]
  cases s.screenplay.check ⟨state.blockIndex, state.instructionIndex⟩ with
  | error e => exact ⟨rfl, rfl, rfl⟩
  | ok u => exact ⟨rfl, rfl, rfl⟩

theorem perform_forget (call : Call) : (s.perform call h.forget).Alike (s.perform call h) := by
  cases call with
  | advance choice =>
    obtain ⟨answer, head, events⟩ := s.advance_forget h choice
    exact ⟨congrArg (Except.map some) answer, head, events⟩
  | restore state =>
    obtain ⟨answer, head, events⟩ := s.restore_forget h state
    exact ⟨congrArg (Except.map fun _ => none) answer, head, events⟩

/-- what a caller and those who watch see of calls: the answers, and the events in between -/
def observed (calls : List Call) (h : Playhead) : List (Except WalkError (Option Suspension) × List Event) :=
  (s.history calls h).map fun call => (call.2.answer, call.2.events)

variable {h}

/-- **Playheads that differ in the instruction executed last cannot be told apart.** -/
theorem observed_alike {g : Playhead} (hgh : g.forget = h.forget) (calls : List Call) :
    s.observed calls g = s.observed calls h := by
  induction calls generalizing g h with
  | nil => rfl
  | cons call calls ih =>
    have hg := s.perform_forget g call
    have hh := s.perform_forget h call
    rw [hgh] at hg
    have hrest := ih (hg.head.symm.trans hh.head)
    simp only [observed, history, List.map_cons] at hrest ⊢
    rw [hrest, ← hg.answer, ← hg.events, hh.answer, hh.events]

end Setting

/-! ## The first instruction after a save -/

/-- a fresh walk to which a save of a playhead and a presentation has been restored -/
def Setting.reloaded (s : Setting) (h : Playhead) (p : Presentation) (now : Nat) : Turn Unit :=
  s.restore (s.capture h p now) .start

theorem Sound.reloaded {s : Setting} {h : Playhead} (hs : Sound s h) (p : Presentation) (now : Nat) :
    (s.reloaded h p now).answer = .ok () ∧ (s.reloaded h p now).head = .fresh h.cursor := by
  have hinside : s.screenplay.Holds (s.capture h p now).cursor := hs.holds
  obtain ⟨es, ht, -⟩ := s.restore_inside hinside .start
  rw [Setting.reloaded, ht]
  exact ⟨rfl, rfl⟩

theorem run_first (s : Setting) {h : Playhead} (hrun : h.progress = .running) {answer : Except WalkError Suspension}
    (ha : (s.tick h).answer = some answer) : (s.run h).answer = answer ∧ (s.run h).head = (s.tick h).head := by
  obtain ⟨budget, hbudget⟩ := Nat.exists_eq_succ_of_ne_zero (Nat.ne_of_gt s.limit_pos)
  rw [s.run_running hrun, hbudget, Nat.succ_eq_add_one, Setting.runOn_succ, ha]
  exact ⟨rfl, rfl⟩

theorem run_decision (s : Setting) {h : Playhead} {i : Instruction} (hrun : h.progress = .running)
    (hi : s.screenplay.instructionAt h.cursor = .ok i) (hkind : i.kind = .showDecision) :
    (s.run h).answer = .ok (.decision (s.reading i).labels) ∧
      (s.run h).head = { h.read with pending := some ⟨h.cursor, (s.reading i).labels⟩ } := by
  have ht := s.tick_ticked hi hrun
  generalize hanswer : (s.tick h).answer = answer at ht
  generalize hhead : (s.tick h).head = head at ht
  generalize Event.notifications (s.tick h).events = ns at ht
  cases ht with
  | line hline => simp [hkind] at hline
  | decision =>
    obtain ⟨ha, hh⟩ := run_first s hrun hanswer
    exact ⟨ha, hh.trans hhead⟩
  | silent _ hdecision => exact absurd hkind hdecision
  | last _ hdecision => exact absurd hkind hdecision

/-- **What the last instruction of a block without edges comes to** when a walk starts there: a line is shown and the walk
is exhausted; a decision waits; anything else ends the screenplay. -/
theorem run_last (s : Setting) {c : Cursor} {i : Instruction} (hi : s.screenplay.instructionAt c = .ok i)
    (hlast : s.screenplay.Leads 0 c none) :
    let t := s.run (.fresh c)
    (i.kind = .playDialog ∧ t.answer = .ok (.line (s.lineOf (s.reading i) (.fresh c))) ∧
        t.head = ⟨c, some c, none, .exhausted⟩) ∨
      (i.kind = .showDecision ∧ t.answer = .ok (.decision (s.reading i).labels) ∧
        t.head = ⟨c, some c, some ⟨c, (s.reading i).labels⟩, .running⟩) ∨
      (i.kind ≠ .playDialog ∧ t.answer = .ok .ended ∧ t.head = ⟨c, some c, none, .finished⟩) := by
  intro t
  have hrun : (Playhead.fresh c).progress = .running := rfl
  have ht := s.tick_ticked (h := .fresh c) hi hrun
  generalize hanswer : (s.tick (.fresh c)).answer = answer at ht
  generalize hhead : (s.tick (.fresh c)).head = head at ht
  generalize Event.notifications (s.tick (.fresh c)).events = ns at ht
  cases ht with
  | line hkind hnext =>
    cases hnext.unique hlast
    obtain ⟨ha, hh⟩ := run_first s hrun hanswer
    exact Or.inl ⟨hkind, ha, hh.trans hhead⟩
  | decision hkind =>
    obtain ⟨ha, hh⟩ := run_first s hrun hanswer
    exact Or.inr (Or.inl ⟨hkind, ha, hh.trans hhead⟩)
  | silent _ _ hnext => cases hnext.unique hlast
  | last hline =>
    obtain ⟨ha, hh⟩ := run_first s hrun hanswer
    exact Or.inr (Or.inr ⟨hline, ha, hh.trans hhead⟩)

/-- the first edge of a decision at the end of the screenplay ends it -/
theorem choose_last (s : Setting) {c : Cursor} {i : Instruction} (hi : s.screenplay.instructionAt c = .ok i)
    (hlast : s.screenplay.Leads 0 c none) (labels : List String) :
    (s.advance (some 0) ⟨c, some c, some ⟨c, labels⟩, .running⟩).head = ⟨c, some c, none, .finished⟩ := by
  rcases s.takeBranch_cases (h := ⟨c, some c, some ⟨c, labels⟩, .running⟩) rfl rfl hi 0 with
    ⟨next, es, hnext, htake, -⟩ | ⟨b, -, -, -, hne⟩
  · cases hnext.unique hlast
    simp only [Setting.advance, htake, s.run_exhausted (Playhead.goTo_none_progress _)]
    rfl
  · exact absurd rfl hne

/-! ## Going on -/

theorem Sound.reloaded_running {s : Setting} {h : Playhead} (hs : Sound s h) (p : Presentation) (now : Nat)
    (hpending : h.pending = none) (hrun : h.progress = .running) :
    (s.reloaded h p now).head.forget = h.forget := by
  rw [(hs.reloaded p now).2]
  simp only [Playhead.fresh, Playhead.forget, hpending, hrun]

theorem Sound.reloaded_decision {s : Setting} {h : Playhead} (hs : Sound s h) (p : Presentation) (now : Nat)
    {d : Pending} (hd : h.pending = some d) :
    (s.advance none (s.reloaded h p now).head).answer = .ok (.decision d.labels) ∧
      (s.advance none (s.reloaded h p now).head).head = h := by
  obtain ⟨hrun, hcursor, hlast, i, hi, hkind, hlabels⟩ := hs.waits d hd
  obtain ⟨ha, hh⟩ := run_decision s (h := .fresh h.cursor) rfl hi hkind
  have hlabels' : (s.reading i).labels = d.labels := hlabels.symm
  rw [(hs.reloaded p now).2]
  refine ⟨by rw [← hlabels']; exact ha, ?_⟩
  obtain ⟨c, last, pending, progress⟩ := h
  simp only at hrun hcursor hlast hd
  subst hrun hlast hd hcursor
  exact hh.trans (by rw [hlabels']; rfl)

/-- all that is left of a walk that is over -/
theorem Sound.over {s : Setting} {h : Playhead} (hs : Sound s h) (hover : h.progress ≠ .running) :
    h = ⟨h.cursor, some h.cursor, none, h.progress⟩ ∧ s.screenplay.Leads 0 h.cursor none := by
  obtain ⟨hpending, hlast, b, hb, hedges⟩ := hs.ends hover
  refine ⟨?_, .off hb hedges rfl⟩
  rw [← hpending, ← hlast]

/-- an exhausted walk shows its last line again, and then the playhead is the one that was saved -/
theorem Sound.reloaded_exhausted {s : Setting} {h : Playhead} (hs : Sound s h) (p : Presentation) (now : Nat)
    (hover : h.progress = .exhausted) :
    (∃ i, s.screenplay.instructionAt h.cursor = .ok i ∧
        (s.advance none (s.reloaded h p now).head).answer = .ok (.line (s.lineOf (s.reading i) h))) ∧
      (s.advance none (s.reloaded h p now).head).head = h := by
  obtain ⟨hh, hlast⟩ := hs.over (by simp [hover])
  obtain ⟨i, hi, hkind⟩ := hs.spoken hover
  rw [(hs.reloaded p now).2]
  rcases run_last s hi hlast with ⟨-, ha, ht⟩ | ⟨hdecision, -⟩ | ⟨hline, -⟩
  · refine ⟨⟨i, hi, ha⟩, ht.trans ?_⟩
    rw [hh, hover]
  · simp [hkind] at hdecision
  · exact absurd hkind hline

/-- a walk that has ended executes its last instruction again, and stands at the end again after two calls at most -/
theorem Sound.reloaded_finished {s : Setting} {h : Playhead} (hs : Sound s h) (p : Presentation) (now : Nat)
    (hover : h.progress = .finished) :
    (∃ suspension, (s.advance none (s.reloaded h p now).head).answer = .ok suspension) ∧
      ∃ again : List Call, again.length ≤ 2 ∧ s.play again (s.reloaded h p now).head = h := by
  obtain ⟨hh, hlast⟩ := hs.over (by simp [hover])
  obtain ⟨i, hi⟩ := hs.points
  rw [hover] at hh
  rw [(hs.reloaded p now).2]
  rcases run_last s hi hlast with ⟨-, ha, ht⟩ | ⟨-, ha, ht⟩ | ⟨-, ha, ht⟩
  -- a line has to be followed by the advance that ends, a decision by its first edge
  · refine ⟨⟨_, ha⟩, [.advance none, .advance none], Nat.le_refl 2, ?_⟩
    change (s.run (s.run (.fresh h.cursor)).head).head = h
    rw [ht, s.run_exhausted rfl]
    exact hh.symm
  · refine ⟨⟨_, ha⟩, [.advance none, .advance (some 0)], Nat.le_refl 2, ?_⟩
    change (s.advance (some 0) (s.run (.fresh h.cursor)).head).head = h
    rw [ht, choose_last s hi hlast]
    exact hh.symm
  · exact ⟨⟨_, ha⟩, [.advance none], Nat.le_succ 1, ht.trans hh.symm⟩

/-- **A save resumes where play stopped, short of the end.** A save of a reachable playhead is accepted by a fresh walk of
the same setting. If the walk was under way and no decision waited, both answer all further calls alike, with the same
events. If a decision waited, the next advance without a choice tells it again, and from there both answer alike. A walk at
its end starts over at its last instruction, because a save does not hold the end: an exhausted one shows its last line
again where the walk that was saved ends, and from there both answer alike; one that has ended executes its last
instruction again where the walk that was saved is refused, and two calls later at the most both answer alike. -/
theorem resumes_where_stopped (s : Setting) (calls : List Call) (p : Presentation) (now : Nat) :
    let h := s.play calls .start
    let g := s.reloaded h p now
    let first := s.advance none g.head
    g.answer = .ok () ∧
      (h.pending = none → h.progress = .running → ∀ more, s.observed more g.head = s.observed more h) ∧
      (∀ d, h.pending = some d → first.answer = .ok (.decision d.labels) ∧
        ∀ more, s.observed more first.head = s.observed more h) ∧
      (h.progress = .exhausted → (s.advance none h).answer = .ok .ended ∧
        (∃ i, s.screenplay.instructionAt h.cursor = .ok i ∧ first.answer = .ok (.line (s.lineOf (s.reading i) h))) ∧
        ∀ more, s.observed more first.head = s.observed more h) ∧
      (h.progress = .finished → (s.advance none h).answer = .error .finished ∧
        (∃ suspension, first.answer = .ok suspension) ∧
        ∃ again : List Call, again.length ≤ 2 ∧ ∀ more, s.observed more (s.play again g.head) = s.observed more h) := by
  intro h g first
  have hs : Sound s h := play_sound s (.start s) calls
  refine ⟨(hs.reloaded p now).1, fun hpending hrun more => ?_, fun d hd => ?_, fun hover => ?_, fun hover => ?_⟩
  · exact s.observed_alike (hs.reloaded_running p now hpending hrun) more
  · obtain ⟨ha, hh⟩ := hs.reloaded_decision p now hd
    exact ⟨ha, fun more => by rw [hh]⟩
  · obtain ⟨ha, hh⟩ := hs.reloaded_exhausted p now hover
    exact ⟨congrArg Turn.answer (s.run_exhausted hover), ha, fun more => by rw [hh]⟩
  · obtain ⟨ha, again, hlength, hh⟩ := hs.reloaded_finished p now hover
    exact ⟨congrArg Turn.answer (s.run_finished hover), ha, again, hlength, fun more => by rw [hh]⟩

/-- **The end is not saved.** When the last line is shown the next advance ends the screenplay, and when it has ended the
next one is refused; after a save, taken then or then, the next advance shows the line again. No decision waits in
either. -/
theorem end_not_saved :
    let s := crossingSetting
    let shown := s.play [.advance none, .advance (some 0)] .start
    let ended := s.play [.advance none, .advance (some 0), .advance none] .start
    let line : Suspension := .line ⟨⟨"", "a", .hidden⟩, 1, none⟩
    shown.pending = none ∧ (s.advance none shown).answer = .ok .ended ∧
      (s.advance none (s.reloaded shown .empty 0).head).answer = .ok line ∧
      ended.pending = none ∧ (s.advance none ended).answer = .error .finished ∧
      (s.advance none (s.reloaded ended .empty 0).head).answer = .ok line := by
  refine ⟨rfl, rfl, ?_, rfl, rfl, ?_⟩
  · decide
  · decide

/-- at the start, while the decision waits, after the line and at the end -/
theorem crossing_resumes :
    let s := crossingSetting
    let waiting := s.play [.advance none] .start
    let shown := s.play [.advance none, .advance (some 0)] .start
    let ended := s.play [.advance none, .advance (some 0), .advance none] .start
    (∀ more, s.observed more (s.reloaded .start .empty 0).head = s.observed more .start) ∧
      (s.advance none (s.reloaded waiting .empty 0).head).answer = .ok (.decision ["on"]) ∧
      (∀ more, s.observed more (s.advance none (s.reloaded shown .empty 0).head).head = s.observed more shown) ∧
      ∃ again : List Call, again.length ≤ 2 ∧
        ∀ more, s.observed more (s.play again (s.reloaded ended .empty 0).head) = s.observed more ended := by
  intro s waiting shown ended
  obtain ⟨-, hrunning, -⟩ := resumes_where_stopped s [] .empty 0
  obtain ⟨-, -, hwaiting, -⟩ := resumes_where_stopped s [.advance none] .empty 0
  obtain ⟨-, -, -, hshown, -⟩ := resumes_where_stopped s [.advance none, .advance (some 0)] .empty 0
  obtain ⟨-, -, -, -, hended⟩ := resumes_where_stopped s [.advance none, .advance (some 0), .advance none] .empty 0
  exact ⟨hrunning rfl rfl, (hwaiting ⟨.start, ["on"]⟩ rfl).1, (hshown rfl).2.2, (hended rfl).2.2⟩

end VisualNovel
