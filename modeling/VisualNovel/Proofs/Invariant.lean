/-
What holds of every playhead that calls can reach, whatever the calls answered.

- `Sound`: the cursor points at an instruction; a decision that waits is the instruction under the cursor, executed last;
  a walk that is over stands at the last instruction of a block without edges; a walk under way stands where an edge leads
  from the instruction executed last.
- `reached_sound`: every reachable playhead is sound, and an advance from there is refused only as `Refusal` says: never
  because the cursor points at nothing or an edge names no block, and over an edge only where a decision has too few.

`Sound` is kept by one instruction (`Ticked.sound`), hence by a run (`runOn_sound`), hence by a call (`perform_sound`). The
playhead between a choice and the run after it is sound too, unless the choice ends the screenplay: a walk that is
exhausted after a decision has not shown a line last. That playhead is never seen, because the run ends the screenplay at
once, so `choice_sound` looks at both halves of the call together.
-/
import VisualNovel.Proofs.Walk

namespace VisualNovel

/-- what holds of every reachable playhead -/
structure Sound (s : Setting) (h : Playhead) : Prop where
  /-- the cursor points at an instruction -/
  points : ∃ i, s.screenplay.instructionAt h.cursor = .ok i
  /-- a decision waits under the cursor, with the labels of the instruction that was executed last -/
  waits : ∀ d, h.pending = some d → h.progress = .running ∧ d.cursor = h.cursor ∧ h.lastExecuted = some h.cursor ∧
    ∃ i, s.screenplay.instructionAt h.cursor = .ok i ∧ i.kind = .showDecision ∧
      d.labels = (i.texts s.screenplay.pool).filter (· ≠ "")
  /-- a walk that is over stands at the last instruction of a block without edges, executed last -/
  ends : h.progress ≠ .running → h.pending = none ∧ h.lastExecuted = some h.cursor ∧
    ∃ b, s.screenplay.IsLast h.cursor b ∧ b.edges = []
  /-- a walk that is yet to be told that it is over has shown a line last -/
  spoken : h.progress = .exhausted → ∃ i, s.screenplay.instructionAt h.cursor = .ok i ∧ i.kind = .playDialog
  /-- a walk under way stands where an edge leads from the instruction executed last -/
  follows : h.progress = .running → h.pending = none → ∀ c, h.lastExecuted = some c →
    ∃ edge, s.screenplay.Leads edge c (some h.cursor)

/-- why an advance is refused, and when -/
inductive Refusal (s : Setting) (h : Playhead) : Option Nat → WalkError → Prop where
  /-- the screenplay is over -/
  | finished (hover : h.progress = .finished) : Refusal s h none .finished
  /-- no decision waits -/
  | noDecision {edge : Nat} (hpending : h.pending = none) : Refusal s h (some edge) .noPendingDecision
  /-- a decision waits at the end of its block, and the block has too few edges -/
  | noEdge {edge : Nat} {d : Pending} {b : Block} (hpending : h.pending = some d)
    (hlast : s.screenplay.IsLast h.cursor b) (hedge : b.edges.length ≤ edge) (hfirst : edge ≠ 0) :
    Refusal s h (some edge) (.edgeOutOfRange b.id edge b.edges.length)
  /-- the budget is used up -/
  | runaway {choice : Option Nat} : Refusal s h choice (.runaway s.limit)

namespace Sound

variable {s : Setting} {h : Playhead}

theorem holds (hs : Sound s h) : s.screenplay.Holds h.cursor := Screenplay.holds_iff.2 hs.points

theorem pending_none {i : Instruction} (hs : Sound s h) (hi : s.screenplay.instructionAt h.cursor = .ok i)
    (hkind : i.kind ≠ .showDecision) : h.pending = none := by
  cases hd : h.pending with
  | none => rfl
  | some d =>
    obtain ⟨-, -, -, j, hj, hjkind, -⟩ := hs.waits d hd
    rw [hi, Except.ok.injEq] at hj
    exact absurd (hj ▸ hjkind) hkind

theorem fresh {c : Cursor} {i : Instruction} (hi : s.screenplay.instructionAt c = .ok i) : Sound s (.fresh c) where
  points := ⟨i, hi⟩
  waits := by simp [Playhead.fresh]
  ends := by simp [Playhead.fresh]
  spoken := by simp [Playhead.fresh]
  follows := by simp [Playhead.fresh]

theorem start (s : Setting) : Sound s .start := by
  have hpos := List.length_pos_iff.2 s.screenplay.wellFormed.blocks_ne_nil
  have hb : s.screenplay.blocks[0]? = some s.screenplay.blocks[0] := List.getElem?_eq_getElem hpos
  have hne := List.length_pos_iff.2 (s.screenplay.instructions_ne_nil hb)
  exact fresh (Screenplay.instructionAt_ok_iff.2 ⟨_, hb, List.getElem?_eq_getElem hne⟩)

theorem moved {c next : Cursor} {edge : Nat} (hleads : s.screenplay.Leads edge c (some next)) :
    Sound s ((Playhead.passed c).goTo (some next)) where
  points := hleads.instruction
  waits := by simp [Playhead.goTo, Playhead.passed]
  ends := by simp [Playhead.goTo, Playhead.passed]
  spoken := by simp [Playhead.goTo, Playhead.passed]
  follows := by
    rintro - - _ ⟨⟩
    exact ⟨edge, hleads⟩

theorem finished {c : Cursor} {i : Instruction} {edge : Nat} (hi : s.screenplay.instructionAt c = .ok i)
    (hleads : s.screenplay.Leads edge c none) : Sound s { (Playhead.passed c).goTo none with progress := .finished } where
  points := ⟨i, hi⟩
  waits := by simp [Playhead.goTo, Playhead.passed]
  ends := fun _ => ⟨rfl, rfl, hleads.isLast⟩
  spoken := by simp
  follows := by simp

/-- a line can be the last instruction of a block without edges -/
theorem exhausted {c : Cursor} {i : Instruction} (hi : s.screenplay.instructionAt c = .ok i)
    (hkind : i.kind = .playDialog) (hleads : s.screenplay.Leads 0 c none) : Sound s ((Playhead.passed c).goTo none) where
  points := ⟨i, hi⟩
  waits := by simp [Playhead.goTo, Playhead.passed]
  ends := fun _ => ⟨rfl, rfl, hleads.isLast⟩
  spoken := fun _ => ⟨i, hi, hkind⟩
  follows := by simp

/-- past an instruction that is no decision nothing is left of the playhead but the cursor -/
theorem read_goTo {i : Instruction} (hs : Sound s h) (hrun : h.progress = .running)
    (hi : s.screenplay.instructionAt h.cursor = .ok i) (hkind : i.kind ≠ .showDecision) (next : Option Cursor) :
    h.read.goTo next = (Playhead.passed h.cursor).goTo next := by
  simp only [Playhead.read, Playhead.passed, hs.pending_none hi hkind, hrun]

/-- nor past a decision that has been taken -/
theorem released_goTo {d : Pending} (hs : Sound s h) (hd : h.pending = some d) (next : Option Cursor) :
    h.released.goTo next = (Playhead.passed h.cursor).goTo next := by
  obtain ⟨hrun, -, hlast, -⟩ := hs.waits d hd
  simp only [Playhead.released, Playhead.passed, hrun, hlast]

end Sound

/-! ## One instruction -/

/-- **One instruction keeps the invariant.** -/
theorem Ticked.sound {s : Setting} {h h' : Playhead} {i : Instruction} {answer : Option (Except WalkError Suspension)}
    {ns : List Notification} (ht : Ticked s h i answer h' ns) (hs : Sound s h) (hrun : h.progress = .running)
    (hi : s.screenplay.instructionAt h.cursor = .ok i) : Sound s h' := by
  cases ht with
  | @line next hkind hnext =>
    rw [hs.read_goTo hrun hi (by simp [hkind])]
    cases next with
    | some next => exact .moved hnext
    | none => exact .exhausted hi hkind hnext
  | decision hkind =>
    exact {
      points := ⟨i, hi⟩
      waits := by
        rintro _ ⟨⟩
        exact ⟨hrun, rfl, rfl, i, hi, hkind, rfl⟩
      ends := by simp [Playhead.read, hrun]
      spoken := by simp [Playhead.read, hrun]
      follows := by simp }
  | silent hline hdecision hnext =>
    rw [hs.read_goTo hrun hi hdecision]
    exact .moved hnext
  | last hline hdecision hnext =>
    rw [hs.read_goTo hrun hi hdecision]
    exact .finished hi hnext

theorem Ticked.running {s : Setting} {h h' : Playhead} {i : Instruction} {ns : List Notification}
    (ht : Ticked s h i none h' ns) (hrun : h.progress = .running) : h'.progress = .running := by
  cases ht
  exact hrun

theorem Ticked.pending_none {s : Setting} {h h' : Playhead} {i : Instruction} {ns : List Notification}
    (ht : Ticked s h i none h' ns) (hs : Sound s h) (hi : s.screenplay.instructionAt h.cursor = .ok i) :
    h'.pending = none := by
  cases ht with
  | silent hline hdecision hnext => exact hs.pending_none hi hdecision

theorem Ticked.answer_ok {s : Setting} {h h' : Playhead} {i : Instruction} {answer : Except WalkError Suspension}
    {ns : List Notification} (ht : Ticked s h i (some answer) h' ns) : ∃ suspension, answer = .ok suspension := by
  cases ht <;> exact ⟨_, rfl⟩

/-! ## A run -/

theorem runOn_sound (s : Setting) (budget : Nat) {h : Playhead} (hs : Sound s h) (hrun : h.progress = .running) :
    Sound s (s.runOn budget h []).head := by
  induction budget generalizing h with
  | zero => exact hs
  | succ budget ih =>
    obtain ⟨i, hi⟩ := hs.points
    have ht := s.tick_ticked hi hrun
    rw [Setting.runOn_succ]
    cases ha : (s.tick h).answer with
    | some answer => exact ht.sound hs hrun hi
    | none =>
      rw [ha] at ht
      exact ih (ht.sound hs hrun hi) (ht.running hrun)

/-- a run fails only when its budget is used up -/
theorem runOn_error (s : Setting) (budget : Nat) {h : Playhead} (hs : Sound s h) (hrun : h.progress = .running)
    {e : WalkError} (he : (s.runOn budget h []).answer = .error e) : e = .runaway s.limit := by
  induction budget generalizing h with
  | zero =>
    simp only [Setting.runOn, Except.error.injEq] at he
    exact he.symm
  | succ budget ih =>
    obtain ⟨i, hi⟩ := hs.points
    have ht := s.tick_ticked hi hrun
    rw [Setting.runOn_succ] at he
    cases ha : (s.tick h).answer with
    | some answer =>
      rw [ha] at ht he
      obtain ⟨suspension, rfl⟩ := ht.answer_ok
      simp at he
    | none =>
      rw [ha] at ht he
      exact ih (ht.sound hs hrun hi) (ht.running hrun) he

theorem run_sound (s : Setting) {h : Playhead} (hs : Sound s h) : Sound s (s.run h).head := by
  obtain ⟨i, hi⟩ := hs.points
  cases hp : h.progress with
  | running =>
    rw [s.run_running hp]
    exact runOn_sound s s.limit hs hp
  | exhausted =>
    rw [s.run_exhausted hp]
    obtain ⟨hpending, hlast, hover⟩ := hs.ends (by simp [hp])
    exact ⟨⟨i, hi⟩, by simp [hpending], fun _ => ⟨hpending, hlast, hover⟩, by simp, by simp⟩
  | finished =>
    rw [s.run_finished hp]
    exact hs

/-! ## A choice -/

/-- what an advance with a choice comes to -/
inductive Chosen (s : Setting) (h : Playhead) (edge : Nat) : Turn Suspension → Prop where
  /-- no decision waits -/
  | noDecision (hpending : h.pending = none) : Chosen s h edge ⟨.error .noPendingDecision, h, []⟩
  /-- a decision waits at the end of its block, and the block has too few edges -/
  | noEdge {d : Pending} {b : Block} (hpending : h.pending = some d) (hlast : s.screenplay.IsLast h.cursor b)
    (hedge : b.edges.length ≤ edge) (hfirst : edge ≠ 0) :
    Chosen s h edge ⟨.error (.edgeOutOfRange b.id edge b.edges.length), h, []⟩
  /-- the choice is accepted: line counters start over and the walk runs on where the edge leads -/
  | taken {d : Pending} {next : Option Cursor} {es : List Event} (hpending : h.pending = some d)
    (hleads : s.screenplay.Leads edge h.cursor next) (hes : Event.notifications es = []) :
    Chosen s h edge { s.run (h.released.goTo next) with
      events := es ++ .told .resetLineCounters :: (s.run (h.released.goTo next)).events }

/-- **What an advance with a choice can come to.** -/
theorem Sound.chosen {s : Setting} {h : Playhead} (hs : Sound s h) (edge : Nat) :
    Chosen s h edge (s.advance (some edge) h) := by
  cases hd : h.pending with
  | none =>
    rw [s.advance_none_waiting hd]
    exact .noDecision hd
  | some d =>
    obtain ⟨-, hcursor, -, i, hi, -, -⟩ := hs.waits d hd
    simp only [Setting.advance]
    rcases s.takeBranch_cases hd hcursor hi edge with ⟨next, es, hleads, htake, hes⟩ | ⟨b, htake, hlast, hedge, hfirst⟩
    · rw [htake]
      exact .taken hd hleads hes
    · rw [htake]
      exact .noEdge hd hlast hedge hfirst

theorem choice_sound {s : Setting} {h : Playhead} {d : Pending} {edge : Nat} {next : Option Cursor} (hs : Sound s h)
    (hd : h.pending = some d) (hleads : s.screenplay.Leads edge h.cursor next) :
    Sound s (s.run (h.released.goTo next)).head := by
  obtain ⟨i, hi⟩ := hs.points
  rw [hs.released_goTo hd]
  cases next with
  | some next => exact run_sound s (.moved hleads)
  | none =>
    -- the playhead after the choice is exhausted without a line: not sound, but the run ends the screenplay at once
    rw [s.run_exhausted rfl]
    exact .finished hi hleads

/-! ## A call -/

theorem advance_sound (s : Setting) {h : Playhead} (hs : Sound s h) (choice : Option Nat) :
    Sound s (s.advance choice h).head := by
  cases choice with
  | none => exact run_sound s hs
  | some edge =>
    have hc := hs.chosen edge
    generalize s.advance (some edge) h = t at hc
    cases hc with
    | noDecision => exact hs
    | noEdge => exact hs
    | taken hd hleads _ => exact choice_sound hs hd hleads

theorem restore_sound (s : Setting) {h : Playhead} (hs : Sound s h) (state : SaveState) :
    Sound s (s.restore state h).head := by
  rcases s.restore_cases state h with ⟨i, es, hi, ht, -⟩ | ⟨e, es, -, ht, -⟩
  · rw [ht]
    exact .fresh hi
  · rw [ht]
    exact hs

theorem perform_sound (s : Setting) {h : Playhead} (hs : Sound s h) (call : Call) :
    Sound s (s.perform call h).head := by
  cases call with
  | advance choice => exact advance_sound s hs choice
  | restore state => exact restore_sound s hs state

theorem play_sound (s : Setting) {h : Playhead} (hs : Sound s h) (calls : List Call) : Sound s (s.play calls h) := by
  induction calls generalizing h with
  | nil => exact hs
  | cons call calls ih => exact ih (perform_sound s hs call)

/-- a run is refused only when the screenplay is over or the budget is used up -/
theorem run_refusal {s : Setting} {h : Playhead} (hs : Sound s h) {e : WalkError} (he : (s.run h).answer = .error e) :
    h.progress = .finished ∧ e = .finished ∨ e = .runaway s.limit := by
  cases hp : h.progress with
  | running =>
    rw [s.run_running hp] at he
    exact Or.inr (runOn_error s s.limit hs hp he)
  | exhausted =>
    rw [s.run_exhausted hp] at he
    simp at he
  | finished =>
    rw [s.run_finished hp, Except.error.injEq] at he
    exact Or.inl ⟨rfl, he.symm⟩

theorem advance_refusal {s : Setting} {h : Playhead} (hs : Sound s h) {choice : Option Nat} {e : WalkError}
    (he : (s.advance choice h).answer = .error e) : Refusal s h choice e := by
  cases choice with
  | none =>
    rcases run_refusal hs he with ⟨hp, rfl⟩ | rfl
    · exact .finished hp
    · exact .runaway
  | some edge =>
    have hc := hs.chosen edge
    generalize s.advance (some edge) h = t at hc he
    cases hc with
    | noDecision hpending =>
      cases he
      exact .noDecision hpending
    | noEdge hpending hlast hedge hfirst =>
      cases he
      exact .noEdge hpending hlast hedge hfirst
    | @taken d next es hd hleads _ =>
      rw [hs.released_goTo hd] at he
      cases next with
      | some next =>
        rcases run_refusal (.moved hleads) he with ⟨hp, -⟩ | rfl
        · simp at hp
        · exact .runaway
      | none =>
        rw [s.run_exhausted rfl] at he
        simp at he

/-- **Every reachable playhead is sound.** After any calls from the start, accepted or refused, the cursor, the decision
that waits, the progress and the instruction executed last fit together; and an advance from there fails only because the
screenplay is over, no decision waits, the block of the decision has no such edge, or the budget is used up. -/
theorem reached_sound (s : Setting) (calls : List Call) :
    Sound s (s.play calls .start) ∧ ∀ choice e, (s.advance choice (s.play calls .start)).answer = .error e →
      Refusal s (s.play calls .start) choice e := by
  have hs := play_sound s (.start s) calls
  exact ⟨hs, fun choice e he => advance_refusal hs he⟩

/-- a script of a decision with one edge, which leads to a line with nothing after it -/
def crossing : Script := ⟨[⟨1, [⟨"ShowDecision", [], ["on", ""]⟩], [2]⟩, ⟨2, [⟨"PlayDialog", [], ["a"]⟩], []⟩], []⟩

/-- walks through that script on a budget of one instruction -/
def crossingSetting : Setting where
  screenplay := ⟨crossing, crossing.fingerprint, Script.wellFormed_of_fault? (by decide), rfl⟩
  roster := ⟨[]⟩
  filter := .standard
  maxSteps := 1

/-- the decision has one edge, and the second one is refused -/
theorem crossing_refused :
    (crossingSetting.advance (some 1) (crossingSetting.play [.advance none] .start)).answer =
        .error (.edgeOutOfRange 1 1 1) ∧
      Refusal crossingSetting (crossingSetting.play [.advance none] .start) (some 1) (.edgeOutOfRange 1 1 1) :=
  ⟨rfl, (reached_sound crossingSetting [.advance none]).2 (some 1) _ rfl⟩

end VisualNovel
