/-
The walk as a state machine: calls in any order, and what each part of a call can come to.

A `Call` is an advance, with a choice or without, or the restoring of a save; `Setting.play` is the playhead after calls,
whatever they answered, and `Setting.history` the calls with their turns. A call is made of three parts, and each has one
statement that says everything it can do, guards included, so that no later proof opens the code.

- `tick_ticked`: executing the instruction under the cursor shows a line and moves on, holds a decision, moves on in
  silence or ends the screenplay. It never fails, because the first edge of a block is never refused (`goOn_spec`).
- `takeBranch_cases`: taking an edge of the decision that waits goes where the edge leads, or the block has no such edge.
- `restore_cases`: restoring a save puts the cursor there, or the cursor points at nothing and the playhead stays; the
  first whenever the cursor is inside the screenplay (`restore_inside`).
-/
import VisualNovel.Proofs.Graph
import VisualNovel.Interpreter

namespace VisualNovel

/-! ## Calls -/

/-- one call of the walk; a decision is taken by an advance with a choice -/
inductive Call where
  | advance (choice : Option Nat)
  | restore (state : SaveState)
  deriving DecidableEq, Repr

namespace Setting

/-- a call; it answers with the suspension that it reached, or none when a save was restored -/
def perform (s : Setting) : Call → Playhead → Turn (Option Suspension)
  | .advance choice, h => ⟨(s.advance choice h).answer.map some, (s.advance choice h).head, (s.advance choice h).events⟩
  | .restore state, h =>
    ⟨(s.restore state h).answer.map fun _ => none, (s.restore state h).head, (s.restore state h).events⟩

/-- the playhead after calls, whatever they answered -/
def play (s : Setting) (calls : List Call) (h : Playhead) : Playhead :=
  calls.foldl (fun h call => (s.perform call h).head) h

/-- calls with their turns -/
def history (s : Setting) : List Call → Playhead → List (Call × Turn (Option Suspension))
  | [], _ => []
  | call :: calls, h => (call, s.perform call h) :: s.history calls (s.perform call h).head

theorem perform_ok_none {s : Setting} {call : Call} {h : Playhead} (hok : (s.perform call h).answer = .ok none) :
    ∃ state, call = .restore state ∧ (s.restore state h).answer = .ok () := by
  cases call with
  | advance choice =>
    simp only [perform] at hok
    cases ha : (s.advance choice h).answer <;> rw [ha] at hok <;> cases hok
  | restore state =>
    refine ⟨state, rfl, ?_⟩
    simp only [perform] at hok
    cases ha : (s.restore state h).answer with
    | ok u => rfl
    | error e => rw [ha] at hok; cases hok

end Setting

/-! ## Notifications among events -/

namespace Event

@[simp] theorem notifications_nil : notifications [] = [] := rfl

@[simp] theorem notifications_told (n : Notification) (es : List Event) :
    notifications (.told n :: es) = n :: notifications es := rfl

@[simp] theorem notifications_logged (r : Record) (es : List Event) :
    notifications (.logged r :: es) = notifications es := rfl

@[simp] theorem notifications_append (es fs : List Event) :
    notifications (es ++ fs) = notifications es ++ notifications fs := by
  simp [notifications]

@[simp] theorem notifications_map_logged (rs : List Record) : notifications (rs.map .logged) = [] := by
  induction rs with
  | nil => rfl
  | cons r rs ih => exact ih

end Event

namespace Setting

@[simp] theorem notifications_log (s : Setting) (r : Record) : Event.notifications (s.log r) = [] := by
  simp [log]

@[simp] theorem notifications_unresolvedRecords (s : Setting) (i : Instruction) :
    Event.notifications (s.unresolvedRecords i) = [] := by
  simp only [unresolvedRecords]
  induction i.unresolved s.screenplay.pool with
  | nil => rfl
  | cons token tokens ih => exact ih

/-- an instruction as it is told -/
def reading (s : Setting) (i : Instruction) : Resolved := i.resolve s.screenplay.pool

theorem reading_kind (s : Setting) (i : Instruction) : (s.reading i).kind = i.kind := rfl

end Setting

/-! ## What the parts of a call can come to -/

/-- the cursor that a save points at -/
def SaveState.cursor (state : SaveState) : Cursor := ⟨state.blockIndex, state.instructionIndex⟩

/-- what tells the presentation of a save -/
def SaveState.announced (state : SaveState) : List Notification :=
  [.restoreGraphics state.background state.portrait, .restoreMusic state.bgm]

namespace Playhead

/-- at a cursor, nothing executed -/
def fresh (c : Cursor) : Playhead := ⟨c, none, none, .running⟩

/-- under way, with the instruction under the cursor executed last -/
def passed (c : Cursor) : Playhead := ⟨c, some c, none, .running⟩

/-- the playhead when the decision that waits has been taken -/
def released (h : Playhead) : Playhead := { h with pending := none }

/-- the playhead when the instruction under the cursor has been read -/
def read (h : Playhead) : Playhead := { h with lastExecuted := some h.cursor }

/-- the playhead with its cursor where an edge leads -/
def goTo (h : Playhead) : Option Cursor → Playhead
  | some next => { h with cursor := next }
  | none => { h with progress := .exhausted }

@[simp] theorem passed_progress (c : Cursor) : (passed c).progress = .running := rfl

@[simp] theorem goTo_some_progress (h : Playhead) (next : Cursor) : (h.goTo (some next)).progress = h.progress := rfl

@[simp] theorem goTo_none_progress (h : Playhead) : (h.goTo none).progress = .exhausted := rfl

@[simp] theorem read_progress (h : Playhead) : h.read.progress = h.progress := rfl

end Playhead

/-- what executing the instruction under the cursor comes to: the answer if there is one, playhead and notifications -/
inductive Ticked (s : Setting) (h : Playhead) (i : Instruction) :
    Option (Except WalkError Suspension) → Playhead → List Notification → Prop where
  /-- a line: the walk has gone on from it -/
  | line {next : Option Cursor} (hkind : i.kind = .playDialog) (hnext : s.screenplay.Leads 0 h.cursor next) :
    Ticked s h i (some (.ok (.line (s.lineOf (s.reading i) (h.read.goTo next))))) (h.read.goTo next)
      [.instruction (s.reading i), .dialogLine (s.lineOf (s.reading i) (h.read.goTo next))]
  /-- a decision: the cursor stays -/
  | decision (hkind : i.kind = .showDecision) :
    Ticked s h i (some (.ok (.decision (s.reading i).labels)))
      { h.read with pending := some ⟨h.cursor, (s.reading i).labels⟩ }
      [.instruction (s.reading i), .decision (s.reading i).labels]
  /-- anything else: the walk goes on -/
  | silent {next : Cursor} (hline : i.kind ≠ .playDialog) (hdecision : i.kind ≠ .showDecision)
    (hnext : s.screenplay.Leads 0 h.cursor (some next)) :
    Ticked s h i none (h.read.goTo (some next)) [.instruction (s.reading i)]
  /-- anything else, with nothing after it -/
  | last (hline : i.kind ≠ .playDialog) (hdecision : i.kind ≠ .showDecision)
    (hnext : s.screenplay.Leads 0 h.cursor none) :
    Ticked s h i (some (.ok .ended)) { h.read.goTo none with progress := .finished } [.instruction (s.reading i)]

namespace Setting

/-- the first edge is never refused -/
theorem goOn_spec (s : Setting) {h : Playhead} {i : Instruction} (hi : s.screenplay.instructionAt h.cursor = .ok i) :
    ∃ next es, s.screenplay.Leads 0 h.cursor next ∧ s.goOn h = .ok (h.goTo next, es) ∧
      Event.notifications es = [] := by
  rcases Screenplay.follow_cases hi 0 with ⟨m, hm, hleads⟩ | ⟨b, -, -, -, hne⟩
  · simp only [goOn, hm]
    cases m with
    | stepped next => exact ⟨_, _, hleads, rfl, rfl⟩
    | transferred source target next => exact ⟨_, _, hleads, rfl, s.notifications_log _⟩
    | exhausted => exact ⟨_, _, hleads, rfl, rfl⟩
  · exact absurd rfl hne

theorem dispatch_ticked (s : Setting) {h : Playhead} {i : Instruction}
    (hi : s.screenplay.instructionAt h.cursor = .ok i) (hrun : h.progress = .running) :
    let t := s.dispatch (s.reading i) h.read
    Ticked s h i t.answer t.head (.instruction (s.reading i) :: Event.notifications t.events) := by
  obtain ⟨next, es, hleads, hgo, hes⟩ := s.goOn_spec (h := h.read) hi
  simp only [dispatch, reading_kind]
  cases hk : i.kind with
  | playDialog =>
    simp only [hgo, Event.notifications_append, hes]
    exact .line hk hleads
  | showDecision =>
    simp only [Event.notifications_append, notifications_log]
    exact .decision hk
  | _ =>
    have hline : i.kind ≠ .playDialog := by simp [hk]
    have hdecision : i.kind ≠ .showDecision := by simp [hk]
    simp only [hgo]
    cases next with
    | some next =>
      rw [if_neg (by simp [hrun]), hes]
      exact .silent hline hdecision hleads
    | none =>
      rw [if_pos (by simp)]
      simp only [Event.notifications_append, hes, notifications_log]
      exact .last hline hdecision hleads

/-- **What one instruction can come to.** -/
theorem tick_ticked (s : Setting) {h : Playhead} {i : Instruction} (hi : s.screenplay.instructionAt h.cursor = .ok i)
    (hrun : h.progress = .running) :
    Ticked s h i (s.tick h).answer (s.tick h).head (Event.notifications (s.tick h).events) := by
  simp only [tick, hi, Event.notifications_append, notifications_unresolvedRecords, notifications_log,
    List.nil_append]
  exact s.dispatch_ticked hi hrun

theorem limit_pos (s : Setting) : 0 < s.limit := Nat.lt_of_lt_of_le Nat.one_pos (Nat.le_max_left 1 s.maxSteps)

theorem run_running (s : Setting) {h : Playhead} (hrun : h.progress = .running) : s.run h = s.runOn s.limit h [] := by
  simp only [run, hrun]

theorem run_exhausted (s : Setting) {h : Playhead} (hover : h.progress = .exhausted) :
    s.run h = ⟨.ok .ended, { h with progress := .finished }, s.log .ended⟩ := by
  simp only [run, hover]

theorem run_finished (s : Setting) {h : Playhead} (hover : h.progress = .finished) :
    s.run h = ⟨.error .finished, h, []⟩ := by
  simp only [run, hover]

/-- **What taking an edge of the decision that waits can come to.** -/
theorem takeBranch_cases (s : Setting) {h : Playhead} {d : Pending} {i : Instruction} (hd : h.pending = some d)
    (hcursor : d.cursor = h.cursor) (hi : s.screenplay.instructionAt h.cursor = .ok i) (edge : Nat) :
    (∃ next es, s.screenplay.Leads edge h.cursor next ∧ s.takeBranch edge h = .ok (h.released.goTo next, es) ∧
        Event.notifications es = []) ∨
      ∃ b, s.takeBranch edge h = .error (.edgeOutOfRange b.id edge b.edges.length) ∧ s.screenplay.IsLast h.cursor b ∧
        b.edges.length ≤ edge ∧ edge ≠ 0 := by
  rcases Screenplay.follow_cases hi edge with ⟨m, hm, hleads⟩ | ⟨b, hb, hrest⟩
  · left
    simp only [takeBranch, hd, hcursor, ne_eq, not_true, if_false, hm]
    cases m with
    | stepped next => exact ⟨_, _, hleads, rfl, rfl⟩
    | transferred source target next => exact ⟨_, _, hleads, rfl, s.notifications_log _⟩
    | exhausted => exact ⟨_, _, hleads, rfl, rfl⟩
  · right
    simp only [takeBranch, hd, hcursor, ne_eq, not_true, if_false, hb]
    exact ⟨b, rfl, hrest⟩

theorem advance_none_waiting (s : Setting) {h : Playhead} (hd : h.pending = none) (edge : Nat) :
    s.advance (some edge) h = ⟨.error .noPendingDecision, h, []⟩ := by
  simp only [advance, takeBranch, hd]

/-- **What restoring a save can come to.** -/
theorem restore_cases (s : Setting) (state : SaveState) (h : Playhead) :
    (∃ i es, s.screenplay.instructionAt state.cursor = .ok i ∧
        s.restore state h = ⟨.ok (), .fresh state.cursor, es⟩ ∧ Event.notifications es =
          [.restoreGraphics state.background state.portrait, .restoreMusic state.bgm]) ∨
      ∃ e es, s.screenplay.check state.cursor = .error e ∧ s.restore state h = ⟨.error e, h, es⟩ ∧
        Event.notifications es = [] := by
  have hforeign : Event.notifications (s.foreignRecord state) = [] := by
    unfold foreignRecord
    split
    · split <;> rfl
    · rfl
  cases hc : s.screenplay.check state.cursor with
  | ok u =>
    left
    obtain ⟨i, hi⟩ := Screenplay.check_ok_iff.1 hc
    unfold SaveState.cursor at hc
    exact ⟨i, _, hi, by simp only [restore, hc]; rfl, by simp [hforeign]⟩
  | error e =>
    right
    unfold SaveState.cursor at hc
    exact ⟨e, _, rfl, by simp only [restore, hc], hforeign⟩

/-- a save inside the screenplay is accepted -/
theorem restore_inside (s : Setting) {state : SaveState} (hinside : s.screenplay.Holds state.cursor) (h : Playhead) :
    ∃ es, s.restore state h = ⟨.ok (), .fresh state.cursor, es⟩ ∧ Event.notifications es = state.announced := by
  rcases s.restore_cases state h with ⟨i, es, -, ht, hes⟩ | ⟨e, es, hcheck, -, -⟩
  · exact ⟨es, ht, hes⟩
  · cases hinside.check.symm.trans hcheck

end Setting

end VisualNovel
