/-
What one advance tells those who watch.

An advance has a trace language of its own. Line counters start over first, if a choice was taken; then every executed
instruction is told, in the order of execution; and what the advance answers decides how it closes.

- `Passes`: silent instructions, neither lines nor decisions, executed one after another along first edges.
- `Runs`: what a run comes to. Silent instructions, and then a line (the dialog, followed by its line), a decision
  (followed by its labels), the end (a silent instruction with nothing after it, followed by nothing), or the end of
  the budget, with as many silent instructions told as the budget allows.
- `Advances`: what an advance comes to. It is refused, and tells nothing; it ends a screenplay whose last line has
  been shown, and tells nothing; it runs; or it takes a choice and then runs or ends the screenplay.
- `advance_tells`: every advance from a reachable playhead comes to one of these.

The budget is what the induction is on (`runOn_runs`). A silent instruction goes in front of everything that the rest
of the run comes to (`Runs.pass`), so no later proof opens the loop. `Closes` keeps of an advance or a restored save
what those who watch need: lines and decisions are told last, and only when they are the answer.
-/
import VisualNovel.Proofs.Invariant

namespace VisualNovel

/-! ## Silent instructions -/

/-- neither a line nor a decision -/
def Kind.Silent (k : Kind) : Prop := k ≠ .playDialog ∧ k ≠ .showDecision

/-- the playhead past an instruction from which an edge leads -/
def Playhead.past (c : Cursor) (next : Option Cursor) : Playhead := (passed c).goTo next

/-- silent instructions executed one after another, as they are told, and the playhead after them -/
inductive Passes (s : Setting) : Playhead → List Resolved → Playhead → Prop where
  | nil (h : Playhead) : Passes s h [] h
  | cons {h g : Playhead} {i : Instruction} {next : Cursor} {rs : List Resolved}
    (hi : s.screenplay.instructionAt h.cursor = .ok i) (hsilent : i.kind.Silent)
    (hnext : s.screenplay.Leads 0 h.cursor (some next)) (hrest : Passes s (.past h.cursor (some next)) rs g) :
    Passes s h (s.reading i :: rs) g

/-- what was executed last is silent, and no decision waits -/
theorem Passes.last {s : Setting} {h g : Playhead} {rs : List Resolved} (hrs : Passes s h rs g) (hne : rs ≠ []) :
    g.pending = none ∧ ∃ c i, g.lastExecuted = some c ∧ s.screenplay.instructionAt c = .ok i ∧ i.kind.Silent := by
  induction hrs with
  | nil => exact absurd rfl hne
  | @cons h g i next rs hi hsilent _ hrest ih =>
    cases rs with
    | cons r rs => exact ih (List.cons_ne_nil _ _)
    | nil =>
      cases hrest
      exact ⟨rfl, h.cursor, i, rfl, hi, hsilent⟩

theorem Setting.lastExecuted_past (s : Setting) {c : Cursor} {i : Instruction}
    (hi : s.screenplay.instructionAt c = .ok i) (next : Option Cursor) :
    s.lastExecuted (.past c next) = some (s.reading i, s.unresolvedRecords i) := by
  cases next with
  | some next =>
    simp only [lastExecuted, Playhead.past, Playhead.passed, Playhead.goTo, hi]
    rfl
  | none =>
    simp only [lastExecuted, Playhead.past, Playhead.passed, Playhead.goTo, hi]
    rfl

/-! ## A run -/

/-- what a run comes to: its answer, the playhead after it and what it tells -/
inductive Runs (s : Setting) (budget : Nat) (h : Playhead) :
    Except WalkError Suspension → Playhead → List Notification → Prop where
  /-- a line; its block is the one under the cursor after the run -/
  | line {g : Playhead} {rs : List Resolved} {i : Instruction} {next : Option Cursor} (hrs : Passes s h rs g)
    (hi : s.screenplay.instructionAt g.cursor = .ok i) (hkind : i.kind = .playDialog)
    (hnext : s.screenplay.Leads 0 g.cursor next) :
    Runs s budget h (.ok (.line (s.lineOf (s.reading i) (.past g.cursor next)))) (.past g.cursor next)
      (rs.map .instruction ++
        [.instruction (s.reading i), .dialogLine (s.lineOf (s.reading i) (.past g.cursor next))])
  /-- a decision, with the labels that the instruction asks for -/
  | decision {g : Playhead} {rs : List Resolved} {i : Instruction} {labels : List String} (hrs : Passes s h rs g)
    (hi : s.screenplay.instructionAt g.cursor = .ok i) (hkind : i.kind = .showDecision)
    (hlabels : (s.reading i).command = .decision labels) :
    Runs s budget h (.ok (.decision labels)) { Playhead.passed g.cursor with pending := some ⟨g.cursor, labels⟩ }
      (rs.map .instruction ++ [.instruction (s.reading i), .decision labels])
  /-- the end -/
  | ended {g : Playhead} {rs : List Resolved} {i : Instruction} (hrs : Passes s h rs g)
    (hi : s.screenplay.instructionAt g.cursor = .ok i) (hsilent : i.kind.Silent)
    (hnext : s.screenplay.Leads 0 g.cursor none) :
    Runs s budget h (.ok .ended) { Playhead.past g.cursor none with progress := .finished }
      ((rs ++ [s.reading i]).map .instruction)
  /-- the budget is used up -/
  | runaway {g : Playhead} {rs : List Resolved} (hrs : Passes s h rs g) (hlength : rs.length = budget) :
    Runs s budget h (.error (.runaway s.limit)) g (rs.map .instruction)

theorem Setting.reading_decision (s : Setting) {i : Instruction} (hkind : i.kind = .showDecision) :
    (s.reading i).command = .decision (s.reading i).labels := by
  have hr : (s.reading i).kind = .showDecision := hkind
  simp only [Resolved.command, Resolved.command?, hr, Option.getD_some]

/-- a silent instruction goes in front of what the rest of the run comes to -/
theorem Runs.pass {s : Setting} {budget : Nat} {h g : Playhead} {i : Instruction} {next : Cursor}
    {answer : Except WalkError Suspension} {ns : List Notification}
    (hi : s.screenplay.instructionAt h.cursor = .ok i) (hsilent : i.kind.Silent)
    (hnext : s.screenplay.Leads 0 h.cursor (some next))
    (hrest : Runs s budget (.past h.cursor (some next)) answer g ns) :
    Runs s (budget + 1) h answer g (.instruction (s.reading i) :: ns) := by
  cases hrest with
  | line hrs hj hkind hnext' => exact .line (.cons hi hsilent hnext hrs) hj hkind hnext'
  | decision hrs hj hkind hlabels => exact .decision (.cons hi hsilent hnext hrs) hj hkind hlabels
  | ended hrs hj hsilent' hnext' => exact .ended (.cons hi hsilent hnext hrs) hj hsilent' hnext'
  | runaway hrs hlength => exact .runaway (.cons hi hsilent hnext hrs) (congrArg Nat.succ hlength)

/-- **What a run can come to.** -/
theorem runOn_runs (s : Setting) (budget : Nat) {h : Playhead} (hs : Sound s h) (hrun : h.progress = .running) :
    Runs s budget h (s.runOn budget h []).answer (s.runOn budget h []).head
      (Event.notifications (s.runOn budget h []).events) := by
  induction budget generalizing h with
  | zero => exact .runaway (.nil h) rfl
  | succ budget ih =>
    obtain ⟨i, hi⟩ := hs.points
    have ht := s.tick_ticked hi hrun
    have hsound := ht.sound hs hrun hi
    have hrest := ih hsound
    rw [Setting.runOn_succ]
    generalize (s.tick h).answer = answer at ht ⊢
    generalize (s.tick h).head = head at ht hrest ⊢
    generalize hns : Event.notifications (s.tick h).events = ns at ht
    cases ht with
    | line hkind hnext =>
      have hdecision : i.kind ≠ .showDecision := by simp [hkind]
      simp only [hns, hs.read_goTo hrun hi hdecision]
      exact .line (.nil h) hi hkind hnext
    | decision hkind =>
      simp only [hns, Playhead.read, hrun]
      exact .decision (.nil h) hi hkind (s.reading_decision hkind)
    | silent hline hdecision hnext =>
      -- the rest of the run starts past the instruction, where the playhead is sound and under way again
      have hpast := hs.read_goTo hrun hi hdecision
      simp only [Event.notifications_append, hns, hpast] at hrest ⊢
      exact .pass hi ⟨hline, hdecision⟩ hnext (hrest rfl)
    | last hline hdecision hnext =>
      simp only [hns, hs.read_goTo hrun hi hdecision]
      exact .ended (.nil h) hi ⟨hline, hdecision⟩ hnext

/-! ## An advance -/

/-- what an advance comes to: its answer, the playhead after it and what it tells -/
inductive Advances (s : Setting) (h : Playhead) :
    Option Nat → Except WalkError Suspension → Playhead → List Notification → Prop where
  /-- it is refused -/
  | refused {choice : Option Nat} {e : WalkError} (hrefusal : Refusal s h choice e) (he : ∀ steps, e ≠ .runaway steps) :
    Advances s h choice (.error e) h []
  /-- the last line has been shown -/
  | exhausted (hover : h.progress = .exhausted) : Advances s h none (.ok .ended) { h with progress := .finished } []
  /-- it runs -/
  | ran {answer : Except WalkError Suspension} {g : Playhead} {ns : List Notification} (hrun : h.progress = .running)
    (hruns : Runs s s.limit h answer g ns) : Advances s h none answer g ns
  /-- a choice is accepted, and it runs where the choice leads -/
  | chose {d : Pending} {edge : Nat} {next : Cursor} {answer : Except WalkError Suspension} {g : Playhead}
    {ns : List Notification} (hd : h.pending = some d) (hnext : s.screenplay.Leads edge h.cursor (some next))
    (hruns : Runs s s.limit (.past h.cursor (some next)) answer g ns) :
    Advances s h (some edge) answer g (.resetLineCounters :: ns)
  /-- a choice is accepted, and it leads nowhere -/
  | choseEnd {d : Pending} {edge : Nat} (hd : h.pending = some d) (hnext : s.screenplay.Leads edge h.cursor none) :
    Advances s h (some edge) (.ok .ended) { Playhead.past h.cursor none with progress := .finished }
      [.resetLineCounters]

theorem run_runs (s : Setting) {h : Playhead} (hs : Sound s h) (hrun : h.progress = .running) :
    Runs s s.limit h (s.run h).answer (s.run h).head (Event.notifications (s.run h).events) := by
  rw [s.run_running hrun]
  exact runOn_runs s s.limit hs hrun

/-- **What an advance can come to.** -/
theorem Sound.advances {s : Setting} {h : Playhead} (hs : Sound s h) (choice : Option Nat) :
    Advances s h choice (s.advance choice h).answer (s.advance choice h).head
      (Event.notifications (s.advance choice h).events) := by
  cases choice with
  | none =>
    cases hp : h.progress with
    | running => exact .ran hp (run_runs s hs hp)
    | exhausted =>
      have ht : s.advance none h = _ := s.run_exhausted hp
      rw [ht, s.notifications_log]
      exact .exhausted hp
    | finished =>
      have ht : s.advance none h = _ := s.run_finished hp
      rw [ht]
      exact .refused (.finished hp) (by simp)
  | some edge =>
    have hc := hs.chosen edge
    generalize s.advance (some edge) h = t at hc
    cases hc with
    | noDecision hd => exact .refused (.noDecision hd) (by simp)
    | noEdge hd hlast hedge hfirst => exact .refused (.noEdge hd hlast hedge hfirst) (by simp)
    | @taken d next es hd hleads hes =>
      have hpast : h.released.goTo next = .past h.cursor next := hs.released_goTo hd next
      simp only [Event.notifications_append, Event.notifications_told, hes, List.nil_append, hpast]
      cases next with
      | some next => exact .chose hd hleads (run_runs s (.moved hleads) rfl)
      | none =>
        rw [s.run_exhausted rfl, s.notifications_log]
        exact .choseEnd hd hleads

/-! ## How a call closes -/

/-- neither a line nor a decision is told -/
def Notification.Quiet : Notification → Prop
  | .dialogLine _ | .decision _ => False
  | _ => True

/-- how a call of the walk closes: a line or a decision is told last, and only if it is the answer -/
inductive Closes (s : Setting) : Except WalkError (Option Suspension) → Playhead → List Notification → Prop where
  | failed {e : WalkError} {g : Playhead} {ns : List Notification} (hquiet : ∀ n ∈ ns, n.Quiet) :
    Closes s (.error e) g ns
  /-- the line is that of the instruction executed last -/
  | line {g : Playhead} {ns : List Notification} {r : Resolved} {es : List Event} (hquiet : ∀ n ∈ ns, n.Quiet)
    (hlast : s.lastExecuted g = some (r, es)) (hkind : r.kind = .playDialog) (hpending : g.pending = none) :
    Closes s (.ok (some (.line (s.lineOf r g)))) g (ns ++ [.dialogLine (s.lineOf r g)])
  /-- the decision waits -/
  | decision {g : Playhead} {ns : List Notification} {labels : List String} (hquiet : ∀ n ∈ ns, n.Quiet)
    (hpending : g.choices = some labels) : Closes s (.ok (some (.decision labels))) g (ns ++ [.decision labels])
  | ended {g : Playhead} {ns : List Notification} (hquiet : ∀ n ∈ ns, n.Quiet) (hpending : g.pending = none)
    (hover : g.progress = .finished) : Closes s (.ok (some .ended)) g ns
  | restored {g : Playhead} {ns : List Notification} (hquiet : ∀ n ∈ ns, n.Quiet) : Closes s (.ok none) g ns

section Closes

variable {s : Setting} {h g : Playhead} {ns : List Notification}

theorem Closes.cons {answer : Except WalkError (Option Suspension)} {n : Notification} (hn : n.Quiet)
    (hc : Closes s answer g ns) : Closes s answer g (n :: ns) := by
  have hcons : ∀ {ms : List Notification}, (∀ m ∈ ms, m.Quiet) → ∀ m ∈ n :: ms, m.Quiet :=
    fun hms => List.forall_mem_cons.2 ⟨hn, hms⟩
  cases hc with
  | failed hquiet => exact .failed (hcons hquiet)
  | line hquiet hlast hkind hpending => exact .line (hcons hquiet) hlast hkind hpending
  | decision hquiet hpending => exact .decision (hcons hquiet) hpending
  | ended hquiet hpending hover => exact .ended (hcons hquiet) hpending hover
  | restored hquiet => exact .restored (hcons hquiet)

theorem quiet_instructions (rs : List Resolved) : ∀ n ∈ rs.map Notification.instruction, n.Quiet := by
  intro n hn
  obtain ⟨r, -, rfl⟩ := List.mem_map.1 hn
  trivial

theorem Runs.closes {budget : Nat} {answer : Except WalkError Suspension} (hruns : Runs s budget h answer g ns) :
    Closes s (answer.map some) g ns := by
  cases hruns with
  | @line g rs i next hrs hi hkind hnext =>
    have hlast := s.lastExecuted_past hi next
    have hpending : (Playhead.past g.cursor next).pending = none := by cases next <;> rfl
    -- the dialog itself is told as an instruction, so it belongs to what is quiet
    have hc := Closes.line (quiet_instructions (rs ++ [s.reading i])) hlast hkind hpending
    rw [List.map_append, List.append_assoc] at hc
    exact hc
  | @decision g rs i labels hrs hi =>
    have hquiet := quiet_instructions (rs ++ [s.reading i])
    have hc : Closes s (.ok (some (.decision labels)))
        { Playhead.passed g.cursor with pending := some ⟨g.cursor, labels⟩ } _ := .decision hquiet rfl
    rw [List.map_append, List.append_assoc] at hc
    exact hc
  | ended => exact .ended (quiet_instructions _) rfl rfl
  | runaway => exact .failed (quiet_instructions _)

theorem Advances.closes {choice : Option Nat} {answer : Except WalkError Suspension} (hs : Sound s h)
    (ha : Advances s h choice answer g ns) : Closes s (answer.map some) g ns := by
  cases ha with
  | refused => exact .failed (by simp)
  | exhausted hover => exact .ended (by simp) (hs.ends (by simp [hover])).1 rfl
  | ran _ hruns => exact hruns.closes
  | chose _ _ hruns => exact hruns.closes.cons trivial
  | choseEnd => exact .ended (by simp [Notification.Quiet]) rfl rfl

/-- **How a call can close.** -/
theorem Sound.closes (hs : Sound s h) (call : Call) :
    Closes s (s.perform call h).answer (s.perform call h).head (Event.notifications (s.perform call h).events) := by
  cases call with
  | advance choice => exact (hs.advances choice).closes hs
  | restore state =>
    rcases s.restore_cases state h with ⟨i, es, -, ht, hes⟩ | ⟨e, es, -, ht, hes⟩
    · simp only [Setting.perform, ht, hes]
      exact .restored (by simp [Notification.Quiet])
    · simp only [Setting.perform, ht, hes]
      exact .failed (by simp)

/-- a line that is told is of the block under the cursor at the close -/
theorem Closes.blockIndex_told {answer : Except WalkError (Option Suspension)} {l : DialogLine}
    (hc : Closes s answer g ns) (hl : .dialogLine l ∈ ns) : l.blockIndex = g.cursor.block := by
  cases hc with
  | line hquiet =>
    rcases List.mem_append.1 hl with hl | hl
    · exact (hquiet _ hl).elim
    · cases List.mem_singleton.1 hl
      rfl
  | decision hquiet =>
    rcases List.mem_append.1 hl with hl | hl
    · exact (hquiet _ hl).elim
    · cases List.mem_singleton.1 hl
  | failed hquiet => exact (hquiet _ hl).elim
  | ended hquiet => exact (hquiet _ hl).elim
  | restored hquiet => exact (hquiet _ hl).elim

/-- a line that is told stands in a block of the screenplay -/
theorem Sound.line_placed (hs : Sound s h) (call : Call) {l : DialogLine}
    (hl : .dialogLine l ∈ Event.notifications (s.perform call h).events) :
    l.blockIndex < s.screenplay.blocks.length := by
  have hblock : l.blockIndex = (s.perform call h).head.cursor.block := (hs.closes call).blockIndex_told hl
  obtain ⟨b, hb, -⟩ := (perform_sound s hs call).holds
  rw [hblock]
  exact (List.getElem?_eq_some_iff.1 hb).1

end Closes

/-- **What an advance tells**, from any reachable playhead, with a choice or without. Line counters start over if a
choice is accepted, and first of all; then come the executed instructions in their order, each where the one before
leads; then, as the answer has it, the line of the last one, which is the only dialog; the labels of the last one,
which is the only decision; or nothing. A refused advance tells nothing, and one that runs away tells as many
instructions as its budget allows. -/
theorem advance_tells (s : Setting) (calls : List Call) (choice : Option Nat) :
    let h := s.play calls .start
    let t := s.advance choice h
    Advances s h choice t.answer t.head (Event.notifications t.events) :=
  (play_sound s (.start s) calls).advances choice

end VisualNovel
