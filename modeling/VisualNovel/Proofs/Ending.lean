/-
Play ends once and stays ended.

A walk ends at the last instruction of a block without edges (`Screenplay.Closing`). When it says so depends on what that
instruction does: at once if it is silent, with the next advance if it speaks, because the line has to be shown first, and
with the first option if it asks. Until a save is restored the end is final.

- `Ends`: the three ways to the end, as conditions on one advance; `ends_iff`: an advance answers with the end in exactly
  these cases. A line that closes the screenplay leaves the playhead exhausted (`Sound.exhausted_of_spoken`), so the end
  that follows it executes nothing.
- `Advances.ending`: an advance that answers with the end finishes a walk that was not finished, and no other advance
  finishes a walk or takes a finished walk up again.
- `ends_since`: hence, since a save was restored last, the end was answered once if the walk is finished, and never if it
  is not.
-/
import VisualNovel.Proofs.Broadcast

namespace VisualNovel

/-! ## Where a screenplay closes -/

namespace Screenplay

/-- the instruction is the last one of a block without edges -/
def Closing (s : Screenplay) (c : Cursor) (i : Instruction) : Prop :=
  s.instructionAt c = .ok i ∧ ∃ b, s.IsLast c b ∧ b.edges = []

variable {s : Screenplay} {c next : Cursor} {i j : Instruction} {edge : Nat}

/-- no edge leads on from there -/
theorem Closing.not_leads (h : s.Closing c i) : ¬ s.Leads edge c (some next) := by
  obtain ⟨-, b, hlast, hedges⟩ := h
  intro hleads
  cases hleads with
  | within hb hnext => exact hlast.not_within hb hnext
  | across hlast' hedge =>
    obtain rfl := hlast.unique hlast'
    simp [hedges] at hedge

theorem Closing.unique (h : s.Closing c i) (hj : s.instructionAt c = .ok j) : i = j :=
  instruction_unique h.1 hj

theorem Leads.closing (h : s.Leads edge c none) (hi : s.instructionAt c = .ok i) : s.Closing c i := ⟨hi, h.isLast⟩

theorem Leads.first_of_none (h : s.Leads edge c none) : edge = 0 := by
  cases h
  assumption

end Screenplay

/-! ## The three ways to the end -/

/-- a silent instruction that closes the screenplay was executed last, and told last of all -/
def ReadsClosing (s : Setting) (g : Playhead) (ns : List Notification) : Prop :=
  ∃ c i, s.screenplay.Closing c i ∧ i.kind.Silent ∧ g.lastExecuted = some c ∧
    ns.getLast? = some (.instruction (s.reading i))

/-- the conditions under which an advance answers with the end: the choice, the playhead after it and what it tells -/
inductive Ends (s : Setting) (h : Playhead) : Option Nat → Playhead → List Notification → Prop where
  /-- in the advance that executes it, if the closing instruction is silent -/
  | silent {choice : Option Nat} {g : Playhead} {ns : List Notification} (hread : ReadsClosing s g ns) :
    Ends s h choice g ns
  /-- with the next advance, if it speaks -/
  | spoken {g : Playhead} {ns : List Notification} {c : Cursor} {i : Instruction}
    (hclosing : s.screenplay.Closing c i) (hkind : i.kind = .playDialog) (hread : h.lastExecuted = some c)
    (hopen : h.isFinished = false) : Ends s h none g ns
  /-- with the first option, if it asks -/
  | decided {g : Playhead} {ns : List Notification} {i : Instruction} (hclosing : s.screenplay.Closing h.cursor i)
    (hkind : i.kind = .showDecision) (hpending : h.pending ≠ none) : Ends s h (some 0) g ns

section Ending

variable {s : Setting} {h g : Playhead} {ns : List Notification} {choice : Option Nat}
  {answer : Except WalkError Suspension}

theorem Playhead.isFinished_iff : h.isFinished = true ↔ h.progress = .finished := decide_eq_true_iff

theorem Passes.running {rs : List Resolved} (hrs : Passes s h rs g) (hrun : h.progress = .running) :
    g.progress = .running := by
  induction hrs with
  | nil => exact hrun
  | cons _ _ _ _ ih => exact ih rfl

/-- a line that closes the screenplay, executed last, has exhausted it unless the end was answered -/
theorem Sound.exhausted_of_spoken (hs : Sound s h) {c : Cursor} {i : Instruction} (hclosing : s.screenplay.Closing c i)
    (hkind : i.kind = .playDialog) (hread : h.lastExecuted = some c) (hopen : h.isFinished = false) :
    h.progress = .exhausted := by
  cases hp : h.progress with
  | exhausted => rfl
  | finished => simp [Playhead.isFinished, hp] at hopen
  | running =>
    exfalso
    cases hd : h.pending with
    | none =>
      obtain ⟨edge, hleads⟩ := hs.follows hp hd c hread
      exact hclosing.not_leads hleads
    | some d =>
      -- the instruction executed last would be the decision that waits
      obtain ⟨-, -, hlast, j, hj, hask, -⟩ := hs.waits d hd
      rw [hread, Option.some.injEq] at hlast
      subst hlast
      obtain rfl := hclosing.unique hj
      simp [hkind] at hask

theorem Runs.ended_iff {budget : Nat} (hbudget : 0 < budget) (hg : Sound s g) (hrun : h.progress = .running)
    (hruns : Runs s budget h answer g ns) : answer = .ok .ended ↔ ReadsClosing s g ns := by
  constructor
  · rintro rfl
    cases hruns with
    | @ended g rs i hrs hi hsilent hnext =>
      refine ⟨g.cursor, i, hnext.closing hi, hsilent, rfl, ?_⟩
      rw [List.map_append, List.getLast?_append]
      rfl
  · rintro ⟨c, i, hclosing, -, hread, htold⟩
    cases hruns with
    | line => simp at htold
    | decision => simp at htold
    | ended => rfl
    | @runaway g rs hrs hlength =>
      -- a run that can go on has an edge from the instruction that it executed last
      have hne : rs ≠ [] := List.ne_nil_of_length_pos (by omega)
      obtain ⟨hpending, -⟩ := hrs.last hne
      obtain ⟨edge, hleads⟩ := hg.follows (hrs.running hrun) hpending c hread
      exact absurd hleads hclosing.not_leads

theorem readsClosing_reset : ReadsClosing s g (.resetLineCounters :: ns) ↔ ReadsClosing s g ns := by
  have hlast : ∀ r, (Notification.resetLineCounters :: ns).getLast? = some (.instruction r) ↔
      ns.getLast? = some (.instruction r) := by
    intro r
    rw [List.getLast?_cons]
    cases ns.getLast? <;> simp
  simp only [ReadsClosing, hlast]

/-- **An advance answers with the end in exactly three cases.** -/
theorem Advances.ends_iff (hs : Sound s h) (hg : Sound s g) (ha : Advances s h choice answer g ns) :
    answer = .ok .ended ↔ Ends s h choice g ns := by
  constructor
  · rintro rfl
    cases ha with
    | exhausted hover =>
      obtain ⟨-, hread, hclosing⟩ := hs.ends (by simp [hover])
      obtain ⟨i, hi, hkind⟩ := hs.spoken hover
      exact .spoken ⟨hi, hclosing⟩ hkind hread (by simp [Playhead.isFinished, hover])
    | ran hrun hruns => exact .silent ((hruns.ended_iff s.limit_pos hg hrun).1 rfl)
    | chose hd hnext hruns =>
      exact .silent (readsClosing_reset.2 ((hruns.ended_iff s.limit_pos hg rfl).1 rfl))
    | choseEnd hd hnext =>
      obtain ⟨-, -, -, i, hi, hkind, -⟩ := hs.waits _ hd
      obtain rfl := hnext.first_of_none
      exact .decided (hnext.closing hi) hkind (by simp [hd])
  · intro hends
    cases hends with
    | silent hread =>
      cases ha with
      | refused =>
        obtain ⟨_, _, -, -, -, htold⟩ := hread
        cases htold
      | exhausted => rfl
      | ran hrun hruns => exact (hruns.ended_iff s.limit_pos hg hrun).2 hread
      | chose hd hnext hruns => exact (hruns.ended_iff s.limit_pos hg rfl).2 (readsClosing_reset.1 hread)
      | choseEnd => rfl
    | spoken hclosing hkind hread hopen =>
      have hover := hs.exhausted_of_spoken hclosing hkind hread hopen
      cases ha with
      | refused hrefusal he =>
        cases hrefusal with
        | finished hfinished => cases hover.symm.trans hfinished
        | runaway => exact absurd rfl (he _)
      | exhausted => rfl
      | ran hrun => cases hover.symm.trans hrun
    | decided hclosing hkind hpending =>
      cases ha with
      | refused hrefusal he =>
        cases hrefusal with
        | noDecision hnone => exact absurd hnone hpending
        | noEdge _ _ _ hfirst => exact absurd rfl hfirst
        | runaway => exact absurd rfl (he _)
      | chose hd hnext => exact absurd hnext hclosing.not_leads
      | choseEnd => rfl

/-! ## Once -/

/-- the end is answered once, and it is final until a save is restored -/
theorem Advances.ending (hs : Sound s h) (ha : Advances s h choice answer g ns) :
    (answer = .ok .ended ∧ h.isFinished = false ∧ g.isFinished = true) ∨
      (answer ≠ .ok .ended ∧ g.isFinished = h.isFinished) := by
  -- a run starts on a walk under way and finishes it by the end alone
  have hrun : ∀ {k : Playhead} {ms : List Notification}, k.progress = .running → Runs s s.limit k answer g ms →
      (answer = .ok .ended ∧ g.isFinished = true) ∨ (answer ≠ .ok .ended ∧ g.isFinished = false) := by
    intro k ms hk hruns
    cases hruns with
    | @line g rs i next =>
      refine Or.inr ⟨by simp, ?_⟩
      cases next <;> rfl
    | decision => exact Or.inr ⟨by simp, rfl⟩
    | ended => exact Or.inl ⟨rfl, rfl⟩
    | runaway hrs => exact Or.inr ⟨by simp, by simp [Playhead.isFinished, hrs.running hk]⟩
  have hopen : h.progress = .running → h.isFinished = false := by
    intro hp
    simp [Playhead.isFinished, hp]
  cases ha with
  | refused => exact Or.inr ⟨by simp, rfl⟩
  | exhausted hover => exact Or.inl ⟨rfl, by simp [Playhead.isFinished, hover], rfl⟩
  | ran hp hruns =>
    rcases hrun hp hruns with ⟨hanswer, hg⟩ | ⟨hanswer, hg⟩
    · exact Or.inl ⟨hanswer, hopen hp, hg⟩
    · exact Or.inr ⟨hanswer, hg.trans (hopen hp).symm⟩
  | chose hd _ hruns =>
    have hp := (hs.waits _ hd).1
    rcases hrun rfl hruns with ⟨hanswer, hg⟩ | ⟨hanswer, hg⟩
    · exact Or.inl ⟨hanswer, hopen hp, hg⟩
    · exact Or.inr ⟨hanswer, hg.trans (hopen hp).symm⟩
  | choseEnd hd => exact Or.inl ⟨rfl, hopen (hs.waits _ hd).1, rfl⟩

end Ending

/-- answered with the end -/
def Turn.ended (t : Turn (Option Suspension)) : Bool := t.answer matches .ok (some .ended)

/-- a save was restored -/
def Turn.restored (t : Turn (Option Suspension)) : Bool := t.answer matches .ok none

/-- the turns after the one in which a save was restored last -/
def sinceRestored (turns : List (Call × Turn (Option Suspension))) : List (Call × Turn (Option Suspension)) :=
  (turns.reverse.takeWhile fun turn => !turn.2.restored).reverse

section Once

variable {s : Setting} {h : Playhead}

theorem sinceRestored_restored (turns : List (Call × Turn (Option Suspension)))
    {turn : Call × Turn (Option Suspension)} (hturn : turn.2.restored = true) :
    sinceRestored (turns ++ [turn]) = [] := by
  simp [sinceRestored, hturn]

theorem sinceRestored_concat (turns : List (Call × Turn (Option Suspension)))
    {turn : Call × Turn (Option Suspension)} (hturn : turn.2.restored = false) :
    sinceRestored (turns ++ [turn]) = sinceRestored turns ++ [turn] := by
  simp [sinceRestored, hturn]

theorem Setting.play_concat (s : Setting) (calls : List Call) (call : Call) (h : Playhead) :
    s.play (calls ++ [call]) h = (s.perform call (s.play calls h)).head := by
  simp only [play, List.foldl_append, List.foldl_cons, List.foldl_nil]

theorem Setting.history_concat (s : Setting) (calls : List Call) (call : Call) (h : Playhead) :
    s.history (calls ++ [call]) h = s.history calls h ++ [(call, s.perform call (s.play calls h))] := by
  induction calls generalizing h with
  | nil => rfl
  | cons first calls ih =>
    have hplay : s.play (first :: calls) h = s.play calls (s.perform first h).head := rfl
    simp only [List.cons_append, history, ih, hplay]

theorem Setting.ended_advance (s : Setting) (choice : Option Nat) (h : Playhead) :
    (s.perform (.advance choice) h).ended = true ↔ (s.advance choice h).answer = .ok .ended := by
  simp only [Turn.ended, perform]
  cases (s.advance choice h).answer with
  | error reason => simp [Except.map]
  | ok suspension => cases suspension <;> simp [Except.map]

theorem Setting.restored_advance (s : Setting) (choice : Option Nat) (h : Playhead) :
    (s.perform (.advance choice) h).restored = false := by
  simp only [Turn.restored, perform]
  cases (s.advance choice h).answer <;> rfl

/-- **Since a save was restored last, the end was answered once if the walk is finished, and never if it is not.** -/
theorem ends_since (hs : Sound s h) (hopen : h.isFinished = false) (calls : List Call) :
    (sinceRestored (s.history calls h)).countP (·.2.ended) = if (s.play calls h).isFinished then 1 else 0 := by
  -- from the right, because a restored save at the end wipes out everything before it
  induction calls using List.reverseRecOn with
  | nil => simp [Setting.history, Setting.play, sinceRestored, hopen]
  | append_singleton calls call ih =>
    have hk := play_sound s hs calls
    rw [s.history_concat, s.play_concat]
    generalize s.play calls h = k at hk ih ⊢
    cases call with
    | restore state =>
      rcases s.restore_cases state k with ⟨i, es, -, ht, -⟩ | ⟨e, es, -, ht, -⟩
      · rw [sinceRestored_restored _ (by simp only [Setting.perform, ht]; rfl)]
        simp only [Setting.perform, ht]
        rfl
      · rw [sinceRestored_concat _ (by simp only [Setting.perform, ht]; rfl), List.countP_append, ih]
        simp only [Setting.perform, ht]
        simp [Turn.ended, Except.map]
    | advance choice =>
      rw [sinceRestored_concat _ (s.restored_advance choice k), List.countP_append, ih, List.countP_singleton]
      have hhead : (s.perform (.advance choice) k).head = (s.advance choice k).head := rfl
      rcases (hk.advances choice).ending hk with ⟨hanswer, hbefore, hafter⟩ | ⟨hanswer, hkeeps⟩
      · have hended := (s.ended_advance choice k).2 hanswer
        simp only [hhead, hended, hbefore, hafter, Bool.false_eq_true, if_true, if_false]
      · have hnot : ¬ (s.perform (.advance choice) k).ended = true := fun h => hanswer ((s.ended_advance choice k).1 h)
        rw [hhead, hkeeps, if_neg hnot, Nat.add_zero]

end Once

/-- **Play ends once and stays ended.** Between two restored saves, or from the start: the end is answered at most once,
and the walk is finished from then on; every advance after it fails, with nothing told and nothing moved. It is answered
in exactly the cases of `Ends`; after a closing line the advance that does it executes and tells nothing. -/
theorem play_ends_once (s : Setting) (calls : List Call) :
    let h := s.play calls .start
    let turns := sinceRestored (s.history calls .start)
    turns.countP (·.2.ended) ≤ 1 ∧
    (h.isFinished ↔ ∃ turn ∈ turns, turn.2.ended) ∧
    (h.isFinished → s.advance none h = ⟨.error .finished, h, []⟩ ∧
      ∀ edge, s.advance (some edge) h = ⟨.error .noPendingDecision, h, []⟩) ∧
    (∀ choice, (s.advance choice h).answer = .ok .ended ↔
      Ends s h choice (s.advance choice h).head (Event.notifications (s.advance choice h).events)) ∧
    ∀ c i, s.screenplay.Closing c i → i.kind = .playDialog → h.lastExecuted = some c → h.isFinished = false →
      s.advance none h = ⟨.ok .ended, { h with progress := .finished }, s.log .ended⟩ := by
  intro h turns
  have hs : Sound s h := play_sound s (.start s) calls
  have hcount : turns.countP (·.2.ended) = if h.isFinished then 1 else 0 := ends_since (.start s) rfl calls
  refine ⟨?_, ?_, fun hfinished => ?_, fun choice => ?_, fun c i hclosing hkind hread hopen => ?_⟩
  · rw [hcount]
    split <;> omega
  · rw [← List.countP_pos_iff, hcount]
    cases h.isFinished <;> simp
  · have hover := Playhead.isFinished_iff.1 hfinished
    have hpending := (hs.ends (by simp [hover])).1
    exact ⟨s.run_finished hover, s.advance_none_waiting hpending⟩
  · exact (hs.advances choice).ends_iff hs (advance_sound s hs choice)
  · exact s.run_exhausted (hs.exhausted_of_spoken hclosing hkind hread hopen)

/-- after the line, which nothing follows, the next advance ends the screenplay, and nothing comes after that -/
theorem crossing_ends_once :
    (crossingSetting.advance none (crossingSetting.play [.advance none, .advance (some 0)] .start)).answer =
        .ok .ended ∧
      (crossingSetting.advance none
        (crossingSetting.play [.advance none, .advance (some 0), .advance none] .start)).answer = .error .finished := by
  have hclosing : crossingSetting.screenplay.Closing ⟨1, 0⟩ ⟨"PlayDialog", [], ["a"]⟩ := ⟨rfl, _, ⟨rfl, rfl⟩, rfl⟩
  obtain ⟨-, -, -, -, hspoken⟩ := play_ends_once crossingSetting [.advance none, .advance (some 0)]
  obtain ⟨-, -, hfinal, -, -⟩ := play_ends_once crossingSetting [.advance none, .advance (some 0), .advance none]
  exact ⟨congrArg Turn.answer (hspoken _ _ hclosing rfl rfl rfl), congrArg Turn.answer (hfinal rfl).1⟩

end VisualNovel
