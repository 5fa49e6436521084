/-
What the budget of an advance decides, and what it does not.

A budget cuts a run short between two instructions. The playhead stands there as it would have stood anyway, so the next
advance goes on as if there had been no cut, and the budget shows in the step count of the runaway error only.

- `runOn_split`: a run on two budgets together is the run on the first, and where that ran away, the run on the second
  after it (`Turn.andThen`). By induction on the first budget; when it is used up, only the step count differs
  (`runOn_within`).
- `advance_in_two`: so it is for an advance, with a choice or without. The choice is taken and the line counters start
  over in the first part only.
- `Screenplay.Drags`: silent instructions in a row along first edges. An advance runs away exactly when there are as many
  of them as the budget allows, from the cursor or from where the choice leads (`advance_ranAway`).
- `Drags.for_ever`: a way that comes to an end passes no cursor twice, since each cursor on it is nearer to the end
  (`drags_nodup`). So a way as long as the whole screenplay does not end.
- `runaway_never_rests`: so a budget as large as the screenplay raises no false alarm.
-/
import Mathlib.Data.List.Nodup
import VisualNovel.Proofs.Choices
import VisualNovel.Proofs.Ending

namespace VisualNovel

/-! ## Budgets -/

namespace Setting

/-- the setting with another budget -/
def within (s : Setting) (steps : Nat) : Setting := { s with maxSteps := steps }

/-- the playhead after calls, each on a budget of its own, whatever they answered -/
def playEach (s : Setting) (calls : List (Nat × Call)) (h : Playhead) : Playhead :=
  calls.foldl (fun h call => ((s.within call.1).perform call.2 h).head) h

theorem limit_within (s : Setting) {steps : Nat} (hsteps : 1 ≤ steps) : (s.within steps).limit = steps :=
  Nat.max_eq_right hsteps

theorem tick_within (s : Setting) (steps : Nat) (h : Playhead) : (s.within steps).tick h = s.tick h := rfl

theorem takeBranch_within (s : Setting) (steps edge : Nat) (h : Playhead) :
    (s.within steps).takeBranch edge h = s.takeBranch edge h := rfl

end Setting

/-- the invariant does not speak of the budget -/
theorem Sound.within {s : Setting} {h : Playhead} (hs : Sound s h) (steps : Nat) : Sound (s.within steps) h :=
  ⟨hs.points, hs.waits, hs.ends, hs.spoken, hs.follows⟩

theorem playEach_sound {s : Setting} {h : Playhead} (hs : Sound s h) (calls : List (Nat × Call)) :
    Sound s (s.playEach calls h) := by
  induction calls generalizing h with
  | nil => exact hs
  | cons call calls ih =>
    have hcall := perform_sound (s.within call.1) (hs.within call.1) call.2
    exact ih (hcall.within s.maxSteps)

/-! ## Running away -/

/-- answered with a runaway: the budget was used up -/
def Turn.ranAway {α : Type} (t : Turn α) : Bool :=
  match t.answer with
  | .error reason => reason.isRunaway
  | .ok _ => false

/-- a walk error with this step count, if it has one -/
def WalkError.recount (steps : Nat) : WalkError → WalkError
  | runaway _ => runaway steps
  | reason => reason

/-- a turn with this step count, if it ran away -/
def Turn.recount {α : Type} (steps : Nat) (t : Turn α) : Turn α :=
  { t with answer := t.answer.mapError (WalkError.recount steps) }

/-- a turn and, if it ran away, another one from where it came to -/
def Turn.andThen {α : Type} (t : Turn α) (next : Playhead → Turn α) : Turn α :=
  if t.ranAway then { next t.head with events := t.events ++ (next t.head).events } else t

section Turns

variable {α : Type} {t : Turn α} {next : Playhead → Turn α} {steps : Nat}

theorem WalkError.recount_of_not {reason : WalkError} (hreason : reason.isRunaway = false) :
    reason.recount steps = reason := by
  cases reason <;> first | rfl | cases hreason

theorem Turn.ranAway_iff : t.ranAway ↔ ∃ steps, t.answer = .error (.runaway steps) := by
  unfold ranAway
  cases t.answer with
  | ok a => simp
  | error reason => cases reason <;> simp [WalkError.isRunaway]

theorem Turn.recount_of_not (ht : t.ranAway = false) : t.recount steps = t := by
  obtain ⟨answer, head, events⟩ := t
  cases answer with
  | ok a => rfl
  | error reason =>
    have hreason : reason.recount steps = reason := WalkError.recount_of_not ht
    simp only [recount, Except.mapError, hreason]

theorem Turn.andThen_of_not (ht : t.ranAway = false) : t.andThen next = t := by
  simp only [andThen, ht, Bool.false_eq_true, if_false]

theorem Turn.andThen_of_ranAway (ht : t.ranAway) :
    t.andThen next = { next t.head with events := t.events ++ (next t.head).events } := if_pos ht

/-- what came before a turn comes before all of it -/
theorem Turn.after_andThen (es : List Event) :
    { t with events := es ++ t.events }.andThen next =
      { t.andThen next with events := es ++ (t.andThen next).events } := by
  cases ht : t.ranAway with
  | true =>
    have ht' : { t with events := es ++ t.events }.ranAway := ht
    simp only [andThen_of_ranAway ht, andThen_of_ranAway ht', List.append_assoc]
  | false =>
    have ht' : { t with events := es ++ t.events }.ranAway = false := ht
    rw [andThen_of_not ht, andThen_of_not ht']

end Turns

section Runs

variable {s : Setting} {h : Playhead}

theorem Ticked.not_ranAway {i : Instruction} {answer : Except WalkError Suspension} {g head : Playhead}
    {ns : List Notification} {es : List Event} (ht : Ticked s h i (some answer) g ns) :
    Turn.ranAway ⟨answer, head, es⟩ = false := by
  obtain ⟨suspension, rfl⟩ := ht.answer_ok
  rfl

/-- a run that ran away can go on -/
theorem runOn_ranAway_running (budget : Nat) (hs : Sound s h) (hrun : h.progress = .running)
    (hran : (s.runOn budget h []).ranAway) : (s.runOn budget h []).head.progress = .running := by
  obtain ⟨steps, hanswer⟩ := Turn.ranAway_iff.1 hran
  have hruns := runOn_runs s budget hs hrun
  rw [hanswer] at hruns
  generalize (s.runOn budget h []).head = g at hruns ⊢
  generalize Event.notifications (s.runOn budget h []).events = ns at hruns
  cases hruns with
  | runaway hrs => exact hrs.running hrun

/-- a run on a budget goes by the setting's own budget for the step count only -/
theorem runOn_within (budget a b : Nat) (hs : Sound s h) (hrun : h.progress = .running) :
    (s.within a).runOn budget h [] = ((s.within b).runOn budget h []).recount (s.within a).limit := by
  induction budget generalizing h with
  | zero => rfl
  | succ budget ih =>
    obtain ⟨i, hi⟩ := hs.points
    have ht := s.tick_ticked hi hrun
    rw [Setting.runOn_succ, Setting.runOn_succ, s.tick_within, s.tick_within]
    cases ha : (s.tick h).answer with
    | some answer =>
      rw [ha] at ht
      exact (Turn.recount_of_not ht.not_ranAway).symm
    | none =>
      have hrest := ih (ht.sound hs hrun hi) ((ha ▸ ht).running hrun)
      simp only [hrest]
      rfl

/-- **A run on two budgets together is a run on one after the other.** -/
theorem runOn_split (m n a b c : Nat) (hs : Sound s h) (hrun : h.progress = .running) :
    (s.within a).runOn (m + n) h [] =
      (((s.within b).runOn m h []).andThen fun g => (s.within c).runOn n g []).recount (s.within a).limit := by
  induction m generalizing h with
  | zero =>
    -- the first budget is used up at once, and the second run starts where the first one stands
    rw [Nat.zero_add, runOn_within n a c hs hrun]
    rfl
  | succ m ih =>
    obtain ⟨i, hi⟩ := hs.points
    have ht := s.tick_ticked hi hrun
    rw [Nat.succ_add, Setting.runOn_succ, Setting.runOn_succ, s.tick_within, s.tick_within]
    cases ha : (s.tick h).answer with
    | some answer =>
      rw [ha] at ht
      simp only [Turn.andThen_of_not ht.not_ranAway, Turn.recount_of_not ht.not_ranAway]
    | none =>
      have hrest := ih (ht.sound hs hrun hi) ((ha ▸ ht).running hrun)
      simp only [hrest, Turn.after_andThen]
      rfl

/-! ## Advancing in two parts -/

/-- a run on two budgets; a playhead that is not under way need not be sound, since nothing is executed from there -/
theorem run_in_two {m n : Nat} (hm : 1 ≤ m) (hn : 1 ≤ n) (hs : h.progress = .running → Sound s h) :
    (s.within (m + n)).run h = (((s.within m).run h).andThen (s.within n).run).recount (m + n) := by
  have hlimit := s.limit_within (Nat.le_add_right_of_le hm : 1 ≤ m + n)
  cases hp : h.progress with
  | running =>
    have hsplit := runOn_split m n (m + n) m n (hs hp) hp
    rw [hlimit] at hsplit
    rw [Setting.run_running _ hp, Setting.run_running _ hp, hlimit, s.limit_within hm, hsplit]
    cases hran : ((s.within m).runOn m h []).ranAway with
    | false => rw [Turn.andThen_of_not hran, Turn.andThen_of_not hran]
    | true =>
      have hgo := runOn_ranAway_running m ((hs hp).within m) hp hran
      rw [Turn.andThen_of_ranAway hran, Turn.andThen_of_ranAway hran, Setting.run_running _ hgo, s.limit_within hn]
  | exhausted =>
    rw [Setting.run_exhausted _ hp, Setting.run_exhausted _ hp]
    rfl
  | finished =>
    rw [Setting.run_finished _ hp, Setting.run_finished _ hp]
    rfl

theorem advance_split {m n : Nat} (hm : 1 ≤ m) (hn : 1 ≤ n) (hs : Sound s h) (choice : Option Nat) :
    (s.within (m + n)).advance choice h =
      (((s.within m).advance choice h).andThen ((s.within n).advance none)).recount (m + n) := by
  cases choice with
  | none => exact run_in_two hm hn fun _ => hs
  | some edge =>
    cases hd : h.pending with
    | none =>
      rw [Setting.advance_none_waiting _ hd, Setting.advance_none_waiting _ hd]
      rfl
    | some d =>
      obtain ⟨-, hcursor, -, i, hi, -, -⟩ := hs.waits d hd
      simp only [Setting.advance, s.takeBranch_within]
      rcases s.takeBranch_cases hd hcursor hi edge with ⟨next, es, hleads, htake, -⟩ | ⟨b, htake, -⟩
      · have hgone : (h.released.goTo next).progress = .running → Sound s (h.released.goTo next) := by
          intro hrun
          rw [hs.released_goTo hd] at hrun ⊢
          cases next with
          | some next => exact .moved hleads
          | none => cases hrun
        have hrun := run_in_two hm hn hgone
        simp only [htake, hrun]
        have hbefore : ∀ t : Turn Suspension, es ++ .told .resetLineCounters :: t.events =
            (es ++ [.told .resetLineCounters]) ++ t.events := fun t => by simp
        simp only [hbefore, Turn.after_andThen]
        rfl
      · simp only [htake]
        rfl

end Runs

/-- **Running away and advancing again is running longer.** From every reachable playhead, an advance on a budget of
`m + n` comes to the same as one on a budget of `m` and, only if that ran away, one without a choice on a budget of `n`
after it: the same answer up to the step count of a runaway, the same events in the same order and the same playhead.
So an answer that is no runaway, and all that comes with it, stays the same on every larger budget. -/
theorem advance_in_two (s : Setting) (calls : List (Nat × Call)) (choice : Option Nat) {m n : Nat} (hm : 1 ≤ m)
    (hn : 1 ≤ n) :
    let h := s.playEach calls .start
    let first := (s.within m).advance choice h
    let whole := (s.within (m + n)).advance choice h
    let parts := first.andThen ((s.within n).advance none)
    (whole.answer = parts.answer.mapError (WalkError.recount (m + n)) ∧ whole.events = parts.events ∧
        whole.head = parts.head) ∧
      (first.ranAway = false → ∀ steps, m ≤ steps → (s.within steps).advance choice h = first) := by
  intro h first whole parts
  have hs : Sound s h := playEach_sound (.start s) calls
  have hwhole : whole = parts.recount (m + n) := advance_split hm hn hs choice
  refine ⟨?_, ?_⟩
  · rw [hwhole]
    exact ⟨rfl, rfl, rfl⟩
  · intro hran steps hsteps
    rcases Nat.eq_or_lt_of_le hsteps with rfl | hlt
    · rfl
    · obtain ⟨k, rfl⟩ := Nat.exists_eq_add_of_lt hlt
      have hlonger := advance_split hm (Nat.succ_pos k) hs choice
      rw [Turn.andThen_of_not hran, Turn.recount_of_not hran] at hlonger
      exact hlonger

/-- a script of a decision and, behind it, a block of two sounds that leads to itself -/
def carousel : Script :=
  ⟨[⟨1, [⟨"ShowDecision", [], ["on"]⟩], [2]⟩, ⟨2, [⟨"PlaySe", [], ["a"]⟩, ⟨"PlaySe", [], ["b"]⟩], [2]⟩], []⟩

/-- walks through that script on a budget of its three instructions -/
def carouselSetting : Setting where
  screenplay := ⟨carousel, carousel.fingerprint, Script.wellFormed_of_fault? (by decide), rfl⟩
  roster := ⟨[]⟩
  filter := .standard
  maxSteps := 3

/-- with the choice taken, two sounds and one more are three sounds -/
theorem carousel_in_two :
    let h := carouselSetting.playEach [(1, .advance none)] .start
    let whole := (carouselSetting.within (2 + 1)).advance (some 0) h
    let parts := ((carouselSetting.within 2).advance (some 0) h).andThen ((carouselSetting.within 1).advance none)
    whole.answer = .error (.runaway 3) ∧ parts.answer = .error (.runaway 1) ∧ whole.events = parts.events ∧
      whole.head = parts.head := by
  obtain ⟨⟨hanswer, hevents, hhead⟩, -⟩ :=
    advance_in_two carouselSetting [(1, .advance none)] (some 0) (by decide : 1 ≤ 2) (by decide : 1 ≤ 1)
  exact ⟨hanswer, rfl, hevents, hhead⟩

/-! ## Ways without rest -/

namespace Screenplay

/-- so many instructions in a row are silent, each with a first edge to the next -/
def Drags (s : Screenplay) : Nat → Cursor → Prop
  | 0, _ => True
  | n + 1, c => ∃ i next, s.instructionAt c = .ok i ∧ i.kind.Silent ∧ s.Leads 0 c (some next) ∧ s.Drags n next

/-- the cursors of all instructions -/
def cursors (s : Screenplay) : List Cursor :=
  s.blocks.zipIdx.flatMap fun (b, k) => (List.range b.instructions.length).map (Cursor.mk k)

/-- number of instructions in all blocks -/
def instructionCount (s : Screenplay) : Nat := (s.blocks.flatMap (·.instructions)).length

section Ways

variable {s : Screenplay} {c next : Cursor} {i : Instruction} {n : Nat}

theorem mem_cursors (h : s.Holds c) : c ∈ s.cursors := by
  obtain ⟨b, hb, hlt⟩ := h
  refine List.mem_flatMap.2 ⟨(b, c.block), List.mem_zipIdx_iff_getElem?.2 hb, ?_⟩
  exact List.mem_map.2 ⟨c.instruction, List.mem_range.2 hlt, rfl⟩

theorem length_cursors (s : Screenplay) : s.cursors.length = s.instructionCount := by
  have hblocks : s.blocks.map (·.instructions.length) = s.blocks.zipIdx.map fun b => b.1.instructions.length := by
    conv_lhs => rw [← List.zipIdx_map_fst 0 s.blocks]
    rw [List.map_map]
    rfl
  simp only [cursors, instructionCount, List.length_flatMap, List.length_map, List.length_range, hblocks]

theorem drags_succ_iff (hi : s.instructionAt c = .ok i) (hsilent : i.kind.Silent) (hnext : s.Leads 0 c (some next)) :
    s.Drags (n + 1) c ↔ s.Drags n next := by
  constructor
  · rintro ⟨-, next', -, -, hnext', hrest⟩
    obtain rfl := Option.some.inj (hnext'.unique hnext)
    exact hrest
  · exact fun hrest => ⟨i, next, hi, hsilent, hnext, hrest⟩

theorem Drags.silent (h : s.Drags (n + 1) c) (hi : s.instructionAt c = .ok i) : i.kind.Silent := by
  obtain ⟨j, -, hj, hsilent, -⟩ := h
  obtain rfl := instruction_unique hi hj
  exact hsilent

theorem Drags.not_last (h : s.Drags (n + 1) c) : ¬ s.Leads 0 c none := by
  intro hlast
  obtain ⟨_, _, _, _, hnext, _⟩ := h
  cases hlast.unique hnext

theorem Drags.mono {m : Nat} (h : s.Drags n c) (hm : m ≤ n) : s.Drags m c := by
  induction m generalizing n c with
  | zero => trivial
  | succ m ih =>
    obtain ⟨n, rfl⟩ := Nat.exists_eq_add_of_lt hm
    obtain ⟨i, next, hi, hsilent, hnext, hrest⟩ := h
    exact ⟨i, next, hi, hsilent, hnext, ih hrest (by omega)⟩

/-- **A way that comes to an end passes no cursor twice**: each cursor on it drags on for less than the one before. -/
theorem drags_nodup (hc : s.Holds c) (hdrags : s.Drags n c) (hend : ¬ s.Drags (n + 1) c) :
    ∃ ds : List Cursor, ds.Nodup ∧ ds.length = n + 1 ∧ ∀ d ∈ ds, s.Holds d ∧ ¬ s.Drags (n + 1) d := by
  induction n generalizing c with
  | zero => exact ⟨[c], List.nodup_singleton c, rfl, by simpa using ⟨hc, hend⟩⟩
  | succ n ih =>
    obtain ⟨i, next, hi, hsilent, hnext, hrest⟩ := hdrags
    have hend' : ¬ s.Drags (n + 1) next := fun h => hend ⟨i, next, hi, hsilent, hnext, h⟩
    obtain ⟨ds, hnodup, hlength, hds⟩ := ih (holds_iff.2 hnext.instruction) hrest hend'
    have hnew : c ∉ ds := fun hmem => (hds c hmem).2 ⟨i, next, hi, hsilent, hnext, hrest⟩
    refine ⟨c :: ds, List.nodup_cons.2 ⟨hnew, hnodup⟩, congrArg Nat.succ hlength, ?_⟩
    intro d hd
    rcases List.mem_cons.1 hd with rfl | hd
    · exact ⟨hc, hend⟩
    · exact ⟨(hds d hd).1, fun h => (hds d hd).2 (h.mono (Nat.le_succ _))⟩

/-- **A way as long as the screenplay has instructions does not end.** -/
theorem Drags.for_ever (h : s.Drags s.instructionCount c) (hc : s.Holds c) (n : Nat) : s.Drags n c := by
  by_contra hend
  -- take the length at which the way ends: its cursors are one more than its instructions
  induction n with
  | zero => exact hend trivial
  | succ n ih =>
    by_cases hdrags : s.Drags n c
    · obtain ⟨ds, hnodup, hlength, hds⟩ := drags_nodup hc hdrags hend
      have hsubset : ds ⊆ s.cursors := fun d hd => mem_cursors (hds d hd).1
      have hle := hnodup.length_le_of_subset hsubset
      rw [hlength, s.length_cursors] at hle
      exact hend (h.mono hle)
    · exact ih hdrags

/-- the way along first edges goes on for ever, past silent instructions only -/
def IsEndless (s : Screenplay) (way : Nat → Cursor) : Prop :=
  ∀ k, ∃ i, s.instructionAt (way k) = .ok i ∧ i.kind.Silent ∧ s.Leads 0 (way k) (some (way (k + 1)))

theorem IsEndless.drags {way : Nat → Cursor} (h : s.IsEndless way) (n k : Nat) : s.Drags n (way k) := by
  induction n generalizing k with
  | zero => trivial
  | succ n ih =>
    obtain ⟨i, hi, hsilent, hnext⟩ := h k
    exact ⟨i, way (k + 1), hi, hsilent, hnext, ih (k + 1)⟩

/-- silent instructions without end are a way without end -/
theorem exists_endless (h : ∀ n, s.Drags n c) : ∃ way, way 0 = c ∧ s.IsEndless way := by
  have hstep : ∀ d : { d // ∀ n, s.Drags n d }, ∃ e : { d // ∀ n, s.Drags n d }, ∃ i,
      s.instructionAt d = .ok i ∧ i.kind.Silent ∧ s.Leads 0 d (some e) := by
    rintro ⟨d, hd⟩
    obtain ⟨i, next, hi, hsilent, hnext, -⟩ := hd 1
    exact ⟨⟨next, fun n => (drags_succ_iff hi hsilent hnext).1 (hd (n + 1))⟩, i, hi, hsilent, hnext⟩
  choose next hnext using hstep
  refine ⟨fun k => next^[k] ⟨c, h⟩, rfl, ?_⟩
  intro k
  simp only [Function.iterate_succ_apply']
  exact hnext _

end Ways

end Screenplay

/-! ## False alarms -/

/-- where an advance starts to execute: under the cursor, or where the choice leads -/
inductive Departs (s : Screenplay) (h : Playhead) : Option Nat → Cursor → Prop where
  | onward : Departs s h none h.cursor
  | chosen {d : Pending} {edge : Nat} {next : Cursor} (hd : h.pending = some d)
    (hnext : s.Leads edge h.cursor (some next)) : Departs s h (some edge) next

section Alarms

variable {s : Setting} {h : Playhead}

theorem Departs.holds {choice : Option Nat} {c : Cursor} (hc : Departs s.screenplay h choice c) (hs : Sound s h) :
    s.screenplay.Holds c := by
  cases hc with
  | onward => exact hs.holds
  | chosen hd hnext => exact Screenplay.holds_iff.2 hnext.instruction

theorem runOn_ranAway (budget : Nat) (hs : Sound s h) (hrun : h.progress = .running) :
    (s.runOn budget h []).ranAway ↔ s.screenplay.Drags budget h.cursor := by
  induction budget generalizing h with
  | zero => exact iff_of_true rfl trivial
  | succ budget ih =>
    obtain ⟨i, hi⟩ := hs.points
    have ht := s.tick_ticked hi hrun
    have hsound := ht.sound hs hrun hi
    rw [Setting.runOn_succ]
    generalize (s.tick h).answer = answer at ht ⊢
    generalize (s.tick h).head = head at ht hsound ⊢
    generalize Event.notifications (s.tick h).events = ns at ht
    cases ht with
    | line hkind => exact iff_of_false Bool.false_ne_true fun hdrags => (hdrags.silent hi).1 hkind
    | decision hkind => exact iff_of_false Bool.false_ne_true fun hdrags => (hdrags.silent hi).2 hkind
    | silent hline hdecision hnext =>
      rw [Screenplay.drags_succ_iff hi ⟨hline, hdecision⟩ hnext]
      exact ih hsound hrun
    | last _ _ hnext => exact iff_of_false Bool.false_ne_true fun hdrags => hdrags.not_last hnext

theorem run_ranAway (hs : Sound s h) : (s.run h).ranAway ↔ s.screenplay.Drags s.limit h.cursor := by
  -- a walk that is over stands where the first edge leads nowhere
  have hover : h.progress ≠ .running → ¬ s.screenplay.Drags s.limit h.cursor := by
    intro hp hdrags
    obtain ⟨-, -, b, hlast, hedges⟩ := hs.ends hp
    have hone : s.screenplay.Drags 1 h.cursor := hdrags.mono s.limit_pos
    exact hone.not_last (.off hlast hedges rfl)
  cases hp : h.progress with
  | running =>
    rw [s.run_running hp]
    exact runOn_ranAway s.limit hs hp
  | exhausted =>
    rw [s.run_exhausted hp]
    exact iff_of_false Bool.false_ne_true (hover (by simp [hp]))
  | finished =>
    rw [s.run_finished hp]
    exact iff_of_false Bool.false_ne_true (hover (by simp [hp]))

/-- **An advance runs away exactly where silent instructions use up its budget.** -/
theorem advance_ranAway (hs : Sound s h) (choice : Option Nat) : (s.advance choice h).ranAway ↔
    ∃ c, Departs s.screenplay h choice c ∧ s.screenplay.Drags s.limit c := by
  cases choice with
  | none =>
    refine (run_ranAway hs).trans ⟨fun hdrags => ⟨_, .onward, hdrags⟩, ?_⟩
    rintro ⟨_, ⟨⟩, hdrags⟩
    exact hdrags
  | some edge =>
    have hc := hs.chosen edge
    generalize s.advance (some edge) h = t at hc ⊢
    cases hc with
    | noDecision hd =>
      refine iff_of_false Bool.false_ne_true ?_
      rintro ⟨c, hc, -⟩
      cases hc with
      | chosen hd' => cases hd.symm.trans hd'
    | noEdge hd hlast hedge hfirst =>
      refine iff_of_false Bool.false_ne_true ?_
      rintro ⟨c, hc, -⟩
      have hlacks : s.screenplay.LacksEdge edge h.cursor _ := ⟨hlast, hedge, hfirst⟩
      cases hc with
      | chosen _ hnext => exact hlacks.leads_nowhere _ hnext
    | @taken d next es hd hleads _ =>
      change (s.run (h.released.goTo next)).ranAway ↔ _
      rw [hs.released_goTo hd]
      cases next with
      | none =>
        rw [s.run_exhausted rfl]
        refine iff_of_false Bool.false_ne_true ?_
        rintro ⟨c, hc, -⟩
        cases hc with
        | chosen _ hnext => cases hnext.unique hleads
      | some next =>
        refine (run_ranAway (.moved hleads)).trans ⟨fun hdrags => ⟨_, .chosen hd hleads, hdrags⟩, ?_⟩
        rintro ⟨c, hc, hdrags⟩
        cases hc with
        | chosen _ hnext =>
          obtain rfl := Option.some.inj (hnext.unique hleads)
          exact hdrags

/-- on a budget as large as the screenplay it runs away exactly where the way does not end -/
theorem advance_ranAway_endless (hs : Sound s h) (choice : Option Nat)
    (hbudget : s.screenplay.instructionCount ≤ s.limit) : (s.advance choice h).ranAway ↔
      ∃ way, Departs s.screenplay h choice (way 0) ∧ s.screenplay.IsEndless way := by
  rw [advance_ranAway hs choice]
  constructor
  · rintro ⟨c, hc, hdrags⟩
    have hcount := hdrags.mono hbudget
    obtain ⟨way, rfl, hway⟩ := Screenplay.exists_endless (hcount.for_ever (hc.holds hs))
    exact ⟨way, hc, hway⟩
  · rintro ⟨way, hc, hway⟩
    exact ⟨way 0, hc, hway.drags s.limit 0⟩

theorem Setting.instructionCount_pos (s : Setting) : 0 < s.screenplay.instructionCount := by
  rw [← s.screenplay.length_cursors]
  exact List.length_pos_of_mem (Screenplay.mem_cursors (Sound.start s).holds)

end Alarms

/-- **A budget as large as the screenplay raises no false alarm.** From every reachable playhead an advance on such a
budget runs away only if the way along first edges, from the cursor or from where the choice leads, goes on for ever past
silent instructions: to no line, no decision and no end of a block without edges. Then the same call runs away on every
larger budget too. -/
theorem runaway_never_rests (s : Setting) (calls : List (Nat × Call)) (choice : Option Nat)
    (hbudget : s.screenplay.instructionCount ≤ s.maxSteps) :
    let h := s.playEach calls .start
    ((s.advance choice h).ranAway ↔
      ∃ way, Departs s.screenplay h choice (way 0) ∧ s.screenplay.IsEndless way) ∧
    ((s.advance choice h).ranAway → ∀ steps, s.maxSteps ≤ steps →
      ((s.within steps).advance choice h).answer = .error (.runaway steps)) := by
  intro h
  have hs : Sound s h := playEach_sound (.start s) calls
  have hlimit : s.screenplay.instructionCount ≤ s.limit := hbudget.trans (Nat.le_max_right 1 s.maxSteps)
  refine ⟨advance_ranAway_endless hs choice hlimit, ?_⟩
  intro hran steps hsteps
  have hpos : 1 ≤ steps := s.instructionCount_pos.trans_le (hbudget.trans hsteps)
  have hlarger := s.limit_within hpos
  have hs' := hs.within steps
  have hlimit' : s.screenplay.instructionCount ≤ (s.within steps).limit := by
    rw [hlarger]
    exact hbudget.trans hsteps
  have hran' : ((s.within steps).advance choice h).ranAway :=
    (advance_ranAway_endless hs' choice hlimit').2 ((advance_ranAway_endless hs choice hlimit).1 hran)
  obtain ⟨count, hanswer⟩ := Turn.ranAway_iff.1 hran'
  have hrefusal := advance_refusal hs' hanswer
  generalize s.within steps = larger at *
  cases hrefusal with
  | runaway => rw [hanswer, hlarger]

/-- behind the decision the sounds never end, and a larger budget is used up as well -/
theorem carousel_never_rests :
    let h := carouselSetting.playEach [(1, .advance none)] .start
    carouselSetting.screenplay.instructionCount ≤ carouselSetting.maxSteps ∧
      (carouselSetting.advance (some 0) h).ranAway ∧
      ((carouselSetting.within 100000).advance (some 0) h).answer = .error (.runaway 100000) := by
  have hbudget : carouselSetting.screenplay.instructionCount ≤ carouselSetting.maxSteps := by decide
  have hran : (carouselSetting.advance (some 0) (carouselSetting.playEach [(1, .advance none)] .start)).ranAway := rfl
  refine ⟨hbudget, hran, ?_⟩
  exact (runaway_never_rests carouselSetting [(1, .advance none)] (some 0) hbudget).2 hran 100000 (by decide)

end VisualNovel
