/-
A session that is left alone.

When the input has ended, every read gives an empty line, and an empty line is Enter. Enter goes on where the player is
waited for and takes first edges only; where a choice is asked for it is refused and changes nothing. So a session that
is left alone ends only where its way along first edges does, and it may wait or go round for ever.

- `Screenplay.Coasts`: the way along first edges, past instructions that are no decision, with the lines on it.
- `Setting.RestsIn`: that way leads beyond the end, or to silent instructions that use up the budget of an advance, with
  so many lines on it at most. One run brings it nearer by the line that it shows (`runOn_settles`).
- `Player.over_iff`: hence a session is over one Enter after the last line of that way, and not before.
- `RestsIn.bounded`: a way that comes to rest need not pass a line twice, so the lines of the screenplay bound it.
- `stops_iff_comes_to_rest` puts it together for a session after any lines; `left_alone_for_ever` has a session that
  waits for a choice and one that goes round.
-/
import VisualNovel.Proofs.Budget
import VisualNovel.Proofs.Failures
import VisualNovel.Proofs.Itinerary

namespace VisualNovel

/-! ## The way along first edges -/

namespace Screenplay

/-- along first edges from a cursor, or from beyond the end, past instructions that are no decision; with the cursors of
the lines on the way -/
inductive Coasts (s : Screenplay) : List Cursor → Option Cursor → Option Cursor → Prop where
  | here (o : Option Cursor) : Coasts s [] o o
  | line {c : Cursor} {i : Instruction} {next o : Option Cursor} {ls : List Cursor} (hi : s.instructionAt c = .ok i)
    (hkind : i.kind = .playDialog) (hnext : s.Leads 0 c next) (hrest : Coasts s ls next o) :
    Coasts s (c :: ls) (some c) o
  | silent {c : Cursor} {i : Instruction} {next o : Option Cursor} {ls : List Cursor} (hi : s.instructionAt c = .ok i)
    (hsilent : i.kind.Silent) (hnext : s.Leads 0 c next) (hrest : Coasts s ls next o) : Coasts s ls (some c) o

/-- whether the cursor is at a line -/
def isLine (s : Screenplay) (c : Cursor) : Bool :=
  match s.instructionAt c with
  | .ok i => i.kind = .playDialog
  | .error _ => false

/-- the cursors of all lines -/
def lines (s : Screenplay) : List Cursor :=
  (s.blocks.zipIdx.flatMap fun (b, k) => (List.range b.instructions.length).map (Cursor.mk k)).filter s.isLine

section Ways

variable {s : Screenplay} {c : Cursor} {i : Instruction} {o d : Option Cursor} {ls : List Cursor}

theorem mem_lines (hi : s.instructionAt c = .ok i) (hkind : i.kind = .playDialog) : c ∈ s.lines := by
  have hline : s.isLine c := by simp only [isLine, hi, hkind, decide_true]
  exact List.mem_filter.2 ⟨mem_cursors (holds_iff.2 ⟨i, hi⟩), hline⟩

namespace Coasts

theorem subset_lines (h : s.Coasts ls o d) : ls ⊆ s.lines := by
  induction h with
  | here => exact List.nil_subset _
  | line hi hkind _ _ ih => exact List.cons_subset.2 ⟨mem_lines hi hkind, ih⟩
  | silent _ _ _ _ ih => exact ih

/-- the way on from a line that is on the way -/
theorem from_line (h : s.Coasts ls o d) (hc : c ∈ ls) :
    ∃ more, (c :: more) <:+ ls ∧ s.Coasts (c :: more) (some c) d := by
  induction h with
  | here => cases hc
  | @line first i next d ls hi hkind hnext hrest ih =>
    rcases List.mem_cons.1 hc with rfl | hc
    · exact ⟨ls, List.suffix_refl _, .line hi hkind hnext hrest⟩
    · obtain ⟨more, hmore, hway⟩ := ih hc
      exact ⟨more, hmore.trans (List.suffix_cons _ _), hway⟩
  | silent _ _ _ _ ih => exact ih hc

/-- a way need not pass a line twice -/
theorem nodup (h : s.Coasts ls o d) : ∃ ks, s.Coasts ks o d ∧ ks.Nodup := by
  induction h with
  | here o => exact ⟨[], .here o, List.nodup_nil⟩
  | @line c i next d ls hi hkind hnext hrest ih =>
    obtain ⟨ks, hks, hnodup⟩ := ih
    by_cases hc : c ∈ ks
    · -- the line comes again, and the way on from there will do
      obtain ⟨more, hmore, hway⟩ := hks.from_line hc
      exact ⟨c :: more, hway, hnodup.sublist hmore.sublist⟩
    · exact ⟨c :: ks, .line hi hkind hnext hks, List.nodup_cons.2 ⟨hc, hnodup⟩⟩
  | silent hi hsilent hnext _ ih =>
    obtain ⟨ks, hks, hnodup⟩ := ih
    exact ⟨ks, .silent hi hsilent hnext hks, hnodup⟩

end Coasts

end Ways

end Screenplay

/-! ## Coming to rest -/

/-- a way along first edges comes to rest: beyond the end, or where the budget of an advance is used up -/
def Setting.RestsAt (s : Setting) : Option Cursor → Prop
  | none => True
  | some c => s.screenplay.Drags s.limit c

/-- the way along first edges comes to rest with so many lines on it at most -/
def Setting.RestsIn (s : Setting) (n : Nat) (o : Option Cursor) : Prop :=
  ∃ ls d, ls.length ≤ n ∧ s.screenplay.Coasts ls o d ∧ s.RestsAt d

/-- the walk does, if it goes on without a choice -/
def Setting.ComesToRest (s : Setting) (n : Nat) (h : Playhead) : Prop := ∃ o, h.station = .after o ∧ s.RestsIn n o

section Resting

variable {s : Setting} {h : Playhead} {n : Nat} {c next : Cursor} {i : Instruction} {o : Option Cursor}

theorem Setting.RestsAt.silent (h : s.RestsAt (some c)) (hi : s.screenplay.instructionAt c = .ok i) : i.kind.Silent := by
  have hlimit := s.limit_pos
  have hdrags : s.screenplay.Drags 1 c := Screenplay.Drags.mono h hlimit
  exact hdrags.silent hi

theorem Setting.restsIn_none (s : Setting) (n : Nat) : s.RestsIn n none := ⟨[], none, Nat.zero_le n, .here none, trivial⟩

theorem Setting.RestsIn.mono {m : Nat} (h : s.RestsIn n o) (hm : n ≤ m) : s.RestsIn m o := by
  obtain ⟨ls, d, hlength, hway, hrest⟩ := h
  exact ⟨ls, d, hlength.trans hm, hway, hrest⟩

/-- **The lines of the screenplay bound the way to rest.** -/
theorem Setting.RestsIn.bounded (h : s.RestsIn n o) : s.RestsIn s.screenplay.lines.length o := by
  obtain ⟨ls, d, -, hway, hrest⟩ := h
  obtain ⟨ks, hks, hnodup⟩ := hway.nodup
  exact ⟨ks, d, hnodup.length_le_of_subset hks.subset_lines, hks, hrest⟩

/-- from a line it goes on where the first edge leads, with a line less to come -/
theorem restsIn_line (hi : s.screenplay.instructionAt c = .ok i) (hkind : i.kind = .playDialog)
    (hnext : s.screenplay.Leads 0 c o) : s.RestsIn n (some c) ↔ ∃ m, n = m + 1 ∧ s.RestsIn m o := by
  constructor
  · rintro ⟨ls, d, hlength, hway, hrest⟩
    cases hway with
    | here => exact absurd hkind (hrest.silent hi).1
    | @line c _ _ _ ks _ _ hnext' hks =>
      obtain rfl := hnext.unique hnext'
      rw [List.length_cons] at hlength
      exact ⟨n - 1, by omega, ks, d, by omega, hks, hrest⟩
    | silent hj hsilent =>
      obtain rfl := Screenplay.instruction_unique hi hj
      exact absurd hkind hsilent.1
  · rintro ⟨m, rfl, ls, d, hlength, hway, hrest⟩
    exact ⟨c :: ls, d, Nat.succ_le_succ hlength, .line hi hkind hnext hway, hrest⟩

/-- from a silent instruction it goes on, unless the budget is used up from there -/
theorem restsIn_silent (hi : s.screenplay.instructionAt c = .ok i) (hsilent : i.kind.Silent)
    (hnext : s.screenplay.Leads 0 c o) :
    s.RestsIn n (some c) ↔ s.RestsIn n o ∨ s.screenplay.Drags s.limit c := by
  constructor
  · rintro ⟨ls, d, hlength, hway, hrest⟩
    cases hway with
    | here => exact Or.inr hrest
    | line hj hkind =>
      obtain rfl := Screenplay.instruction_unique hi hj
      exact absurd hkind hsilent.1
    | silent _ _ hnext' hks =>
      obtain rfl := hnext.unique hnext'
      exact Or.inl ⟨ls, d, hlength, hks, hrest⟩
  · rintro (⟨ls, d, hlength, hway, hrest⟩ | hdrags)
    · exact ⟨ls, d, hlength, .silent hi hsilent hnext hway, hrest⟩
    · exact ⟨[], some c, Nat.zero_le n, .here _, hdrags⟩

theorem not_restsIn_decision (hi : s.screenplay.instructionAt c = .ok i) (hkind : i.kind = .showDecision) :
    ¬ s.RestsIn n (some c) := by
  rintro ⟨ls, d, -, hway, hrest⟩
  cases hway with
  | here => exact absurd hkind (hrest.silent hi).2
  | line hj hline =>
    obtain rfl := Screenplay.instruction_unique hi hj
    cases hkind.symm.trans hline
  | silent hj hsilent =>
    obtain rfl := Screenplay.instruction_unique hi hj
    exact absurd hkind hsilent.2

/-- a station stands for one way on -/
theorem Station.after_injective {a b : Option Cursor} (h : Station.after a = Station.after b) : a = b := by
  cases a <;> cases b <;> cases h <;> rfl

theorem comesToRest_iff (hstation : h.station = .after o) : s.ComesToRest n h ↔ s.RestsIn n o := by
  constructor
  · rintro ⟨o', ho', hrest⟩
    obtain rfl := Station.after_injective (hstation.symm.trans ho')
    exact hrest
  · exact fun hrest => ⟨o, hstation, hrest⟩

/-! ## A run -/

/-- what a run answers leaves the walk to come to rest: with a line less, or at once; not at a decision -/
def Setting.Settles (s : Setting) (n : Nat) (answer : Except WalkError Suspension) (g : Playhead) : Prop :=
  match answer with
  | .ok (.line _) => ∃ m, n = m + 1 ∧ s.ComesToRest m g
  | .ok (.decision _) => False
  | .ok .ended | .error _ => True

/-- **One run settles what comes to rest, and nothing else**: on any part of the budget the way comes to rest, or it is
silent for as long as the budget lasts. -/
theorem runOn_settles (s : Setting) (n budget : Nat) (hbudget : budget ≤ s.limit) {h : Playhead} (hs : Sound s h)
    (hrun : h.progress = .running) (hfree : h.pending = none) :
    s.Settles n (s.runOn budget h []).answer (s.runOn budget h []).head ↔
      s.RestsIn n (some h.cursor) ∨ s.screenplay.Drags budget h.cursor := by
  induction budget generalizing h with
  | zero => exact iff_of_true trivial (Or.inr trivial)
  | succ budget ih =>
    obtain ⟨i, hi⟩ := hs.points
    have ht := s.tick_ticked hi hrun
    have hsound := ht.sound hs hrun hi
    rw [Setting.runOn_succ]
    generalize (s.tick h).answer = answer at ht ⊢
    generalize (s.tick h).head = head at ht hsound ⊢
    generalize Event.notifications (s.tick h).events = ns at ht
    cases ht with
    | @line next hkind hnext =>
      have hdecision : i.kind ≠ .showDecision := by simp [hkind]
      have hstation : (h.read.goTo next).station = .after next := by
        rw [hs.read_goTo hrun hi hdecision, Playhead.station_goTo]
      have hspeaks : ¬ s.screenplay.Drags (budget + 1) h.cursor := fun hdrags => (hdrags.silent hi).1 hkind
      rw [or_iff_left hspeaks, restsIn_line hi hkind hnext]
      simp only [Setting.Settles, comesToRest_iff hstation]
    | decision hkind =>
      have hasks : ¬ s.screenplay.Drags (budget + 1) h.cursor := fun hdrags => (hdrags.silent hi).2 hkind
      rw [or_iff_left hasks]
      exact iff_of_false id (not_restsIn_decision hi hkind)
    | @silent next hline hdecision hnext =>
      have hsilent : i.kind.Silent := ⟨hline, hdecision⟩
      have hpast := hs.read_goTo hrun hi hdecision (some next)
      have hlonger : s.screenplay.Drags s.limit h.cursor → s.screenplay.Drags budget next :=
        fun hdrags => (Screenplay.drags_succ_iff hi hsilent hnext).1 (hdrags.mono hbudget)
      simp only [hpast] at hsound ⊢
      refine (ih (by omega) hsound rfl rfl).trans ?_
      change s.RestsIn n (some next) ∨ s.screenplay.Drags budget next ↔ _
      rw [restsIn_silent hi hsilent hnext, Screenplay.drags_succ_iff hi hsilent hnext, or_assoc,
        or_iff_right_of_imp hlonger]
    | last hline hdecision hnext =>
      have hsilent : i.kind.Silent := ⟨hline, hdecision⟩
      exact iff_of_true trivial (Or.inl ((restsIn_silent hi hsilent hnext).2 (Or.inl (s.restsIn_none n))))

theorem run_settles (hs : Sound s h) (hfree : h.pending = none) (hopen : h.isFinished = false) :
    s.Settles n (s.run h).answer (s.run h).head ↔ s.ComesToRest n h := by
  cases hp : h.progress with
  | running =>
    have hstation : h.station = .after (some h.cursor) := by
      simp only [Playhead.station, hfree, hp]
      rfl
    rw [s.run_running hp, runOn_settles s n s.limit le_rfl hs hp hfree, comesToRest_iff hstation, or_iff_left_of_imp]
    exact fun hdrags => ⟨[], _, Nat.zero_le n, .here _, hdrags⟩
  | exhausted =>
    have hstation : h.station = .after none := by
      simp only [Playhead.station, hfree, hp]
      rfl
    rw [s.run_exhausted hp, comesToRest_iff hstation]
    exact iff_of_true trivial (s.restsIn_none n)
  | finished => simp [Playhead.isFinished, hp] at hopen

end Resting

/-! ## Sessions -/

/-- whether the session is over -/
def Scene.over {σ : Type} : Scene σ → Bool
  | .closed .. => true
  | .opening .. | .prompting _ => false

namespace Player

variable {σ : Type} {p : Player σ} {n : Nat}

/-- what is read at such times when the input has ended -/
def silence (times : List Nat) : List (Nat × String) := times.map fun now => (now, "")

/-- left alone, the session comes to rest with so many lines to come at most: it is over, or the player is waited for and
the walk comes to rest -/
def RestsIn (p : Player σ) (n : Nat) : Scene σ → Prop
  | .opening engine _ => p.production.setting.ComesToRest n engine.head
  | .prompting s => s.shown.next = .waitUser ∧ p.production.setting.ComesToRest n s.engine.head
  | .closed .. => True

/-- left alone, the session comes to rest -/
def ComesToRest (p : Player σ) (scene : Scene σ) : Prop := ∃ n, p.RestsIn n scene

theorem RestsIn.mono {scene : Scene σ} (h : p.RestsIn n scene) {m : Nat} (hm : n ≤ m) : p.RestsIn m scene := by
  cases scene with
  | opening =>
    obtain ⟨o, hstation, hrest⟩ := h
    exact ⟨o, hstation, hrest.mono hm⟩
  | prompting =>
    obtain ⟨hnext, o, hstation, hrest⟩ := h
    exact ⟨hnext, o, hstation, hrest.mono hm⟩
  | closed => trivial

theorem RestsIn.bounded {scene : Scene σ} (h : p.RestsIn n scene) :
    p.RestsIn p.production.setting.screenplay.lines.length scene := by
  cases scene with
  | opening =>
    obtain ⟨o, hstation, hrest⟩ := h
    exact ⟨o, hstation, hrest.bounded⟩
  | prompting =>
    obtain ⟨hnext, o, hstation, hrest⟩ := h
    exact ⟨hnext, o, hstation, hrest.bounded⟩
  | closed => trivial

/-- a step of an engine that is ready brings the session to rest, or nearer to it by the line that is shown -/
theorem advance_rests {engine : Engine} (hready : Ready p.production engine) (contents : σ) (view : View) :
    p.production.setting.ComesToRest n engine.head ↔
      (p.advance engine contents view).1.over ∨ ∃ m, n = m + 1 ∧ p.RestsIn m (p.advance engine contents view).1 := by
  rw [← run_settles hready.sound hready.free hready.goesOn]
  have hstep : p.production.step engine = p.production.deliver engine (p.production.setting.run engine.head) := by
    simp only [Production.step, hready.free]
    rfl
  simp only [advance, hstep, Production.deliver, Production.watch, Production.hear]
  cases (p.production.setting.run engine.head).answer with
  | error reason => exact iff_of_true trivial (Or.inl rfl)
  | ok suspension =>
    cases suspension with
    | line l => simp [Setting.Settles, present, Production.resultOf, Scene.over, RestsIn]
    | decision labels => simp [Setting.Settles, present, Production.resultOf, Scene.over, RestsIn]
    | ended => exact iff_of_true trivial (Or.inl rfl)

theorem feed_blank (p : Player σ) (now : Nat) (s : Session σ) : p.feed now (.prompting s) "" = p.obey now s .next := rfl

/-- **One Enter** brings a session to rest, or nearer to it, or leaves it. -/
theorem after_blank_rests (p : Player σ) (contents : σ) (lines : List (Nat × String)) (now : Nat)
    (hopen : (p.after (opened contents) lines).over = false) :
    p.RestsIn n (p.after (opened contents) lines) ↔
      (p.after (opened contents) (lines ++ [(now, "")])).over ∨
        ∃ m, n = m + 1 ∧ p.RestsIn m (p.after (opened contents) (lines ++ [(now, "")])) := by
  rw [after_append]
  have hready := fun s => p.after_ready contents (s := s) lines
  have hstands := p.after_stands contents lines
  generalize p.after (opened contents) lines = scene at hopen hready hstands ⊢
  cases scene with
  | closed => cases hopen
  | opening engine rest =>
    cases hstands
    exact advance_rests (.start p.production) _ _
  | prompting s =>
    have hfeed : p.after (.prompting s) [(now, "")] = (p.obey now s .next).1 := rfl
    rw [hfeed]
    by_cases hnext : s.shown.next = .waitUser
    · have hstep : p.obey now s .next = p.advance s.engine s.contents s.view := by simp only [obey, hnext]
      rw [hstep, ← advance_rests (hready s rfl hnext)]
      exact and_iff_right hnext
    · rw [obey_next_refused hnext]
      simp [answer, RestsIn, Scene.over, hnext]

theorem over_closed {scene : Scene σ} (hover : scene.over) : ∃ rest failure, scene = .closed rest failure := by
  cases scene with
  | closed rest failure => exact ⟨rest, failure, rfl⟩
  | opening => cases hover
  | prompting => cases hover

/-- **A session that is left alone is over one Enter after the last line of its way to rest**, and not before. -/
theorem over_iff (p : Player σ) (contents : σ) (lines : List (Nat × String)) (times : List Nat)
    (hlength : times.length = n + 1) :
    (p.after (opened contents) (lines ++ silence times)).over ↔ p.RestsIn n (p.after (opened contents) lines) := by
  induction times generalizing lines n with
  | nil => cases hlength
  | cons now times ih =>
    cases hopen : (p.after (opened contents) lines).over with
    | true =>
      obtain ⟨rest, failure, hclosed⟩ := over_closed hopen
      rw [after_append, hclosed, after_closed]
      exact iff_of_true rfl trivial
    | false =>
      have hsplit : lines ++ silence (now :: times) = (lines ++ [(now, "")]) ++ silence times := by
        simp [silence]
      rw [p.after_blank_rests contents lines now hopen, hsplit]
      cases n with
      | zero =>
        obtain rfl : times = [] := List.length_eq_zero_iff.1 (Nat.succ.inj hlength)
        simp [silence]
      | succ n =>
        rw [ih (lines ++ [(now, "")]) (Nat.succ.inj hlength)]
        constructor
        · exact fun hrest => Or.inr ⟨n, rfl, hrest⟩
        · rintro (hover | ⟨m, hm, hrest⟩)
          · obtain ⟨rest, failure, hclosed⟩ := over_closed hover
            rw [hclosed]
            trivial
          · cases hm
            exact hrest

/-- **When a session stops whose input has ended.** After any lines, every further read gives an empty line. The session
stops after finitely many of these reads exactly when it comes to rest: it is over already, or the player is waited for
and the way along first edges leads past no decision beyond the end or to silent instructions that use up the budget of an
advance. Then one read more than the screenplay has lines is enough. Where a choice is asked for, each read is refused,
and the session stays as it is. -/
theorem stops_iff_comes_to_rest (p : Player σ) (contents : σ) (lines : List (Nat × String)) :
    let scene := p.after (opened contents) lines
    ((∃ times, (p.after (opened contents) (lines ++ silence times)).over) ↔ p.ComesToRest scene) ∧
      (p.ComesToRest scene → ∀ times, p.production.setting.screenplay.lines.length < times.length →
        (p.after (opened contents) (lines ++ silence times)).over) ∧
      ∀ s, scene = .prompting s → s.shown.next = .waitBranch →
        (∀ now, p.feed now scene "" = answer s ["Select a choice first."]) ∧
          ∀ times, p.after (opened contents) (lines ++ silence times) = scene := by
  intro scene
  have hwithin : p.ComesToRest scene → ∀ times, p.production.setting.screenplay.lines.length < times.length →
      (p.after (opened contents) (lines ++ silence times)).over := by
    rintro ⟨n, hrest⟩ times hlength
    obtain ⟨k, hk⟩ := Nat.exists_eq_add_of_lt hlength
    rw [over_iff p contents lines times hk]
    exact hrest.bounded.mono (Nat.le_add_right _ _)
  refine ⟨⟨?_, fun hrest => ?_⟩, hwithin, ?_⟩
  · rintro ⟨times, hover⟩
    cases times with
    | nil =>
      rw [silence, List.map_nil, List.append_nil] at hover
      obtain ⟨rest, failure, hclosed⟩ := over_closed hover
      refine ⟨0, ?_⟩
      change p.RestsIn 0 (p.after (opened contents) lines)
      rw [hclosed]
      trivial
    | cons now times => exact ⟨times.length, (over_iff p contents lines _ rfl).1 hover⟩
  · refine ⟨List.replicate (p.production.setting.screenplay.lines.length + 1) 0, hwithin hrest _ ?_⟩
    rw [List.length_replicate]
    exact Nat.lt_succ_self _
  · intro s hs hnext
    have hrefused : ∀ now, p.feed now scene "" = answer s ["Select a choice first."] := by
      intro now
      rw [hs, feed_blank]
      exact obey_next_refused (by simp [hnext]) now
    refine ⟨hrefused, fun times => ?_⟩
    rw [after_append]
    induction times with
    | nil => rfl
    | cons now times ih =>
      have hstays : (p.feed now scene "").1 = scene := by
        rw [hrefused, hs]
        rfl
      change p.after (p.feed now scene "").1 (silence times) = scene
      rw [hstays]
      exact ih

/-- a session that cannot come to rest is never over -/
theorem never_over (p : Player σ) (contents : σ) (hrest : ∀ n, ¬ p.RestsIn n (opened contents)) (times : List Nat) :
    (p.after (opened contents) (silence times)).over = false := by
  cases times with
  | nil => rfl
  | cons now times =>
    have hover := over_iff p contents [] (now :: times) (n := times.length) rfl
    exact eq_false_of_ne_true fun h => hrest _ (hover.1 h)

end Player

/-- a line whose block leads back to it -/
def refrainScreenplay : Screenplay :=
  let script : Script := ⟨[⟨1, [⟨"PlayDialog", [], ["a"]⟩], [1]⟩], []⟩
  ⟨script, script.fingerprint, Script.wellFormed_of_fault? (by decide), rfl⟩

/-- that line under the standard configuration, without saves -/
def refrainPlayer : Player Memory := ⟨.make refrainScreenplay .standard, none, false⟩

/-- **Left alone, a session may never be over.** With no input at all one session asks for a choice after the first read,
and another shows its line again at each read. -/
theorem left_alone_for_ever :
    (∀ times, (hallPlayer.after (Player.opened []) (Player.silence times)).over = false) ∧
      ∀ times, (refrainPlayer.after (Player.opened []) (Player.silence times)).over = false := by
  refine ⟨hallPlayer.never_over [] fun n hrest => ?_, refrainPlayer.never_over [] fun n hrest => ?_⟩
  · have hdue : hallPlayer.production.setting.RestsIn n (some .start) := (comesToRest_iff rfl).1 hrest
    exact not_restsIn_decision rfl rfl hdue
  · have hdue : refrainPlayer.production.setting.RestsIn n (some .start) := (comesToRest_iff rfl).1 hrest
    have hround : refrainScreenplay.Leads 0 .start (some .start) := .across ⟨rfl, rfl⟩ rfl rfl
    induction n with
    | zero =>
      obtain ⟨m, hm, -⟩ := (restsIn_line rfl rfl hround).1 hdue
      cases hm
    | succ n ih =>
      obtain ⟨m, hm, hrest⟩ := (restsIn_line rfl rfl hround).1 hdue
      cases hm
      exact ih ((comesToRest_iff rfl).2 hrest) hrest

/-- On a budget that takes it past the picture, the landing is over once its two lines are shown; in the hall the choice
stays on screen. -/
theorem left_alone_at_rest :
    let p := landingPlayer 2
    (∀ times, 2 < times.length → (p.after (Player.opened []) (Player.silence times)).over) ∧
      ∃ s, hallPlayer.after (Player.opened []) [(0, "")] = .prompting s ∧ s.shown.next = .waitBranch ∧
        ∀ times, hallPlayer.after (Player.opened []) ([(0, "")] ++ Player.silence times) = .prompting s := by
  intro p
  obtain ⟨hstops, hwithin, -⟩ := Player.stops_iff_comes_to_rest p [] []
  have hover : (p.after (Player.opened []) ([] ++ Player.silence [0, 0, 0])).over := by decide +kernel
  have hasks : ∃ s, hallPlayer.after (Player.opened []) [(0, "")] = .prompting s ∧ s.shown.next = .waitBranch :=
    ⟨_, rfl, rfl⟩
  obtain ⟨s, hs, hnext⟩ := hasks
  obtain ⟨-, -, hasked⟩ := Player.stops_iff_comes_to_rest hallPlayer [] [(0, "")]
  obtain ⟨-, hstays⟩ := hasked s hs hnext
  exact ⟨hwithin (hstops.1 ⟨_, hover⟩), s, hs, hnext, fun times => (hstays times).trans hs⟩

end VisualNovel
