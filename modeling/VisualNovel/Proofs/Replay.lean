/-
A replayed voice is the one that was heard.

The voice of a line is found twice, from different data: when the line is told, from the line and a counter that is just
being incremented; when it is replayed, from the instruction executed last, classified again with the block under the
cursor and the counters as they are.

- `executedLast`: the instruction told last, unless a save was restored after it; the instruction that a replay looks up
  is this one (`reads_told`).
- `Delivers`: the last of these calls that told anything answered with a line, and its voice came with it. The line on
  screen was delivered so (`delivered_last`): a call delivers the line that it leaves on screen, or tells nothing and
  leaves the one that was there (`Leaves`).
- `exchanges_unreplayed`: replays change nothing and can be left out.
-/
import VisualNovel.Proofs.Rejections

namespace VisualNovel

/-! ## The instruction executed last, as it was told -/

/-- what a notification makes of the instruction executed last -/
def Notification.executed (last : Option Resolved) : Notification → Option Resolved
  | .instruction r => some r
  | .restoreGraphics .. | .restoreMusic _ => none
  | .dialogLine _ | .decision _ | .resetLineCounters => last

/-- the instruction told last, unless a save was restored after it -/
def executedLast (last : Option Resolved) (ns : List Notification) : Option Resolved :=
  ns.foldl Notification.executed last

theorem executedLast_append (last : Option Resolved) (ns ms : List Notification) :
    executedLast last (ns ++ ms) = executedLast (executedLast last ns) ms := List.foldl_append

/-- the instruction executed last, as a replay reads it -/
def Setting.reads (s : Setting) (h : Playhead) : Option Resolved := (s.lastExecuted h).map Prod.fst

section Told

variable {s : Setting} {h g : Playhead} {ns : List Notification}

theorem Setting.reads_past (s : Setting) {c : Cursor} {i : Instruction} (hi : s.screenplay.instructionAt c = .ok i)
    (next : Option Cursor) : s.reads (.past c next) = some (s.reading i) := by
  rw [reads, s.lastExecuted_past hi next]
  rfl

/-- only the cursor of the instruction executed last counts -/
theorem Setting.reads_congr (hlast : g.lastExecuted = h.lastExecuted) : s.reads g = s.reads h := by
  simp only [reads, lastExecuted, hlast]

theorem Setting.lineOnScreen_reads (s : Setting) (h : Playhead) : s.lineOnScreen h =
    (s.reads h).bind fun r => if r.kind = .playDialog then some (s.lineOf r h) else none := by
  unfold lineOnScreen reads
  cases s.lastExecuted h <;> rfl

theorem Passes.reads {rs : List Resolved} (hrs : Passes s h rs g) :
    s.reads g = executedLast (s.reads h) (rs.map .instruction) := by
  induction hrs with
  | nil => rfl
  | @cons h g i next rs hi _ _ _ ih =>
    rw [s.reads_past hi] at ih
    exact ih

theorem Runs.reads {budget : Nat} {answer : Except WalkError Suspension} (hruns : Runs s budget h answer g ns) :
    s.reads g = executedLast (s.reads h) ns := by
  cases hruns with
  | @line g rs i next hrs hi =>
    rw [executedLast_append, s.reads_past hi]
    rfl
  | @decision g rs i labels hrs hi =>
    have hlast := s.reads_past hi (some g.cursor)
    rw [executedLast_append]
    exact hlast
  | @ended g rs i hrs hi =>
    have hlast := s.reads_past hi none
    rw [List.map_append, executedLast_append]
    exact hlast
  | runaway hrs => exact hrs.reads

theorem Advances.reads {choice : Option Nat} {answer : Except WalkError Suspension} (hs : Sound s h)
    (ha : Advances s h choice answer g ns) : s.reads g = executedLast (s.reads h) ns := by
  -- a choice is taken at the decision executed last
  have htaken : ∀ {d : Pending} (next : Option Cursor), h.pending = some d →
      s.reads (.past h.cursor next) = s.reads h := by
    intro d next hd
    obtain ⟨-, -, hlast, -⟩ := hs.waits d hd
    refine Setting.reads_congr ?_
    rw [hlast]
    cases next <;> rfl
  cases ha with
  | refused => rfl
  | exhausted => exact Setting.reads_congr rfl
  | ran _ hruns => exact hruns.reads
  | @chose d edge next answer g ns hd _ hruns =>
    have hrun := hruns.reads
    rw [htaken (some next) hd] at hrun
    exact hrun
  | choseEnd hd => exact (Setting.reads_congr rfl).trans (htaken none hd)

/-- **The instruction executed last is the one told last**, through any call of the walk. -/
theorem Sound.reads_told (hs : Sound s h) (call : Call) : s.reads (s.perform call h).head =
    executedLast (s.reads h) (Event.notifications (s.perform call h).events) := by
  cases call with
  | advance choice => exact (hs.advances choice).reads hs
  | restore state =>
    rcases s.restore_cases state h with ⟨i, es, -, ht, hes⟩ | ⟨e, es, -, ht, hes⟩
    · simp only [Setting.perform, ht, hes]
      rfl
    · simp only [Setting.perform, ht, hes]
      rfl

end Told

/-! ## A line, as it is told -/

section Line

variable {s : Setting} {h g : Playhead} {ns ms : List Notification} {l : DialogLine}

theorem Closes.answer_line {answer : Except WalkError (Option Suspension)} (hc : Closes s answer g ns)
    (hns : ns = ms ++ [.dialogLine l]) : answer = .ok (some (.line l)) := by
  have hloud : ¬ ∀ n ∈ ms ++ [Notification.dialogLine l], n.Quiet := fun hquiet => hquiet (.dialogLine l) (by simp)
  cases hc with
  | failed hquiet => exact absurd (hns ▸ hquiet) hloud
  | line =>
    obtain ⟨-, heq⟩ := List.append_inj' hns rfl
    cases heq
    rfl
  | decision =>
    obtain ⟨-, heq⟩ := List.append_inj' hns rfl
    cases heq
  | ended hquiet => exact absurd (hns ▸ hquiet) hloud
  | restored hquiet => exact absurd (hns ▸ hquiet) hloud

theorem Runs.tells_line {budget : Nat} (hruns : Runs s budget h (.ok (.line l)) g ns) :
    ∃ rs i, ns = List.map Notification.instruction rs ++ [.instruction (s.reading i), .dialogLine l] ∧
      s.reads g = some (s.reading i) := by
  cases hruns with
  | @line g rs i next hrs hi => exact ⟨rs, i, rfl, s.reads_past hi next⟩

/-- a line is told right after the instruction that it belongs to -/
theorem Setting.perform_line (hs : Sound s h) {call : Call} (hline : (s.perform call h).answer = .ok (some (.line l))) :
    ∃ ms r, Event.notifications (s.perform call h).events = ms ++ [.instruction r, .dialogLine l] ∧
      (∀ n ∈ ms, n.Quiet) ∧ s.reads (s.perform call h).head = some r := by
  cases call with
  | restore state =>
    simp only [perform] at hline
    cases hanswer : (s.restore state h).answer <;> rw [hanswer] at hline <;> cases hline
  | advance choice =>
    have hanswer : (s.advance choice h).answer = .ok (.line l) := by
      simp only [perform] at hline
      cases hanswer : (s.advance choice h).answer <;> rw [hanswer] at hline <;> cases hline
      rfl
    have ha := hs.advances choice
    rw [hanswer] at ha
    simp only [perform]
    generalize (s.advance choice h).head = g at ha
    generalize Event.notifications (s.advance choice h).events = ns at ha
    cases ha with
    | ran _ hruns =>
      obtain ⟨rs, i, rfl, hreads⟩ := hruns.tells_line
      exact ⟨rs.map .instruction, _, rfl, quiet_instructions rs, hreads⟩
    | chose _ _ hruns =>
      obtain ⟨rs, i, rfl, hreads⟩ := hruns.tells_line
      exact ⟨.resetLineCounters :: rs.map .instruction, _, rfl,
        List.forall_mem_cons.2 ⟨trivial, quiet_instructions rs⟩, hreads⟩

end Line

/-! ## The line on screen, as it was delivered -/

/-- what a call of the engine leaves on screen, and what it hands over and tells with that -/
inductive Leaves (p : Production) (e : Engine) :
    Except EngineError EngineAnswer → Engine → List Notification → Prop where
  /-- a line that it delivers, with its voice -/
  | delivers {f : Engine} {r : Resolved} {l : DialogLine} {scene : List Directive} (ns : List Notification)
    (hline : p.setting.lineOnScreen f.head = some l) (hreads : p.setting.reads f.head = some r)
    (hscene : Directive.SetsScene scene) :
    Leaves p e (.ok (.stepped ⟨.waitUser, scene ++ Directive.ofNotification p.assets (.dialogLine l) ++
      Production.voiceDirectives f.voice⟩)) f (ns ++ [.instruction r, .dialogLine l])
  /-- no line -/
  | clears {answer : Except EngineError EngineAnswer} {f : Engine} {ns : List Notification}
    (hline : p.setting.lineOnScreen f.head = none) : Leaves p e answer f ns
  /-- what was there before -/
  | keeps {answer : Except EngineError EngineAnswer} {f : Engine}
    (hline : p.setting.lineOnScreen f.head = p.setting.lineOnScreen e.head) : Leaves p e answer f []

namespace Production

variable {p : Production} {e : Engine}

theorem perform_head {call : EngineCall} (hallowed : ¬ call.Refused e) :
    (p.perform call e).engine.head = (p.setting.perform call.walk e.head).head := by
  obtain ⟨-, hengine⟩ := Prod.mk.inj (perform_allowed (p := p) hallowed)
  rw [hengine]
  cases (p.setting.perform call.walk e.head).answer <;> rfl

/-- **What a call of the engine leaves on screen.** -/
theorem perform_leaves (hs : Sound p.setting e.head) (hscene : Directive.SetsScene e.buffer) (call : EngineCall) :
    Leaves p e (p.perform call e).answer (p.perform call e).engine
      (Event.notifications (p.perform call e).events) := by
  by_cases hrefused : call.Refused e
  · obtain ⟨text, -, hengine⟩ := perform_refused (p := p) hrefused
    rw [hengine, perform_tells_nothing hrefused]
    exact .keeps rfl
  · have hscreen := hs.onScreen call.walk
    have hhead := perform_head (p := p) hrefused
    rw [perform_tells hrefused]
    generalize hns : Event.notifications (p.setting.perform call.walk e.head).events = ns at hscreen ⊢
    rw [← hhead] at hscreen
    cases hscreen with
    | cleared hline => exact .clears hline
    | kept hline => exact .keeps hline
    | @told l ms hline =>
      -- a line told last is the answer, and the walk has read its instruction right before
      have hanswer := (hs.closes call.walk).answer_line hns
      obtain ⟨ms', r, hns', hquiet, hreads⟩ := Setting.perform_line hs hanswer
      have hread : ∀ n ∈ [Notification.instruction r], n.Quiet := List.forall_mem_singleton.2 trivial
      have hscene' := collected_scene (p := p) hscene (List.forall_mem_append.2 ⟨hquiet, hread⟩)
      obtain ⟨hdone, hengine⟩ := Prod.mk.inj (perform_allowed (p := p) hrefused)
      simp only [hanswer] at hdone hengine
      have hvoice : (p.perform call e).engine.voice =
          (p.heard e (p.setting.perform call.walk e.head)).voice := by rw [hengine]
      have hbuffer : (p.heard e (p.setting.perform call.walk e.head)).buffer =
          e.buffer ++ (ms' ++ [Notification.instruction r]).flatMap (Directive.ofNotification p.assets) ++
            Directive.ofNotification p.assets (.dialogLine l) := by
        simp only [heard, hear, hns', List.flatMap_append, List.flatMap_cons, List.flatMap_nil, List.append_assoc,
          List.append_nil]
      have hleaves := Leaves.delivers (e := e) ms' hline (hhead ▸ hreads) hscene'
      rw [hdone, ← hns, hns']
      simp only [handOver, resultOf, hbuffer, ← hvoice]
      exact hleaves

/-! ## Calls in a row -/

theorem after_append (p : Production) (calls more : List EngineCall) (e : Engine) :
    p.after (calls ++ more) e = p.after more (p.after calls e) := List.foldl_append

theorem broadcast_append (p : Production) (calls more : List EngineCall) (e : Engine) :
    p.broadcast (calls ++ more) e = p.broadcast calls e ++ p.broadcast more (p.after calls e) := by
  induction calls generalizing e with
  | nil => rfl
  | cons call calls ih =>
    simp only [List.cons_append, broadcast, ih, List.append_assoc]
    rfl

theorem perform_reads (hs : Sound p.setting e.head) (call : EngineCall) :
    p.setting.reads (p.perform call e).engine.head =
      executedLast (p.setting.reads e.head) (Event.notifications (p.perform call e).events) := by
  by_cases hrefused : call.Refused e
  · obtain ⟨text, -, hengine⟩ := perform_refused (p := p) hrefused
    rw [hengine, perform_tells_nothing hrefused]
    rfl
  · rw [perform_head hrefused, perform_tells hrefused]
    exact hs.reads_told call.walk

/-- **The instruction executed last is the one told last**, over calls in a row. -/
theorem after_reads (hs : Sound p.setting e.head) (calls : List EngineCall) :
    p.setting.reads (p.after calls e).head = executedLast (p.setting.reads e.head) (p.broadcast calls e) := by
  induction calls generalizing e with
  | nil => rfl
  | cons call calls ih =>
    have hrest := ih (perform_sound hs call)
    rw [perform_reads hs call, ← executedLast_append] at hrest
    exact hrest

/-- among calls from the start one answers with a line and these voices, right after the instruction of the line was
told, and the calls after it tell nothing -/
structure Delivers (p : Production) (before : List EngineCall) (call : EngineCall) (rest : List EngineCall)
    (r : Resolved) (l : DialogLine) (voices : List Directive) : Prop where
  result : ∃ scene, Directive.SetsScene scene ∧ (p.perform call (p.after before .start)).answer =
    .ok (.stepped ⟨.waitUser, scene ++ Directive.ofNotification p.assets (.dialogLine l) ++ voices⟩)
  told : ∃ ns, Event.notifications (p.perform call (p.after before .start)).events =
    ns ++ [.instruction r, .dialogLine l]
  quiet : p.broadcast rest (p.after (before ++ [call]) .start) = []

/-- **The line on screen was delivered by the last call that told anything**, with the voice of the last cue. -/
theorem delivered_last (p : Production) (calls : List EngineCall) {l : DialogLine}
    (hline : p.setting.lineOnScreen (p.after calls .start).head = some l) :
    ∃ before call rest r, calls = before ++ call :: rest ∧ p.setting.reads (p.after calls .start).head = some r ∧
      p.Delivers before call rest r l (voiceDirectives (p.after calls .start).voice) := by
  induction calls using List.reverseRecOn with
  | nil => cases hline
  | append_singleton calls call ih =>
    have hs := p.after_start_sound calls
    have hleaves := perform_leaves hs (p.after_start_scene calls) call
    have hvoice := p.perform_voice (p.after calls .start) call
    have hreads := perform_reads hs call
    have hafter : p.after (calls ++ [call]) .start = (p.perform call (p.after calls .start)).engine :=
      p.after_append calls [call] .start
    rw [hafter] at hline ⊢
    generalize hf : (p.perform call (p.after calls .start)).engine = f at hleaves hvoice hreads hline ⊢
    generalize hanswer : (p.perform call (p.after calls .start)).answer = answer at hleaves
    generalize hns : Event.notifications (p.perform call (p.after calls .start)).events = ns at hleaves hvoice hreads
    cases hleaves with
    | clears hnone => cases hnone.symm.trans hline
    | delivers ms hline' hreads' hscene =>
      cases hline'.symm.trans hline
      exact ⟨calls, call, [], _, rfl, hreads', ⟨_, hscene, hanswer⟩, ⟨ms, hns⟩, rfl⟩
    | keeps hsame =>
      obtain ⟨before, first, rest, r, rfl, hr, hresult, htold, hquiet⟩ := ih (hsame.symm.trans hline)
      refine ⟨before, first, rest ++ [call], r, by simp, hreads.trans hr, ?_, htold, ?_⟩
      · rw [hvoice]
        exact hresult
      · rw [broadcast_append, hquiet, ← after_append]
        simp only [List.append_assoc, List.singleton_append, broadcast, hns, List.append_nil]

/-! ## Replays -/

/-- the line of an instruction is voiced -/
def Voices (p : Production) (r : Resolved) : Prop :=
  r.kind = .playDialog ∧ p.speakers.voiceKey (Speech.ofLine p.setting.roster r.text).speaker ≠ none

theorem replayVoice_isSome (he : Tracks p e) : (p.replayVoice e).1.isSome ↔
    ∃ r, p.setting.reads e.head = some r ∧ p.Voices r := by
  rw [replayVoice_onScreen he]
  have hscreen := p.setting.lineOnScreen_reads e.head
  cases hr : p.setting.reads e.head with
  | none =>
    rw [hr] at hscreen
    simp [hscreen]
  | some r =>
    rw [hr, Option.bind_some] at hscreen
    by_cases hkind : r.kind = .playDialog
    · rw [if_pos hkind] at hscreen
      have hcue := (he _ hscreen).cue
      rw [hscreen, Option.bind_some, hcue, VoiceTracker.cueOn, Option.isSome_map, Option.isSome_iff_ne_none]
      simp [Voices, hkind, Setting.lineOf]
    · rw [if_neg hkind] at hscreen
      simp [hscreen, Voices, hkind]

/-- **Replays can be left out.** The engine comes to the same, and so does every other reply. -/
theorem exchanges_unreplayed (p : Production) (requests : List EngineRequest) (e : Engine) :
    p.serve (requests.filter (· ≠ .replay)) e = p.serve requests e ∧
      p.exchanges (requests.filter (· ≠ .replay)) e = (p.exchanges requests e).filter (·.1 ≠ .replay) := by
  induction requests generalizing e with
  | nil => exact ⟨rfl, rfl⟩
  | cons request requests ih =>
    obtain ⟨hserve, hexchanges⟩ := ih (p.respond e request).engine
    by_cases hreplay : request = .replay
    · subst hreplay
      simp only [exchanges, List.filter_cons, ne_eq, not_true, decide_false, Bool.false_eq_true, if_false]
      exact ⟨hserve, hexchanges⟩
    · simp only [exchanges, List.filter_cons, ne_eq, hreplay, not_false_eq_true, decide_true, if_true]
      exact ⟨hserve, congrArg _ hexchanges⟩

end Production

/-- **A replayed voice is the one that was heard.** After any calls, successful or failing, there is a voice to replay
exactly when the instruction executed last, since a save was restored last, is a dialog with a voiced line. It is then the
cue of the tracker, and its path stands in the result that delivered that line, after which nothing was told. Replaying
changes nothing: replays can be left out of a playing, and all other requests are answered as they were. -/
theorem replay_repeats_voice (p : Production) (calls : List EngineCall) :
    let e := p.after calls .start
    let last := executedLast none (p.broadcast calls .start)
    ((p.replayVoice e).1.isSome ↔ ∃ r, last = some r ∧ p.Voices r) ∧
    (∀ cue, (p.replayVoice e).1 = some cue → e.voice.lastCue = some cue ∧
      ∃ before call rest r, calls = before ++ call :: rest ∧ last = some r ∧
        p.Delivers before call rest r (p.setting.lineOf r e.head) [.playVoice cue.path]) ∧
    ∀ (requests : List EngineRequest) (f : Engine),
      p.serve (requests.filter (· ≠ .replay)) f = p.serve requests f ∧
        p.exchanges (requests.filter (· ≠ .replay)) f = (p.exchanges requests f).filter (·.1 ≠ .replay) := by
  intro e last
  have he : Tracks p e := p.after_start_tracks calls
  have hlast : p.setting.reads e.head = last := Production.after_reads (e := .start) (.start p.setting) calls
  refine ⟨?_, fun cue hcue => ?_, fun requests f => p.exchanges_unreplayed requests f⟩
  · rw [← hlast]
    exact Production.replayVoice_isSome he
  · rw [Production.replayVoice_onScreen he] at hcue
    obtain ⟨l, hline, hcue⟩ := Option.bind_eq_some_iff.1 hcue
    obtain ⟨before, call, rest, r, hcalls, hr, hdelivers⟩ := p.delivered_last calls hline
    have hl : l = p.setting.lineOf r e.head := by
      have hscreen := p.setting.lineOnScreen_reads e.head
      rw [hline, hr, Option.bind_some] at hscreen
      split at hscreen
      · exact Option.some.inj hscreen
      · cases hscreen
    have hvoices : Production.voiceDirectives e.voice = [.playVoice cue.path] := by
      rw [Production.voiceDirectives, hcue]
      rfl
    rw [hvoices, hl] at hdelivers
    exact ⟨hcue, before, call, rest, r, hcalls, hlast.symm.trans hr, hdelivers⟩

/-- the first line of the script, voiced and then replayed -/
theorem echo_replays :
    let e := echoProduction.after [.step] .start
    let cue : VoiceCue := ⟨"ANN", "REN0001", 1, "/assets/audio/voice/ANN.REN0001.001.ogg"⟩
    (echoProduction.replayVoice e).1 = some cue ∧ e.voice.lastCue = some cue := by
  intro e cue
  have hreplay : (echoProduction.replayVoice e).1 = some cue := by decide
  exact ⟨hreplay, ((replay_repeats_voice echoProduction [.step]).2.1 cue hreplay).1⟩

end VisualNovel
