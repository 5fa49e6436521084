/-
What a restored save leaves of the past.

Two engines with pasts of their own restore the same save. It settles the playhead and the stage, and what had been
collected is handed over; but line counters are not in a save, and restoring does not reset them. So the past shows in
two places only.

- What failed calls had collected goes to the host in front of what puts the presentation back.
- A line without a number of its own is voiced under the number its counter has come to. The counters of the two
  engines stay as far apart as they were, until a choice resets both.

`Twins` are engines that differ in the tracker at most, such as two that have restored the same save
(`twins_restored`). Every request leaves them twins, tells the same and is answered alike (`Twins.respond`); `Alike`
says where the answers may differ. `restore_forgets` puts it together over all requests, and `echo_remembers` is a
screenplay in which both traces of the past show.

No number runs over in the course of it while a history keeps to `Speakers.Within`: the counters of both engines are of
32 bits then (`serve_count_lt`). The blocks of lines need no such condition on the history (`told_placed`).
-/
import VisualNovel.Proofs.Cues

namespace VisualNovel

theorem Setting.notifications_lastExecuted (s : Setting) {h : Playhead} {r : Resolved} {es : List Event}
    (hlast : s.lastExecuted h = some (r, es)) : Event.notifications es = [] := by
  unfold lastExecuted at hlast
  split at hlast
  · cases hlast
  · split at hlast
    · cases hlast
    · cases hlast
      exact s.notifications_unresolvedRecords _

/-! ## Requests -/

/-- what a host asks of the engine in the course of a playing -/
inductive EngineRequest where
  | call (call : EngineCall)
  | replay
  | save (now : Nat)
  deriving DecidableEq, Repr

/-- what a host gets -/
inductive EngineResponse where
  | called (answer : EngineAnswer)
  | replayed (cue : Option VoiceCue)
  | saved (state : SaveState)
  deriving DecidableEq, Repr

namespace Production

/-- a request to the engine -/
def respond (p : Production) (e : Engine) : EngineRequest → Reply EngineResponse
  | .call call => (p.perform call e).map .called
  | .replay => ⟨.ok (.replayed (p.replayVoice e).1), e, (p.replayVoice e).2⟩
  | .save now => ⟨.ok (.saved (p.capture now e)), e, []⟩

/-- the engine after requests, whatever they were answered -/
def serve (p : Production) (requests : List EngineRequest) (e : Engine) : Engine :=
  requests.foldl (fun e request => (p.respond e request).engine) e

/-- what requests tell, in order -/
def told (p : Production) : List EngineRequest → Engine → List Notification
  | [], _ => []
  | request :: requests, e =>
    Event.notifications (p.respond e request).events ++ p.told requests (p.respond e request).engine

theorem serve_concat (p : Production) (requests : List EngineRequest) (request : EngineRequest) (e : Engine) :
    p.serve (requests ++ [request]) e = (p.respond (p.serve requests e) request).engine := by
  simp only [serve, List.foldl_append, List.foldl_cons, List.foldl_nil]

/-- looking up the line on screen tells nothing -/
theorem replayVoice_tells (p : Production) (e : Engine) : Event.notifications (p.replayVoice e).2 = [] := by
  unfold replayVoice
  cases hlast : p.setting.lastExecuted e.head with
  | none => rfl
  | some last =>
    obtain ⟨r, es⟩ := last
    have hes : Event.notifications es = [] := p.setting.notifications_lastExecuted hlast
    simp only
    split <;> exact hes

theorem respond_voice (p : Production) (e : Engine) (request : EngineRequest) :
    (p.respond e request).engine.voice = p.heardBy e.voice (Event.notifications (p.respond e request).events) := by
  cases request with
  | call call => exact p.perform_voice e call
  | replay =>
    simp only [respond, p.replayVoice_tells e]
    rfl
  | save now => rfl

theorem serve_voice (p : Production) (requests : List EngineRequest) (e : Engine) :
    (p.serve requests e).voice = p.heardBy e.voice (p.told requests e) := by
  induction requests generalizing e with
  | nil => rfl
  | cons request requests ih =>
    have hrest := ih (p.respond e request).engine
    rw [p.respond_voice e request, ← p.heardBy_append] at hrest
    exact hrest

theorem respond_sound {p : Production} {e : Engine} (hs : Sound p.setting e.head) (request : EngineRequest) :
    Sound p.setting (p.respond e request).engine.head := by
  cases request with
  | call call => exact perform_sound hs call
  | replay => exact hs
  | save now => exact hs

/-! ## Numbers that do not run over -/

/-- the counters of an engine after calls from the start and then requests, whatever happened to it in between but for
its tracker -/
theorem serve_count_lt (p : Production) {calls : List EngineCall} {requests : List EngineRequest} {e : Engine}
    (he : e.voice = (p.after calls .start).voice)
    (hns : p.speakers.Within (p.broadcast calls .start ++ p.told requests e)) (key : String) :
    (p.serve requests e).voice.count key < 2 ^ 32 := by
  have hvoice : (p.serve requests e).voice =
      VoiceTracker.after p.assets p.speakers (p.broadcast calls .start ++ p.told requests e) := by
    calc (p.serve requests e).voice
        = p.heardBy (p.heardBy .start (p.broadcast calls .start)) (p.told requests e) := by
          rw [p.serve_voice, he, p.after_voice]
          rfl
      _ = p.heardBy .start (p.broadcast calls .start ++ p.told requests e) := (p.heardBy_append _ _ _).symm
  rw [hvoice]
  exact VoiceTracker.count_lt hns key

theorem respond_placed {p : Production} {e : Engine} (hs : Sound p.setting e.head) (request : EngineRequest)
    {l : DialogLine} (hl : .dialogLine l ∈ Event.notifications (p.respond e request).events) :
    l.blockIndex < p.setting.screenplay.blocks.length := by
  cases request with
  | call call =>
    change .dialogLine l ∈ Event.notifications (p.perform call e).events at hl
    by_cases hrefused : call.Refused e
    · rw [perform_tells_nothing hrefused] at hl
      cases hl
    · rw [perform_tells hrefused] at hl
      exact hs.line_placed call.walk hl
  | replay =>
    simp only [respond, p.replayVoice_tells e] at hl
    cases hl
  | save now => cases hl

/-- **Lines stand in blocks of the screenplay**, so their positions counted from one are sizes if the number of blocks
is. -/
theorem told_placed {p : Production} (hblocks : p.setting.screenplay.blocks.length ≤ Text.sizeMax) {e : Engine}
    (hs : Sound p.setting e.head) (requests : List EngineRequest) : Placed (p.told requests e) := by
  induction requests generalizing e with
  | nil => exact fun l hl => absurd hl List.not_mem_nil
  | cons request requests ih =>
    intro l hl
    rcases List.mem_append.1 hl with hl | hl
    · have hplaced := respond_placed hs request hl
      omega
    · exact ih (respond_sound hs request) l hl

end Production

/-! ## Twins -/

/-- engines that differ in the tracker at most, and each tracker has heard the line on screen -/
structure Twins (p : Production) (e f : Engine) : Prop where
  head : f.head = e.head
  stage : f.stage = e.stage
  buffer : f.buffer = e.buffer
  sound : Sound p.setting e.head
  tracks : Tracks p e
  tracks' : Tracks p f

/-- the line on screen is voiced under a key and has no number of its own -/
structure Unnumbered (p : Production) (h : Playhead) (l : DialogLine) (key : String) : Prop where
  line : p.setting.lineOnScreen h = some l
  voiced : p.speakers.voiceKey l.speech.speaker = some key
  number : authoredNumber l.lineNumber = none

/-- the cue that the counter of a key gives a line -/
def Production.counted (p : Production) (e : Engine) (l : DialogLine) (key : String) : VoiceCue :=
  .make p.assets key l.blockIndex (e.voice.count key)

/-- answers of two engines that agree but for the voice of the line on screen, and differ there only if its number is
left to the counters -/
inductive Alike (p : Production) (e f : Engine) :
    Except EngineError EngineResponse → Except EngineError EngineResponse → Prop where
  | same (answer : Except EngineError EngineResponse) : Alike p e f answer answer
  | voiced {l : DialogLine} {key : String} (ds : List Directive) (hl : Unnumbered p e.head l key) :
    Alike p e f (.ok (.called (.stepped ⟨.waitUser, ds ++ [.playVoice (p.counted e l key).path]⟩)))
      (.ok (.called (.stepped ⟨.waitUser, ds ++ [.playVoice (p.counted f l key).path]⟩)))
  | replayed {l : DialogLine} {key : String} (hl : Unnumbered p e.head l key) :
    Alike p e f (.ok (.replayed (some (p.counted e l key)))) (.ok (.replayed (some (p.counted f l key))))

theorem Alike.eq {p : Production} {e f : Engine} {answer answer' : Except EngineError EngineResponse}
    (ha : Alike p e f answer answer') (hcount : ∀ key, e.voice.count key = f.voice.count key) : answer = answer' := by
  cases ha with
  | same => rfl
  | voiced ds hl => simp only [Production.counted, hcount]
  | replayed hl => simp only [Production.counted, hcount]

namespace Twins

variable {p : Production} {e f : Engine}

/-- the last cues agree, or the number is left to the counters -/
theorem lastCue (ht : Twins p e f) {l : DialogLine} (hl : p.setting.lineOnScreen e.head = some l) :
    e.voice.lastCue = f.voice.lastCue ∨ ∃ key, Unnumbered p e.head l key ∧
      e.voice.lastCue = some (p.counted e l key) ∧ f.voice.lastCue = some (p.counted f l key) := by
  have hl' : p.setting.lineOnScreen f.head = some l := ht.head ▸ hl
  rw [(ht.tracks l hl).cue, (ht.tracks' l hl').cue]
  unfold VoiceTracker.cueOn
  cases hkey : p.speakers.voiceKey l.speech.speaker with
  | none => exact Or.inl rfl
  | some key =>
    cases hnumber : authoredNumber l.lineNumber with
    | some number => exact Or.inl rfl
    | none => exact Or.inr ⟨key, ⟨hl, hkey, hnumber⟩, rfl, rfl⟩

theorem heard (ht : Twins p e f) (call : Call) :
    Twins p (p.heard e (p.setting.perform call e.head)) (p.heard f (p.setting.perform call f.head)) where
  head := by rw [ht.head]; rfl
  stage := by rw [ht.head]; simp only [Production.heard, Production.hear, ht.stage]
  buffer := by rw [ht.head]; simp only [Production.heard, Production.hear, ht.buffer]
  sound := VisualNovel.perform_sound p.setting ht.sound call
  tracks := Production.heard_tracks ht.sound ht.tracks call
  tracks' := Production.heard_tracks (ht.head ▸ ht.sound) ht.tracks' call

theorem drained (ht : Twins p e f) : Twins p { e with buffer := [] } { f with buffer := [] } :=
  ⟨ht.head, ht.stage, rfl, ht.sound, ht.tracks, ht.tracks'⟩

/-- what is handed over differs in the voice at most -/
theorem handOver (ht : Twins p e f) {suspension : Option Suspension} {ns : List Notification}
    (hc : Closes p.setting (.ok suspension) e.head ns) :
    Alike p { e with buffer := [] } { f with buffer := [] } (.ok (.called (Production.handOver e suspension)))
      (.ok (.called (Production.handOver f suspension))) := by
  generalize hg : e.head = g at hc
  cases hc with
  | @line g ns r es _ hlast hkind =>
    have hl : p.setting.lineOnScreen e.head = some (p.setting.lineOf r g) := by
      rw [hg]
      exact p.setting.lineOnScreen_line hlast hkind
    simp only [Production.handOver, Production.resultOf, Production.voiceDirectives, ht.buffer]
    -- the voice comes from the last cue, not from the line: the trackers have to be on the line that is answered
    rcases ht.lastCue hl with hcue | ⟨key, hkey, hcue, hcue'⟩
    · rw [hcue]
      exact .same _
    · rw [hcue, hcue']
      exact .voiced e.buffer (hg ▸ hkey)
  | decision =>
    simp only [Production.handOver, Production.resultOf, ht.buffer]
    exact .same _
  | ended =>
    simp only [Production.handOver, Production.resultOf, ht.buffer]
    exact .same _
  | restored =>
    simp only [Production.handOver, ht.buffer]
    exact .same _

theorem outcome (ht : Twins p e f) (call : Call) :
    let a := p.outcome e (p.setting.perform call e.head)
    let b := p.outcome f (p.setting.perform call f.head)
    Twins p a.2 b.2 ∧ Alike p a.2 b.2 (a.1.map .called) (b.1.map .called) := by
  have hheard := ht.heard call
  have hc := ht.sound.closes call
  rw [ht.head] at hheard ⊢
  unfold Production.outcome
  cases hanswer : (p.setting.perform call e.head).answer with
  | error reason => exact ⟨hheard, .same _⟩
  | ok suspension =>
    rw [hanswer] at hc
    exact ⟨hheard.drained, hheard.handOver hc⟩

theorem perform (ht : Twins p e f) (call : EngineCall) :
    let a := p.perform call e
    let b := p.perform call f
    Twins p a.engine b.engine ∧ Event.notifications a.events = Event.notifications b.events ∧
      Alike p a.engine b.engine (a.answer.map .called) (b.answer.map .called) := by
  intro a b
  have hiff : call.Refused f ↔ call.Refused e := by cases call <;> simp only [EngineCall.Refused, ht.head]
  by_cases hrefused : call.Refused e
  · obtain ⟨text, hrefuses⟩ := Production.perform_refuses (p := p) hrefused
    simp only [a, b]
    rw [hrefuses e rfl, hrefuses f ht.head]
    exact ⟨ht, rfl, .same _⟩
  · obtain ⟨hanswer, hengine⟩ := Prod.mk.inj (Production.perform_allowed (p := p) hrefused)
    obtain ⟨hanswer', hengine'⟩ := Prod.mk.inj (Production.perform_allowed (p := p) (mt hiff.1 hrefused))
    obtain ⟨htwins, halike⟩ := ht.outcome call.walk
    simp only [a, b]
    rw [Production.perform_tells hrefused, Production.perform_tells (mt hiff.1 hrefused), hanswer, hengine, hanswer',
      hengine', ht.head]
    rw [ht.head] at htwins halike
    exact ⟨htwins, rfl, halike⟩

/-- **Twins answer a request alike, tell the same and stay twins.** -/
theorem respond (ht : Twins p e f) (request : EngineRequest) :
    let a := p.respond e request
    let b := p.respond f request
    Twins p a.engine b.engine ∧ Event.notifications a.events = Event.notifications b.events ∧
      Alike p a.engine b.engine a.answer b.answer := by
  cases request with
  | call call => exact ht.perform call
  | replay =>
    refine ⟨ht, (p.replayVoice_tells e).trans (p.replayVoice_tells f).symm, ?_⟩
    simp only [Production.respond, Production.replayVoice_onScreen ht.tracks,
      Production.replayVoice_onScreen ht.tracks', ht.head]
    cases hl : p.setting.lineOnScreen e.head with
    | none => exact .same _
    | some l =>
      simp only [Option.bind_some]
      rcases ht.lastCue hl with hcue | ⟨key, hkey, hcue, hcue'⟩
      · rw [hcue]
        exact .same _
      · rw [hcue, hcue']
        exact .replayed hkey
  | save now =>
    refine ⟨ht, rfl, ?_⟩
    simp only [Production.respond, Production.capture, ht.head, ht.stage]
    exact .same _

theorem serve (ht : Twins p e f) (requests : List EngineRequest) :
    Twins p (p.serve requests e) (p.serve requests f) ∧ p.told requests f = p.told requests e := by
  induction requests generalizing e f with
  | nil => exact ⟨ht, rfl⟩
  | cons request requests ih =>
    obtain ⟨htwins, htold, -⟩ := ht.respond request
    obtain ⟨hrest, hrests⟩ := ih htwins
    refine ⟨hrest, ?_⟩
    simp only [Production.told, hrests, htold]

/-- counters stay as far apart as they are, until they are reset -/
theorem counts (ht : Twins p e f) (requests : List EngineRequest) (key : String) :
    let a := p.serve requests e
    let b := p.serve requests f
    (.resetLineCounters ∈ p.told requests e → a.voice.count key = b.voice.count key) ∧
      (.resetLineCounters ∉ p.told requests e →
        a.voice.count key + f.voice.count key = b.voice.count key + e.voice.count key) := by
  intro a b
  simp only [a, b, p.serve_voice, (ht.serve requests).2, p.count_heardBy]
  refine ⟨fun hreset => ?_, fun hreset => ?_⟩
  · rw [if_pos hreset, if_pos hreset]
  · rw [if_neg hreset, if_neg hreset]
    omega

theorem counts_eq (ht : Twins p e f) (requests : List EngineRequest) (key : String)
    (hforgot : .resetLineCounters ∈ p.told requests e ∨ e.voice.count key = f.voice.count key) :
    (p.serve requests e).voice.count key = (p.serve requests f).voice.count key := by
  obtain ⟨hreset, hapart⟩ := ht.counts requests key
  rcases hforgot with htold | hagree
  · exact hreset htold
  · by_cases htold : .resetLineCounters ∈ p.told requests e
    · exact hreset htold
    · have hsum := hapart htold
      omega

end Twins

/-! ## A restored save -/

namespace Production

variable {p : Production} {e : Engine} {state : SaveState} {ds : List Directive}

/-- what puts the presentation of a save back -/
def shown (p : Production) (state : SaveState) : List Directive :=
  [.showBackground state.background, .showPortrait state.portrait, .playBgm (state.bgm.map p.assets.bgm)]

/-- a restored save leaves nothing of the engine but the tracker -/
theorem restore_done (hds : (p.restore state e).answer = .ok ds) : ds = e.buffer ++ p.shown state ∧
    (p.restore state e).engine = ⟨.fresh state.cursor, state.presentation, e.voice, []⟩ := by
  unfold restore watch at hds ⊢
  rcases p.setting.restore_cases state e.head with ⟨i, es, -, ht, hes⟩ | ⟨reason, es, -, ht, hes⟩
  · simp only [ht, hear, hes, Except.ok.injEq] at hds ⊢
    exact ⟨hds.symm, rfl⟩
  · simp only [ht] at hds
    cases hds

end Production

/-- whatever was called before, engines that have restored the same save are twins -/
theorem twins_restored {p : Production} {past past' : List EngineCall} {state : SaveState} {ds ds' : List Directive}
    (hds : (p.restore state (p.after past .start)).answer = .ok ds)
    (hds' : (p.restore state (p.after past' .start)).answer = .ok ds') :
    Twins p (p.restore state (p.after past .start)).engine (p.restore state (p.after past' .start)).engine := by
  obtain ⟨-, he⟩ := Production.restore_done hds
  obtain ⟨-, hf⟩ := Production.restore_done hds'
  have hs := p.after_start_sound past
  have hs' := p.after_start_sound past'
  exact {
    head := by rw [he, hf]
    stage := by rw [he, hf]
    buffer := by rw [he, hf]
    sound := Production.perform_sound hs (.restore state)
    tracks := Production.perform_tracks hs (p.after_start_tracks past) (.restore state)
    tracks' := Production.perform_tracks hs' (p.after_start_tracks past') (.restore state) }

/-- **What a restored save leaves of the past.** Two engines of one production, whatever was called on each before,
accept the same save. Each hands over what its failed calls had collected, and then the presentation of the save. From
then on all requests are answered alike, but for the voice of a line that has no number of its own. Such voices do not
differ either if the counters of the two agreed, or once a choice has reset them; until then the counters stay as far
apart as they were. The counters of each are of 32 bits while its own history keeps within them, and the blocks of lines
are at sizes if the blocks of the screenplay are. -/
theorem restore_forgets (p : Production) (past past' : List EngineCall) (state : SaveState) (ds ds' : List Directive)
    (hds : (p.restore state (p.after past .start)).answer = .ok ds)
    (hds' : (p.restore state (p.after past' .start)).answer = .ok ds') :
    let e := p.after past .start
    let f := p.after past' .start
    ds = e.buffer ++ p.shown state ∧ ds' = f.buffer ++ p.shown state ∧
      ∀ (requests : List EngineRequest) (request : EngineRequest),
        let a := p.respond (p.serve requests (p.restore state e).engine) request
        let b := p.respond (p.serve requests (p.restore state f).engine) request
        let told := p.told (requests ++ [request]) (p.restore state e).engine
        Alike p a.engine b.engine a.answer b.answer ∧
          (.resetLineCounters ∈ told ∨ (∀ key, e.voice.count key = f.voice.count key) → a.answer = b.answer) ∧
          (.resetLineCounters ∉ told → ∀ key,
            a.engine.voice.count key + f.voice.count key = b.engine.voice.count key + e.voice.count key) ∧
          (p.speakers.Within (p.broadcast past .start ++ told) → ∀ key, a.engine.voice.count key < 2 ^ 32) ∧
          (p.speakers.Within (p.broadcast past' .start ++ told) → ∀ key, b.engine.voice.count key < 2 ^ 32) ∧
          (p.setting.screenplay.blocks.length ≤ Text.sizeMax → Placed told) := by
  intro e f
  have htwins : Twins p (p.restore state e).engine (p.restore state f).engine := twins_restored hds hds'
  obtain ⟨hfront, he⟩ := Production.restore_done hds
  obtain ⟨hfront', hf⟩ := Production.restore_done hds'
  have hvoice : (p.restore state e).engine.voice = e.voice := by rw [he]
  have hvoice' : (p.restore state f).engine.voice = f.voice := by rw [hf]
  refine ⟨hfront, hfront', fun requests request => ?_⟩
  intro a b told
  have ha : p.serve (requests ++ [request]) (p.restore state e).engine = a.engine := p.serve_concat requests request _
  have hb : p.serve (requests ++ [request]) (p.restore state f).engine = b.engine := p.serve_concat requests request _
  obtain ⟨-, -, halike⟩ := (htwins.serve requests).1.respond request
  refine ⟨halike, fun hforgot => halike.eq fun key => ?_, fun hreset key => ?_, fun hns key => ?_, fun hns key => ?_,
    fun hblocks => Production.told_placed hblocks htwins.sound _⟩
  · have hkey := htwins.counts_eq (requests ++ [request]) key
    rw [ha, hb, hvoice, hvoice'] at hkey
    exact hkey (hforgot.imp_right (· key))
  · have hkey := (htwins.counts (requests ++ [request]) key).2 hreset
    rw [ha, hb, hvoice, hvoice'] at hkey
    exact hkey
  · rw [← ha]
    exact p.serve_count_lt hvoice hns key
  · -- both engines tell the same
    have htold : told = p.told (requests ++ [request]) (p.restore state f).engine := (htwins.serve _).2.symm
    rw [htold] at hns
    rw [← hb]
    exact p.serve_count_lt hvoice' hns key

/-- a line, a picture and a line, shown on a budget of one instruction; the lines are voiced and have no numbers -/
def echoProduction : Production where
  setting := {
    screenplay :=
      let script : Script :=
        ⟨[⟨1, [⟨"PlayDialog", [], ["Ann「one」"]⟩, ⟨"SetBgImg", [], ["ROOM", "A01"]⟩, ⟨"PlayDialog", [], ["Ann「two」"]⟩],
          []⟩], []⟩
      ⟨script, script.fingerprint, Script.wellFormed_of_fault? (by decide), rfl⟩
    roster := ⟨["Ann"]⟩
    filter := .standard
    maxSteps := 1 }
  assets := .standard
  speakers := ⟨["Ann"], [("Ann", "ANN")], []⟩

/-- a save of the first instruction and an empty stage -/
def echoState : SaveState := ⟨0, 0, none, none, none, 0, some 1, none⟩

/-- **The past shows after a restored save.** One engine has shown the first line and then run away after the picture;
the other is fresh. The first one hands the picture over with the restored save, and voices the first line as the
second. -/
theorem echo_remembers :
    let e := echoProduction.after [.step, .step] .start
    let f := echoProduction.after [] .start
    let picture := Directive.showBackground (some (Assets.standard.background ⟨"ROOM", "A01"⟩))
    let spoken (voice : String) : Except EngineError EngineResponse :=
      .ok (.called (.stepped ⟨.waitUser, [.say "Ann" "one" .display, .playVoice voice]⟩))
    (echoProduction.restore echoState e).answer = .ok (picture :: echoProduction.shown echoState) ∧
      (echoProduction.restore echoState f).answer = .ok (echoProduction.shown echoState) ∧
      (echoProduction.respond (echoProduction.restore echoState e).engine (.call .step)).answer =
        spoken "/assets/audio/voice/ANN.REN0001.002.ogg" ∧
      (echoProduction.respond (echoProduction.restore echoState f).engine (.call .step)).answer =
        spoken "/assets/audio/voice/ANN.REN0001.001.ogg" ∧
      picture :: echoProduction.shown echoState ≠ echoProduction.shown echoState ∧
      spoken "/assets/audio/voice/ANN.REN0001.002.ogg" ≠ spoken "/assets/audio/voice/ANN.REN0001.001.ogg" := by
  intro e f picture spoken
  exact ⟨rfl, rfl, by decide, by decide, List.cons_ne_self _ _, by decide⟩

/-- the first line of the echo as it is told -/
def echoLine : DialogLine := ⟨⟨"Ann", "one", .display⟩, 0, none⟩

/-- what the first engine tells before the restored save and, from the first line again, after it -/
def echoTold : List Notification :=
  [.instruction ⟨"PlayDialog", [], ["Ann「one」"]⟩, .dialogLine echoLine, .instruction ⟨"SetBgImg", [], ["ROOM", "A01"]⟩,
    .instruction ⟨"PlayDialog", [], ["Ann「one」"]⟩, .dialogLine echoLine]

theorem echoTold_within : echoProduction.speakers.Within echoTold := by
  refine Speakers.within_of_length (by decide) fun l number hl hnumber => ?_
  have hline : l = echoLine := by simpa [echoTold] using hl
  rw [hline] at hnumber
  cases hnumber

/-- and nothing else of it shows; the counters are far from running over -/
theorem echo_forgets :
    let e := echoProduction.after [.step, .step] .start
    let f := echoProduction.after [] .start
    let picture := Directive.showBackground (some (Assets.standard.background ⟨"ROOM", "A01"⟩))
    (echoProduction.restore echoState e).answer = .ok (picture :: echoProduction.shown echoState) ∧
      (echoProduction.restore echoState f).answer = .ok (echoProduction.shown echoState) ∧
      (∀ key, (echoProduction.respond (echoProduction.restore echoState e).engine (.call .step)).engine.voice.count key <
        2 ^ 32) ∧
      Placed (echoProduction.told [.call .step] (echoProduction.restore echoState e).engine) ∧
      ∀ (requests : List EngineRequest) (request : EngineRequest),
        let p := echoProduction
        let a := p.respond (p.serve requests (p.restore echoState e).engine) request
        let b := p.respond (p.serve requests (p.restore echoState f).engine) request
        Alike p a.engine b.engine a.answer b.answer := by
  intro e f picture
  have hds : (echoProduction.restore echoState e).answer = .ok (picture :: echoProduction.shown echoState) := rfl
  have hds' : (echoProduction.restore echoState f).answer = .ok (echoProduction.shown echoState) := rfl
  obtain ⟨-, -, halike⟩ := restore_forgets echoProduction [.step, .step] [] echoState _ _ hds hds'
  obtain ⟨-, -, -, hcounts, -, hplaced⟩ := halike [] (.call .step)
  have htold : echoProduction.broadcast [.step, .step] .start ++
      echoProduction.told [.call .step] (echoProduction.restore echoState e).engine = echoTold := by decide
  exact ⟨hds, hds', hcounts (htold ▸ echoTold_within), hplaced (by decide),
    fun requests request => (halike requests request).1⟩

end VisualNovel
