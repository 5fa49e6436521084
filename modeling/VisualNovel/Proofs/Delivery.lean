/-
Nothing that is told gets lost on its way to the host.

While the walk runs the engine collects the directives of what is told; what it has collected goes to the host when a
call succeeds, and stays when a call fails. The voice of a line does not come from there: the engine adds it from the
tracker, at the end of a step that answers with a line.

- `broadcast`, `delivered`: what calls tell, and what the successful ones among them hand over, both in order.
- `translate`: the directives of a notification, a line with its voice right after it; `script`: those of a sequence,
  each line voiced by the tracker that has heard everything before it.
- `perform_conserves`: what a call hands over with what is left is what was collected before it with the script of
  what it tells. The voice stands in its place because a line is told last, and only when it is the answer (`Closes`):
  nothing can come between a line and its voice, and no line stays behind in a call that fails.
- `directives_conserved`: so it is over any calls from the start.
-/
import VisualNovel.Proofs.Broadcast
import VisualNovel.Proofs.Playing

namespace VisualNovel

/-! ## The cue of a line -/

/-- the cue of a line for a tracker that has heard what was told before: none if the line is not voiced -/
def VoiceTracker.cueOf (a : Assets) (s : Speakers) (t : VoiceTracker) (l : DialogLine) : Option VoiceCue :=
  (s.voiceKey l.speech.speaker).map fun key =>
    .make a key l.blockIndex ((authoredNumber l.lineNumber).getD (t.count key + 1))

theorem VoiceTracker.lastCue_speak (a : Assets) (s : Speakers) (t : VoiceTracker) (l : DialogLine) :
    (t.speak a s l).lastCue = t.cueOf a s l := by
  unfold speak cueOf
  cases s.voiceKey l.speech.speaker with
  | none => rfl
  | some key =>
    have hcount := t.count_bump key key
    rw [if_pos rfl] at hcount
    simp only [Option.map_some, hcount]

/-! ## Translation -/

/-- what a directive is to the player -/
inductive Directive.Role where
  | scene
  | line
  | voice
  | choice
  deriving DecidableEq, Repr

/-- images, music and sounds set the scene -/
def Directive.role : Directive → Role
  | .say .. => .line
  | .playVoice _ => .voice
  | .branch _ => .choice
  | .showImage .. | .playBgm _ | .playSe _ => .scene

/-- neither line nor voice nor choice -/
def Directive.SetsScene (ds : List Directive) : Prop := ∀ d ∈ ds, d.role = .scene

theorem Directive.role_ofNotification (a : Assets) {n : Notification} (hquiet : n.Quiet) :
    SetsScene (ofNotification a n) := by
  cases n with
  | instruction i =>
    simp only [ofNotification]
    cases i.command <;> simp [SetsScene, ofCommand, showBackground, showPortrait, role]
  | dialogLine l => exact hquiet.elim
  | decision labels => exact hquiet.elim
  | _ => simp [SetsScene, ofNotification, showBackground, showPortrait, role]

theorem Directive.role_ne_voice (a : Assets) (n : Notification) : ∀ d ∈ ofNotification a n, d.role ≠ .voice := by
  intro d hd
  cases n with
  | dialogLine l =>
    cases List.mem_singleton.1 hd
    simp [role]
  | decision labels =>
    cases List.mem_singleton.1 hd
    simp [role]
  | _ => simp [role_ofNotification a (by trivial) d hd]

namespace Production

variable (p : Production)

/-- the voice of a line that is told -/
def voiceOf (voice : VoiceTracker) : Notification → List Directive
  | .dialogLine l => ((voice.cueOf p.assets p.speakers l).map fun cue => Directive.playVoice cue.path).toList
  | _ => []

/-- the directives of a notification, with the voice of a line right after the line -/
def translate (voice : VoiceTracker) (n : Notification) : List Directive :=
  Directive.ofNotification p.assets n ++ p.voiceOf voice n

/-- the directives of a sequence of notifications, with voices, for a tracker that has heard what was told before -/
def script : VoiceTracker → List Notification → List Directive
  | _, [] => []
  | voice, n :: ns => p.translate voice n ++ script (voice.hear p.assets p.speakers n) ns

/-- the tracker after notifications -/
def heardBy (voice : VoiceTracker) (ns : List Notification) : VoiceTracker :=
  ns.foldl (VoiceTracker.hear p.assets p.speakers) voice

theorem heardBy_append (voice : VoiceTracker) (ns ms : List Notification) :
    p.heardBy voice (ns ++ ms) = p.heardBy (p.heardBy voice ns) ms := List.foldl_append

theorem voiceOf_quiet (voice : VoiceTracker) {n : Notification} (hquiet : n.Quiet) : p.voiceOf voice n = [] := by
  cases n with
  | dialogLine l => exact hquiet.elim
  | _ => rfl

theorem voiceOf_voice (voice : VoiceTracker) (n : Notification) : ∀ d ∈ p.voiceOf voice n, d.role = .voice := by
  cases n with
  | dialogLine l => cases hcue : voice.cueOf p.assets p.speakers l <;> simp [voiceOf, hcue, Directive.role]
  | _ => simp [voiceOf]

theorem voiceOf_length (voice : VoiceTracker) (n : Notification) : (p.voiceOf voice n).length ≤ 1 := by
  cases n with
  | dialogLine l => exact Option.length_toList_le
  | _ => exact Nat.zero_le 1

theorem script_append (voice : VoiceTracker) (ns ms : List Notification) :
    p.script voice (ns ++ ms) = p.script voice ns ++ p.script (p.heardBy voice ns) ms := by
  induction ns generalizing voice with
  | nil => rfl
  | cons n ns ih =>
    have hrest := ih (voice.hear p.assets p.speakers n)
    simp only [List.cons_append, script, hrest, List.append_assoc]
    rfl

theorem script_single (voice : VoiceTracker) (n : Notification) : p.script voice [n] = p.translate voice n :=
  List.append_nil _

theorem script_quiet (voice : VoiceTracker) {ns : List Notification} (hquiet : ∀ n ∈ ns, n.Quiet) :
    p.script voice ns = ns.flatMap (Directive.ofNotification p.assets) := by
  induction ns generalizing voice with
  | nil => rfl
  | cons n ns ih =>
    obtain ⟨hn, hns⟩ := List.forall_mem_cons.1 hquiet
    simp only [script, translate, p.voiceOf_quiet voice hn, ih _ hns, List.append_nil, List.flatMap_cons]

/-- a line at the end brings its voice with it -/
theorem script_line (voice : VoiceTracker) {ns : List Notification} (hquiet : ∀ n ∈ ns, n.Quiet) (l : DialogLine) :
    p.script voice (ns ++ [.dialogLine l]) =
      (ns ++ [Notification.dialogLine l]).flatMap (Directive.ofNotification p.assets) ++
        voiceDirectives (p.heardBy voice (ns ++ [.dialogLine l])) := by
  have hcue : (p.heardBy voice (ns ++ [.dialogLine l])).lastCue =
      (p.heardBy voice ns).cueOf p.assets p.speakers l := by
    rw [heardBy_append]
    exact VoiceTracker.lastCue_speak p.assets p.speakers _ l
  rw [script_append, p.script_quiet voice hquiet, List.flatMap_append, voiceDirectives, hcue]
  simp [script, translate, voiceOf]

/-- without its voices, a script is the directives of the notifications -/
theorem script_unvoiced (voice : VoiceTracker) (ns : List Notification) :
    (p.script voice ns).filter (·.role ≠ .voice) = ns.flatMap (Directive.ofNotification p.assets) := by
  induction ns generalizing voice with
  | nil => rfl
  | cons n ns ih =>
    have hkept : (Directive.ofNotification p.assets n).filter (·.role ≠ .voice) = Directive.ofNotification p.assets n :=
      List.filter_eq_self.2 fun d hd => by simp [Directive.role_ne_voice p.assets n d hd]
    have hdropped : (p.voiceOf voice n).filter (·.role ≠ .voice) = [] :=
      List.filter_eq_nil_iff.2 fun d hd => by simp [p.voiceOf_voice voice n d hd]
    simp only [script, translate, List.filter_append, hkept, hdropped, ih, List.append_nil, List.flatMap_cons]

end Production

/-! ## What a call tells -/

namespace Production

variable {p : Production} {e : Engine} {call : EngineCall}

theorem notifications_remarks (p : Production) (voice : VoiceTracker) (event : Event) :
    Event.notifications (p.remarks voice event) = Event.notifications [event] := by
  cases event with
  | logged r => rfl
  | told n => simp [remarks]

theorem annotate_done (p : Production) (es : List Event) (voice : VoiceTracker) (done : List Event) :
    (es.foldl (fun (acc : VoiceTracker × List Event) event =>
      (p.voiceAfter acc.1 event, (p.remarks acc.1 event).reverse ++ acc.2)) (voice, done)).2.reverse =
      done.reverse ++ p.annotate voice es := by
  induction es generalizing voice done with
  | nil => simp [annotate]
  | cons event es ih =>
    have hcons : p.annotate voice (event :: es) = _ :=
      ih (p.voiceAfter voice event) ((p.remarks voice event).reverse ++ [])
    rw [List.foldl_cons, ih, hcons]
    simp

/-- the events of a call, annotated one by one -/
theorem annotate_cons (p : Production) (voice : VoiceTracker) (event : Event) (es : List Event) :
    p.annotate voice (event :: es) = p.remarks voice event ++ p.annotate (p.voiceAfter voice event) es := by
  have hdone : p.annotate voice (event :: es) = _ :=
    p.annotate_done es (p.voiceAfter voice event) ((p.remarks voice event).reverse ++ [])
  rwa [List.append_nil, List.reverse_reverse] at hdone

/-- what stage and tracker log does not add to what is told -/
theorem notifications_annotate (p : Production) (voice : VoiceTracker) (es : List Event) :
    Event.notifications (p.annotate voice es) = Event.notifications es := by
  induction es generalizing voice with
  | nil => rfl
  | cons event es ih =>
    rw [annotate_cons, Event.notifications_append, notifications_remarks, ih, ← Event.notifications_append,
      List.singleton_append]

theorem perform_tells_nothing (hrefused : call.Refused e) : (p.perform call e).events = [] := by
  obtain ⟨text, hrefuses⟩ := perform_refuses (p := p) hrefused
  rw [hrefuses e rfl]
  rfl

theorem deliver_tells (p : Production) (e : Engine) (t : Turn Suspension) :
    Event.notifications ((p.deliver e t).map EngineAnswer.stepped).events = Event.notifications t.events := by
  refine Eq.trans ?_ (p.notifications_annotate e.voice t.events)
  simp only [deliver]
  cases t.answer <;> rfl

/-- a call that the engine allows tells what the walk tells -/
theorem perform_tells (hallowed : ¬ call.Refused e) : Event.notifications (p.perform call e).events =
    Event.notifications (p.setting.perform call.walk e.head).events := by
  cases call with
  | step =>
    rw [perform_advance hallowed rfl]
    exact p.deliver_tells e _
  | choose index =>
    rw [perform_advance hallowed rfl]
    exact p.deliver_tells e _
  | restore state =>
    refine Eq.trans ?_ (p.notifications_annotate e.voice (p.setting.restore state e.head).events)
    simp only [perform, restore]
    cases (p.setting.restore state e.head).answer <;> rfl

/-! ## A call -/

/-- the directives that a call hands over: none if it fails -/
def handedOver : Except EngineError EngineAnswer → List Directive
  | .ok answer => answer.directives
  | .error _ => []

/-- what the walk keeps and handing over does not touch, a call keeps -/
theorem perform_keeps {P : Engine → Prop} (he : P e) (hheard : P (p.heard e (p.setting.perform call.walk e.head)))
    (hdrained : ∀ f, P f → P { f with buffer := [] }) : P (p.perform call e).engine := by
  have hp := p.performed e call
  generalize (p.perform call e).answer = answer at hp
  generalize (p.perform call e).engine = engine at hp ⊢
  cases hp with
  | refused => exact he
  | failed => exact hheard
  | done => exact hdrained _ hheard

theorem perform_sound (hs : Sound p.setting e.head) (call : EngineCall) :
    Sound p.setting (p.perform call e).engine.head :=
  perform_keeps (P := fun e => Sound p.setting e.head) hs (VisualNovel.perform_sound p.setting hs call.walk)
    fun _ hf => hf

theorem perform_voice (p : Production) (e : Engine) (call : EngineCall) :
    (p.perform call e).engine.voice = p.heardBy e.voice (Event.notifications (p.perform call e).events) := by
  by_cases hrefused : call.Refused e
  · obtain ⟨text, -, hengine⟩ := perform_refused (p := p) hrefused
    rw [hengine, perform_tells_nothing hrefused]
    rfl
  · rw [perform_tells hrefused]
    have hp := p.performed e call
    generalize (p.perform call e).answer = answer at hp
    generalize (p.perform call e).engine = engine at hp
    cases hp with
    | refused h => exact absurd h hrefused
    | failed => rfl
    | done => rfl

theorem collected_scene {ns : List Notification} (hscene : Directive.SetsScene e.buffer) (hquiet : ∀ n ∈ ns, n.Quiet) :
    Directive.SetsScene (e.buffer ++ ns.flatMap (Directive.ofNotification p.assets)) := by
  intro d hd
  rcases List.mem_append.1 hd with hd | hd
  · exact hscene d hd
  · obtain ⟨n, hn, hd⟩ := List.mem_flatMap.1 hd
    exact Directive.role_ofNotification p.assets (hquiet n hn) d hd

/-- what is handed over is what was collected with the script of the call -/
theorem handOver_script {t : Turn (Option Suspension)} {suspension : Option Suspension}
    (hc : Closes p.setting (.ok suspension) t.head (Event.notifications t.events)) :
    (handOver (p.heard e t) suspension).directives =
      e.buffer ++ p.script e.voice (Event.notifications t.events) := by
  unfold heard hear
  generalize Event.notifications t.events = ns at hc ⊢
  cases hc with
  | @line g ns r es hquiet =>
    rw [p.script_line e.voice hquiet, ← List.append_assoc]
    rfl
  | @decision g ns labels hquiet =>
    rw [script_append, p.script_quiet e.voice hquiet, List.flatMap_append]
    simp [handOver, resultOf, EngineAnswer.directives, script, translate, voiceOf]
  | ended hquiet =>
    rw [p.script_quiet e.voice hquiet]
    rfl
  | restored hquiet =>
    rw [p.script_quiet e.voice hquiet]
    rfl

/-- only what sets the scene can be left -/
theorem perform_scene (hs : Sound p.setting e.head) (hscene : Directive.SetsScene e.buffer) (call : EngineCall) :
    Directive.SetsScene (p.perform call e).engine.buffer := by
  have hc := hs.closes call.walk
  have hp := p.performed e call
  generalize (p.perform call e).answer = answer at hp
  generalize (p.perform call e).engine = engine at hp ⊢
  cases hp with
  | refused => exact hscene
  | failed _ hfails =>
    rw [hfails] at hc
    cases hc with
    | failed hquiet => exact collected_scene hscene hquiet
  | done => exact List.forall_mem_nil _

/-- **A call conserves.** What it hands over, with what is left, is what was collected before it with the script of
what it tells. -/
theorem perform_conserves (hs : Sound p.setting e.head) (call : EngineCall) :
    let r := p.perform call e
    handedOver r.answer ++ r.engine.buffer = e.buffer ++ p.script e.voice (Event.notifications r.events) := by
  intro r
  by_cases hrefused : call.Refused e
  · obtain ⟨text, hanswer, hengine⟩ := perform_refused (p := p) hrefused
    simp only [r, hanswer, hengine, perform_tells_nothing hrefused]
    simp [handedOver, script]
  · have hc := hs.closes call.walk
    have hp : Performed p e call r.answer r.engine := p.performed e call
    have hns : Event.notifications r.events = _ := perform_tells hrefused
    rw [hns]
    generalize r.answer = answer at hp ⊢
    generalize r.engine = engine at hp ⊢
    cases hp with
    | refused h => exact absurd h hrefused
    | failed _ hfails =>
      rw [hfails] at hc
      cases hc with
      | failed hquiet =>
        rw [p.script_quiet e.voice hquiet]
        rfl
    | done _ hdone =>
      rw [hdone] at hc
      rw [← handOver_script hc]
      exact List.append_nil _

/-! ## Calls in a row -/

/-- the engine after calls, whatever they answered -/
def after (p : Production) (calls : List EngineCall) (e : Engine) : Engine :=
  calls.foldl (fun e call => (p.perform call e).engine) e

/-- what calls tell, in order -/
def broadcast (p : Production) : List EngineCall → Engine → List Notification
  | [], _ => []
  | call :: calls, e =>
    Event.notifications (p.perform call e).events ++ p.broadcast calls (p.perform call e).engine

/-- what the successful ones among calls hand over, in order -/
def delivered (p : Production) : List EngineCall → Engine → List Directive
  | [], _ => []
  | call :: calls, e => handedOver (p.perform call e).answer ++ p.delivered calls (p.perform call e).engine

/-- what every call keeps holds after calls -/
theorem after_keeps {P : Engine → Prop}
    (hstep : ∀ {e : Engine}, Sound p.setting e.head → P e → ∀ call, P (p.perform call e).engine)
    (hs : Sound p.setting e.head) (he : P e) (calls : List EngineCall) : P (p.after calls e) := by
  induction calls generalizing e with
  | nil => exact he
  | cons call calls ih => exact ih (perform_sound hs call) (hstep hs he call)

theorem after_start_sound (p : Production) (calls : List EngineCall) : Sound p.setting (p.after calls .start).head :=
  after_keeps (P := fun e => Sound p.setting e.head) (fun hs _ call => perform_sound hs call) (.start p.setting)
    (.start p.setting) calls

theorem after_start_scene (p : Production) (calls : List EngineCall) :
    Directive.SetsScene (p.after calls .start).buffer :=
  after_keeps (e := .start) (P := fun e => Directive.SetsScene e.buffer) perform_scene (.start p.setting)
    (List.forall_mem_nil _) calls

/-- the tracker after calls has heard what they told -/
theorem after_voice (p : Production) (calls : List EngineCall) (e : Engine) :
    (p.after calls e).voice = p.heardBy e.voice (p.broadcast calls e) := by
  induction calls generalizing e with
  | nil => rfl
  | cons call calls ih =>
    calc (p.after (call :: calls) e).voice
        = p.heardBy (p.perform call e).engine.voice (p.broadcast calls (p.perform call e).engine) := ih _
      _ = p.heardBy e.voice (p.broadcast (call :: calls) e) := by
          rw [p.perform_voice e call, ← heardBy_append]
          rfl

theorem delivered_script (hs : Sound p.setting e.head) (calls : List EngineCall) :
    p.delivered calls e ++ (p.after calls e).buffer = e.buffer ++ p.script e.voice (p.broadcast calls e) := by
  induction calls generalizing e with
  | nil => simp [delivered, after, broadcast, script]
  | cons call calls ih =>
    have hcall := perform_conserves hs call
    have hrest := ih (perform_sound hs call)
    have hvoice := p.perform_voice e call
    simp only at hcall
    calc p.delivered (call :: calls) e ++ (p.after (call :: calls) e).buffer
        = handedOver (p.perform call e).answer ++
            (p.delivered calls (p.perform call e).engine ++ (p.after calls (p.perform call e).engine).buffer) :=
          List.append_assoc _ _ _
      _ = handedOver (p.perform call e).answer ++ (p.perform call e).engine.buffer ++
            p.script (p.perform call e).engine.voice (p.broadcast calls (p.perform call e).engine) := by
          rw [hrest, List.append_assoc]
      _ = e.buffer ++ p.script e.voice (p.broadcast (call :: calls) e) := by
          rw [hcall, hvoice, List.append_assoc, ← script_append]
          rfl

/-- **No directive is lost, duplicated or reordered.** Over any calls from the start, successful or failing, what has
been handed over with what is still collected is the script of everything told: the directives of each notification in
turn, and right after a line, if it is voiced, the voice of its cue. So without the voices it is exactly the
directives of everything told. What is left has neither lines nor voices. -/
theorem directives_conserved (p : Production) (calls : List EngineCall) :
    let told := p.broadcast calls .start
    let left := (p.after calls .start).buffer
    (p.delivered calls .start).filter (·.role ≠ .voice) ++ left = told.flatMap (Directive.ofNotification p.assets) ∧
      p.delivered calls .start ++ left = p.script .start told ∧ Directive.SetsScene left := by
  intro told left
  have hscript : p.delivered calls .start ++ left = p.script .start told := delivered_script (.start p.setting) calls
  have hscene : Directive.SetsScene left := p.after_start_scene calls
  have hkept : left.filter (·.role ≠ .voice) = left := List.filter_eq_self.2 fun d hd => by simp [hscene d hd]
  refine ⟨?_, hscript, hscene⟩
  rw [← p.script_unvoiced .start told, ← hscript, List.filter_append, hkept]

end Production

end VisualNovel
