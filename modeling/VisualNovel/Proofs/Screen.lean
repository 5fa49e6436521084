/-
What the player sees is what a save records.

Stage, directives and view read one stream of notifications in three ways: the stage keeps a background, a portrait and a
track; the engine turns notifications into directives and hands them over when a call succeeds; a host applies directives
to a view, which skips what is no change. `Shows` says that a view shows a presentation: background and portrait on their
layers, nothing on any other, and the file of the track as the music.

- `Shows.hear`: if a view shows a presentation, then after the directives of a notification it shows the presentation after
  the notification.
- `Hosted.InStep`: what a host has, with what the engine has collected and not handed over, shows the stage; and what was
  collected would bring an empty view to show some presentation. Every call keeps this, failed ones included
  (`host_inStep`). The second half is for a host that drops its view at a restored save, which sets every channel.
- `view_shows_stage`: after every successful call the view shows the stage.
-/
import VisualNovel.Proofs.Playing
import VisualNovel.Terminal.View

namespace VisualNovel

/-! ## The view after one directive -/

namespace View

variable (v : View)

/-- the view after one directive -/
def after (d : Directive) : View := (v.applyOne d).1

theorem apply_append (ds es : List Directive) : (v.apply (ds ++ es)).1 = ((v.apply ds).1.apply es).1 := by
  induction ds generalizing v with
  | nil => rfl
  | cons d ds ih => exact ih (v.after d)

theorem image_congr {w : View} (h : w.images = v.images) (layer : String) : w.image layer = v.image layer := by
  simp only [image, h]

/-- an image is shown on its layer, and the other layers stay -/
theorem image_after_showImage (layer l : String) (path : Option String) :
    (v.after (.showImage layer path)).image l = if l = layer then path else v.image l := by
  cases path with
  | some path =>
    simp only [after, applyOne]
    split
    · rename_i hsame
      split_ifs with hl
      · rw [hl, hsame]
      · rfl
    · exact Assoc.lookup_assign layer l path v.images
  | none =>
    simp only [after, applyOne]
    split
    · rename_i hnone
      split_ifs with hl
      · rw [hl, hnone]
      · rfl
    · exact Assoc.lookup_discard layer l v.images

theorem bgm_after_showImage (layer : String) (path : Option String) :
    (v.after (.showImage layer path)).bgm = v.bgm := by
  cases path <;> simp only [after, applyOne] <;> split <;> rfl

theorem images_after_playBgm (path : Option String) : (v.after (.playBgm path)).images = v.images := by
  simp only [after, applyOne]
  split <;> rfl

theorem bgm_after_playBgm (path : Option String) : (v.after (.playBgm path)).bgm = path := by
  simp only [after, applyOne]
  split
  · assumption
  · rfl

end View

/-! ## A view shows a presentation -/

/-- a view shows a presentation, and nothing else -/
structure Shows (a : Assets) (v : View) (p : Presentation) : Prop where
  background : v.image Directive.backgroundLayer = p.background
  portrait : v.image Directive.portraitLayer = p.portrait
  /-- there are no other layers -/
  bare : ∀ layer, layer ≠ Directive.backgroundLayer → layer ≠ Directive.portraitLayer → v.image layer = none
  bgm : v.bgm = p.bgm.map a.bgm

namespace Shows

variable {a : Assets} {v : View} {p : Presentation}

theorem empty (a : Assets) : Shows a .empty .empty := ⟨rfl, rfl, fun _ _ _ => rfl, rfl⟩

theorem showBackground (h : Shows a v p) (path : Option String) :
    Shows a (v.after (Directive.showBackground path)) { p with background := path } where
  background := by rw [Directive.showBackground, View.image_after_showImage, if_pos rfl]
  portrait := by
    rw [Directive.showBackground, View.image_after_showImage, if_neg (by decide)]
    exact h.portrait
  bare layer hb hp := by
    rw [Directive.showBackground, View.image_after_showImage, if_neg hb]
    exact h.bare layer hb hp
  bgm := by
    rw [Directive.showBackground, View.bgm_after_showImage]
    exact h.bgm

theorem showPortrait (h : Shows a v p) (path : Option String) :
    Shows a (v.after (Directive.showPortrait path)) { p with portrait := path } where
  background := by
    rw [Directive.showPortrait, View.image_after_showImage, if_neg (by decide)]
    exact h.background
  portrait := by rw [Directive.showPortrait, View.image_after_showImage, if_pos rfl]
  bare layer hb hp := by
    rw [Directive.showPortrait, View.image_after_showImage, if_neg hp]
    exact h.bare layer hb hp
  bgm := by
    rw [Directive.showPortrait, View.bgm_after_showImage]
    exact h.bgm

theorem congr {w : View} (h : Shows a v p) (himages : w.images = v.images) (hbgm : w.bgm = v.bgm) : Shows a w p where
  background := (v.image_congr himages _).trans h.background
  portrait := (v.image_congr himages _).trans h.portrait
  bare layer hb hp := (v.image_congr himages layer).trans (h.bare layer hb hp)
  bgm := hbgm.trans h.bgm

theorem playBgm (h : Shows a v p) (track : Option String) :
    Shows a (v.after (.playBgm (track.map a.bgm))) { p with bgm := track } where
  background := (v.image_congr (v.images_after_playBgm _) _).trans h.background
  portrait := (v.image_congr (v.images_after_playBgm _) _).trans h.portrait
  bare layer hb hp := (v.image_congr (v.images_after_playBgm _) layer).trans (h.bare layer hb hp)
  bgm := v.bgm_after_playBgm _

/-! ## Notifications -/

/-- **A command changes view and presentation alike.** -/
theorem perform (h : Shows a v p) (c : Command) : Shows a (v.apply (Directive.ofCommand a c)).1 (p.perform a c) := by
  cases c with
  | setBackground image => exact h.showBackground _
  | setPortrait image => exact h.showPortrait _
  | showCg name => exact (h.showPortrait none).showBackground (some (a.cg name))
  | transition image => exact h.showBackground (some ((image.map a.background).getD a.blackScreen))
  | playBgm track => exact h.playBgm _
  | playSe name => exact h.congr rfl rfl
  | dialog line => exact h
  | decision labels => exact h
  | incomplete kind => exact h
  | unknown tag => exact h

/-- **A notification changes view and presentation alike.** -/
theorem hear (h : Shows a v p) (n : Notification) :
    Shows a (v.apply (Directive.ofNotification a n)).1 (p.hear a n) := by
  cases n with
  | instruction i => exact h.perform i.command
  | dialogLine l => exact h.congr rfl rfl
  | decision labels => exact h.congr rfl rfl
  | resetLineCounters => exact h
  | restoreGraphics background portrait => exact (h.showBackground background).showPortrait portrait
  | restoreMusic track => exact h.playBgm track

theorem hear_all (h : Shows a v p) (ns : List Notification) :
    Shows a (v.apply (ns.flatMap (Directive.ofNotification a))).1 (ns.foldl (Presentation.hear a) p) := by
  induction ns generalizing v p with
  | nil => exact h
  | cons n ns ih =>
    rw [List.flatMap_cons, View.apply_append]
    exact ih (h.hear n)

theorem voice (h : Shows a v p) (t : VoiceTracker) : Shows a (v.apply (Production.voiceDirectives t)).1 p := by
  unfold Production.voiceDirectives
  cases t.lastCue with
  | none => exact h
  | some cue => exact h.congr rfl rfl

end Shows

/-! ## A host -/

/-- an engine and the view of a host that carries out what the engine hands over -/
structure Hosted where
  engine : Engine
  view : View
  deriving DecidableEq, Repr

/-- a fresh engine and an empty view -/
def Hosted.start : Hosted := ⟨.start, .empty⟩

/-- the view to which an answer is applied: an empty one when a save was restored and the host starts anew -/
def Hosted.canvas (h : Hosted) (anew : Bool) : EngineAnswer → View
  | .stepped _ => h.view
  | .restored _ => if anew then .empty else h.view

/-- a call, and whether the host starts anew if it restores a save -/
def Production.host (p : Production) (h : Hosted) (call : EngineCall × Bool) : Hosted :=
  match (p.perform call.1 h.engine).answer with
  | .error _ => { h with engine := (p.perform call.1 h.engine).engine }
  | .ok answer => ⟨(p.perform call.1 h.engine).engine, ((h.canvas call.2 answer).apply answer.directives).1⟩

/-- the view, with what is still to be handed over, shows the stage -/
structure Hosted.InStep (p : Production) (h : Hosted) : Prop where
  shows : Shows p.assets (h.view.apply h.engine.buffer).1 h.engine.stage
  /-- what is still to be handed over brings an empty view to show something -/
  blank : ∃ stage, Shows p.assets (View.empty.apply h.engine.buffer).1 stage

theorem Hosted.InStep.start (p : Production) : Hosted.start.InStep p := ⟨.empty _, .empty, .empty _⟩

theorem Hosted.InStep.heard {p : Production} {h : Hosted} {α : Type} (hs : h.InStep p) (t : Turn α) :
    Hosted.InStep p { h with engine := p.heard h.engine t } := by
  obtain ⟨stage, hblank⟩ := hs.blank
  refine ⟨?_, (Event.notifications t.events).foldl (Presentation.hear p.assets) stage, ?_⟩
  · change Shows p.assets (h.view.apply (h.engine.buffer ++ _)).1 _
    rw [View.apply_append]
    exact hs.shows.hear_all (Event.notifications t.events)
  · change Shows p.assets (View.empty.apply (h.engine.buffer ++ _)).1 _
    rw [View.apply_append]
    exact hblank.hear_all (Event.notifications t.events)

/-- a restored save sets every channel, so an empty view shows the stage as well -/
theorem Hosted.InStep.restored {p : Production} {h : Hosted} (hs : h.InStep p) {state : SaveState}
    (hdone : (p.setting.restore state h.engine.head).answer = .ok ()) :
    Shows p.assets (View.empty.apply (p.heard h.engine (p.setting.restore state h.engine.head)).buffer).1
      (p.heard h.engine (p.setting.restore state h.engine.head)).stage := by
  obtain ⟨stage, hblank⟩ := hs.blank
  rcases p.setting.restore_cases state h.engine.head with ⟨i, es, -, ht, hes⟩ | ⟨e, es, -, ht, -⟩
  · rw [ht]
    simp only [Production.heard, Production.hear, hes, View.apply_append]
    exact hblank.hear_all [.restoreGraphics state.background state.portrait, .restoreMusic state.bgm]
  · rw [ht] at hdone
    cases hdone

/-- what is handed over brings the view of the host in step with the stage -/
theorem Hosted.InStep.handOver {p : Production} {h : Hosted} (hs : h.InStep p) (call : EngineCall) (anew : Bool)
    {suspension : Option Suspension} (hdone : (p.setting.perform call.walk h.engine.head).answer = .ok suspension) :
    let e := p.heard h.engine (p.setting.perform call.walk h.engine.head)
    let answer := Production.handOver e suspension
    Shows p.assets ((h.canvas anew answer).apply answer.directives).1 e.stage := by
  intro e answer
  have hshows : Shows p.assets (h.view.apply e.buffer).1 e.stage := (hs.heard _).shows
  cases suspension with
  | some suspension =>
    cases suspension with
    | line l =>
      change Shows p.assets (h.view.apply (e.buffer ++ Production.voiceDirectives e.voice)).1 e.stage
      rw [View.apply_append]
      exact hshows.voice e.voice
    | decision labels => exact hshows
    | ended => exact hshows
  | none =>
    cases anew with
    | false => exact hshows
    | true =>
      -- the view is empty now, so the second half of the invariant is what counts
      obtain ⟨state, hcall, hrestored⟩ := Setting.perform_ok_none hdone
      cases call with
      | restore state' =>
        cases hcall
        exact hs.restored hrestored
      | step => cases hcall
      | choose index => cases hcall

/-- **Every call keeps host and engine in step**, and after a successful one nothing is left to be handed over. -/
theorem host_inStep {p : Production} {h : Hosted} (hs : h.InStep p) (call : EngineCall × Bool) :
    (p.host h call).InStep p ∧ ∀ answer, (p.perform call.1 h.engine).answer = .ok answer →
      (p.host h call).engine.buffer = [] := by
  have hc := p.performed h.engine call.1
  unfold Production.host
  generalize (p.perform call.1 h.engine).answer = answer at hc
  generalize (p.perform call.1 h.engine).engine = engine at hc
  cases hc with
  | refused => exact ⟨hs, by simp⟩
  | failed => exact ⟨hs.heard _, by simp⟩
  | done _ hdone => exact ⟨⟨hs.handOver call.1 call.2 hdone, .empty, .empty _⟩, fun _ _ => rfl⟩

theorem hosts_inStep {p : Production} {h : Hosted} (hs : h.InStep p) (calls : List (EngineCall × Bool)) :
    (calls.foldl p.host h).InStep p := by
  induction calls generalizing h with
  | nil => exact hs
  | cons call calls ih => exact ih (host_inStep hs call).1

/-- **The view shows the stage.** A host carries out what successful calls hand over, from an empty view, and at some
restored saves it drops its view first. After any calls, some of which may fail, and one more that succeeds, its view
shows what the stage records: background, portrait, no other layer, and the file of the track. -/
theorem view_shows_stage (p : Production) (calls : List (EngineCall × Bool)) (call : EngineCall × Bool)
    (answer : EngineAnswer) (hdone : (p.perform call.1 (calls.foldl p.host .start).engine).answer = .ok answer) :
    Shows p.assets (p.host (calls.foldl p.host .start) call).view
      (p.host (calls.foldl p.host .start) call).engine.stage := by
  obtain ⟨hs, hbuffer⟩ := host_inStep (hosts_inStep (.start p) calls) call
  have hshows := hs.shows
  rw [hbuffer answer hdone] at hshows
  exact hshows

/-- a picture and a line, shown on a budget of one instruction -/
def roomProduction : Production where
  setting := {
    screenplay :=
      let script : Script := ⟨[⟨1, [⟨"SetBgImg", [], ["ROOM", "A01"]⟩, ⟨"PlayDialog", [], ["a"]⟩], []⟩], []⟩
      ⟨script, script.fingerprint, Script.wellFormed_of_fault? (by decide), rfl⟩
    roster := ⟨[]⟩
    filter := .standard
    maxSteps := 1 }
  assets := .standard
  speakers := .standard

/-- the first step uses up its budget on the picture, and the second hands it over with the line -/
theorem view_shows_room :
    (roomProduction.perform .step ([(.step, false)].foldl roomProduction.host .start).engine).answer =
        .ok (.stepped ⟨.waitUser, [Directive.showBackground (some (Assets.standard.background ⟨"ROOM", "A01"⟩)),
          .say "" "a" .hidden]⟩) ∧
      Shows .standard (roomProduction.host ([(.step, false)].foldl roomProduction.host .start) (.step, false)).view
        (roomProduction.host ([(.step, false)].foldl roomProduction.host .start) (.step, false)).engine.stage :=
  ⟨rfl, view_shows_stage roomProduction [(.step, false)] (.step, false) _ rfl⟩

end VisualNovel
