/-
A restored save gives itself back.

A save has two owners: the walk has its cursor, which restoring writes, and the stage has its presentation, which reaches it
only through what is told. Whatever walk and stage were before, a save that is restored overwrites both, so a save taken
next is the one restored, but for when it was taken and for the two members that say where: the id of the block and the
fingerprint are those of the screenplay that is played.

- `Setting.restore_inside`: a save inside the screenplay is accepted, and its two notifications are all that is told.
- `Presentation.attend_announced`: a stage that hears them shows what the save shows, whatever it showed before.
- `capture_restore`: the save taken next, for any save inside the screenplay and for one taken of any reachable walk
  through the same screenplay.
-/
import VisualNovel.Proofs.Loading

namespace VisualNovel

/-! ## The stage -/

/-- the stage when it has heard what a turn of the walk tells -/
def Presentation.attend {α : Type} (a : Assets) (shown : Presentation) (t : Turn α) : Presentation :=
  (Event.notifications t.events).foldl (hear a) shown

theorem Presentation.attend_announced {α : Type} (a : Assets) (shown : Presentation) {t : Turn α} {state : SaveState}
    (htold : Event.notifications t.events = state.announced) : shown.attend a t = state.presentation := by
  unfold attend
  rw [htold]
  rfl

/-! ## The walk -/

namespace Setting

variable (s : Setting) (state : SaveState)

/-- a save taken where a save was restored -/
theorem capture_fresh {b : Block} (hb : s.screenplay.blocks[state.blockIndex]? = some b) (now : Nat) :
    s.capture (.fresh state.cursor) state.presentation now =
      { state with savedAt := now, eventId := some b.id, fingerprint := some s.screenplay.fingerprint } := by
  simp only [capture, Playhead.fresh, SaveState.cursor, SaveState.presentation, hb, Option.map_some]

/-- a save taken where a save of the same screenplay was restored -/
theorem capture_again {origin : Setting} (hsame : origin.screenplay = s.screenplay) (h : Playhead)
    (seen : Presentation) (taken now : Nat) (hstate : state = origin.capture h seen taken) :
    s.capture (.fresh state.cursor) state.presentation now = { state with savedAt := now } := by
  subst hstate
  simp only [capture, Playhead.fresh, SaveState.cursor, SaveState.presentation, hsame]

end Setting

/-- **Capture after restore gives the save back.** Whatever the playhead has come to, and whatever the stage shows, a save
whose cursor is inside the screenplay is accepted, and background and portrait, then the track, are told and nothing
else. A save taken next holds the cursor and the presentation of the one restored, the id of the block at the cursor and
the fingerprint of the screenplay that is played; no decision waits, the screenplay is not over, and no instruction
counts as executed last. In particular, a save taken of any reachable walk through the same screenplay is given back in
all but the time. -/
theorem capture_restore (s : Setting) (a : Assets) (h : Playhead) (shown : Presentation) (now : Nat) :
    (∀ state : SaveState, s.screenplay.Holds state.cursor →
      let t := s.restore state h
      t.answer = .ok () ∧
        Event.notifications t.events =
          [.restoreGraphics state.background state.portrait, .restoreMusic state.bgm] ∧
        (∃ b, s.screenplay.blocks[state.blockIndex]? = some b ∧
          s.capture t.head (shown.attend a t) now =
            { state with savedAt := now, eventId := some b.id, fingerprint := some s.screenplay.fingerprint }) ∧
        t.head.choices = none ∧ t.head.isFinished = false ∧ s.lastExecuted t.head = none) ∧
      ∀ (origin : Setting) (calls : List Call) (seen : Presentation) (taken : Nat),
        origin.screenplay = s.screenplay →
        let state := origin.capture (origin.play calls .start) seen taken
        let t := s.restore state h
        t.answer = .ok () ∧ s.capture t.head (shown.attend a t) now = { state with savedAt := now } := by
  constructor
  · intro state hinside t
    obtain ⟨es, ht, hes⟩ := s.restore_inside hinside h
    have htold : Event.notifications t.events = state.announced := by
      simp only [t, ht, hes]
    obtain ⟨b, hb, -⟩ := hinside
    have hcapture := s.capture_fresh state hb now
    -- the presentation of the save is what the stage shows, for it has heard both notifications
    rw [← shown.attend_announced a htold] at hcapture
    simp only [t, ht] at hcapture htold ⊢
    exact ⟨trivial, htold, ⟨b, hb, hcapture⟩, rfl, rfl, rfl⟩
  · intro origin calls seen taken hsame state t
    -- the cursor of a reachable walk is inside its screenplay, which is also that of `s`
    have hsound : Sound origin (origin.play calls .start) := play_sound origin (.start origin) calls
    have hinside : s.screenplay.Holds state.cursor := hsame ▸ hsound.holds
    obtain ⟨es, ht, hes⟩ := s.restore_inside hinside h
    have htold : Event.notifications t.events = state.announced := by
      simp only [t, ht, hes]
    have hcapture := s.capture_again state hsame _ seen taken now rfl
    rw [← shown.attend_announced a htold] at hcapture
    simp only [t, ht] at hcapture ⊢
    exact ⟨trivial, hcapture⟩

/-- at the decision of the crossing, a save of its second block with an unnamed track, and the one of the start -/
theorem crossing_captured :
    let s := crossingSetting
    let h := s.play [.advance none] .start
    let state : SaveState := ⟨1, 0, some "a.webp", none, some "", 0, none, none⟩
    let t := s.restore state h
    let first := s.capture (s.play [] .start) .empty 0
    s.screenplay.Holds state.cursor ∧ t.head.choices = none ∧
      (∃ b, s.screenplay.blocks[1]? = some b ∧
        s.capture t.head (Presentation.empty.attend .standard t) 1 =
          { state with savedAt := 1, eventId := some b.id, fingerprint := some s.screenplay.fingerprint }) ∧
      s.capture (s.restore first h).head (Presentation.empty.attend .standard (s.restore first h)) 1 =
        { first with savedAt := 1 } := by
  intro s h state t first
  obtain ⟨hrestore, hagain⟩ := capture_restore s .standard h .empty 1
  have hinside : s.screenplay.Holds state.cursor := ⟨_, rfl, by decide⟩
  obtain ⟨-, -, hcapture, hchoices, -⟩ := hrestore state hinside
  exact ⟨hinside, hchoices, hcapture, (hagain s [] .empty 0 rfl).2⟩

end VisualNovel
