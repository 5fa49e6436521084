/-
A load that fails leaves the session where it was.

Between a slot number and a restored save stand five hurdles: the number, the medium, a key that holds nothing, bytes that
are no save, and a cursor that points at no instruction. All of them come before anything is written or told.

- `Screenplay.Holds`: a cursor is inside a screenplay. Nothing else decides whether a save is accepted (`restores`), neither
  the id of its block nor its fingerprint.
- `Loads`: what loading a slot comes to, one constructor per hurdle and one for the save that takes them all, for a medium
  that may answer anything (`restoreSlot_loads`).
- `failed_load_changes_nothing`: a load of which the player is told a message, and a restored save that is refused, leave
  the whole engine as it was.
-/
import VisualNovel.Proofs.Rejections
import VisualNovel.Store.Memory
import VisualNovel.Terminal.Player

namespace VisualNovel

/-! ## Restoring a save -/

/-- what restoring a save comes to: the answer, the engine after it and what is told -/
inductive Restores (p : Production) (state : SaveState) (e : Engine) :
    Except EngineError (List Directive) → Engine → List Notification → Prop where
  /-- nothing of the engine is left but the tracker -/
  | done (hholds : p.setting.screenplay.Holds state.cursor) :
    Restores p state e (.ok (e.buffer ++ p.shown state)) ⟨.fresh state.cursor, state.presentation, e.voice, []⟩
      state.announced
  /-- the cursor is outside -/
  | refused {reason : WalkError} (hoff : ¬ p.setting.screenplay.Holds state.cursor)
    (hcheck : p.setting.screenplay.check state.cursor = .error reason) :
    Restores p state e (.error (.walk reason)) e []

section Restoring

variable {p : Production} {e engine : Engine} {state : SaveState} {ns : List Notification}

/-- **What restoring a save can come to.** -/
theorem Production.restores (p : Production) (state : SaveState) (e : Engine) :
    Restores p state e (p.restore state e).answer (p.restore state e).engine
      (Event.notifications (p.restore state e).events) := by
  rcases p.setting.restore_cases state e.head with ⟨i, es, hi, ht, hes⟩ | ⟨reason, es, hcheck, ht, hes⟩
  · have hanswer : (p.restore state e).answer = .ok (e.buffer ++ p.shown state) := by
      simp only [restore, watch, ht, hear, hes]
      rfl
    have htold : Event.notifications (p.restore state e).events = state.announced := by
      simp only [restore, watch, ht, notifications_annotate, hes]
      rfl
    rw [hanswer, (restore_done hanswer).2, htold]
    exact .done (Screenplay.holds_iff.2 ⟨i, hi⟩)
  · have hoff : ¬ p.setting.screenplay.Holds state.cursor := by
      intro hholds
      cases hholds.check.symm.trans hcheck
    simp only [restore, watch, ht, notifications_annotate, hes, hear_nil]
    exact .refused hoff hcheck

/-- **A save is accepted exactly when its cursor is inside the screenplay.** -/
theorem Restores.ok_iff {answer : Except EngineError (List Directive)} (hr : Restores p state e answer engine ns) :
    (∃ ds, answer = .ok ds) ↔ p.setting.screenplay.Holds state.cursor := by
  cases hr with
  | done hholds => exact iff_of_true ⟨_, rfl⟩ hholds
  | refused hoff => exact iff_of_false (by simp) hoff

theorem Restores.unchanged {reason : EngineError} (hr : Restores p state e (.error reason) engine ns) :
    engine = e ∧ ns = [] := by
  cases hr
  exact ⟨rfl, rfl⟩

end Restoring

/-! ## Loading a slot -/

section Loading

variable {σ : Type}

/-- what loading a slot comes to: the answer, the engine after it and what is told -/
inductive Loads (p : Production) (slots : SaveSlots σ) (slot : Nat) (e : Engine) (contents : σ) :
    Except EngineError (Option (List Directive)) → Engine → List Notification → Prop where
  /-- there is no such slot -/
  | noSlot (hslot : slots.config.maxSlots ≤ slot) :
    Loads p slots slot e contents (.error (.slot ⟨slot, slots.config.maxSlots⟩)) e []
  /-- the medium fails -/
  | unreadable {key : String} {reason : StoreError} (hkey : slots.key slot = .ok key)
    (hget : (slots.medium.get key contents).1 = .error reason) : Loads p slots slot e contents (.ok none) e []
  /-- the slot is empty -/
  | absent {key : String} (hkey : slots.key slot = .ok key) (hget : (slots.medium.get key contents).1 = .ok none) :
    Loads p slots slot e contents (.ok none) e []
  /-- what is there is no save -/
  | corrupt {key : String} {bytes : ByteArray} {reason : Json.DecodeError} (hkey : slots.key slot = .ok key)
    (hget : (slots.medium.get key contents).1 = .ok (some bytes)) (hbytes : SaveState.ofBytes bytes = .error reason) :
    Loads p slots slot e contents (.ok none) e []
  /-- there is a save; it is restored or refused -/
  | found {key : String} {bytes : ByteArray} {state : SaveState} {answer : Except EngineError (List Directive)}
    {engine : Engine} {ns : List Notification} (hkey : slots.key slot = .ok key)
    (hget : (slots.medium.get key contents).1 = .ok (some bytes)) (hbytes : SaveState.ofBytes bytes = .ok state)
    (hrestores : Restores p state e answer engine ns) : Loads p slots slot e contents (answer.map some) engine ns

theorem SaveSlots.key_error {slots : SaveSlots σ} {slot : Nat} {reason : SlotOutOfRange}
    (hkey : slots.key slot = .error reason) :
    slots.config.maxSlots ≤ slot ∧ reason = ⟨slot, slots.config.maxSlots⟩ := by
  unfold key at hkey
  split at hkey
  · cases hkey
  · rename_i hslot
    cases hkey
    exact ⟨Nat.not_lt.1 hslot, rfl⟩

/-- **What loading a slot can come to**, on a medium that may answer anything. -/
theorem restoreSlot_loads (p : Production) (slots : SaveSlots σ) (slot : Nat) (e : Engine) (contents : σ) :
    let r := (p.restoreSlot slots slot e contents).reply
    Loads p slots slot e contents r.answer r.engine (Event.notifications r.events) := by
  simp only [Production.restoreSlot, SaveSlots.load]
  cases hkey : slots.key slot with
  | error reason =>
    obtain ⟨hslot, rfl⟩ := SaveSlots.key_error hkey
    exact .noSlot hslot
  | ok key =>
    simp only
    generalize hread : slots.medium.get key contents = read
    obtain ⟨read, rest⟩ := read
    have hget := congrArg Prod.fst hread
    cases read with
    | error reason => exact .unreadable hkey hget
    | ok found =>
      cases found with
      | none => exact .absent hkey hget
      | some bytes =>
        simp only
        cases hbytes : SaveState.ofBytes bytes with
        | error reason => exact .corrupt hkey hget hbytes
        | ok state => exact .found hkey hget hbytes (p.restores state e)

/-- what the player is told of a load, unless a save was restored -/
def Player.loadMessage (slot : Nat) : Except EngineError (Option (List Directive)) → Option String
  | .error reason => some (loadFailure slot reason)
  | .ok none => some s!"Slot {slot} is empty."
  | .ok (some _) => none

/-- a load of which the player is told a message comes back to the prompt -/
theorem Player.load_told (p : Player σ) (slots : SaveSlots σ) (slot : Nat) (s : Session σ) {message : String}
    (hmessage : loadMessage slot (p.production.restoreSlot slots slot s.engine s.contents).reply.answer =
      some message) :
    p.load slots slot s =
      answer { s with
        engine := (p.production.restoreSlot slots slot s.engine s.contents).reply.engine
        contents := (p.production.restoreSlot slots slot s.engine s.contents).contents } [message] := by
  cases ha : (p.production.restoreSlot slots slot s.engine s.contents).reply.answer with
  | error reason =>
    rw [ha] at hmessage
    cases hmessage
    simp only [load, ha]
  | ok directives =>
    rw [ha] at hmessage
    cases directives with
    | none =>
      cases hmessage
      simp only [load, ha]
    | some directives => cases hmessage

/-- such a load leaves the engine, and tells nothing -/
theorem Loads.unchanged {p : Production} {slots : SaveSlots σ} {slot : Nat} {e : Engine} {contents : σ}
    {answer : Except EngineError (Option (List Directive))} {engine : Engine} {ns : List Notification}
    (hl : Loads p slots slot e contents answer engine ns) {message : String}
    (hmessage : Player.loadMessage slot answer = some message) : engine = e ∧ ns = [] := by
  -- only a save that is found can change anything, and then no message is told
  cases hl with
  | found _ _ _ hrestores =>
    cases hrestores with
    | done => cases hmessage
    | refused => exact ⟨rfl, rfl⟩
  | _ => exact ⟨rfl, rfl⟩

end Loading

/-- **A load that fails changes nothing.** At any prompt, whatever the engine has come to and whatever the medium answers:
when the player is told a message about a slot that was to be loaded, the engine is as it was, nobody was told
anything, and the session goes on at the same prompt. The same holds of every save that is refused; and a save is
accepted exactly when its cursor is inside the screenplay, whatever else it holds. -/
theorem failed_load_changes_nothing {σ : Type} (p : Player σ) (slots : SaveSlots σ) (slot : Nat) (s : Session σ) :
    let r := p.production.restoreSlot slots slot s.engine s.contents
    (∀ message, Player.loadMessage slot r.reply.answer = some message →
        r.reply.engine = s.engine ∧ Event.notifications r.reply.events = [] ∧
          p.load slots slot s = Player.answer { s with contents := r.contents } [message]) ∧
      (∀ state reason, (p.production.restore state s.engine).answer = .error reason →
        (p.production.restore state s.engine).engine = s.engine ∧
          Event.notifications (p.production.restore state s.engine).events = []) ∧
      ∀ state, (∃ ds, (p.production.restore state s.engine).answer = .ok ds) ↔
        p.production.setting.screenplay.Holds state.cursor := by
  intro r
  have hrestores := fun state => p.production.restores state s.engine
  refine ⟨fun message hmessage => ?_, fun state reason hr => ?_, fun state => (hrestores state).ok_iff⟩
  · have hloads : Loads p.production slots slot s.engine s.contents _ r.reply.engine _ := restoreSlot_loads ..
    obtain ⟨hengine, htold⟩ := hloads.unchanged hmessage
    refine ⟨hengine, htold, ?_⟩
    rw [p.load_told slots slot s hmessage]
    change Player.answer { s with engine := r.reply.engine, contents := r.contents } [message] = _
    rw [hengine]
  · have hrefused := hrestores state
    rw [hr] at hrefused
    exact hrefused.unchanged

/-- a session at the decision of the crossing, with nothing saved -/
def crossingSession : Session Memory := ⟨crossingProduction.after [.step] .start, [], .empty, ⟨.waitBranch, []⟩⟩

/-- while the decision waits, an empty slot is no load, and a save of the third block is refused -/
theorem crossing_stays :
    let p : Player Memory := ⟨crossingProduction, none, false⟩
    let slots : SaveSlots Memory := ⟨.memory, .standard⟩
    let s := crossingSession
    let r := p.production.restoreSlot slots 0 s.engine s.contents
    let beyond : SaveState := ⟨2, 0, none, none, none, 0, none, none⟩
    Player.loadMessage 0 r.reply.answer = some "Slot 0 is empty." ∧ r.reply.engine = s.engine ∧
      (p.production.restore beyond s.engine).answer = .error (.walk (.blockOutOfRange 2 2)) ∧
      (p.production.restore beyond s.engine).engine = s.engine := by
  intro p slots s r beyond
  obtain ⟨hload, hrestore, -⟩ := failed_load_changes_nothing p slots 0 s
  have hmessage : Player.loadMessage 0 r.reply.answer = some "Slot 0 is empty." := by decide
  have hrefused : (p.production.restore beyond s.engine).answer = .error (.walk (.blockOutOfRange 2 2)) := rfl
  exact ⟨hmessage, (hload _ hmessage).1, hrefused, (hrestore beyond _ hrefused).1⟩

end VisualNovel
