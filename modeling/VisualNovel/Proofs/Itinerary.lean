/-
The way that a walk takes through the graph, glued across calls.

An `Itinerary` is a path of legs between stations. A station says what may come next: the instruction at a cursor is due,
the decision at a cursor is held, or the screenplay has ended. A leg executes an instruction, asks to go on without a
choice, takes an edge of a held decision, or restores a save; `Travels` gives the station after it. Going on without a
choice makes a held decision due again and changes nothing else, and nothing but a restored save leaves the end.

- `walk_follows_graph`: over any calls from the start, whatever they answer, the instructions told are the resolved
  instructions at the cursors of an itinerary from the first instruction, with a choice where one was accepted and a
  restored cursor where a save was; it ends at the station of the playhead. So between two saves no instruction is
  skipped, repeated or told out of order: after one that is no decision comes where its first edge leads, and after a
  decision either itself, told again on going on without a choice, or where the chosen edge leads.

One instruction is one leg (`Ticked.travels`), a run is a stretch of them (`runOn_travels`), a call prepends what it starts
with (`perform_travels`).
-/
import VisualNovel.Proofs.Invariant

namespace VisualNovel

/-! ## Stations and legs -/

/-- what may come next -/
inductive Station where
  /-- the instruction at the cursor -/
  | due (c : Cursor)
  /-- a choice of the decision at the cursor, or going on without one -/
  | held (c : Cursor)
  /-- nothing, until a save is restored -/
  | ended
  deriving DecidableEq, Repr

/-- one thing that takes a walk from station to station -/
inductive Leg where
  /-- the instruction at a cursor is executed -/
  | executed (c : Cursor)
  /-- the walk is to go on, and no choice is made -/
  | resumed
  /-- an edge of the held decision is taken -/
  | chosen (edge : Nat)
  /-- the cursor is put where a save says -/
  | restored (c : Cursor)
  deriving DecidableEq, Repr

/-- the station where an edge leads -/
def Station.after : Option Cursor → Station
  | some next => .due next
  | none => .ended

/-- the station when the walk is to go on without a choice: a held decision is due again -/
def Station.resumed : Station → Station
  | .held c => .due c
  | .due c => .due c
  | .ended => .ended

/-- where a leg goes -/
inductive Travels (s : Screenplay) : Station → Leg → Station → Prop where
  /-- from an instruction that is no decision along its first edge -/
  | pass {c : Cursor} {i : Instruction} {next : Option Cursor} (hi : s.instructionAt c = .ok i)
    (hkind : i.kind ≠ .showDecision) (hnext : s.Leads 0 c next) : Travels s (.due c) (.executed c) (.after next)
  /-- a decision is held -/
  | hold {c : Cursor} {i : Instruction} (hi : s.instructionAt c = .ok i) (hkind : i.kind = .showDecision) :
    Travels s (.due c) (.executed c) (.held c)
  /-- on, without a choice -/
  | resume (p : Station) : Travels s p .resumed p.resumed
  /-- from a held decision along the chosen edge -/
  | choose {c : Cursor} {edge : Nat} {next : Option Cursor} (hnext : s.Leads edge c next) :
    Travels s (.held c) (.chosen edge) (.after next)
  /-- from anywhere to a restored cursor that points at an instruction -/
  | restore {p : Station} {c : Cursor} {i : Instruction} (hi : s.instructionAt c = .ok i) :
    Travels s p (.restored c) (.due c)

/-- legs one after another -/
inductive Itinerary (s : Screenplay) : Station → List Leg → Station → Prop where
  | nil (p : Station) : Itinerary s p [] p
  | cons {p q r : Station} {leg : Leg} {legs : List Leg} (hleg : Travels s p leg q) (hlegs : Itinerary s q legs r) :
    Itinerary s p (leg :: legs) r

theorem Itinerary.append {s : Screenplay} {p q r : Station} {as bs : List Leg} (ha : Itinerary s p as q)
    (hb : Itinerary s q bs r) : Itinerary s p (as ++ bs) r := by
  induction ha with
  | nil => exact hb
  | cons hleg _ ih => exact .cons hleg (ih hb)

/-- the station of a playhead -/
def Playhead.station (h : Playhead) : Station :=
  match h.pending, h.progress with
  | some _, _ => .held h.cursor
  | none, .running => .due h.cursor
  | none, _ => .ended

theorem Playhead.station_goTo (c : Cursor) (next : Option Cursor) :
    ((Playhead.passed c).goTo next).station = .after next := by
  cases next with
  | some next => rfl
  | none => rfl

/-! ## The instructions told by a call -/

/-- the instruction of a notification that tells one -/
def Notification.reading? : Notification → Option Resolved
  | .instruction r => some r
  | _ => none

/-- the instructions told among events, in order -/
def Event.readings (es : List Event) : List Resolved := (notifications es).filterMap Notification.reading?

@[simp] theorem Event.readings_append (es fs : List Event) : readings (es ++ fs) = readings es ++ readings fs := by
  simp [readings]

/-- a resolved instruction is the one at a cursor -/
def Setting.Reads (s : Setting) (r : Resolved) (c : Cursor) : Prop :=
  ∃ i, s.screenplay.instructionAt c = .ok i ∧ r = s.reading i

/-- what a call starts with: going on, an accepted choice, which resets line counters, or a restored save -/
def Call.departure {α : Type} (t : Turn α) : Call → List Leg
  | .advance none => [.resumed]
  | .advance (some edge) => if .resetLineCounters ∈ Event.notifications t.events then [.chosen edge] else []
  | .restore state =>
    match t.answer with
    | .ok _ => [.restored state.cursor]
    | .error _ => []

/-- the legs of a call: what it starts with, then the instructions that it tells -/
def Setting.Walked {α : Type} (s : Setting) (call : Call × Turn α) (legs : List Leg) : Prop :=
  ∃ cs : List Cursor, legs = call.1.departure call.2 ++ cs.map .executed ∧
    List.Forall₂ s.Reads (Event.readings call.2.events) cs

/-! ## One instruction -/

/-- **One instruction is one leg.** -/
theorem Ticked.travels {s : Setting} {h h' : Playhead} {i : Instruction} {answer : Option (Except WalkError Suspension)}
    {ns : List Notification} (ht : Ticked s h i answer h' ns) (hs : Sound s h) (hrun : h.progress = .running)
    (hi : s.screenplay.instructionAt h.cursor = .ok i) :
    Travels s.screenplay (.due h.cursor) (.executed h.cursor) h'.station := by
  cases ht with
  | @line next hkind hnext =>
    have hdecision : i.kind ≠ .showDecision := by simp [hkind]
    rw [hs.read_goTo hrun hi hdecision, Playhead.station_goTo]
    exact .pass hi hdecision hnext
  | decision hkind => exact .hold hi hkind
  | silent hline hdecision hnext =>
    rw [hs.read_goTo hrun hi hdecision, Playhead.station_goTo]
    exact .pass hi hdecision hnext
  | last hline hdecision hnext =>
    rw [hs.read_goTo hrun hi hdecision]
    exact .pass hi hdecision hnext

theorem Ticked.readings {s : Setting} {h h' : Playhead} {i : Instruction}
    {answer : Option (Except WalkError Suspension)} {ns : List Notification} (ht : Ticked s h i answer h' ns) :
    ns.filterMap Notification.reading? = [s.reading i] := by
  cases ht <;> rfl

/-! ## A run -/

/-- **A run is a stretch of an itinerary.** It starts with the instruction under the cursor, which is a held decision
only at the first step. -/
theorem runOn_travels (s : Setting) (budget : Nat) {h : Playhead} (hs : Sound s h) (hrun : h.progress = .running)
    (hstart : h.pending = none ∨ 0 < budget) :
    ∃ cs : List Cursor, List.Forall₂ s.Reads (Event.readings (s.runOn budget h []).events) cs ∧
      Itinerary s.screenplay (.due h.cursor) (cs.map .executed) (s.runOn budget h []).head.station := by
  induction budget generalizing h with
  | zero =>
    have hpending : h.pending = none := hstart.resolve_right (lt_irrefl 0)
    have hstation : h.station = .due h.cursor := by simp only [Playhead.station, hpending, hrun]
    refine ⟨[], .nil, ?_⟩
    rw [← hstation]
    exact .nil _
  | succ budget ih =>
    obtain ⟨i, hi⟩ := hs.points
    have ht := s.tick_ticked hi hrun
    have hleg := ht.travels hs hrun hi
    have hread : List.Forall₂ s.Reads (Event.readings (s.tick h).events) [h.cursor] := by
      rw [Event.readings, ht.readings]
      exact .cons ⟨i, hi, rfl⟩ .nil
    rw [Setting.runOn_succ]
    cases ha : (s.tick h).answer with
    | some answer => exact ⟨[h.cursor], hread, .cons hleg (.nil _)⟩
    | none =>
      rw [ha] at ht
      have hrun' := ht.running hrun
      have hpending' := ht.pending_none hs hi
      have hstation : (s.tick h).head.station = .due (s.tick h).head.cursor := by
        simp only [Playhead.station, hpending', hrun']
      -- the instruction was silent, so the rest of the run starts with no decision waiting
      obtain ⟨cs, hcs, hlegs⟩ := ih (ht.sound hs hrun hi) hrun' (Or.inl hpending')
      rw [hstation] at hleg
      refine ⟨h.cursor :: cs, ?_, .cons hleg hlegs⟩
      rw [Event.readings_append]
      exact List.rel_append hread hcs

theorem run_travels (s : Setting) {h : Playhead} (hs : Sound s h) :
    ∃ cs : List Cursor, List.Forall₂ s.Reads (Event.readings (s.run h).events) cs ∧
      Itinerary s.screenplay h.station.resumed (cs.map .executed) (s.run h).head.station := by
  cases hp : h.progress with
  | running =>
    have hstation : h.station.resumed = .due h.cursor := by
      simp only [Playhead.station, hp]
      cases h.pending <;> rfl
    rw [s.run_running hp, hstation]
    exact runOn_travels s s.limit hs hp (Or.inr s.limit_pos)
  | exhausted =>
    have hpending := (hs.ends (by simp [hp])).1
    rw [s.run_exhausted hp]
    refine ⟨[], by simp [Event.readings], ?_⟩
    simp only [Playhead.station, hpending, hp]
    exact .nil _
  | finished =>
    have hpending := (hs.ends (by simp [hp])).1
    rw [s.run_finished hp]
    refine ⟨[], .nil, ?_⟩
    simp only [Playhead.station, hpending, hp]
    exact .nil _

/-! ## A call -/

theorem choice_travels {s : Setting} {h : Playhead} {d : Pending} {edge : Nat} {next : Option Cursor} (hs : Sound s h)
    (hd : h.pending = some d) (hleads : s.screenplay.Leads edge h.cursor next) :
    ∃ cs : List Cursor, List.Forall₂ s.Reads (Event.readings (s.run (h.released.goTo next)).events) cs ∧
      Itinerary s.screenplay h.station (.chosen edge :: cs.map .executed)
        (s.run (h.released.goTo next)).head.station := by
  have hstation : h.station = .held h.cursor := by simp only [Playhead.station, hd]
  rw [hstation, hs.released_goTo hd]
  cases next with
  | some next =>
    obtain ⟨cs, hcs, hlegs⟩ := run_travels s (.moved hleads)
    exact ⟨cs, hcs, .cons (.choose hleads) hlegs⟩
  | none =>
    rw [s.run_exhausted rfl]
    exact ⟨[], by simp [Event.readings], .cons (.choose hleads) (.nil _)⟩

/-- a refused call has no legs -/
theorem Setting.walked_refused (s : Setting) {call : Call} {α : Type} {t : Turn α} (hdeparture : call.departure t = [])
    (hns : Event.notifications t.events = []) : s.Walked (call, t) [] :=
  ⟨[], by simp [hdeparture], by simp [Event.readings, hns]⟩

theorem advance_travels {s : Setting} {h : Playhead} (hs : Sound s h) (choice : Option Nat) :
    ∃ legs, s.Walked (.advance choice, s.advance choice h) legs ∧
      Itinerary s.screenplay h.station legs (s.advance choice h).head.station := by
  cases choice with
  | none =>
    obtain ⟨cs, hcs, hlegs⟩ := run_travels s hs
    exact ⟨_, ⟨cs, rfl, hcs⟩, .cons (.resume _) hlegs⟩
  | some edge =>
    have hc := hs.chosen edge
    generalize s.advance (some edge) h = t at hc
    cases hc with
    | noDecision => exact ⟨[], s.walked_refused rfl rfl, .nil _⟩
    | noEdge => exact ⟨[], s.walked_refused rfl rfl, .nil _⟩
    | taken hd hleads hes =>
      obtain ⟨cs, hcs, hlegs⟩ := choice_travels hs hd hleads
      refine ⟨_, ⟨cs, ?_, ?_⟩, hlegs⟩
      · simp [Call.departure]
      · simpa [Event.readings, hes, List.filterMap_cons, Notification.reading?] using hcs

theorem restore_travels (s : Setting) (state : SaveState) (h : Playhead) :
    ∃ legs, s.Walked (.restore state, s.restore state h) legs ∧
      Itinerary s.screenplay h.station legs (s.restore state h).head.station := by
  rcases s.restore_cases state h with ⟨i, es, hi, ht, hes⟩ | ⟨e, es, -, ht, hes⟩
  · rw [ht]
    refine ⟨[.restored state.cursor], ⟨[], rfl, ?_⟩, .cons (.restore hi) (.nil _)⟩
    simp [Event.readings, hes, List.filterMap_cons, Notification.reading?]
  · rw [ht]
    exact ⟨[], s.walked_refused rfl hes, .nil _⟩

theorem perform_travels {s : Setting} {h : Playhead} (hs : Sound s h) (call : Call) :
    ∃ legs, s.Walked (call, s.perform call h) legs ∧
      Itinerary s.screenplay h.station legs (s.perform call h).head.station := by
  cases call with
  | advance choice =>
    obtain ⟨legs, hlegs, hway⟩ := advance_travels hs choice
    refine ⟨legs, ?_, hway⟩
    cases choice <;> exact hlegs
  | restore state =>
    obtain ⟨legs, ⟨cs, hdeparture, hcs⟩, hway⟩ := restore_travels s state h
    refine ⟨legs, ⟨cs, ?_, hcs⟩, hway⟩
    rw [hdeparture]
    simp only [Call.departure, Setting.perform]
    cases (s.restore state h).answer <;> rfl

theorem history_travels {s : Setting} {h : Playhead} (hs : Sound s h) (calls : List Call) :
    ∃ legs : List (List Leg), List.Forall₂ s.Walked (s.history calls h) legs ∧
      Itinerary s.screenplay h.station legs.flatten (s.play calls h).station := by
  induction calls generalizing h with
  | nil => exact ⟨[], .nil, .nil _⟩
  | cons call calls ih =>
    obtain ⟨first, hfirst, hway⟩ := perform_travels hs call
    obtain ⟨legs, hlegs, hrest⟩ := ih (perform_sound s hs call)
    exact ⟨first :: legs, .cons hfirst hlegs, hway.append hrest⟩

/-- **The walk follows the graph.** Over any calls from the start, whatever they answer, there is an itinerary from the
first instruction to the station of the playhead, a stretch of legs for each call, such that the instructions told during
a call are, one by one, the resolved instructions at the cursors of its stretch; a stretch starts with the edge of an
accepted choice or with a restored cursor where the call was one. -/
theorem walk_follows_graph (s : Setting) (calls : List Call) :
    ∃ legs : List (List Leg), List.Forall₂ s.Walked (s.history calls .start) legs ∧
      Itinerary s.screenplay (.due .start) legs.flatten (s.play calls .start).station :=
  history_travels (.start s) calls

end VisualNovel
