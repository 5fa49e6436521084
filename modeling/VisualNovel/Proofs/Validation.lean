/-
What validation accepts, and which fault it names.

The faults of a script are laid out apart from the code that looks for them: there are no blocks at all; a block has no
instructions or the id of an earlier one (`BlockFault`); an edge leads to no block (`EdgeFault`). `FirstFault` puts them in
order: blocks by position, then edges block by block, and nothing is wrong before the one that counts. `Faultless` is a
script with none of them.

- `positions_verdict`: the table of a script is of all its blocks and the script is faultless, or the first fault is named.
- `FirstFault.unique`: a script has one first fault at most. In particular the earlier position in a report of a repeated
  id is determined, since of two earlier blocks of that id the second would have been reported before.
- `ofScript_verdict`: so a script is refused with a fault exactly when that is its first one, and accepted exactly when it
  is faultless; an accepted script is kept as it is, ids and positions stand for each other, and edges lead to blocks.
-/
import VisualNovel.Proofs.Graph

namespace VisualNovel

namespace Script

/-- what is wrong with an edge of the block at a position: it leads to no block -/
inductive EdgeFault (blocks : List Block) (k edge : Nat) : LoadError → Prop where
  | dangling {b : Block} {target : Int} (hb : blocks[k]? = some b) (hedge : b.edges[edge]? = some target)
    (htarget : ∀ a ∈ blocks, a.id ≠ target) : EdgeFault blocks k edge (.danglingEdge b.id edge target)

/-- nothing is wrong with the edges before an edge, block by block -/
def EdgesCleanBefore (blocks : List Block) (k edge : Nat) : Prop :=
  ∀ i j fault, i < k ∨ i = k ∧ j < edge → ¬ EdgeFault blocks i j fault

/-- the first thing that is wrong with a script -/
inductive FirstFault (s : Script) : LoadError → Prop where
  /-- there are no blocks -/
  | empty (hnone : s.blocks = []) : FirstFault s .empty
  /-- a block, with nothing wrong before it -/
  | block {k : Nat} {fault : LoadError} (hfault : BlockFault s.blocks k fault) (hbefore : CleanBefore s.blocks k) :
    FirstFault s fault
  /-- an edge, with nothing wrong with any block nor with the edges before it -/
  | edge {k edge : Nat} {fault : LoadError} (hclean : CleanBefore s.blocks s.blocks.length)
    (hfault : EdgeFault s.blocks k edge fault) (hbefore : EdgesCleanBefore s.blocks k edge) : FirstFault s fault

/-- nothing is wrong with a script -/
structure Faultless (s : Script) : Prop where
  blocks_ne_nil : s.blocks ≠ []
  blocks : ∀ k fault, ¬ BlockFault s.blocks k fault
  edges : ∀ k edge fault, ¬ EdgeFault s.blocks k edge fault

theorem CleanBefore.all {blocks : List Block} (h : CleanBefore blocks blocks.length) (k : Nat) (fault : LoadError) :
    ¬ BlockFault blocks k fault := fun hfault => h k fault hfault.lt_length hfault

/-! ## The second pass -/

theorem Tabulates.isSome_iff {table : List (Int × Nat)} {blocks : List Block} (h : Tabulates table blocks) (id : Int) :
    (table.lookup id).isSome ↔ ∃ a ∈ blocks, a.id = id := by
  rw [Option.isSome_iff_exists]
  constructor
  · rintro ⟨k, hk⟩
    obtain ⟨a, ha, hid⟩ := (h id k).1 hk
    exact ⟨a, List.mem_of_getElem? ha, hid⟩
  · rintro ⟨a, ha, hid⟩
    obtain ⟨k, hk⟩ := List.getElem?_of_mem ha
    exact ⟨k, (h id k).2 ⟨a, hk, hid⟩⟩

section SecondPass

variable {table : List (Int × Nat)} {blocks : List Block} {k : Nat} {b : Block}

/-- an edge that is in the table is no fault -/
theorem Tabulates.not_edgeFault (h : Tabulates table blocks) (hb : blocks[k]? = some b) {edge : Nat} {target : Int}
    (hedge : b.edges[edge]? = some target) (hfound : (table.lookup target).isSome) (fault : LoadError) :
    ¬ EdgeFault blocks k edge fault := by
  rintro (@⟨b', target', hb', hedge', htarget⟩)
  obtain rfl := Option.some.inj (hb.symm.trans hb')
  obtain rfl := Option.some.inj (hedge.symm.trans hedge')
  obtain ⟨a, ha, hid⟩ := (h.isSome_iff target).1 hfound
  exact htarget a ha hid

theorem edgeFault_clean (h : Tabulates table blocks) (hb : blocks[k]? = some b) (hnone : edgeFault table b = none)
    (edge : Nat) (fault : LoadError) : ¬ EdgeFault blocks k edge fault := by
  rintro hfault
  obtain @⟨b', target, hb', hedge, htarget⟩ := id hfault
  obtain rfl := Option.some.inj (hb.symm.trans hb')
  have hfound := edgeFault_eq_none hnone target (List.mem_of_getElem? hedge)
  exact h.not_edgeFault hb hedge hfound _ hfault

/-- **The second pass names the first edge of a block that leads to no block.** -/
theorem edgeFault_found (h : Tabulates table blocks) (hb : blocks[k]? = some b) {fault : LoadError}
    (hfound : edgeFault table b = some fault) :
    ∃ edge, EdgeFault blocks k edge fault ∧ ∀ j fault', j < edge → ¬ EdgeFault blocks k j fault' := by
  obtain ⟨before, ⟨target, edge⟩, after, hsplit, hat, hbefore⟩ := List.findSome?_eq_some_iff.1 hfound
  -- pairs stand at the position that is in them
  have hpair : ∀ (j : Nat) (t : Int), b.edges[j]? = some t → b.edges.zipIdx[j]? = some (t, j) := by
    intro j t hj
    simp [List.getElem?_zipIdx, hj]
  have hedge : b.edges[before.length]? = some target ∧ edge = before.length := by
    have hget : b.edges.zipIdx[before.length]? = some (target, edge) := by simp [hsplit]
    rw [List.getElem?_zipIdx] at hget
    obtain ⟨t, ht, he⟩ := Option.map_eq_some_iff.1 hget
    cases he
    exact ⟨ht, by omega⟩
  obtain ⟨hedge, rfl⟩ := hedge
  refine ⟨before.length, ?_, fun j fault' hj hfault => ?_⟩
  · by_cases hknown : (table.lookup target).isSome
    · simp [hknown] at hat
    · simp only [if_neg hknown, Option.some.injEq] at hat
      subst hat
      exact .dangling hb hedge fun a ha hid => hknown ((h.isSome_iff target).2 ⟨a, ha, hid⟩)
  · obtain @⟨b', t, hb', ht, -⟩ := id hfault
    obtain rfl := Option.some.inj (hb.symm.trans hb')
    have hmem : (t, j) ∈ before := by
      have hget := hpair j t ht
      rw [hsplit, List.getElem?_append_left hj] at hget
      exact List.mem_of_getElem? hget
    have hnone := hbefore _ hmem
    exact h.not_edgeFault hb ht (by simpa using hnone) _ hfault

end SecondPass

/-! ## Both passes -/

/-- what validation comes to -/
inductive Verdict (s : Script) : Except LoadError (List (Int × Nat)) → Prop where
  | fault {fault : LoadError} (hfirst : s.FirstFault fault) : Verdict s (.error fault)
  | table {table : List (Int × Nat)} (htable : Tabulates table s.blocks) (hfaultless : s.Faultless) :
    Verdict s (.ok table)

/-- **What validation comes to.** -/
theorem positions_verdict (s : Script) : s.Verdict s.positions := by
  unfold positions
  split
  next hempty => exact .fault (.empty (List.isEmpty_iff.1 hempty))
  next hne =>
    have henter := enter_cases s.blocks
    cases he : enter [] 0 s.blocks with
    | error fault =>
      rw [he] at henter
      cases henter with
      | fault hfault hbefore => exact .fault (.block hfault hbefore)
    | ok table =>
      rw [he] at henter
      obtain ⟨htable, hclean⟩ : Tabulates table s.blocks ∧ CleanBefore s.blocks s.blocks.length := by
        cases henter with
        | table htable hclean => exact ⟨htable, hclean⟩
      simp only
      cases hedges : s.blocks.findSome? (edgeFault table) with
      | some fault =>
        obtain ⟨before, b, after, hsplit, hat, hbefore⟩ := List.findSome?_eq_some_iff.1 hedges
        have hb : s.blocks[before.length]? = some b := by simp [hsplit]
        obtain ⟨edge, hfault, hfirst⟩ := edgeFault_found htable hb hat
        refine .fault (.edge hclean hfault ?_)
        rintro i j fault' (hi | ⟨rfl, hj⟩) hfault'
        · obtain ⟨a, ha⟩ : ∃ a, before[i]? = some a := ⟨_, List.getElem?_eq_getElem hi⟩
          have hpos : s.blocks[i]? = some a := by rw [hsplit, List.getElem?_append_left hi, ha]
          exact edgeFault_clean htable hpos (hbefore a (List.mem_of_getElem? ha)) j fault' hfault'
        · exact hfirst j fault' hj hfault'
      | none =>
        refine .table htable ⟨by simpa using hne, hclean.all, fun k edge fault hfault => ?_⟩
        obtain @⟨b, target, hb, hedge, htarget⟩ := id hfault
        have hnone := List.findSome?_eq_none_iff.1 hedges b (List.mem_of_getElem? hb)
        exact edgeFault_clean htable hb hnone edge _ hfault

theorem fault?_eq_some {s : Script} {fault : LoadError} (h : s.fault? = some fault) : s.FirstFault fault := by
  have hv := s.positions_verdict
  unfold fault? at h
  cases hp : s.positions with
  | error fault' =>
    rw [hp] at h hv
    cases h
    cases hv with
    | fault hfirst => exact hfirst
  | ok table =>
    rw [hp] at h
    cases h

theorem fault?_eq_none {s : Script} (h : s.fault? = none) : s.Faultless := by
  obtain ⟨table, hp⟩ := positions_of_fault? h
  have hv := s.positions_verdict
  rw [hp] at hv
  cases hv with
  | table _ hfaultless => exact hfaultless

/-! ## The first fault is one -/

theorem BlockFault.unique {blocks : List Block} {k : Nat} {e f : LoadError} (he : BlockFault blocks k e)
    (hf : BlockFault blocks k f) (hbefore : CleanBefore blocks k) : e = f := by
  cases he with
  | @empty b hb hempty =>
    cases hf with
    | empty hb' => rw [Option.some.inj (hb.symm.trans hb')]
    | repeated hb' hne =>
      obtain rfl := Option.some.inj (hb.symm.trans hb')
      exact absurd hempty hne
  | @repeated i a b hb hne hi ha hid =>
    cases hf with
    | empty hb' hempty =>
      obtain rfl := Option.some.inj (hb.symm.trans hb')
      exact absurd hempty hne
    | @repeated j c b' hb' _ hj hc hid' =>
      obtain rfl := Option.some.inj (hb.symm.trans hb')
      -- of two earlier blocks with this id the later one is at fault itself, before position k
      have later : ∀ {i j : Nat} {a c : Block}, i < j → j < k → blocks[i]? = some a → blocks[j]? = some c →
          a.id = c.id → False := by
        intro i j a c hij hjk ha hc hac
        by_cases hempty : c.instructions = []
        · exact hbefore j _ hjk (.empty hc hempty)
        · exact hbefore j _ hjk (.repeated hc hempty hij ha hac)
      rcases lt_trichotomy i j with hij | rfl | hji
      · exact (later hij hj ha hc (hid.trans hid'.symm)).elim
      · rfl
      · exact (later hji hi hc ha (hid'.trans hid.symm)).elim

theorem EdgeFault.unique {blocks : List Block} {k edge : Nat} {e f : LoadError} (he : EdgeFault blocks k edge e)
    (hf : EdgeFault blocks k edge f) : e = f := by
  obtain @⟨b, target, hb, hedge, -⟩ := he
  obtain @⟨b', target', hb', hedge', -⟩ := hf
  obtain rfl := Option.some.inj (hb.symm.trans hb')
  rw [Option.some.inj (hedge.symm.trans hedge')]

/-- **A script has one first fault at most.** -/
theorem FirstFault.unique {s : Script} {e f : LoadError} (he : s.FirstFault e) (hf : s.FirstFault f) : e = f := by
  cases he with
  | empty hnone =>
    cases hf with
    | empty => rfl
    | block hfault => exact absurd hfault.lt_length (by simp [hnone])
    | edge _ hfault =>
      obtain @⟨b, target, hb, -, -⟩ := hfault
      simp [hnone] at hb
  | @block k e hfault hbefore =>
    cases hf with
    | empty hnone => exact absurd hfault.lt_length (by simp [hnone])
    | @block l f hfault' hbefore' =>
      rcases lt_trichotomy k l with hkl | rfl | hlk
      · exact absurd hfault (hbefore' k e hkl)
      · exact hfault.unique hfault' hbefore
      · exact absurd hfault' (hbefore l f hlk)
    | edge hclean => exact absurd hfault (hclean.all k e)
  | @edge k i e hclean hfault hbefore =>
    cases hf with
    | empty hnone =>
      obtain @⟨b, target, hb, -, -⟩ := hfault
      simp [hnone] at hb
    | block hfault' => exact absurd hfault' (hclean.all _ _)
    | @edge l j f _ hfault' hbefore' =>
      rcases lt_trichotomy k l with hkl | rfl | hlk
      · exact absurd hfault (hbefore' k i e (Or.inl hkl))
      · rcases lt_trichotomy i j with hij | rfl | hji
        · exact absurd hfault (hbefore' k i e (Or.inr ⟨rfl, hij⟩))
        · exact hfault.unique hfault'
        · exact absurd hfault' (hbefore k j f (Or.inr ⟨rfl, hji⟩))
      · exact absurd hfault' (hbefore l j f (Or.inl hlk))

theorem Faultless.not_firstFault {s : Script} {fault : LoadError} (h : s.Faultless) : ¬ s.FirstFault fault := by
  intro hfirst
  cases hfirst with
  | empty hnone => exact h.blocks_ne_nil hnone
  | block hfault => exact h.blocks _ _ hfault
  | edge _ hfault => exact h.edges _ _ _ hfault

theorem fault?_eq_none_iff {s : Script} : s.fault? = none ↔ s.Faultless := by
  refine ⟨fault?_eq_none, fun h => ?_⟩
  cases hf : s.fault? with
  | none => rfl
  | some fault => exact absurd (fault?_eq_some hf) h.not_firstFault

theorem fault?_eq_some_iff {s : Script} {fault : LoadError} : s.fault? = some fault ↔ s.FirstFault fault := by
  refine ⟨fault?_eq_some, fun h => ?_⟩
  cases hf : s.fault? with
  | none => exact absurd h (fault?_eq_none hf).not_firstFault
  | some fault' => rw [(fault?_eq_some hf).unique h]

end Script

namespace Screenplay

theorem ofScript_error_iff {s : Script} {fault : LoadError} : ofScript s = .error fault ↔ s.fault? = some fault := by
  unfold ofScript
  split
  case h_1 fault' hfault => simp [hfault]
  case h_2 hfault => simp [hfault]

/-- positions and ids of an accepted script stand for each other -/
theorem indexOf_eq_some_iff {p : Screenplay} {id : Int} {k : Nat} :
    p.indexOf id = some k ↔ ∃ b, p.blocks[k]? = some b ∧ b.id = id := by
  refine ⟨indexOf_some, ?_⟩
  rintro ⟨b, hb, rfl⟩
  cases hl : p.indexOf b.id with
  | none =>
    have := List.findIdx?_eq_none_iff.1 hl b (List.mem_of_getElem? hb)
    simp at this
  | some l =>
    obtain ⟨a, ha, hid⟩ := indexOf_some hl
    rw [p.position_unique ha hb hid]

/-- **Validation accepts exactly the faultless scripts, and names the first fault of any other.** What is accepted keeps
its blocks and its pool. There a position is found by the id of the block that stands at it, in the table that validation
built as well, and every edge leads to a block with instructions. -/
theorem ofScript_verdict (s : Script) :
    (∀ fault, ofScript s = .error fault ↔ s.FirstFault fault) ∧ ((∃ p, ofScript s = .ok p) ↔ s.Faultless) ∧
    ∀ p, ofScript s = .ok p → p.blocks = s.blocks ∧ p.pool = s.pool ∧
      (∀ id k, p.indexOf id = some k ↔ ∃ b, p.blocks[k]? = some b ∧ b.id = id) ∧
      (∃ table, s.positions = .ok table ∧ ∀ id, table.lookup id = p.indexOf id) ∧
      ∀ b ∈ p.blocks, ∀ target ∈ b.edges,
        ∃ k a, p.indexOf target = some k ∧ p.blocks[k]? = some a ∧ a.id = target ∧ a.instructions ≠ [] := by
  refine ⟨fun fault => ofScript_error_iff.trans Script.fault?_eq_some_iff, ⟨?_, ?_⟩, fun p hp => ?_⟩
  · rintro ⟨p, hp⟩
    exact Script.fault?_eq_none_iff.1 (ofScript_ok_iff.1 hp).2
  · intro h
    have hfault := Script.fault?_eq_none_iff.2 h
    exact ⟨⟨s, s.fingerprint, Script.wellFormed_of_fault? hfault, rfl⟩, ofScript_ok_iff.2 ⟨rfl, hfault⟩⟩
  · obtain ⟨rfl, hfault⟩ := ofScript_ok_iff.1 hp
    refine ⟨rfl, rfl, fun id k => indexOf_eq_some_iff, ?table, fun b hb target htarget => ?edge⟩
    case table =>
      obtain ⟨table, hpositions⟩ := Script.positions_of_fault? hfault
      obtain ⟨-, htable, -, -⟩ := Script.positions_ok hpositions
      refine ⟨table, hpositions, fun id => Option.ext fun k => ?_⟩
      rw [htable id k, indexOf_eq_some_iff]
      rfl
    case edge =>
      obtain ⟨k, hk⟩ := List.getElem?_of_mem hb
      obtain ⟨i, hi⟩ := List.getElem?_of_mem htarget
      obtain ⟨l, hl⟩ := p.indexOf_edge hk hi
      obtain ⟨a, ha, hid⟩ := indexOf_some hl
      exact ⟨l, a, hl, ha, hid, p.instructions_ne_nil ha⟩

/-- a line, and a decision that leads back to it or to itself -/
def roundabout : Script :=
  ⟨[⟨5, [⟨"PlayDialog", [], ["$0"]⟩], [9]⟩, ⟨9, [⟨"ShowDecision", [], ["on", "back"]⟩], [9, 5]⟩], ["a"]⟩

/-- it is accepted, and its edges lead where its ids say -/
theorem roundabout_accepted : ∃ p, ofScript roundabout = .ok p ∧ p.blocks = roundabout.blocks ∧
    p.indexOf 5 = some 0 ∧ p.indexOf 9 = some 1 ∧ p.indexOf 7 = none := by
  have hfault : roundabout.fault? = none := by decide
  let p : Screenplay := ⟨roundabout, roundabout.fingerprint, Script.wellFormed_of_fault? hfault, rfl⟩
  have hp : ofScript roundabout = .ok p := ofScript_ok_iff.2 ⟨rfl, hfault⟩
  obtain ⟨hblocks, -, hindex, -, -⟩ := (ofScript_verdict roundabout).2.2 p hp
  exact ⟨p, hp, hblocks, (hindex 5 0).2 ⟨_, rfl, rfl⟩, (hindex 9 1).2 ⟨_, rfl, rfl⟩, rfl⟩

/-- of an edge to nowhere, an empty block and a repeated id the empty block comes first -/
example : Script.fault? ⟨[⟨5, [⟨"PlayDialog", [], []⟩], [7]⟩, ⟨5, [], []⟩, ⟨5, [⟨"PlaySe", [], []⟩], []⟩], []⟩ =
    some (.emptyBlock 5) := by decide

end Screenplay

end VisualNovel
