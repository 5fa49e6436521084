/-
The graph of a screenplay, apart from the code that walks it.

`Screenplay.Leads edge c next` is the block-transfer rule as a relation: the next instruction of the block while there is
one, whatever the edge; from the last instruction of a block the first instruction of the block that the edge names; and
nowhere (`none`, the screenplay is over) from the last instruction of a block without edges along the first edge.

- `Leads.unique`: an instruction and an edge lead to one place, because no two blocks have one id.
- `Leads.instruction`: where they lead there is an instruction, because no block is empty.
- `follow_cases`: from a cursor that points at an instruction, `Screenplay.follow` goes where the rule leads, or else the
  edge is refused, and then it is not the first one. This rests on what validation promises: every edge leads to a block.
-/
import Mathlib.Tactic
import VisualNovel.Cursor

namespace VisualNovel

/-- the cursor after a move; none when the screenplay is over -/
def Move.next : Move → Option Cursor
  | .stepped next => some next
  | .transferred _ _ next => some next
  | .exhausted => none

namespace Screenplay

/-- the cursor is at the last instruction of a block -/
def IsLast (s : Screenplay) (c : Cursor) (b : Block) : Prop :=
  s.blocks[c.block]? = some b ∧ c.instruction + 1 = b.instructions.length

/-- the cursor points at an instruction -/
def Holds (s : Screenplay) (c : Cursor) : Prop :=
  ∃ b, s.blocks[c.block]? = some b ∧ c.instruction < b.instructions.length

/-- the block-transfer rule: from an instruction along an edge -/
inductive Leads (s : Screenplay) (edge : Nat) (c : Cursor) : Option Cursor → Prop where
  /-- to the next instruction of the block -/
  | within {b : Block} (hb : s.blocks[c.block]? = some b) (hnext : c.instruction + 1 < b.instructions.length) :
    Leads s edge c (some ⟨c.block, c.instruction + 1⟩)
  /-- to the first instruction of the block that the edge names -/
  | across {b target : Block} {k : Nat} (hlast : s.IsLast c b) (hedge : b.edges[edge]? = some target.id)
    (hk : s.blocks[k]? = some target) : Leads s edge c (some ⟨k, 0⟩)
  /-- off the screenplay -/
  | off {b : Block} (hlast : s.IsLast c b) (hedges : b.edges = []) (hedge : edge = 0) : Leads s edge c none

theorem holds_iff {s : Screenplay} {c : Cursor} : s.Holds c ↔ ∃ i, s.instructionAt c = .ok i := by
  constructor
  · rintro ⟨b, hb, hlt⟩
    exact ⟨_, instructionAt_ok_iff.2 ⟨b, hb, List.getElem?_eq_getElem hlt⟩⟩
  · rintro ⟨i, hi⟩
    obtain ⟨b, hb, hbi⟩ := instructionAt_ok_iff.1 hi
    exact ⟨b, hb, (List.getElem?_eq_some_iff.1 hbi).1⟩

theorem instruction_unique {s : Screenplay} {c : Cursor} {i j : Instruction} (hi : s.instructionAt c = .ok i)
    (hj : s.instructionAt c = .ok j) : i = j := Except.ok.inj (hi.symm.trans hj)

theorem Holds.check {s : Screenplay} {c : Cursor} (h : s.Holds c) : s.check c = .ok () :=
  check_ok_iff.2 (holds_iff.1 h)

/-! ## What validation promises -/

theorem instructions_ne_nil (s : Screenplay) {k : Nat} {b : Block} (h : s.blocks[k]? = some b) :
    b.instructions ≠ [] :=
  s.wellFormed.instructions_ne_nil b (List.mem_of_getElem? h)

theorem position_unique (s : Screenplay) {k l : Nat} {a b : Block} (ha : s.blocks[k]? = some a)
    (hb : s.blocks[l]? = some b) (h : a.id = b.id) : k = l := by
  have hk : k < (s.blocks.map (·.id)).length := by
    rw [List.length_map]
    exact (List.getElem?_eq_some_iff.1 ha).1
  apply (List.getElem?_inj hk s.wellFormed.ids_nodup).1
  change (s.blocks.map (·.id))[k]? = (s.blocks.map (·.id))[l]?
  simp only [List.getElem?_map, ha, hb, Option.map_some, h]

theorem indexOf_some {s : Screenplay} {id : Int} {k : Nat} (h : s.indexOf id = some k) :
    ∃ b, s.blocks[k]? = some b ∧ b.id = id := by
  obtain ⟨hk, hid, -⟩ := List.findIdx?_eq_some_iff_getElem.1 h
  exact ⟨_, List.getElem?_eq_getElem hk, by simpa using hid⟩

theorem indexOf_edge (s : Screenplay) {k : Nat} {b : Block} (hb : s.blocks[k]? = some b) {edge : Nat} {target : Int}
    (h : b.edges[edge]? = some target) : ∃ l, s.indexOf target = some l := by
  have hmem := s.wellFormed.edges_lead b (List.mem_of_getElem? hb) target (List.mem_of_getElem? h)
  obtain ⟨a, ha, rfl⟩ := List.mem_map.1 hmem
  cases hl : s.indexOf a.id with
  | some l => exact ⟨l, rfl⟩
  | none =>
    have := List.findIdx?_eq_none_iff.1 hl a ha
    simp at this

/-! ## The rule -/

theorem IsLast.unique {s : Screenplay} {c : Cursor} {a b : Block} (ha : s.IsLast c a) (hb : s.IsLast c b) : a = b :=
  Option.some.inj (ha.1.symm.trans hb.1)

theorem IsLast.not_within {s : Screenplay} {c : Cursor} {a b : Block} (ha : s.IsLast c a)
    (hb : s.blocks[c.block]? = some b) : ¬ c.instruction + 1 < b.instructions.length := by
  obtain rfl : a = b := Option.some.inj (ha.1.symm.trans hb)
  have := ha.2
  omega

/-- **An instruction and an edge lead to one place.** -/
theorem Leads.unique {s : Screenplay} {edge : Nat} {c : Cursor} {m n : Option Cursor} (hm : s.Leads edge c m)
    (hn : s.Leads edge c n) : m = n := by
  cases hm with
  | within hb hnext =>
    cases hn with
    | within => rfl
    | across hlast => exact absurd hnext (hlast.not_within hb)
    | off hlast => exact absurd hnext (hlast.not_within hb)
  | across hlast hedge hk =>
    cases hn with
    | within hb hnext => exact absurd hnext (hlast.not_within hb)
    | across hlast' hedge' hk' =>
      obtain rfl := hlast.unique hlast'
      have hid := Option.some.inj (hedge.symm.trans hedge')
      rw [s.position_unique hk hk' hid]
    | off hlast' hedges =>
      obtain rfl := hlast.unique hlast'
      simp [hedges] at hedge
  | off hlast hedges =>
    cases hn with
    | within hb hnext => exact absurd hnext (hlast.not_within hb)
    | across hlast' hedge' =>
      obtain rfl := hlast.unique hlast'
      simp [hedges] at hedge'
    | off => rfl

/-- where an edge leads there is an instruction -/
theorem Leads.instruction {s : Screenplay} {edge : Nat} {c next : Cursor} (h : s.Leads edge c (some next)) :
    ∃ i, s.instructionAt next = .ok i := by
  cases h with
  | within hb hnext => exact ⟨_, instructionAt_ok_iff.2 ⟨_, hb, List.getElem?_eq_getElem hnext⟩⟩
  | across _ _ hk =>
    have hpos := List.length_pos_iff.2 (s.instructions_ne_nil hk)
    exact ⟨_, instructionAt_ok_iff.2 ⟨_, hk, List.getElem?_eq_getElem hpos⟩⟩

theorem Leads.isLast {s : Screenplay} {edge : Nat} {c : Cursor} (h : s.Leads edge c none) :
    ∃ b, s.IsLast c b ∧ b.edges = [] := by
  cases h with
  | off hlast hedges => exact ⟨_, hlast, hedges⟩

/-! ## Following an edge -/

/-- **What following an edge can come to**, from a cursor that points at an instruction: the cursor goes where the rule
leads, or the block has no such edge. The first edge is never refused. -/
theorem follow_cases {s : Screenplay} {c : Cursor} {i : Instruction} (hi : s.instructionAt c = .ok i) (edge : Nat) :
    (∃ m, s.follow edge c = .ok m ∧ s.Leads edge c m.next) ∨
      ∃ b, s.follow edge c = .error (.edgeOutOfRange b.id edge b.edges.length) ∧ s.IsLast c b ∧
        b.edges.length ≤ edge ∧ edge ≠ 0 := by
  obtain ⟨b, hb, hbi⟩ := instructionAt_ok_iff.1 hi
  have hlt := (List.getElem?_eq_some_iff.1 hbi).1
  have hat : s.blockAt c = .ok b := by simp [blockAt, hb]
  simp only [follow, hat]
  by_cases hnext : c.instruction + 1 < b.instructions.length
  · rw [if_pos hnext]
    exact Or.inl ⟨_, rfl, .within hb hnext⟩
  · rw [if_neg hnext]
    have hlast : s.IsLast c b := ⟨hb, by omega⟩
    by_cases hover : edge = 0 ∧ b.isTerminal
    · rw [if_pos hover]
      exact Or.inl ⟨_, rfl, .off hlast (by simpa [Block.isTerminal] using hover.2) hover.1⟩
    · rw [if_neg hover]
      cases hedge : b.edges[edge]? with
      | some target =>
        obtain ⟨k, hk⟩ := s.indexOf_edge hb hedge
        obtain ⟨t, ht, rfl⟩ := indexOf_some hk
        simp only [hk]
        exact Or.inl ⟨_, rfl, .across hlast hedge ht⟩
      | none =>
        have hlen := List.getElem?_eq_none_iff.1 hedge
        refine Or.inr ⟨b, rfl, hlast, hlen, ?_⟩
        -- a block that lacks even the first edge is terminal, and then the first edge was taken above
        rintro rfl
        exact hover ⟨rfl, by simpa [Block.isTerminal] using hlen⟩

end Screenplay

end VisualNovel
