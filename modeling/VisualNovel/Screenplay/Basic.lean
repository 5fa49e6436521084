/-
Screenplays: scripts that have passed validation.

`Script.positions` validates a script in two passes. The first enters the blocks into a table of positions by id
(`Script.enter`) and stops at a block that has no instructions or whose id is in the table; the second looks every edge up
in that table. Of a script with nothing wrong the table is what is left, and `Script.fault?` is the first fault of any
other.

`Script.BlockFault` says what can be wrong with a block, apart from the table. The first pass finds the first block with
such a fault, or else a table of all positions (`Script.enter_cases`), and from there a script without a fault is well
formed (`Script.wellFormed_of_fault?`). A `Screenplay` carries that fact, so the walk never meets an empty block or an
edge that leads nowhere.
-/
import VisualNovel.Screenplay.Script
import VisualNovel.Assoc
import VisualNovel.Log
import VisualNovel.TextPool

namespace VisualNovel

/-- why a screenplay cannot be loaded -/
inductive LoadError where
  /-- the file could not be read -/
  | unreadable (path : String)
  /-- the text is no screenplay document -/
  | malformed (reason : Json.DecodeError)
  /-- there are no blocks -/
  | empty
  /-- a block has no instructions -/
  | emptyBlock (id : Int)
  /-- two blocks have one id -/
  | duplicateBlockId (id : Int) (first second : Nat)
  /-- an edge leads to no block -/
  | danglingEdge (source : Int) (edge : Nat) (target : Int)
  deriving DecidableEq, Repr

/-- the wording of a load error -/
def LoadError.message : LoadError → String
  | .unreadable path => "Failed to read screenplay " ++ path
  | .malformed reason => "Malformed screenplay payload: " ++ reason.message
  | .empty => "Screenplay contains no event blocks"
  | .emptyBlock id => s!"Event block {id} has no instructions"
  | .duplicateBlockId id first second => s!"Duplicate event block id {id} at positions {first} and {second}"
  | .danglingEdge source edge target => s!"Event block {source} edge {edge} points to unknown block {target}"

namespace Script

/-- position of the block with an id -/
def indexOf (s : Script) (id : Int) : Option Nat := s.blocks.findIdx? (·.id == id)

/-- enter blocks into a table of positions by id, the first of them at position `k`; the fault of the first block that has
no instructions or whose id is in the table -/
def enter (table : List (Int × Nat)) (k : Nat) : List Block → Except LoadError (List (Int × Nat))
  | [] => .ok table
  | b :: bs =>
    if b.instructions.isEmpty then .error (.emptyBlock b.id)
    else
      match table.lookup b.id with
      | some first => .error (.duplicateBlockId b.id first k)
      | none => enter (Assoc.assign b.id k table) (k + 1) bs

/-- the first edge of a block that leads to no id of a table -/
def edgeFault (table : List (Int × Nat)) (b : Block) : Option LoadError :=
  b.edges.zipIdx.findSome? fun (target, edge) =>
    if (table.lookup target).isSome then none else some (.danglingEdge b.id edge target)

/-- the table of positions by id, or the first fault of a script -/
def positions (s : Script) : Except LoadError (List (Int × Nat)) :=
  if s.blocks.isEmpty then .error .empty
  else
    match enter [] 0 s.blocks with
    | .error fault => .error fault
    | .ok table =>
      match s.blocks.findSome? (edgeFault table) with
      | some fault => .error fault
      | none => .ok table

/-- the first fault of a script -/
def fault? (s : Script) : Option LoadError :=
  match s.positions with
  | .error fault => some fault
  | .ok _ => none

/-- what validation promises -/
structure WellFormed (s : Script) : Prop where
  /-- there is a block -/
  blocks_ne_nil : s.blocks ≠ []
  /-- every block has an instruction -/
  instructions_ne_nil : ∀ b ∈ s.blocks, b.instructions ≠ []
  /-- no two blocks have one id -/
  ids_nodup : (s.blocks.map (·.id)).Nodup
  /-- every edge leads to a block -/
  edges_lead : ∀ b ∈ s.blocks, ∀ target ∈ b.edges, target ∈ s.blocks.map (·.id)

/-! ## The first pass -/

/-- a table has the positions of blocks by id, and nothing else -/
def Tabulates (table : List (Int × Nat)) (blocks : List Block) : Prop :=
  ∀ id k, table.lookup id = some k ↔ ∃ b, blocks[k]? = some b ∧ b.id = id

/-- what is wrong with the block at a position: it has no instructions, or else the id of an earlier block -/
inductive BlockFault (blocks : List Block) (k : Nat) : LoadError → Prop where
  | empty {b : Block} (hb : blocks[k]? = some b) (hempty : b.instructions = []) : BlockFault blocks k (.emptyBlock b.id)
  | repeated {first : Nat} {a b : Block} (hb : blocks[k]? = some b) (hne : b.instructions ≠ []) (hfirst : first < k)
    (ha : blocks[first]? = some a) (hid : a.id = b.id) : BlockFault blocks k (.duplicateBlockId b.id first k)

theorem BlockFault.lt_length {blocks : List Block} {k : Nat} {fault : LoadError} (h : BlockFault blocks k fault) :
    k < blocks.length := by
  cases h with
  | empty hb => exact (List.getElem?_eq_some_iff.1 hb).1
  | repeated hb => exact (List.getElem?_eq_some_iff.1 hb).1

/-- nothing is wrong with the blocks before a position -/
def CleanBefore (blocks : List Block) (k : Nat) : Prop := ∀ i fault, i < k → ¬ BlockFault blocks i fault

/-- what entering blocks comes to: the fault of the first block with one, or a table of all positions -/
inductive Entered (blocks : List Block) : Except LoadError (List (Int × Nat)) → Prop where
  | fault {k : Nat} {fault : LoadError} (hfault : BlockFault blocks k fault) (hbefore : CleanBefore blocks k) :
    Entered blocks (.error fault)
  | table {table : List (Int × Nat)} (htable : Tabulates table blocks) (hclean : CleanBefore blocks blocks.length) :
    Entered blocks (.ok table)

theorem tabulates_nil : Tabulates [] [] := by
  intro id k
  simp

theorem Tabulates.concat {table : List (Int × Nat)} {blocks : List Block} {b : Block} (h : Tabulates table blocks)
    (hfresh : table.lookup b.id = none) : Tabulates (Assoc.assign b.id blocks.length table) (blocks ++ [b]) := by
  intro id k
  rw [Assoc.lookup_assign]
  by_cases hid : id = b.id
  · subst hid
    -- no earlier block has this id, so its only position is the new one
    have hnone : ∀ (j : Nat) (a : Block), blocks[j]? = some a → a.id ≠ b.id := by
      intro j a ha he
      have := (h b.id j).2 ⟨a, ha, he⟩
      simp [hfresh] at this
    simp only [if_true, Option.some.injEq]
    constructor
    · rintro rfl
      exact ⟨b, by simp, rfl⟩
    · rintro ⟨a, ha, he⟩
      rw [List.getElem?_append] at ha
      split at ha
      · exact absurd he (hnone k a ha)
      · have := (List.getElem?_eq_some_iff.1 ha).1
        simp only [List.length_singleton] at this
        omega
  · rw [if_neg hid, h id k]
    constructor
    · rintro ⟨a, ha, he⟩
      exact ⟨a, by rw [List.getElem?_append_left (List.getElem?_eq_some_iff.1 ha).1, ha], he⟩
    · rintro ⟨a, ha, he⟩
      rw [List.getElem?_append] at ha
      split at ha
      · exact ⟨a, ha, he⟩
      · have hlt := (List.getElem?_eq_some_iff.1 ha).1
        simp only [List.length_singleton] at hlt
        obtain rfl : b = a := by simpa [show k - blocks.length = 0 by omega] using ha
        exact absurd he.symm hid

/-- **What the first pass comes to**, from a table of the blocks before and with nothing wrong so far. -/
theorem enter_entered {table : List (Int × Nat)} {before bs : List Block} (htable : Tabulates table before)
    (hclean : CleanBefore (before ++ bs) before.length) :
    Entered (before ++ bs) (enter table before.length bs) := by
  induction bs generalizing before table with
  | nil =>
    rw [List.append_nil] at hclean ⊢
    exact .table htable hclean
  | cons b bs ih =>
    have hb : (before ++ b :: bs)[before.length]? = some b := by simp
    unfold enter
    split
    next hempty => exact .fault (.empty hb (List.isEmpty_iff.1 hempty)) hclean
    next hne =>
      have hinstr : b.instructions ≠ [] := fun h => hne (List.isEmpty_iff.2 h)
      cases hl : table.lookup b.id with
      | some first =>
        obtain ⟨a, ha, hid⟩ := (htable b.id first).1 hl
        have hlt := (List.getElem?_eq_some_iff.1 ha).1
        exact .fault (.repeated hb hinstr hlt (by rw [List.getElem?_append_left hlt, ha]) hid) hclean
      | none =>
        have hsplit : before ++ b :: bs = (before ++ [b]) ++ bs := by simp
        have hlength : (before ++ [b]).length = before.length + 1 := by simp
        have hnext : CleanBefore (before ++ b :: bs) (before.length + 1) := by
          intro i fault hi hfault
          rcases Nat.lt_succ_iff_lt_or_eq.1 hi with hi | rfl
          · exact hclean i fault hi hfault
          · cases hfault with
            | empty hb' hempty =>
              obtain rfl := Option.some.inj (hb.symm.trans hb')
              exact hinstr hempty
            | @repeated first a _ hb' _ hfirst ha hid =>
              obtain rfl := Option.some.inj (hb.symm.trans hb')
              rw [List.getElem?_append_left hfirst] at ha
              have := (htable b.id first).2 ⟨a, ha, hid⟩
              simp [hl] at this
        rw [hsplit] at hnext ⊢
        rw [← hlength] at hnext ⊢
        exact ih (htable.concat hl) hnext

theorem enter_cases (blocks : List Block) : Entered blocks (enter [] 0 blocks) :=
  @enter_entered [] [] blocks tabulates_nil fun i _ hi => absurd hi (Nat.not_lt_zero i)

/-! ## Well-formed scripts -/

theorem CleanBefore.instructions_ne_nil {blocks : List Block} (h : CleanBefore blocks blocks.length) :
    ∀ b ∈ blocks, b.instructions ≠ [] := by
  intro b hb hempty
  obtain ⟨k, hk, rfl⟩ := List.mem_iff_getElem.1 hb
  exact h k _ hk (.empty (List.getElem?_eq_getElem hk) hempty)

theorem CleanBefore.ids_nodup {blocks : List Block} (h : CleanBefore blocks blocks.length) :
    (blocks.map (·.id)).Nodup := by
  rw [List.nodup_iff_pairwise_ne, List.pairwise_map, List.pairwise_iff_getElem]
  intro first k hfirst hk hlt hid
  have hne := h.instructions_ne_nil _ (List.getElem_mem hk)
  exact h k _ hk (.repeated (List.getElem?_eq_getElem hk) hne hlt (List.getElem?_eq_getElem hfirst) hid)

theorem edgeFault_eq_none {table : List (Int × Nat)} {b : Block} (h : edgeFault table b = none) :
    ∀ target ∈ b.edges, (table.lookup target).isSome := by
  intro target ht
  obtain ⟨i, hi, rfl⟩ := List.mem_iff_getElem.1 ht
  simp only [edgeFault, List.findSome?_eq_none_iff] at h
  have := h (b.edges[i], i) (by simp [List.mem_zipIdx_iff_getElem?, hi])
  simpa using this

/-- what the table of a script without a fault is, and what its two passes have found -/
theorem positions_ok {s : Script} {table : List (Int × Nat)} (h : s.positions = .ok table) :
    s.blocks ≠ [] ∧ Tabulates table s.blocks ∧ CleanBefore s.blocks s.blocks.length ∧
      ∀ b ∈ s.blocks, edgeFault table b = none := by
  unfold positions at h
  split at h
  · cases h
  · next hne =>
    have henter := enter_cases s.blocks
    cases he : enter [] 0 s.blocks with
    | error fault => simp [he] at h
    | ok table' =>
      simp only [he] at h henter
      cases hedges : s.blocks.findSome? (edgeFault table') with
      | some fault => simp [hedges] at h
      | none =>
        simp only [hedges, Except.ok.injEq] at h
        subst h
        cases henter with
        | table htable hclean =>
          exact ⟨by simpa using hne, htable, hclean, List.findSome?_eq_none_iff.1 hedges⟩

theorem positions_of_fault? {s : Script} (h : s.fault? = none) : ∃ table, s.positions = .ok table := by
  unfold fault? at h
  split at h
  · cases h
  · next table hpositions => exact ⟨table, hpositions⟩

theorem wellFormed_of_fault? {s : Script} (h : s.fault? = none) : s.WellFormed := by
  obtain ⟨table, hpositions⟩ := positions_of_fault? h
  obtain ⟨hne, htable, hclean, hedges⟩ := positions_ok hpositions
  refine ⟨hne, hclean.instructions_ne_nil, hclean.ids_nodup, fun b hb target htarget => ?_⟩
  obtain ⟨k, hk⟩ := Option.isSome_iff_exists.1 (edgeFault_eq_none (hedges b hb) target htarget)
  obtain ⟨a, ha, hid⟩ := (htable target k).1 hk
  exact List.mem_map.2 ⟨a, List.mem_of_getElem? ha, hid⟩

end Script

/-- a validated script, with its fingerprint at hand -/
structure Screenplay where
  script : Script
  fingerprint : String
  wellFormed : script.WellFormed
  fingerprint_eq : fingerprint = script.fingerprint

/-- a token that will be shown as it is, with the block and the position of its instruction -/
structure DegradedToken where
  block : Int
  instruction : Nat
  token : String
  deriving DecidableEq, Repr

namespace Screenplay

/-- validate a script -/
def ofScript (s : Script) : Except LoadError Screenplay :=
  match h : s.fault? with
  | some fault => .error fault
  | none => .ok ⟨s, s.fingerprint, Script.wellFormed_of_fault? h, rfl⟩

theorem ofScript_ok_iff {s : Script} {p : Screenplay} : ofScript s = .ok p ↔ p.script = s ∧ s.fault? = none := by
  unfold ofScript
  split
  case h_1 fault hfault => simp [hfault]
  case h_2 hfault =>
    obtain ⟨script, fingerprint, hwell, hfingerprint⟩ := p
    simp only [Except.ok.injEq, mk.injEq, hfault, and_true]
    constructor
    · rintro ⟨rfl, -⟩
      rfl
    · rintro rfl
      exact ⟨rfl, hfingerprint.symm⟩

/-- decode and validate -/
def ofSource (source : List Json.Symbol) : Except LoadError Screenplay :=
  match Json.decode Script.ofJson source with
  | .error reason => .error (.malformed reason)
  | .ok script => ofScript script

/-- the blocks in order -/
def blocks (s : Screenplay) : List Block := s.script.blocks

/-- the text pool -/
def pool (s : Screenplay) : List String := s.script.pool

/-- number of blocks -/
def size (s : Screenplay) : Nat := s.blocks.length

/-- position of the block with an id -/
def indexOf (s : Screenplay) (id : Int) : Option Nat := s.script.indexOf id

/-- the tokens of a block that refer to nothing, in order -/
def degradedIn (pool : List String) (b : Block) : List DegradedToken :=
  b.instructions.zipIdx.flatMap fun (i, index) =>
    (i.tokens.filterMap fun token => (Token.read pool token).unresolved?).map fun token => ⟨b.id, index, token⟩

/-- all tokens that refer to nothing, in order -/
def degraded (s : Screenplay) : List DegradedToken := s.blocks.flatMap (degradedIn s.pool)

/-- what is logged when the screenplay has been loaded -/
def loadRecords (s : Screenplay) : List Record :=
  .loaded s.size s.pool.length ::
    match s.degraded with
    | [] => []
    | first :: rest => [.degraded (rest.length + 1) first.token first.block]

end Screenplay

end VisualNovel
