/-
Finite maps as lists of pairs, in the order of first assignment. `assign` puts a value under a key in place of any
before, `discard` leaves nothing under it; `lookup_assign` and `lookup_discard` say so through `List.lookup`.
-/
namespace VisualNovel.Assoc

/-- the map with `value` under `key` -/
def assign {κ α : Type} [DecidableEq κ] (key : κ) (value : α) : List (κ × α) → List (κ × α)
  | [] => [(key, value)]
  | (k, v) :: rest => if k = key then (k, value) :: rest else (k, v) :: assign key value rest

/-- the map with nothing under `key` -/
def discard {κ α : Type} [DecidableEq κ] (key : κ) (m : List (κ × α)) : List (κ × α) :=
  m.filter fun p => p.1 ≠ key

theorem lookup_assign {κ α : Type} [DecidableEq κ] [BEq κ] [LawfulBEq κ] (key k : κ) (value : α) (m : List (κ × α)) :
    (assign key value m).lookup k = if k = key then some value else m.lookup k := by
  induction m with
  | nil =>
    by_cases h : k = key
    · subst h; simp [assign]
    · simp [assign, List.lookup_cons, beq_false_of_ne h, h]
  | cons p rest ih =>
    obtain ⟨k', v⟩ := p
    by_cases h' : k' = key <;> by_cases h : k = k'
    · subst h' h; simp [assign]
    · subst h'; simp [assign, List.lookup_cons, beq_false_of_ne h, h]
    · subst h; simp [assign, h']
    · simp [assign, List.lookup_cons, beq_false_of_ne h, h', ih]

theorem lookup_discard {κ α : Type} [DecidableEq κ] [BEq κ] [LawfulBEq κ] (key k : κ) (m : List (κ × α)) :
    (discard key m).lookup k = if k = key then none else m.lookup k := by
  induction m with
  | nil => simp [discard]
  | cons p rest ih =>
    obtain ⟨k', v⟩ := p
    simp only [discard, List.filter_cons] at ih ⊢
    by_cases h' : k' = key <;> by_cases h : k = k'
    · subst h' h; simpa using ih
    · subst h'; simpa [List.lookup_cons, beq_false_of_ne h, h] using ih
    · subst h; simp [h']
    · simpa [List.lookup_cons, beq_false_of_ne h, h', h] using ih

end VisualNovel.Assoc
