/-
What a player types: words on a line, of which the first is the command and the second, for saving and loading, a slot.
Nothing typed means "go on". A line that is none of the commands is answered with a hint.
-/
import VisualNovel.Text.Blank
import VisualNovel.Text.Numeral

namespace VisualNovel

/-- a command of the player -/
inductive Input where
  /-- go on -/
  | next
  /-- take a choice, counted from zero -/
  | choose (index : Nat)
  | save (slot : Nat)
  | load (slot : Nat)
  | list
  | voice
  | quit
  /-- not a command; what to answer -/
  | invalid (hint : String)
  deriving DecidableEq, Repr

namespace Input

/-- a number typed as a choice: one to nine -/
def ofChoice (word : List Char) : Input :=
  match Text.readTypedSize word with
  | some n => if 1 ≤ n ∧ n ≤ 9 then choose (n - 1) else invalid "Unknown command."
  | none => invalid "Unknown command."

/-- the command that words spell -/
def ofWords : List (List Char) → Input
  | [] => next
  | head :: rest =>
    let slot := rest.head?.bind Text.readTypedSize
    match String.ofList head, slot with
    | "q", _ => quit
    | "v", _ => voice
    | "list", _ => list
    | "s", some slot => save slot
    | "l", some slot => load slot
    | "s", none => invalid "Give a slot number, e.g. 's 0'."
    | "l", none => invalid "Give a slot number, e.g. 's 0'."
    | _, _ => ofChoice head

/-- the command on a line -/
def ofLine (line : String) : Input := ofWords (Text.words line.toList)

end Input

end VisualNovel
