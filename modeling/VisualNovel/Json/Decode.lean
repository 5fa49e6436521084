/-
From JSON values to the program's documents.

A record is an object or, member by member in declared order, an array. Of an object, members with unknown names are
skipped unread, a repeated known member is a fault, and every name has to be text. Of an array, members at the end may be
left out where they have a default, and there may be none beyond the declared ones (`Fields.ofRecord`). Some records
have the object form only (`Fields.ofObject`).

A tagged document names its variant in one member and holds the variant's record in another (`tagged`). When the
content is written before the tag it has to be kept until the tag is known, and then all of it must bear keeping
(`Json.bears`), members that nobody asks for included.

A plain choice is written as its name, or as an object with that name as its only member and null as the value.
-/
import VisualNovel.Json.Reader

namespace VisualNovel.Json

/-- why a JSON value is not the document wanted -/
inductive Misfit where
  | missing (name : String)
  | repeated (name : String)
  | kind (found wanted : String)
  | range (wanted : String)
  | variant (name : String)
  | length (found : Nat) (wanted : String)
  | garbled
  deriving DecidableEq, Repr

/-- the wording of a misfit -/
def Misfit.message : Misfit → String
  | .missing name => s!"missing field `{name}`"
  | .repeated name => s!"duplicate field `{name}`"
  | .kind found wanted => s!"invalid type: {found}, expected {wanted}"
  | .range wanted => s!"invalid value, expected {wanted}"
  | .variant name => s!"unknown variant `{name}`"
  | .length found wanted => s!"invalid length {found}, expected {wanted}"
  | .garbled => "invalid unicode code point"

/-- why a text is not the document wanted: not JSON, or JSON of another shape; with line and column -/
inductive DecodeError where
  | unreadable (flaw : Flaw) (place : Nat × Nat)
  | misfit (reason : Misfit) (place : Nat × Nat)
  deriving DecidableEq, Repr

/-- the wording of a decoding error -/
def DecodeError.message : DecodeError → String
  | .unreadable flaw (line, column) => flaw.message ++ s!" at line {line} column {column}"
  | .misfit reason (line, column) => reason.message ++ s!" at line {line} column {column}"

/-- what a value must be to stand for an `α` -/
abbrev Decoder (α : Type) := Json → Except Misfit α

/-- read a document and decode it -/
def decode {α : Type} (decoder : Decoder α) (source : List Symbol) : Except DecodeError α :=
  match read source with
  | .error fault => .error (.unreadable fault.flaw (fault.place source))
  | .ok v =>
    match decoder v with
    | .error misfit => .error (.misfit misfit (endPlace source))
    | .ok a => .ok a

/-! ## Scalars and lists -/

/-- what kind of value was found, as messages call it -/
def kindName : Json → String
  | .null => "null"
  | .bool b => s!"boolean `{b}`"
  | .int n => s!"integer `{n}`"
  | .real _ => "floating point number"
  | .str (some s) => "string \"" ++ s ++ "\""
  | .str none => "string"
  | .arr _ => "sequence"
  | .obj _ => "map"

/-- a text -/
def asText : Decoder String
  | .str (some s) => .ok s
  | .str none => .error .garbled
  | v => .error (.kind v.kindName "a string")

/-- a truth value -/
def asBool : Decoder Bool
  | .bool b => .ok b
  | v => .error (.kind v.kindName "a boolean")

/-- an integer between two bounds -/
def asIntIn (least greatest : Int) : Decoder Int
  | .int n => if least ≤ n ∧ n ≤ greatest then .ok n else .error (.range "an integer in range")
  | v => .error (.kind v.kindName "an integer")

/-- a size, a position or a count -/
def asSize : Decoder Nat
  | .int n => if 0 ≤ n ∧ n ≤ Text.sizeMax then .ok n.toNat else .error (.range "usize")
  | v => .error (.kind v.kindName "usize")

/-- a 64-bit integer -/
def asInt64 : Decoder Int := asIntIn (-Int.pow 2 63) (Int.pow 2 63 - 1)

/-- a 32-bit integer -/
def asInt32 : Decoder Int := asIntIn (-Int.pow 2 31) (Int.pow 2 31 - 1)

/-- null, or what `decoder` takes -/
def asOption {α : Type} (decoder : Decoder α) : Decoder (Option α)
  | .null => .ok none
  | v => (decoder v).map some

/-- an array whose elements `decoder` takes -/
def asList {α : Type} (decoder : Decoder α) : Decoder (List α)
  | .arr vs => vs.mapM decoder
  | v => .error (.kind v.kindName "a sequence")

/-- one of the named choices; the object form of a choice holds null, or in kept content an empty object -/
def asChoice {α : Type} (kept : Bool) (choices : List (String × α)) : Decoder α := fun v =>
  let pick (name : String) : Except Misfit α :=
    match choices.lookup name with
    | some a => .ok a
    | none => .error (.variant name)
  match v with
  | .str (some name) => pick name
  | .obj [(some name, .null)] => pick name
  | .obj [(some name, .obj [])] => if kept then pick name else .error (.kind "map" "unit")
  | v => .error (.kind v.kindName "variant name")

/-! ## Records -/

/-- the members of an object, provided that all names are text -/
def namedMembers : List (Option String × Json) → Except Misfit (List (String × Json))
  | [] => .ok []
  | (some name, v) :: ms => (namedMembers ms).map ((name, v) :: ·)
  | (none, _) :: _ => .error .garbled

/-- the members of a record by name -/
structure Fields where
  /-- number of elements, when members were told by position -/
  positional : Option Nat
  /-- what the record is, for messages -/
  wanted : String
  get? : String → Option Json

/-- a name that occurs more than once -/
def repeatedName (names : List String) (ms : List (String × Json)) : Option String :=
  names.find? fun name => decide (1 < ms.countP fun m => m.1 == name)

/-- the known members of an object -/
def Fields.ofMembers (names : List String) (wanted : String) (ms : List (Option String × Json)) :
    Except Misfit Fields :=
  match namedMembers ms with
  | .error misfit => .error misfit
  | .ok ms =>
    match repeatedName names ms with
    | some name => .error (.repeated name)
    | none => .ok ⟨none, wanted, fun name => ms.lookup name⟩

/-- a record in object form -/
def Fields.ofObject (names : List String) (wanted : String) : Decoder Fields
  | .obj ms => Fields.ofMembers names wanted ms
  | v => .error (.kind v.kindName wanted)

/-- a record in object form or as an array of its members in the order of `names` -/
def Fields.ofRecord (names : List String) (wanted : String) : Decoder Fields
  | .obj ms => Fields.ofMembers names wanted ms
  | .arr vs =>
    let elements := names.length
    let wanted := wanted ++ s!" with {elements} elements"
    if vs.length ≤ elements then .ok ⟨some vs.length, wanted, fun name => vs[names.idxOf name]?⟩
    else .error (.length vs.length wanted)
  | v => .error (.kind v.kindName wanted)

/-- the misfit of a member that is not there: among elements, all from there on are missing -/
def Fields.absent (f : Fields) (name : String) : Misfit :=
  match f.positional with
  | some found => .length found f.wanted
  | none => .missing name

/-- a member that must be there -/
def Fields.required {α : Type} (f : Fields) (name : String) (decoder : Decoder α) : Except Misfit α :=
  match f.get? name with
  | some v => decoder v
  | none => .error (f.absent name)

/-- a member that may be left out -/
def Fields.withDefault {α : Type} (f : Fields) (name : String) (decoder : Decoder α) (default : α) :
    Except Misfit α :=
  match f.get? name with
  | some v => decoder v
  | none => .ok default

/-- a member that may be null, and in object form be left out -/
def Fields.optional {α : Type} (f : Fields) (name : String) (decoder : Decoder α) : Except Misfit (Option α) :=
  match f.get? name with
  | some v => asOption decoder v
  | none => if f.positional.isSome then .error (f.absent name) else .ok none

/-! ## Tagged documents -/

/-- the variant of a tagged document, its content if there is one, and whether the content stood before the tag -/
structure Tagged (α : Type) where
  tag : α
  content : Option Json
  kept : Bool

/-- a tagged document, `around` containers deep in its own: an object with the members `tagName` and `contentName`, or
an array of tag and content -/
def tagged {α : Type} (tagName contentName : String) (tags : List (String × α)) (around : Nat) :
    Decoder (Tagged α)
  | .obj ms =>
    match namedMembers ms with
    | .error misfit => .error misfit
    | .ok ms =>
      match repeatedName [tagName, contentName] ms with
      | some name => .error (.repeated name)
      | none =>
        match ms.lookup tagName with
        | none => .error (.missing tagName)
        | some tag =>
          match asChoice false tags tag with
          | .error misfit => .error misfit
          | .ok tag =>
            match ms.lookup contentName with
            | none => .ok ⟨tag, none, false⟩
            | some v =>
              let kept := decide (ms.findIdx (·.1 == contentName) < ms.findIdx (·.1 == tagName))
              if kept && !v.bears (nestingMax - (around + 1)) then .error .garbled
              else .ok ⟨tag, some v, kept⟩
  | .arr [tag, v] => (asChoice false tags tag).map fun tag => ⟨tag, some v, false⟩
  | .arr vs => .error (.length vs.length "tag and content")
  | v => .error (.kind v.kindName "tag and content")

/-- the content of a variant that has one -/
def Tagged.record {α : Type} (t : Tagged α) (contentName : String) : Except Misfit Json :=
  match t.content with
  | some v => .ok v
  | none => .error (.missing contentName)

end VisualNovel.Json
