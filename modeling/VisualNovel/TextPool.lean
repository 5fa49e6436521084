/-
The text pool. A compiled screenplay stores most texts once and refers to them by tokens: a dollar sign and a position.

`Token.read` says what a token stands for. `Token.index?` reads the position: blanks, one sign, the longest run of decimal
digits; what follows is ignored, a minus sign is allowed before zero only, and a value beyond 64 bits is no position. A
token that refers to nothing in the pool stands for itself (`unresolved`), as does every text without a dollar sign and
the dollar sign alone (`plain`). A pool text is used as it is: tokens inside it are not resolved again.

The sign and the digits are found among the bytes of the token, and the token is cut at offsets in bytes. A cut in the
middle of a character would be a fault, and `Token.read?` says so: it gives nothing then.
-/
import VisualNovel.Text.Blank
import VisualNovel.Text.Offset
import VisualNovel.Instruction

namespace VisualNovel

/-- what a token stands for -/
inductive Token where
  /-- no reference: the text itself -/
  | plain (text : String)
  /-- a reference to a pool text -/
  | pooled (index : Nat) (text : String)
  /-- a reference to nothing: shown as it is -/
  | unresolved (text : String)
  deriving DecidableEq, Repr

namespace Token

/-- the text to show -/
def text : Token → String
  | plain text => text
  | pooled _ text => text
  | unresolved text => text

/-- whether the token refers to nothing -/
def isUnresolved : Token → Bool
  | unresolved _ => true
  | _ => false

/-- the text of a token that refers to nothing -/
def unresolved? : Token → Option String
  | unresolved text => some text
  | _ => none

/-- whether a byte is an ASCII digit -/
def isDigitByte (b : UInt8) : Bool := 0x30 ≤ b && b ≤ 0x39

/-- the sign in front of a text, if there is one, as whether it is a minus sign; and the rest -/
def sign? (cs : List Char) : Option (Bool × List Char) :=
  if (Text.bytes cs).head? = some 0x2b then (Text.from? 1 cs).map (false, ·)
  else if (Text.bytes cs).head? = some 0x2d then (Text.from? 1 cs).map (true, ·)
  else some (false, cs)

/-- the offset of the first byte that is no ASCII digit, or of the end -/
def digitsEnd (cs : List Char) : Nat := (Text.bytes cs).findIdx fun b => !isDigitByte b

/-- the position that a token gives after its dollar sign, if it gives one -/
def index? (cs : List Char) : Option (Option Nat) := do
  let (negative, rest) ← sign? (Text.trimStart cs)
  let run ← Text.upTo? (digitsEnd rest) rest
  match Text.readSize run with
  | some n => some (if negative ∧ n ≠ 0 then none else some n)
  | none => some none

/-- what a token stands for, given the pool; none if it were cut where no character starts -/
def read? (pool : List String) (token : String) : Option Token :=
  match token.toList with
  | '$' :: c :: cs => do
    match ← index? (c :: cs) with
    | some i =>
      match pool[i]? with
      | some text => some (.pooled i text)
      | none => some (.unresolved token)
    | none => some (.unresolved token)
  | _ => some (.plain token)

/-- what a token stands for, given the pool; a fault, which there is none, would leave the token as it is -/
def read (pool : List String) (token : String) : Token := (read? pool token).getD (.unresolved token)

end Token

/-- the texts of an instruction, one per token -/
def Instruction.texts (pool : List String) (i : Instruction) : List String :=
  i.tokens.map fun token => (Token.read pool token).text

/-- the instruction with its tokens resolved -/
def Instruction.resolve (pool : List String) (i : Instruction) : Resolved := ⟨i.tag, i.params, i.texts pool⟩

/-- the tokens of an instruction that refer to nothing -/
def Instruction.unresolved (pool : List String) (i : Instruction) : List String :=
  i.tokens.filter fun token => (Token.read pool token).isUnresolved

end VisualNovel
