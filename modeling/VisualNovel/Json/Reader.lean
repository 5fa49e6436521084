/-
Reading JSON text, strictly: no trailing commas, comments, leading zeros, plus signs, raw control characters in strings,
and only space, tab, line feed and carriage return around values.

The reader runs over symbols: the characters of a text, or `none` for a byte that belongs to no character (a document
may come as bytes). A byte outside a string is a fault. Inside a string it only spoils that string, as a surrogate
escape without its other half does; the value then is `Json.str none`, and who looks at it refuses it.

`Json.read` answers with the value or with a fault: what is wrong, what was unread at that point and whether the next
symbol is to blame. `Fault.place` turns that into a line and a column. Nesting is followed with fuel computed from the
length of the input (`fuelFor`), which every document stays below.
-/
import VisualNovel.Text.Numeral
import VisualNovel.Json.Value

namespace VisualNovel.Json

/-- a character of the text, or a byte that belongs to none -/
abbrev Symbol := Option Char

/-- what is wrong with a text that is not JSON -/
inductive Flaw where
  | endOfList
  | endOfObject
  | endOfString
  | endOfValue
  | noColon
  | noListEnd
  | noObjectEnd
  | noWord
  | noValue
  | badEscape
  | badNumber
  | controlCharacter
  | nameNotString
  | trailingComma
  | trailingText
  deriving DecidableEq, Repr

/-- the wording of a flaw -/
def Flaw.message : Flaw → String
  | .endOfList => "EOF while parsing a list"
  | .endOfObject => "EOF while parsing an object"
  | .endOfString => "EOF while parsing a string"
  | .endOfValue => "EOF while parsing a value"
  | .noColon => "expected `:`"
  | .noListEnd => "expected `,` or `]`"
  | .noObjectEnd => "expected `,` or `\x7d`"
  | .noWord => "expected ident"
  | .noValue => "expected value"
  | .badEscape => "invalid escape"
  | .badNumber => "invalid number"
  | .controlCharacter => "control character (\\u0000-\\u001F) found while parsing a string"
  | .nameNotString => "key must be a string"
  | .trailingComma => "trailing comma"
  | .trailingText => "trailing characters"

/-- a flaw, what was unread when it was found, and whether the next symbol is the one at fault -/
structure Fault where
  flaw : Flaw
  rest : List Symbol
  ahead : Bool
  deriving DecidableEq, Repr

/-- the outcome of reading one thing: the thing and what follows it, or a fault -/
abbrev Read (α : Type) := Except Fault (α × List Symbol)

/-- the flaw is in the next symbol -/
def atNext {α : Type} (flaw : Flaw) (rest : List Symbol) : Read α := .error ⟨flaw, rest, true⟩

/-- the flaw is in the symbol just read -/
def atLast {α : Type} (flaw : Flaw) (rest : List Symbol) : Read α := .error ⟨flaw, rest, false⟩

/-- the four characters that may surround values -/
def isGap : Symbol → Bool
  | some c => c == ' ' || c == '\n' || c == '\t' || c == '\r'
  | none => false

/-- skip what may surround values -/
def skipGap (s : List Symbol) : List Symbol := s.dropWhile isGap

/-! ## Words and numerals -/

/-- the remaining letters of a word that stands for `v` -/
def word (v : Json) : List Char → List Symbol → Read Json
  | [], s => .ok (v, s)
  | _ :: _, [] => atLast .endOfValue []
  | c :: cs, x :: s => if x = some c then word v cs s else atLast .noWord s

/-- the leading run of digits -/
def digitRun : List Symbol → List Char × List Symbol
  | [] => ([], [])
  | none :: s => ([], none :: s)
  | some c :: s => if c.isDigit then (c :: (digitRun s).1, (digitRun s).2) else ([], some c :: s)

/-- digits before a point or exponent: one zero, or a run that does not start with zero -/
def wholeDigits (s : List Symbol) : Read (List Char) :=
  match digitRun s with
  | ([], []) => atLast .endOfValue []
  | ([], _ :: r) => atLast .badNumber r
  | ('0' :: _ :: _, _) => atNext .badNumber (s.drop 1)
  | (ds, r) => .ok (ds, r)

/-- a point and digits, if there is a point -/
def fractionDigits : List Symbol → Read (Option (List Char))
  | some '.' :: s =>
    match digitRun s with
    | ([], []) => atNext .endOfValue []
    | ([], r) => atNext .badNumber r
    | (ds, r) => .ok (some ds, r)
  | s => .ok (none, s)

/-- an exponent after its letter: a sign, if any, and digits -/
def exponentAfter (negative : Bool) (s : List Symbol) : Read (Option Int) :=
  match digitRun s with
  | ([], []) => atLast .endOfValue []
  | ([], _ :: r) => atLast .badNumber r
  | (ds, r) => .ok (some (if negative then -(Text.ofDigits ds : Int) else Text.ofDigits ds), r)

/-- an exponent, if there is one -/
def exponent : List Symbol → Read (Option Int)
  | some c :: s =>
    if c = 'e' ∨ c = 'E' then
      match s with
      | some '+' :: s => exponentAfter false s
      | some '-' :: s => exponentAfter true s
      | s => exponentAfter false s
    else .ok (none, some c :: s)
  | s => .ok (none, s)

/-- the value of a numeral; minus zero is no integer -/
def numeralValue (negative : Bool) (whole : List Char) (fraction : Option (List Char)) (e : Option Int) : Json :=
  match fraction, e with
  | none, none =>
    let n := Text.ofDigits whole
    if negative then (if n = 0 then .real false else .int (-n)) else .int n
  | _, _ => .real (isTooLarge whole (fraction.getD []) (e.getD 0))

/-- a numeral after its minus sign, if it has one -/
def numeral (negative : Bool) (s : List Symbol) : Read Json :=
  match wholeDigits s with
  | .error f => .error f
  | .ok (whole, s) =>
    match fractionDigits s with
    | .error f => .error f
    | .ok (fraction, s) =>
      match exponent s with
      | .error f => .error f
      | .ok (e, s) => .ok (numeralValue negative whole fraction e, s)

/-! ## Strings -/

/-- a string literal as far as it was read: the characters, last first, a leading surrogate that waits for its other
half, and whether all of it is text so far -/
structure Spelled where
  chars : List Char
  lead : Option Nat
  sound : Bool

/-- nothing read yet -/
def Spelled.start : Spelled := ⟨[], none, true⟩

/-- a character follows -/
def Spelled.char (t : Spelled) (c : Char) : Spelled := ⟨c :: t.chars, none, t.sound && t.lead.isNone⟩

/-- a byte that belongs to no character follows -/
def Spelled.stray (t : Spelled) : Spelled := ⟨t.chars, none, false⟩

/-- a leading surrogate -/
def isLead (n : Nat) : Bool := decide (0xd800 ≤ n ∧ n ≤ 0xdbff)

/-- a trailing surrogate -/
def isTrail (n : Nat) : Bool := decide (0xdc00 ≤ n ∧ n ≤ 0xdfff)

/-- an escape with four hex digits follows -/
def Spelled.unit (t : Spelled) (n : Nat) : Spelled :=
  match t.lead with
  | some m =>
    if isTrail n then ⟨Char.ofNat (0x10000 + (m - 0xd800) * 0x400 + (n - 0xdc00)) :: t.chars, none, t.sound⟩
    else t.stray
  | none =>
    if isLead n then ⟨t.chars, some n, t.sound⟩ else if isTrail n then t.stray else t.char (Char.ofNat n)

/-- the text of a literal that has ended -/
def Spelled.text (t : Spelled) : Option String :=
  if t.sound && t.lead.isNone then some (String.ofList t.chars.reverse) else none

/-- the value of a hex digit -/
def hexValue (c : Char) : Option Nat :=
  if c.isDigit then some (c.toNat - '0'.toNat)
  else if 'a' ≤ c ∧ c ≤ 'f' then some (c.toNat - 'a'.toNat + 10)
  else if 'A' ≤ c ∧ c ≤ 'F' then some (c.toNat - 'A'.toNat + 10)
  else none

/-- the value of four hex digits -/
def hexUnit : Symbol → Symbol → Symbol → Symbol → Option Nat
  | some a, some b, some c, some d =>
    match hexValue a, hexValue b, hexValue c, hexValue d with
    | some a, some b, some c, some d => some (((a * 16 + b) * 16 + c) * 16 + d)
    | _, _, _, _ => none
  | _, _, _, _ => none

/-- the character that a letter after a backslash stands for -/
def escaped : Char → Option Char
  | '"' => some '"'
  | '\\' => some '\\'
  | '/' => some '/'
  | 'b' => some '\x08'
  | 'f' => some '\x0c'
  | 'n' => some '\n'
  | 'r' => some '\r'
  | 't' => some '\t'
  | _ => none

/-- a string literal after its opening quote -/
def literal (t : Spelled) : List Symbol → Read (Option String)
  | [] => atLast .endOfString []
  | none :: s => literal t.stray s
  | some '"' :: s => .ok (t.text, s)
  | some '\\' :: some 'u' :: a :: b :: c :: d :: s =>
    match hexUnit a b c d with
    | some n => literal (t.unit n) s
    | none => atLast .badEscape s
  | some '\\' :: some e :: s =>
    match escaped e with
    | some c => literal (t.char c) s
    | none => if e = 'u' then atLast .endOfString [] else atLast .badEscape s
  | some '\\' :: none :: s => atLast .badEscape s
  | some c :: s =>
    if c = '\\' then atLast .endOfString []
    else if c.toNat < 0x20 then atLast .controlCharacter s
    else literal (t.char c) s

/-! ## Values -/

/-- the name of a member, with the colon after it -/
def memberName : List Symbol → Read (Option String)
  | [] => atNext .endOfValue []
  | some '"' :: s =>
    match literal .start s with
    | .error f => .error f
    | .ok (name, s) =>
      match skipGap s with
      | some ':' :: s => .ok (name, s)
      | [] => atNext .endOfObject []
      | s => atNext .noColon s
  | s => atNext .nameNotString s

mutual
/-- one value -/
def value : Nat → List Symbol → Read Json
  | 0, s => atNext .noValue s
  | fuel + 1, s =>
    match skipGap s with
    | [] => atNext .endOfValue []
    | some 'n' :: s => word .null ['u', 'l', 'l'] s
    | some 't' :: s => word (.bool true) ['r', 'u', 'e'] s
    | some 'f' :: s => word (.bool false) ['a', 'l', 's', 'e'] s
    | some '-' :: s => numeral true s
    | some '"' :: s =>
      match literal .start s with
      | .error f => .error f
      | .ok (t, s) => .ok (.str t, s)
    | some '[' :: s =>
      match skipGap s with
      | [] => atNext .endOfList []
      | some ']' :: s => .ok (.arr [], s)
      | s =>
        match elements fuel s with
        | .error f => .error f
        | .ok (vs, s) => .ok (.arr vs, s)
    | some '\x7b' :: s =>
      match skipGap s with
      | [] => atNext .endOfObject []
      | some '\x7d' :: s => .ok (.obj [], s)
      | s =>
        match members fuel s with
        | .error f => .error f
        | .ok (ms, s) => .ok (.obj ms, s)
    | some c :: s => if c.isDigit then numeral false (some c :: s) else atNext .noValue (some c :: s)
    | none :: s => atNext .noValue (none :: s)
/-- one or more elements, with the bracket that ends them -/
def elements : Nat → List Symbol → Read (List Json)
  | 0, s => atNext .noValue s
  | fuel + 1, s =>
    match value fuel s with
    | .error f => .error f
    | .ok (v, s) =>
      match skipGap s with
      | some ']' :: s => .ok ([v], s)
      | some ',' :: s =>
        match skipGap s with
        | [] => atNext .endOfValue []
        | some ']' :: s => atNext .trailingComma (some ']' :: s)
        | s =>
          match elements fuel s with
          | .error f => .error f
          | .ok (vs, s) => .ok (v :: vs, s)
      | [] => atNext .endOfList []
      | s => atNext .noListEnd s
/-- one or more members, with the brace that ends them -/
def members : Nat → List Symbol → Read (List (Option String × Json))
  | 0, s => atNext .noValue s
  | fuel + 1, s =>
    match memberName s with
    | .error f => .error f
    | .ok (name, s) =>
      match value fuel s with
      | .error f => .error f
      | .ok (v, s) =>
        match skipGap s with
        | some '\x7d' :: s => .ok ([(name, v)], s)
        | some ',' :: s =>
          match skipGap s with
          | some '\x7d' :: s => atNext .trailingComma (some '\x7d' :: s)
          | s =>
            match members fuel s with
            | .error f => .error f
            | .ok (ms, s) => .ok ((name, v) :: ms, s)
        | [] => atNext .endOfObject []
        | s => atNext .noObjectEnd s
end

/-- fuel for an input: a bracket and a list it opens take two units and at least one symbol -/
def fuelFor (s : List Symbol) : Nat := 2 * s.length + 2

/-- the document: one value and nothing but gaps after it -/
def read (s : List Symbol) : Except Fault Json :=
  match value (fuelFor s) s with
  | .error f => .error f
  | .ok (v, rest) =>
    match skipGap rest with
    | [] => .ok v
    | rest => .error ⟨.trailingText, rest, true⟩

/-! ## Places -/

/-- bytes that a symbol takes -/
def width : Symbol → Nat
  | some c => c.utf8Size
  | none => 1

/-- line and column reached after reading these symbols; columns count bytes, lines start at one -/
def placeAfter (s : List Symbol) : Nat × Nat :=
  s.foldl (fun p x => if x = some '\n' then (p.1 + 1, 0) else (p.1, p.2 + width x)) (1, 0)

/-- line and column of a fault in the text `whole` -/
def Fault.place (f : Fault) (whole : List Symbol) : Nat × Nat :=
  let done := placeAfter (whole.take (whole.length - f.rest.length))
  match f.rest with
  | x :: _ => if f.ahead then (if x = some '\n' then (done.1 + 1, 0) else (done.1, done.2 + 1)) else done
  | [] => done

/-- the line and column of the end of a document: the last symbol that is no gap -/
def endPlace (whole : List Symbol) : Nat × Nat := placeAfter (whole.reverse.dropWhile isGap).reverse

/-! ## Texts and bytes as symbols -/

/-- the symbols of a text -/
def ofText (s : String) : List Symbol := s.toList.map some

/-- how many bytes continue a lead byte, the bits that the lead byte holds, and the least value that needs this length -/
def leadForm (a : UInt8) : Option (Nat × Nat × Nat) :=
  if a < 0x80 then some (0, a.toNat, 0)
  else if 0xc0 ≤ a ∧ a ≤ 0xdf then some (1, a.toNat - 0xc0, 0x80)
  else if 0xe0 ≤ a ∧ a ≤ 0xef then some (2, a.toNat - 0xe0, 0x800)
  else if 0xf0 ≤ a ∧ a ≤ 0xf7 then some (3, a.toNat - 0xf0, 0x10000)
  else none

/-- the character that `a` and the bytes after it spell in its shortest form, and how many of those bytes it takes -/
def frontChar (a : UInt8) (r : List UInt8) : Option (Char × Nat) :=
  match leadForm a with
  | none => none
  | some (count, bits, least) =>
    let more := r.take count
    let n := more.foldl (fun n b => n * 64 + (b.toNat - 0x80)) bits
    if more.length = count ∧ more.all (fun b => decide (0x80 ≤ b ∧ b ≤ 0xbf)) ∧ least ≤ n ∧
        (n < 0xd800 ∨ (0xdfff < n ∧ n < 0x110000)) then
      some (Char.ofNat n, count)
    else none

/-- the symbols of bytes that need not be UTF-8: characters where they are well formed, stray bytes elsewhere -/
def ofStrayBytes : List UInt8 → List Symbol
  | [] => []
  | a :: r =>
    match frontChar a r with
    | some (c, count) => some c :: ofStrayBytes (r.drop count)
    | none => none :: ofStrayBytes r
termination_by bytes => bytes.length
decreasing_by all_goals simp only [List.length_drop, List.length_cons]; omega

/-- the symbols of a document that comes as bytes -/
def ofBytes (bytes : ByteArray) : List Symbol :=
  match String.fromUTF8? bytes with
  | some s => ofText s
  | none => ofStrayBytes bytes.toList

end VisualNovel.Json
