import TaintGrep.Toml.Basic

/-!
Blanks, comments, keys, strings, numbers, dates and times of TOML.
-/

namespace TaintGrep.Toml

open Reader

def isSpace (c : Char) : Bool :=
  c == ' ' || c == '\t'

def isVisible (c : Char) : Bool :=
  c == '\t' || (0x20 ≤ c.toNat && c.toNat != 0x7F)

def spaces : Reader Unit := do
  let _ ← run isSpace

def newline : Reader Unit :=
  char '\n' <|> word ['\r', '\n']

def comment : Reader Unit := do
  char '#'
  let _ ← run isVisible

def lineEnd : Reader Unit := do
  spaces
  let _ ← optional comment
  newline <|> atEnd

def gap : Reader Unit := do
  let _ ← many ((do let _ ← run1 isSpace) <|> newline <|> comment)

def isHex (c : Char) : Bool :=
  c.isDigit || ('a' ≤ c && c ≤ 'f') || ('A' ≤ c && c ≤ 'F')

def digitValue (c : Char) : Nat :=
  if c.isDigit then c.toNat - '0'.toNat
  else if 'a' ≤ c then c.toNat - 'a'.toNat + 10
  else c.toNat - 'A'.toNat + 10

def ofDigits (base : Nat) (ds : List Char) : Nat :=
  ds.foldl (fun n c => n * base + digitValue c) 0

def exactly (p : Char → Bool) : Nat → Reader (List Char)
  | 0 => pure []
  | n + 1 => do
    let c ← satisfy p
    let cs ← exactly p n
    pure (c :: cs)

def codePoint (digits : Nat) : Reader Char := do
  let n := ofDigits 16 (← exactly isHex digits)
  if n.isValidChar then pure (Char.ofNat n) else failure

def escaped : Reader Char := do
  char '\\'
  match ← satisfy fun _ => true with
  | 'b' => pure (Char.ofNat 0x08)
  | 't' => pure '\t'
  | 'n' => pure '\n'
  | 'f' => pure (Char.ofNat 0x0C)
  | 'r' => pure '\r'
  | '"' => pure '"'
  | '\\' => pure '\\'
  | 'u' => codePoint 4
  | 'U' => codePoint 8
  | _ => failure

def isBasic (c : Char) : Bool :=
  isVisible c && c != '"' && c != '\\'

def isLiteral (c : Char) : Bool :=
  isVisible c && c != '\''

def basicString : Reader String := do
  char '"'
  let parts ← many (run1 isBasic <|> (do pure [← escaped]))
  char '"'
  pure (String.ofList parts.flatten)

def literalString : Reader String := do
  char '\''
  let cs ← run isLiteral
  char '\''
  pure (String.ofList cs)

/-- A newline in a string of several lines is one line feed. -/
def brokenLine : Reader (List Char) := do
  newline
  pure ['\n']

/-- A backslash at the end of a line takes the line end and all blanks after it away. -/
def joinedLine : Reader (List Char) := do
  char '\\'
  spaces
  newline
  let _ ← many ((do let _ ← run1 isSpace) <|> newline)
  pure []

def fewQuotes (q : Char) : Reader (List Char) := do
  let qs ← run1 (· == q)
  if qs.length ≤ 2 then pure qs else failure

/-- The three quotes that end a string of several lines, and up to two more that belong to it. -/
def closingQuotes (q : Char) : Reader (List Char) := fun cs =>
  let n := min (cs.takeWhile (· == q)).length 5
  if 3 ≤ n then some (List.replicate (n - 3) q, cs.drop n) else none

def severalLines (q : Char) (part : Reader (List Char)) : Reader String := do
  word [q, q, q]
  let _ ← optional newline
  let parts ← many (part <|> fewQuotes q)
  let last ← closingQuotes q
  pure (String.ofList (parts.flatten ++ last))

def string : Reader String :=
  severalLines '"' (run1 isBasic <|> joinedLine <|> (do pure [← escaped]) <|> brokenLine) <|>
    basicString <|> severalLines '\'' (run1 isLiteral <|> brokenLine) <|> literalString

def isBare (c : Char) : Bool :=
  c.isAlphanum || c == '_' || c == '-'

def simpleKey : Reader String := do
  spaces
  let k ← basicString <|> literalString <|> (String.ofList <$> run1 isBare)
  spaces
  pure k

def nesting : Nat := 79

def key : Reader (List String × String) := do
  let first ← simpleKey
  let rest ← many (do char '.'; simpleKey)
  let ks := first :: rest
  if ks.length ≤ nesting then pure (ks.dropLast, ks.getLastD first) else failure

def digits (p : Char → Bool) : Reader (List Char) := do
  let c ← satisfy p
  let rest ← many (run1 p <|> (do char '_'; pure [← satisfy p]))
  pure (c :: rest.flatten)

def sign : Reader Bool := do
  match ← optional (satisfy fun c => c == '+' || c == '-') with
  | some '-' => pure true
  | _ => pure false

def decimal : Reader (List Char) :=
  (do char '0'; pure ['0']) <|> digits Char.isDigit

def signed (negative : Bool) (n : Nat) : Int :=
  if negative then -(n : Int) else n

def within64 (n : Int) : Reader Value :=
  if -9223372036854775808 ≤ n ∧ n ≤ 9223372036854775807 then pure (.integer n) else failure

def based (mark : Char) (base : Nat) (p : Char → Bool) : Reader Value := do
  word ['0', mark]
  within64 (ofDigits base (← digits p))

def integer : Reader Value :=
  based 'x' 16 isHex <|> based 'o' 8 (fun c => '0' ≤ c && c ≤ '7') <|>
    based 'b' 2 (fun c => c == '0' || c == '1') <|>
    do
      let negative ← sign
      within64 (signed negative (ofDigits 10 (← decimal)))

def fraction : Reader (List Char) := do
  char '.'
  digits Char.isDigit

def exponent : Reader Int := do
  let _ ← satisfy fun c => c == 'e' || c == 'E'
  let negative ← sign
  pure (signed negative (ofDigits 10 (← digits Char.isDigit)))

/-- A number with a fraction or an exponent. One that is too large is refused, one that is too
small a negative number is infinite. -/
def finiteFloat : Reader Value := do
  let negative ← sign
  let whole ← decimal
  let part ← optional fraction
  let power ← if part.isSome then optional exponent else some <$> exponent
  let ds := whole ++ part.getD []
  let x := Number.Double.ofDecimal negative (ofDigits 10 ds)
    (power.getD 0 - ((part.getD []).length : Int))
  if x = .infinity false then failure else pure (.float x)

def specialFloat : Reader Value := do
  let negative ← sign
  (do word "inf".toList; pure (.float (.infinity negative))) <|>
    (do word "nan".toList; pure (.float .nan))

def float : Reader Value :=
  finiteFloat <|> specialFloat

def two (low high : Nat) : Reader Nat := do
  let n := ofDigits 10 (← exactly Char.isDigit 2)
  if low ≤ n ∧ n ≤ high then pure n else failure

def daysOf (year month : Nat) : Nat :=
  if month = 2 then
    if year % 4 = 0 ∧ (year % 100 ≠ 0 ∨ year % 400 = 0) then 29 else 28
  else if month ∈ [4, 6, 9, 11] then 30
  else 31

def date : Reader Unit := do
  let year := ofDigits 10 (← exactly Char.isDigit 4)
  char '-'
  let month ← two 1 12
  char '-'
  let _ ← two 1 (daysOf year month)

def time : Reader Unit := do
  let _ ← two 0 23
  char ':'
  let _ ← two 0 59
  char ':'
  let _ ← two 0 60
  let _ ← optional (do char '.'; let _ ← run1 Char.isDigit)

def offset : Reader Unit :=
  (do let _ ← satisfy fun c => c == 'Z' || c == 'z') <|>
    do
      let _ ← satisfy fun c => c == '+' || c == '-'
      let _ ← two 0 23
      char ':'
      let _ ← two 0 59

def datetime : Reader Value := do
  let text ← taken <|
    (do
      date
      let _ ← optional do
        let _ ← satisfy fun c => c == 'T' || c == 't' || c == ' '
        time
        optional offset) <|> time
  pure (.datetime (String.ofList text))

/-- The first key of a table that stands for a date or time. -/
def dateKey : String := "$__toml_private_datetime"

def isDatetime (s : String) : Bool :=
  (datetime s.toList).any fun (_, rest) => rest.isEmpty

def dateOf? : Table → Option Value
  | (k, v) :: _ => if k = dateKey then some v else none
  | [] => none

def dateOfText? : Value → Option Value
  | .string s => if isDatetime s then some (.datetime s) else none
  | _ => none

mutual

/-- The value with all tables that stand for dates made dates, or none if one of them has no date
for its text. -/
def Value.withDates? : Value → Option Value
  | .array vs => (elementsWithDates? vs).map .array
  | .table es =>
    match dateOf? es with
    | some v => dateOfText? v
    | none => (entriesWithDates? es).map .table
  | v => some v

def elementsWithDates? : List Value → Option (List Value)
  | [] => some []
  | v :: vs => do return (← v.withDates?) :: (← elementsWithDates? vs)

/-- The entries of a table that stands for no date, as that of a whole document. -/
def entriesWithDates? : List (String × Value) → Option (List (String × Value))
  | [] => some []
  | (k, v) :: es => do return (k, ← v.withDates?) :: (← entriesWithDates? es)

end

end TaintGrep.Toml
