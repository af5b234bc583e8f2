import DuckTyping.Number.FloatLiteral
import DuckTyping.Number.Integer
import DuckTyping.Text.Scan
import DuckTyping.Time.Rfc3339

set_option autoImplicit false

/-!
# Scalars of a configuration document

Texts in four kinds of quotes, numbers, and dates and times. Lines end in a line feed; a carriage
return in front of one has been dropped before.
-/

namespace DuckTyping.Toml

open DuckTyping.Number DuckTyping.Text

/-! ## Texts -/

/-- Controls other than the tab are written nowhere. -/
def isControl (c : Char) : Bool := (c.toNat < 0x20 && c != '\t') || c == '\x7f'

/-- The character whose code point these hexadecimal digits write. -/
def codePoint? (digits : List Char) : Option Char :=
  let n := hexValue digits
  if digits.all isHexDigit && n.isValidChar then some (Char.ofNat n) else none

/-- The character that a letter after a backslash stands for. -/
def escaped? : Char → Option Char
  | 'b' => some '\x08'
  | 't' => some '\t'
  | 'n' => some '\n'
  | 'f' => some '\x0c'
  | 'r' => some '\r'
  | '"' => some '"'
  | '\\' => some '\\'
  | _ => none

/-- An escaped character behind its backslash. -/
def scanEscape : Scanner Char
  | 'u' :: rest =>
    if rest.length < 4 then none else (codePoint? (rest.take 4)).map (·, rest.drop 4)
  | 'U' :: rest =>
    if rest.length < 8 then none else (codePoint? (rest.take 8)).map (·, rest.drop 8)
  | c :: rest => (escaped? c).map (·, rest)
  | [] => none

/-- The rest of a text in double quotes. Every step reads at least one character, so `fuel` need not
exceed the number of characters. -/
def scanBasic : Nat → Scanner (List Char)
  | 0, _ => none
  | _, [] => none
  | fuel + 1, c :: rest =>
    if c = '"' then some ([], rest)
    else if c = '\\' then do
      let (e, rest) ← scanEscape rest
      let (s, rest) ← scanBasic fuel rest
      return (e :: s, rest)
    else if isControl c then none
    else (scanBasic fuel rest).map fun (s, rest) => (c :: s, rest)

/-- The rest of a text in single quotes. -/
def scanLiteral : Scanner (List Char)
  | [] => none
  | c :: rest =>
    if c = '\'' then some ([], rest)
    else if isControl c then none
    else (scanLiteral rest).map fun (s, rest) => (c :: s, rest)

/-- The number of quotes at the front, but no more than five: three that close a text over several
lines, and two that may stand in front of them. -/
def countQuotes (quote : Char) (cs : List Char) : Nat :=
  ((cs.take 5).takeWhile (· = quote)).length

/-- White space or the end of a line. -/
def isBlank (c : Char) : Bool := c = ' ' || c = '\t' || c = '\n'

/-- A backslash at the end of a line, behind which only white space stands, takes away all blanks up
to the next text. -/
def skipLineEnd? (cs : List Char) : Option (List Char) :=
  match cs.dropWhile fun c => c = ' ' || c = '\t' with
  | '\n' :: rest => some (rest.dropWhile isBlank)
  | _ => none

/-- Skip the rest of a text over several lines; `escapes` says that a backslash escapes. -/
def skipMultiLine (quote : Char) (escapes : Bool) : Nat → List Char → Option (List Char)
  | 0, _ => none
  | _, [] => none
  | fuel + 1, c :: rest =>
    if c = quote then
      let n := countQuotes quote (c :: rest)
      if 3 ≤ n then some ((c :: rest).drop n) else skipMultiLine quote escapes fuel rest
    else if escapes && c = '\\' then
      match skipLineEnd? rest with
      | some rest => skipMultiLine quote escapes fuel rest
      | none => do
        let (_, rest) ← scanEscape rest
        skipMultiLine quote escapes fuel rest
    else if isControl c && c != '\n' then none
    else skipMultiLine quote escapes fuel rest

/-- Skip a text of any kind. -/
def skipText (cs : List Char) : Option (List Char) :=
  match cs with
  | '"' :: '"' :: '"' :: rest => skipMultiLine '"' true cs.length rest
  | '\'' :: '\'' :: '\'' :: rest => skipMultiLine '\'' false cs.length rest
  | '"' :: rest => (scanBasic cs.length rest).map (·.2)
  | '\'' :: rest => (scanLiteral rest).map (·.2)
  | _ => none

/-! ## Numbers -/

/-- The digits at the front without the single underscores that may stand between them, and what
follows. -/
def spanGrouped (isDigit : Char → Bool) : List Char → List Char × List Char
  | '_' :: c :: rest =>
    if isDigit c then
      let (digits, after) := spanGrouped isDigit rest
      (c :: digits, after)
    else ([], '_' :: c :: rest)
  | c :: rest =>
    if isDigit c then
      let (digits, after) := spanGrouped isDigit rest
      (c :: digits, after)
    else ([], c :: rest)
  | [] => ([], [])

/-- The digits at the front, without their underscores; the first character has to be one. -/
def scanGrouped (isDigit : Char → Bool) : Scanner (List Char)
  | [] => none
  | c :: rest => if isDigit c then some (spanGrouped isDigit (c :: rest)) else none

/-- An optional sign. -/
def scanSign : List Char → List Char × List Char
  | '+' :: rest => ([], rest)
  | '-' :: rest => (['-'], rest)
  | cs => ([], cs)

/-- A decimal integer with its sign: a single zero, or digits of which the first is none. -/
def scanDecimal : Scanner (List Char) := fun cs =>
  let (sign, cs) := scanSign cs
  match cs with
  | '0' :: rest => some (sign ++ ['0'], rest)
  | _ => (scanGrouped isDigit cs).map fun (digits, rest) => (sign ++ digits, rest)

/-- Skip a decimal integer of 64 bits. -/
def skipDecimal (cs : List Char) : Option (List Char) := do
  let (digits, rest) ← scanDecimal cs
  match parseInt64 digits with
  | .ok _ => some rest
  | .error _ => none

/-- Skip digits of another base, if their number stays below `2 ^ 63`. -/
def skipRadix (base : Nat) (cs : List Char) : Option (List Char) := do
  let (digits, rest) ← scanGrouped (fun c => (hexDigit? c).any (· < base)) cs
  let n := digits.foldl (fun acc c => base * acc + (hexDigit? c).getD 0) 0
  if n < Nat.pow 2 63 then some rest else none

/-- Skip an integer in any base. -/
def skipInteger : List Char → Option (List Char)
  | '0' :: 'x' :: rest => skipRadix 16 rest
  | '0' :: 'o' :: rest => skipRadix 8 rest
  | '0' :: 'b' :: rest => skipRadix 2 rest
  | cs => skipDecimal cs

/-- A point with the digits behind it. -/
def scanFractionDigits : Scanner (List Char)
  | '.' :: rest => (scanGrouped isDigit rest).map fun (d, rest) => ('.' :: d, rest)
  | _ => none

/-- An exponent with its mark and sign. -/
def scanExponent : Scanner (List Char)
  | mark :: rest =>
    if mark = 'e' ∨ mark = 'E' then
      let (sign, rest) := scanSign rest
      (scanGrouped isDigit rest).map fun (d, rest) => ('e' :: sign ++ d, rest)
    else none
  | [] => none

/-- The text of a decimal number with a fraction, an exponent, or both. -/
def scanFloatText : Scanner (List Char) := fun cs => do
  let (whole, cs) ← scanDecimal cs
  match scanFractionDigits cs with
  | some (fraction, cs) =>
    let (exponent, cs) := (scanExponent cs).getD ([], cs)
    return (whole ++ fraction ++ exponent, cs)
  | none =>
    let (exponent, cs) ← scanExponent cs
    return (whole ++ exponent, cs)

/-- Skip a float: a decimal number that does not exceed all finite ones, or a name. -/
def skipFloat (cs : List Char) : Option (List Char) :=
  match scanFloatText cs with
  | some (text, rest) =>
    match parseFloat text with
    | .ok x => if !isFinite x && !isNegative x then none else some rest
    | .error _ => none
  | none =>
    match (scanSign cs).2 with
    | 'i' :: 'n' :: 'f' :: rest => some rest
    | 'n' :: 'a' :: 'n' :: rest => some rest
    | _ => none

/-! ## Dates and times -/

/-- Skip a date. -/
def skipDate (cs : List Char) : Option (List Char) := do
  let (date, cs) ← Time.scanFullDate cs
  if date.IsValid then some cs else none

/-- Skip a time of day. -/
def skipClock (cs : List Char) : Option (List Char) := do
  let (clock, cs) ← Time.scanFullClock cs
  if clock.IsValid then some cs else none

/-- Skip the distance from universal time. -/
def skipOffset : List Char → Option (List Char)
  | [] => none
  | c :: rest =>
    if c = 'Z' ∨ c = 'z' then some rest
    else if c = '+' ∨ c = '-' then (Time.scanOffsetDigits rest).map (·.2)
    else none

/-- Skip what may follow a date: a separator, a time of day, and perhaps a distance. -/
def skipTimeOfDate : List Char → Option (List Char)
  | [] => none
  | c :: rest =>
    if c = 'T' ∨ c = 't' ∨ c = ' ' then
      (skipClock rest).map fun rest => (skipOffset rest).getD rest
    else none

/-- Skip a date, a time of day, or both. -/
def skipDateTime (cs : List Char) : Option (List Char) :=
  match skipDate cs with
  | some rest => some ((skipTimeOfDate rest).getD rest)
  | none => skipClock cs

end DuckTyping.Toml
