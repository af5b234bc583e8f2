import DuckTyping.Toml.Node
import DuckTyping.Toml.Scalar

set_option autoImplicit false

/-!
# Configuration documents

A document is a sequence of lines: headers of tables, keys with values, comments and blank lines. It
is read into statements, which then build the tree one by one. Arrays and inline tables nest less
than eighty deep, and a dotted key has fewer than eighty parts.
-/

namespace DuckTyping.Toml

open DuckTyping.Text

/-- The depth that nesting does not reach. -/
def depthLimit : Nat := 80

/-- Skip spaces and tabs. -/
def skipSpace (cs : List Char) : List Char := cs.dropWhile fun c => c = ' ' || c = '\t'

/-- The rest of a line behind the sign of a comment. -/
def skipComment (cs : List Char) : Option (List Char) :=
  match cs.dropWhile fun c => !isControl c with
  | [] => some []
  | '\n' :: rest => some ('\n' :: rest)
  | _ => none

/-- Skip blanks, ends of lines and comments; the flag says that a comment has begun. -/
def skipFillerFrom : Bool → List Char → Option (List Char)
  | _, [] => some []
  | true, c :: rest =>
    if c = '\n' then skipFillerFrom false rest
    else if isControl c then none
    else skipFillerFrom true rest
  | false, c :: rest =>
    if c = '#' then skipFillerFrom true rest
    else if isBlank c then skipFillerFrom false rest
    else some (c :: rest)

/-- Skip blanks, ends of lines and comments. -/
def skipFiller : List Char → Option (List Char) := skipFillerFrom false

/-- Only white space and a comment may stand before the end of a line. -/
def skipLineRest (cs : List Char) : Option (List Char) :=
  match skipSpace cs with
  | [] => some []
  | '\n' :: rest => some rest
  | '#' :: rest => skipComment rest
  | _ => none

/-- A character of a key that stands without quotes. -/
def isBareKeyChar (c : Char) : Bool := c.isAlphanum || c = '_' || c = '-'

/-- One part of a key. -/
def scanSimpleKey : Scanner String
  | '"' :: rest => (scanBasic (rest.length + 1) rest).map fun (s, rest) => (String.ofList s, rest)
  | '\'' :: rest => (scanLiteral rest).map fun (s, rest) => (String.ofList s, rest)
  | cs =>
    let key := cs.takeWhile isBareKeyChar
    if key.isEmpty then none else some (String.ofList key, cs.dropWhile isBareKeyChar)

/-- The parts of a key with points between them. -/
def scanKeyParts : Nat → Scanner (List String)
  | 0, _ => none
  | fuel + 1, cs => do
    let (part, cs) ← scanSimpleKey (skipSpace cs)
    match skipSpace cs with
    | '.' :: rest =>
      let (parts, rest) ← scanKeyParts fuel rest
      return (part :: parts, rest)
    | rest => return ([part], rest)

/-- A key: the path to its table and its last part. -/
def scanKey : Scanner (List String × String) := fun cs => do
  let (parts, cs) ← scanKeyParts (depthLimit - 1) cs
  let last ← parts.getLast?
  return ((parts.dropLast, last), cs)

/-- The items of an array up to its closing bracket. -/
def scanItems (item : Scanner Node) : Nat → Scanner (List Node)
  | 0, _ => none
  | fuel + 1, cs => do
    match ← skipFiller cs with
    | ']' :: rest => return ([], rest)
    | cs =>
      let (v, cs) ← item cs
      match ← skipFiller cs with
      | ',' :: rest =>
        let (items, rest) ← scanItems item fuel rest
        return (v :: items, rest)
      | ']' :: rest => return ([v], rest)
      | _ => none

/-- A key and its value. -/
def scanPair (item : Scanner Node) : Scanner ((List String × String) × Node) := fun cs => do
  let (key, cs) ← scanKey cs
  let cs ← scanChar '=' cs
  let (v, cs) ← item (skipSpace cs)
  return ((key, v), cs)

/-- The pairs of an inline table, of which there is at least one, up to its closing brace. -/
def scanPairs (item : Scanner Node) (entries : Entries) : Nat → Scanner Entries
  | 0, _ => none
  | fuel + 1, cs => do
    let ((key, v), cs) ← scanPair item cs
    let entries ← put key.1 key.2 v entries
    match skipSpace cs with
    | ',' :: rest => scanPairs item entries fuel rest
    | '}' :: rest => return (entries, rest)
    | _ => none

/-- An inline table behind its opening brace. -/
def scanInlineTable (item : Scanner Node) : Scanner Node := fun cs =>
  match skipSpace cs with
  | '}' :: rest => some (.table .inline [], rest)
  | _ => (scanPairs item [] cs.length cs).map fun (es, rest) => (.table .inline es, rest)

/-- A value that is no array and no inline table. -/
def scanScalar : Scanner Node := fun cs =>
  match cs with
  | 't' :: 'r' :: 'u' :: 'e' :: rest => some (.boolean true, rest)
  | 'f' :: 'a' :: 'l' :: 's' :: 'e' :: rest => some (.boolean false, rest)
  | '"' :: _ => (skipText cs).map fun rest => (.scalar, rest)
  | '\'' :: _ => (skipText cs).map fun rest => (.scalar, rest)
  | _ =>
    match skipDateTime cs with
    | some rest => some (.time, rest)
    | none => ((skipFloat cs).or (skipInteger cs)).map fun rest => (.scalar, rest)

/-- A value. Each array or inline table takes one from `depth`. -/
def scanValue : Nat → Scanner Node
  | 0, _ => none
  | depth + 1, cs =>
    match cs with
    | '[' :: rest =>
      if depth = 0 then none
      else (scanItems (scanValue depth) cs.length rest).map fun (vs, rest) => (.array vs, rest)
    | '{' :: rest => if depth = 0 then none else scanInlineTable (scanValue depth) rest
    | _ => scanScalar cs

/-- A line that says something. -/
inductive Statement where
  /-- the header of a table -/
  | header (path : List String)
  /-- the header of one table of several -/
  | arrayHeader (path : List String)
  /-- a value for a key of the table whose header stands before -/
  | assign (path : List String) (key : String) (v : Node)

/-- The path of a header up to its closing bracket. -/
def scanHeaderPath : Scanner (List String) := fun cs => do
  let (key, cs) ← scanKey cs
  let cs ← scanChar ']' cs
  return (key.1 ++ [key.2], cs)

/-- A statement up to the end of its line. -/
def scanStatement : Scanner Statement := fun cs =>
  match cs with
  | '[' :: '[' :: rest => do
    let (path, cs) ← scanHeaderPath rest
    let cs ← scanChar ']' cs
    return (.arrayHeader path, ← skipLineRest cs)
  | '[' :: rest => do
    let (path, cs) ← scanHeaderPath rest
    return (.header path, ← skipLineRest cs)
  | _ => do
    let ((key, v), cs) ← scanPair (scanValue depthLimit) cs
    return (.assign key.1 key.2 v, ← skipLineRest cs)

/-- The statements of a document. -/
def scanStatements : Nat → List Char → Option (List Statement)
  | 0, _ => none
  | fuel + 1, cs => do
    match ← skipFiller cs with
    | [] => return []
    | cs =>
      let (statement, cs) ← scanStatement cs
      return statement :: (← scanStatements fuel cs)

/-- The tree that statements build, given the header that was read last. -/
def build (header : List String) (entries : Entries) : List Statement → Option Entries
  | [] => some entries
  | .header path :: rest => (openTable path entries).bind fun es => build path es rest
  | .arrayHeader path :: rest => (openArrayTable path entries).bind fun es => build path es rest
  | .assign path key v :: rest =>
    (putIn header path key v entries).bind fun es => build header es rest

/-- Lines that end in a carriage return and a line feed, as if they ended in a line feed. -/
def unifyLineEnds : List Char → List Char
  | '\r' :: '\n' :: rest => '\n' :: unifyLineEnds rest
  | c :: rest => c :: unifyLineEnds rest
  | [] => []

/-- The top-level entries of a document. -/
def parse? (document : String) : Option Entries := do
  let cs := match document.toList with
    | '\ufeff' :: rest => rest
    | cs => cs
  let cs := unifyLineEnds cs
  build [] [] (← scanStatements (cs.length + 1) cs)

end DuckTyping.Toml
