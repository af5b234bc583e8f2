import DuckTyping.Number.Digits

set_option autoImplicit false

/-!
# Universally unique identifiers

An identifier of 128 bits. It is written as 32 hexadecimal digits in groups of 8, 4, 4, 4 and 12
with hyphens between them. It is read in that form, without hyphens, between braces or behind
`urn:uuid:`, with digits of either case; a text that is none of these is refused with the first
thing that is wrong with it. Lengths and positions count the bytes of the text in UTF-8.
-/

namespace DuckTyping

/-- An identifier of 128 bits. -/
structure Uuid where
  bits : BitVec 128
  deriving DecidableEq, Repr, Inhabited

/-- Why a text is no identifier. -/
inductive UuidFault where
  /-- the text has this many bytes, which no form has -/
  | length (found : Nat)
  /-- a character, at this position, that no form has -/
  | character (found : Char) (position : Nat)
  | groupCount (found : Nat)
  | groupLength (group expected found : Nat)
  deriving DecidableEq, Repr, Inhabited

/-- The text that reports the fault. -/
def UuidFault.message : UuidFault → String
  | .length found => "invalid length: found " ++ Nat.repr found
  | .character found position =>
    "invalid character: found \x60" ++ found.toString ++ "\x60 at " ++ Nat.repr position
  | .groupCount found => "invalid group count: expected 5, found " ++ Nat.repr found
  | .groupLength group expected found =>
    "invalid group length in group " ++ Nat.repr group ++ ": expected " ++ Nat.repr expected ++
      ", found " ++ Nat.repr found

namespace Uuid

open DuckTyping.Number

/-- The hyphenated form. -/
def render (u : Uuid) : List Char :=
  let n := u.bits.toNat
  renderHex 8 (n / Nat.pow 2 96) ++ '-' :: renderHex 4 (n / Nat.pow 2 80) ++
    '-' :: renderHex 4 (n / Nat.pow 2 64) ++ '-' :: renderHex 4 (n / Nat.pow 2 48) ++
    '-' :: renderHex 12 n

/-- The identifier that 32 hexadecimal digits write. -/
def ofDigits (digits : List Char) : Uuid := ⟨BitVec.ofNat 128 (hexValue digits)⟩

/-- The number of bytes of characters in UTF-8. -/
def byteLength (cs : List Char) : Nat := cs.foldr (fun c n => c.utf8Size + n) 0

/-- Every character with the byte position at which it starts, counted from `position`. -/
def withPositions (position : Nat) : List Char → List (Char × Nat)
  | [] => []
  | c :: rest => (c, position) :: withPositions (position + c.utf8Size) rest

/-- A group of digits that ends at a hyphen. -/
structure Group where
  number : Nat
  start : Nat
  width : Nat
  deriving DecidableEq, Repr, Inhabited

/-- Where the hyphen stands that ends a group. -/
def Group.hyphen (g : Group) : Nat := g.start + g.width

/-- The groups before the last one. -/
def groups : List Group := [⟨0, 0, 8⟩, ⟨1, 9, 4⟩, ⟨2, 14, 4⟩, ⟨3, 19, 4⟩]

/-- The text is written in hyphenated groups. -/
def isHyphenated (cs : List Char) : Bool :=
  byteLength cs == 36 &&
    (withPositions 0 cs).all fun (c, p) =>
      if p ∈ groups.map Group.hyphen then c == '-' else isHexDigit c

/-- The digits of a text in hyphenated groups. -/
def hyphenated? (cs : List Char) : Option (List Char) :=
  if isHyphenated cs then some (cs.filter (· ≠ '-')) else none

/-- The digits of a text without hyphens. -/
def plain? (cs : List Char) : Option (List Char) :=
  if byteLength cs == 32 && cs.all isHexDigit then some cs else none

/-- What stands between braces that enclose the whole text. -/
def inBraces? : List Char → Option (List Char)
  | '{' :: rest => if rest.getLast? = some '}' then some rest.dropLast else none
  | _ => none

/-- What stands behind the name of the namespace, in any case. -/
def afterUrn? (cs : List Char) : Option (List Char) :=
  let name := "urn:uuid:".toList
  if (cs.take name.length).map Char.toLower = name then some (cs.drop name.length) else none

/-- The digits of a text in one of the accepted forms. -/
def digits? (cs : List Char) : Option (List Char) :=
  (plain? cs).or <| (hyphenated? cs).or <|
    ((inBraces? cs).bind hyphenated?).or ((afterUrn? cs).bind hyphenated?)

/-- The first group that does not end where it should, given the positions of four hyphens; else
the last group has a wrong length. -/
def groupFault (length : Nat) (hyphens : List Nat) : UuidFault :=
  match (hyphens.zip groups).find? fun (position, g) => position ≠ g.hyphen with
  | some (position, g) => .groupLength g.number g.width (position - g.start)
  | none => .groupLength 4 12 (length - 24)

/-- What is wrong with a text of which `inner` is left behind an opening brace or a namespace.
`framed` says that there was such a part, or that the text has to be hyphenated. -/
def faultOf (cs : List Char) (start : Nat) (inner : List Char) (framed : Bool) : UuidFault :=
  let positions := withPositions start inner
  match positions.find? fun (c, _) => c ≠ '-' ∧ ¬isHexDigit c with
  | some (c, p) => .character c p
  | none =>
    let hyphens := (positions.filter (·.1 == '-')).map fun (_, p) => p - start
    if hyphens.isEmpty ∧ ¬framed then .length (byteLength cs)
    else if hyphens.length ≠ 4 then .groupCount (hyphens.length + 1)
    else groupFault (byteLength cs) hyphens

/-- What is wrong with a text that has none of the accepted forms. A part in braces or behind the
namespace is judged by itself when it has the length of a hyphenated identifier. -/
def fault (cs : List Char) : UuidFault :=
  if cs.isEmpty ∨ 45 < byteLength cs then .length (byteLength cs)
  else if byteLength cs = 36 then faultOf cs 0 cs true
  else match inBraces? cs with
    | some inner =>
      if byteLength cs = 38 then faultOf inner 0 inner true else faultOf cs 1 inner true
    | none => match afterUrn? cs with
      | some inner =>
        if byteLength cs = 45 then faultOf inner 0 inner true else faultOf cs 9 inner true
      | none => faultOf cs 0 cs false

/-- Read an identifier. -/
def parse (cs : List Char) : Except UuidFault Uuid :=
  match digits? cs with
  | some digits => .ok (ofDigits digits)
  | none => .error (fault cs)

end Uuid

end DuckTyping
