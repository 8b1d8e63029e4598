import Reconciler.Json.Fault

/-!
# Reading characters of a JSON text

A cursor is the rest of a text and the place where it begins.  Idents, texts and
numerals are read here; every reader returns what it read and the cursor behind
it, or the fault with its place.
-/

namespace Reconciler

namespace Json

/-- The rest of a text and the place where it begins. -/
structure Cursor where
  rest : List Char
  mark : Mark

namespace Cursor

/-- The cursor at the start of a text. -/
def ofText (text : String) : Cursor :=
  ⟨text.toList, Mark.start⟩

/-- The place just behind the next byte, or the end of the text. -/
def peekMark (cursor : Cursor) : Mark :=
  match cursor.rest with
  | [] => cursor.mark
  | '\n' :: _ => ⟨cursor.mark.line + 1, 0⟩
  | _ :: _ => ⟨cursor.mark.line, cursor.mark.column + 1⟩

/-- The fault that stops at this place. -/
def stopHere (cursor : Cursor) (error : Malformation) : Fault :=
  ⟨.malformed error, some cursor.mark⟩

/-- The fault that stops just behind the next byte. -/
def stopNext (cursor : Cursor) (error : Malformation) : Fault :=
  ⟨.malformed error, some cursor.peekMark⟩

/-- Skips the blanks of the notation. -/
def skipBlanks (cursor : Cursor) : Cursor :=
  go cursor.rest cursor.mark
where
  /-- Skips blanks from a place on. -/
  go : List Char → Mark → Cursor
    | [], mark => ⟨[], mark⟩
    | char :: rest, mark =>
        if char = ' ' || char = '\n' || char = '\t' || char = '\r' then go rest (mark.after char)
        else ⟨char :: rest, mark⟩

/-- Reads the given characters of an ident. -/
def expect : List Char → Cursor → Except Fault Cursor
  | [], cursor => .ok cursor
  | wanted :: others, cursor =>
      match cursor.rest with
      | [] => .error (cursor.stopHere .endInValue)
      | char :: rest =>
          if char = wanted then expect others ⟨rest, cursor.mark.after char⟩
          else .error (cursor.stopNext .expectedIdent)

/-- The value of a hexadecimal digit. -/
def hexDigit? (char : Char) : Option Nat :=
  if char.isDigit then some (char.toNat - '0'.toNat)
  else if 'a' ≤ char ∧ char ≤ 'f' then some (char.toNat - 'a'.toNat + 10)
  else if 'A' ≤ char ∧ char ≤ 'F' then some (char.toNat - 'A'.toNat + 10)
  else none

/-- The cursor at the end of the text. -/
def atEnd (cursor : Cursor) : Cursor :=
  ⟨[], cursor.rest.foldl Mark.after cursor.mark⟩

/-- The place some bytes further on, which may lie within a character. -/
def markAfterBytes : Nat → List Char → Mark → Mark
  | _, [], mark => mark
  | bytes, char :: rest, mark =>
      if char.utf8Size ≤ bytes then markAfterBytes (bytes - char.utf8Size) rest (mark.after char)
      else ⟨mark.line, mark.column + bytes⟩

/-- Why the next four bytes are no hexadecimal digits. -/
def notHexFour (cursor : Cursor) : Fault :=
  if (String.ofList cursor.rest).utf8ByteSize < 4 then cursor.atEnd.stopHere .endInText
  else ⟨.malformed .invalidEscape, some (markAfterBytes 4 cursor.rest cursor.mark)⟩

/-- Reads the four digits of an escape. -/
def hexFour (cursor : Cursor) : Except Fault (Nat × Cursor) :=
  match cursor.rest with
  | first :: second :: third :: fourth :: rest =>
      match hexDigit? first, hexDigit? second, hexDigit? third, hexDigit? fourth with
      | some a, some b, some c, some d =>
          .ok (((a * 16 + b) * 16 + c) * 16 + d,
            ⟨rest, [first, second, third, fourth].foldl Mark.after cursor.mark⟩)
      | _, _, _, _ => .error cursor.notHexFour
  | _ => .error cursor.notHexFour

/-- Reads one given character inside the second half of an escape pair. -/
def pairChar (wanted : Char) (cursor : Cursor) : Except Fault Cursor :=
  match cursor.rest with
  | [] => .error (cursor.stopHere .endInText)
  | char :: rest =>
      if char = wanted then .ok ⟨rest, cursor.mark.after char⟩
      else .error (cursor.stopNext .endInEscape)

/-- Reads the character of a numeric escape; characters beyond the first plane are
written as a pair of escapes. -/
def codePoint (cursor : Cursor) : Except Fault (Char × Cursor) := do
  let (first, cursor) ← cursor.hexFour
  if 0xdc00 ≤ first && first ≤ 0xdfff then throw (cursor.stopHere .loneSurrogate)
  if first < 0xd800 || 0xdbff < first then return (Char.ofNat first, cursor)
  let cursor ← cursor.pairChar '\\'
  let cursor ← cursor.pairChar 'u'
  let (second, cursor) ← cursor.hexFour
  if second < 0xdc00 || 0xdfff < second then throw (cursor.stopHere .loneSurrogate)
  return (Char.ofNat ((first - 0xd800) * 1024 + (second - 0xdc00) + 0x10000), cursor)

/-- Reads the character of an escape, behind its backslash. -/
def escape (cursor : Cursor) : Except Fault (Char × Cursor) :=
  match cursor.rest with
  | [] => .error (cursor.stopHere .endInText)
  | char :: rest =>
      let next : Cursor := ⟨rest, cursor.mark.after char⟩
      match char with
      | '"' => .ok ('"', next)
      | '\\' => .ok ('\\', next)
      | '/' => .ok ('/', next)
      | 'b' => .ok ('\x08', next)
      | 'f' => .ok ('\x0c', next)
      | 'n' => .ok ('\n', next)
      | 'r' => .ok ('\r', next)
      | 't' => .ok ('\t', next)
      | 'u' => next.codePoint
      | _ => .error (cursor.stopNext .invalidEscape)

/-- Reads a text behind its opening quote.  Every step takes a character, so
`fuel` is enough if it exceeds their number. -/
def textBody : Nat → List Char → Cursor → Except Fault (String × Cursor)
  | 0, _, cursor => .error (cursor.stopHere .endInText)
  | fuel + 1, read, cursor =>
      match cursor.rest with
      | [] => .error (cursor.stopHere .endInText)
      | char :: rest =>
          let next : Cursor := ⟨rest, cursor.mark.after char⟩
          if char = '"' then .ok (String.ofList read.reverse, next)
          else if char = '\\' then
            match next.escape with
            | .ok (escaped, behind) => textBody fuel (escaped :: read) behind
            | .error fault => .error fault
          else if char.toNat < 32 then .error (next.stopHere .controlCharacter)
          else textBody fuel (char :: read) next

/-- The largest whole number that a numeral may stand for. -/
def wholeLimit : Nat :=
  Nat.pow 2 64 - 1

/-- The number of decimal digits at the start, and the cursor behind them. -/
def skipDigits (cursor : Cursor) : Nat × Cursor :=
  let digits := cursor.rest.takeWhile Char.isDigit
  (digits.length, ⟨cursor.rest.dropWhile Char.isDigit, digits.foldl Mark.after cursor.mark⟩)

/-- Appends digits to a significand as long as it stays within the limit; returns
the count of those appended. -/
def significandDigits : Nat → Nat → List Char → Nat × Nat
  | significand, count, [] => (significand, count)
  | significand, count, char :: rest =>
      let next := significand * 10 + (char.toNat - '0'.toNat)
      if char.isDigit && next ≤ wholeLimit then significandDigits next (count + 1) rest
      else (significand, count)

/-- A power of ten up to `10 ^ 308`. -/
def powerOfTen (power : Nat) : Float :=
  Float.ofScientific 1 false power

/-- The floating point number of a significand and a power of ten: one rounded
product or quotient, after steps of `10 ^ 308` where the power is lower. -/
def scaled : Nat → Float → Int → Option Float
  | 0, value, _ => some value
  | fuel + 1, value, power =>
      if power.natAbs ≤ 308 then
        if 0 ≤ power then
          let product := value * powerOfTen power.natAbs
          if product.isInf then none else some product
        else some (value / powerOfTen power.natAbs)
      else if value == 0 then some value
      else if 0 ≤ power then none
      else scaled fuel (value / powerOfTen 308) (power + 308)

/-- Ends a numeral with a floating point number. -/
def floating (negative : Bool) (significand : Nat) (power : Int) (cursor : Cursor) :
    Except Fault (Number × Cursor) :=
  match scaled (power.natAbs / 308 + 2) significand.toFloat power with
  | none => .error (cursor.stopHere .numberOutOfRange)
  | some value => .ok (.floating (if negative then -value else value), cursor)

/-- Reads an exponent behind its letter. -/
def exponent (negative : Bool) (significand : Nat) (power : Int) (cursor : Cursor) :
    Except Fault (Number × Cursor) :=
  let (down, cursor) : Bool × Cursor :=
    match cursor.rest with
    | '+' :: rest => (false, ⟨rest, cursor.mark.after '+'⟩)
    | '-' :: rest => (true, ⟨rest, cursor.mark.after '-'⟩)
    | _ => (false, cursor)
  match cursor.rest with
  | [] => .error (cursor.stopHere .endInValue)
  | char :: _ =>
      if !char.isDigit then .error (cursor.stopNext .invalidNumber)
      else
        let digits := cursor.rest.takeWhile Char.isDigit
        let (_, behind) := cursor.skipDigits
        let size := digits.foldl (fun value digit => value * 10 + (digit.toNat - '0'.toNat)) 0
        if Nat.pow 2 31 ≤ size then
          if significand ≠ 0 && !down then .error (behind.stopHere .numberOutOfRange)
          else .ok (.floating (if negative then -0.0 else 0.0), behind)
        else floating negative significand (if down then power - size else power + size) behind

/-- Ends a numeral after its digits: an exponent may follow. -/
def afterDigits (negative : Bool) (significand : Nat) (power : Int) (cursor : Cursor) :
    Except Fault (Number × Cursor) :=
  match cursor.rest with
  | 'e' :: rest => exponent negative significand power ⟨rest, cursor.mark.after 'e'⟩
  | 'E' :: rest => exponent negative significand power ⟨rest, cursor.mark.after 'E'⟩
  | _ => floating negative significand power cursor

/-- Reads the digits behind a decimal point; those beyond the limit of the
significand do not count. -/
def decimals (negative : Bool) (significand : Nat) (power : Int) (cursor : Cursor) :
    Except Fault (Number × Cursor) :=
  let (count, behind) := cursor.skipDigits
  if count = 0 then
    .error (if cursor.rest.isEmpty then cursor.stopNext .endInValue
      else cursor.stopNext .invalidNumber)
  else
    let (significand, used) := significandDigits significand 0 cursor.rest
    afterDigits negative significand (power - used) behind

/-- Reads a numeral behind its sign. -/
def numeral (negative : Bool) (cursor : Cursor) : Except Fault (Number × Cursor) :=
  match cursor.rest with
  | [] => .error (cursor.stopHere .endInValue)
  | char :: rest =>
      if !char.isDigit then .error (cursor.stopNext .invalidNumber)
      else if char = '0' && (rest.head?.any Char.isDigit) then
        .error (Cursor.stopNext ⟨rest, cursor.mark.after char⟩ .invalidNumber)
      else
        let (count, behind) := cursor.skipDigits
        let (significand, used) := significandDigits 0 0 cursor.rest
        let power : Int := count - used
        match behind.rest with
        | '.' :: others => decimals negative significand power ⟨others, behind.mark.after '.'⟩
        | 'e' :: _ => afterDigits negative significand power behind
        | 'E' :: _ => afterDigits negative significand power behind
        | _ =>
            if count ≠ used then floating negative significand power behind
            else if !negative then .ok (.whole significand, behind)
            else if significand = 0 || Nat.pow 2 63 < significand then
              .ok (.floating (-significand.toFloat), behind)
            else .ok (.whole (-(significand : Int)), behind)

end Cursor

end Json

end Reconciler
