import Reconciler.Json.Cursor

/-!
# Skipping JSON text

The value of an unknown field is not read but skipped.  Its brackets, quotes and numerals have
to be well formed; but values may be nested as deep as they like, numbers may be out of
range, and numeric escapes need not stand for characters.
-/

namespace Reconciler

namespace Json

namespace Cursor

/-- Skips an escape, behind its backslash. -/
def skipEscape (cursor : Cursor) : Except Fault Cursor :=
  match cursor.rest with
  | [] => .error (cursor.stopHere .endInText)
  | char :: rest =>
      let next : Cursor := ⟨rest, cursor.mark.after char⟩
      if char = 'u' then next.hexFour.map Prod.snd
      else if char ∈ ['"', '\\', '/', 'b', 'f', 'n', 'r', 't'] then .ok next
      else .error (cursor.stopNext .invalidEscape)

/-- Skips a text behind its opening quote.  Every step takes a character, so
`fuel` is enough if it exceeds their number. -/
def skipText : Nat → Cursor → Except Fault Cursor
  | 0, cursor => .error (cursor.stopHere .endInText)
  | fuel + 1, cursor =>
      match cursor.rest with
      | [] => .error (cursor.stopHere .endInText)
      | char :: rest =>
          let next : Cursor := ⟨rest, cursor.mark.after char⟩
          if char = '"' then .ok next
          else if char = '\\' then
            match next.skipEscape with
            | .ok behind => skipText fuel behind
            | .error fault => .error fault
          else if char.toNat < 32 then .error (cursor.stopHere .controlCharacter)
          else skipText fuel next

/-- Skips digits, of which there has to be one. -/
def skipSomeDigits (cursor : Cursor) : Except Fault Cursor :=
  let (count, behind) := cursor.skipDigits
  if count = 0 then .error (cursor.stopNext .invalidNumber) else .ok behind

/-- Skips an exponent, if there is one. -/
def skipExponent (cursor : Cursor) : Except Fault Cursor :=
  match cursor.rest with
  | letter :: rest =>
      if letter = 'e' || letter = 'E' then
        let mark := cursor.mark.after letter
        match rest with
        | '+' :: digits => skipSomeDigits ⟨digits, mark.after '+'⟩
        | '-' :: digits => skipSomeDigits ⟨digits, mark.after '-'⟩
        | _ => skipSomeDigits ⟨rest, mark⟩
      else .ok cursor
  | [] => .ok cursor

/-- Skips a numeral behind its sign. -/
def skipNumeral (cursor : Cursor) : Except Fault Cursor :=
  match cursor.rest with
  | '0' :: rest =>
      let next : Cursor := ⟨rest, cursor.mark.after '0'⟩
      if rest.head?.any Char.isDigit then .error (next.stopNext .invalidNumber)
      else skipFraction next
  | _ =>
      match cursor.skipSomeDigits with
      | .ok behind => skipFraction behind
      | .error fault => .error fault
where
  /-- Skips what may follow the digits before the point. -/
  skipFraction (cursor : Cursor) : Except Fault Cursor :=
    match cursor.rest with
    | '.' :: decimals =>
        match skipSomeDigits ⟨decimals, cursor.mark.after '.'⟩ with
        | .ok behind => behind.skipExponent
        | .error fault => .error fault
    | _ => cursor.skipExponent

end Cursor

mutual

/-- Skips a value.  Each call takes a character or is the only one between two
that do, so twice the length of the text is fuel enough. -/
def skipValue : Nat → Cursor → Except Fault Cursor
  | 0, cursor => .error (cursor.stopNext .endInValue)
  | fuel + 1, cursor =>
      let cursor := cursor.skipBlanks
      match cursor.rest with
      | [] => .error (cursor.stopNext .endInValue)
      | char :: rest =>
          let next : Cursor := ⟨rest, cursor.mark.after char⟩
          if char = 'n' then next.expect ['u', 'l', 'l']
          else if char = 't' then next.expect ['r', 'u', 'e']
          else if char = 'f' then next.expect ['a', 'l', 's', 'e']
          else if char = '-' then next.skipNumeral
          else if char.isDigit then cursor.skipNumeral
          else if char = '"' then next.skipText (rest.length + 1)
          else if char = '[' then skipItems fuel true next
          else if char = '\x7b' then skipFields fuel true next
          else .error (cursor.stopNext .expectedValue)

/-- Skips the items of a list up to its end. -/
def skipItems : Nat → Bool → Cursor → Except Fault Cursor
  | 0, _, cursor => .error (cursor.stopNext .endInList)
  | fuel + 1, first, cursor =>
      let cursor := cursor.skipBlanks
      let element := fun (cursor : Cursor) =>
        match skipValue fuel cursor with
        | .ok behind => skipItems fuel false behind
        | .error fault => .error fault
      match cursor.rest with
      | [] => .error (cursor.stopNext .endInList)
      | ']' :: rest => .ok ⟨rest, cursor.mark.after ']'⟩
      | ',' :: rest => element (if first then cursor else ⟨rest, cursor.mark.after ','⟩)
      | _ => if first then element cursor else .error (cursor.stopNext .expectedListEnd)

/-- Skips the fields of an object up to its end. -/
def skipFields : Nat → Bool → Cursor → Except Fault Cursor
  | 0, _, cursor => .error (cursor.stopNext .endInObject)
  | fuel + 1, first, cursor =>
      let cursor := cursor.skipBlanks
      let member := fun (cursor : Cursor) =>
        match cursor.rest with
        | [] => .error (cursor.stopNext .endInObject)
        | '"' :: rest =>
            match Cursor.skipText (rest.length + 1) ⟨rest, cursor.mark.after '"'⟩ with
            | .error fault => .error fault
            | .ok behind =>
                let behind := behind.skipBlanks
                match behind.rest with
                | [] => .error (behind.stopNext .endInObject)
                | ':' :: rest =>
                    match skipValue fuel ⟨rest, behind.mark.after ':'⟩ with
                    | .ok ending => skipFields fuel false ending
                    | .error fault => .error fault
                | _ => .error (behind.stopNext .expectedColon)
        | _ => .error (cursor.stopNext .keyNotText)
      match cursor.rest with
      | [] => .error (cursor.stopNext .endInObject)
      | '\x7d' :: rest => .ok ⟨rest, cursor.mark.after '\x7d'⟩
      | ',' :: rest =>
          member (if first then cursor else Cursor.skipBlanks ⟨rest, cursor.mark.after ','⟩)
      | _ => if first then member cursor else .error (cursor.stopNext .expectedObjectEnd)

end

end Json

end Reconciler
