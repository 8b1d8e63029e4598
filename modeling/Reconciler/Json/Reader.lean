import Reconciler.Json.Document
import Reconciler.Json.Skip

/-!
# Reading JSON text

Text is read into a document.  Where it goes wrong the document ends in a fault,
so what stands before the fault can still be looked at.  Behind a field whose value went wrong
reading goes on where the value ends if it is skipped.
-/

namespace Reconciler

namespace Json

/-- Lists and objects may be nested less deep than this. -/
def depthLimit : Nat :=
  128

/-- What was read, and the cursor behind it unless it is broken. -/
abbrev Reading (α : Type) :=
  α × Option Cursor

/-- A reading that broke off. -/
def brokenAt (cursor : Cursor) (fault : Fault) : Reading Document :=
  (.broken (some cursor.mark) fault, none)

/-- The fields of an object that is cut off. -/
def cutAt (cursor : Cursor) (fault : Fault) : Reading (List (String × Option Mark × Document)) :=
  ([("", none, .cut (some cursor.mark) fault)], none)

/-- The cursor behind a value: where reading it ended, or else where it is skipped to. -/
def pastValue (start : Cursor) : Option Cursor → Except Fault Cursor
  | some behind => .ok behind
  | none => skipValue (2 * start.rest.length + 4) start

/-- A scalar that was read between two cursors, or the fault met in it. -/
def scalar {α : Type} (cursor : Cursor) (build : Option Span → α → Document) :
    Except Fault (α × Cursor) → Reading Document
  | .ok (value, behind) => (build (some ⟨cursor.mark, some behind.mark⟩) value, some behind)
  | .error fault => brokenAt cursor fault

mutual

/-- Reads a value.  Each call takes a character or is the only one between two
that do, so twice the length of the text is fuel enough. -/
def readValue : Nat → Nat → Cursor → Reading Document
  | 0, _, cursor => brokenAt cursor (cursor.stopNext .endInValue)
  | fuel + 1, depth, cursor =>
      let cursor := cursor.skipBlanks
      match cursor.rest with
      | [] => brokenAt cursor (cursor.stopNext .endInValue)
      | char :: rest =>
          let next : Cursor := ⟨rest, cursor.mark.after char⟩
          if char = 'n' then
            scalar cursor (fun span _ => .null span)
              ((next.expect ['u', 'l', 'l']).map fun behind => ((), behind))
          else if char = 't' then
            scalar cursor .boolean
              ((next.expect ['r', 'u', 'e']).map fun behind => (true, behind))
          else if char = 'f' then
            scalar cursor .boolean
              ((next.expect ['a', 'l', 's', 'e']).map fun behind => (false, behind))
          else if char = '-' then scalar cursor .number (next.numeral true)
          else if char.isDigit then scalar cursor .number (cursor.numeral false)
          else if char = '"' then scalar cursor .text (next.textBody (rest.length + 1) [])
          else if char = '[' then
            if depth ≤ 1 then brokenAt cursor (cursor.stopNext .tooDeep)
            else
              let (items, behind) := readItems fuel (depth - 1) true next
              (.list (some ⟨cursor.mark, behind.map Cursor.mark⟩) items, behind)
          else if char = '\x7b' then
            if depth ≤ 1 then brokenAt cursor (cursor.stopNext .tooDeep)
            else
              let (fields, behind) := readFields fuel (depth - 1) true next
              (.object (some ⟨cursor.mark, behind.map Cursor.mark⟩) fields, behind)
          else brokenAt cursor (cursor.stopNext .expectedValue)

/-- Reads the items of a list up to its end. -/
def readItems : Nat → Nat → Bool → Cursor → Reading (List Document)
  | 0, _, _, cursor => ([.broken (some cursor.mark) (cursor.stopNext .endInList)], none)
  | fuel + 1, depth, first, cursor =>
      let cursor := cursor.skipBlanks
      let broken := fun (cursor : Cursor) (error : Malformation) =>
        ([.broken (some cursor.mark) (cursor.stopNext error)], none)
      let element := fun (cursor : Cursor) =>
        match readValue fuel depth cursor with
        | (item, none) => ([item], none)
        | (item, some behind) =>
            let (items, ending) := readItems fuel depth false behind
            (item :: items, ending)
      match cursor.rest with
      | [] => broken cursor .endInList
      | ']' :: rest => ([], some ⟨rest, cursor.mark.after ']'⟩)
      | ',' :: rest =>
          if first then element cursor
          else
            let next := Cursor.skipBlanks ⟨rest, cursor.mark.after ','⟩
            match next.rest with
            | [] => broken next .endInValue
            | ']' :: _ => broken next .trailingComma
            | _ => element next
      | _ => if first then element cursor else broken cursor .expectedListEnd

/-- Reads the fields of an object up to its end. -/
def readFields : Nat → Nat → Bool → Cursor → Reading (List (String × Option Mark × Document))
  | 0, _, _, cursor => cutAt cursor (cursor.stopNext .endInObject)
  | fuel + 1, depth, first, cursor =>
      let cursor := cursor.skipBlanks
      let member := fun (cursor : Cursor) =>
        match cursor.rest with
        | [] => cutAt cursor (cursor.stopNext .endInValue)
        | '"' :: rest =>
            match Cursor.textBody (rest.length + 1) [] ⟨rest, cursor.mark.after '"'⟩ with
            | .error fault => cutAt cursor fault
            | .ok (name, behind) =>
                let behind := behind.skipBlanks
                match behind.rest with
                | [] => cutAt behind (behind.stopNext .endInObject)
                | ':' :: rest =>
                    let start : Cursor := ⟨rest, behind.mark.after ':'⟩
                    let (item, ending) := readValue fuel depth start
                    let (fields, ending) :=
                      match pastValue start ending with
                      | .ok ending => readFields fuel depth false ending
                      | .error fault => cutAt start fault
                    ((name, some behind.mark, item) :: fields, ending)
                | _ => cutAt behind (behind.stopNext .expectedColon)
        | '\x7d' :: _ => cutAt cursor (cursor.stopNext .trailingComma)
        | _ => cutAt cursor (cursor.stopNext .keyNotText)
      match cursor.rest with
      | [] => cutAt cursor (cursor.stopNext .endInObject)
      | '\x7d' :: rest => ([], some ⟨rest, cursor.mark.after '\x7d'⟩)
      | ',' :: rest =>
          if first then member cursor
          else member (Cursor.skipBlanks ⟨rest, cursor.mark.after ','⟩)
      | _ =>
          if first then member cursor
          else cutAt cursor (cursor.stopNext .expectedObjectEnd)

end

/-- Reads a text that holds one value.  The second part is the fault behind the
value, if more than blanks follow it. -/
def readDocument (text : String) : Document × Option Fault :=
  let cursor := Cursor.ofText text
  match readValue (2 * cursor.rest.length + 4) depthLimit cursor with
  | (document, none) => (document, none)
  | (document, some behind) =>
      let behind := behind.skipBlanks
      if behind.rest.isEmpty then (document, none)
      else (document, some (behind.stopNext .trailingCharacters))

/-- Reads a text with a reader of documents; nothing may follow the value. -/
def readWith {α : Type} (reader : Document → Except Fault α) (text : String) : Except Fault α := do
  let (document, trailing) := readDocument text
  let value ← reader document
  match trailing with
  | none => return value
  | some fault => throw fault

/-- The value of a JSON text. -/
def parse (text : String) : Except Fault Json :=
  readWith Document.value text

end Json

end Reconciler
