import Reconciler.Text.Printable

/-!
# Quoted text

Diagnostics quote the texts they mention: a text stands between double quotes,
with quote, backslash and the usual controls escaped by a letter, and every
character that would not show as itself written as `\u{...}` in lower case
hexadecimal without padding.
-/

namespace Reconciler

namespace Text

/-- The digits of a number in lower case hexadecimal, without padding. -/
def hexDigits (number : Nat) : List Char :=
  Nat.toDigits 16 number

/-- One character of quoted text, with the letters after the backslash where it
is escaped. -/
def quotedChar (char : Char) : List Char :=
  if char = '"' then ['\\', '"']
  else if char = '\\' then ['\\', '\\']
  else if char = '\n' then ['\\', 'n']
  else if char = '\r' then ['\\', 'r']
  else if char = '\t' then ['\\', 't']
  else if char = '\x00' then ['\\', '0']
  else if isPrintable char && !isCombining char then [char]
  else ['\\', 'u', '\x7b'] ++ hexDigits char.toNat ++ ['\x7d']

/-- A text between double quotes. -/
def quoted (text : String) : String :=
  String.ofList ('"' :: text.toList.flatMap quotedChar ++ ['"'])

/-- A text that may be missing, as `None` or `Some("...")`. -/
def quotedOption : Option String → String
  | none => "None"
  | some text => "Some(" ++ quoted text ++ ")"

end Text

end Reconciler
