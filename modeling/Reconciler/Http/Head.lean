/-!
# Heads of requests

The head of a request is a line with method, target and version, followed by lines
with headers and an empty line.  Empty lines before it are skipped.  Lines end with a
line feed, which a carriage return may precede.
-/

namespace Reconciler

namespace Http

/-- The versions that are understood. -/
inductive Version
  | old
  | current
deriving DecidableEq, Repr

/-- The name of a version. -/
def Version.text : Version → String
  | .old => "HTTP/1.0"
  | .current => "HTTP/1.1"

/-- The head of a request. -/
structure Head where
  method : String
  target : String
  version : Version
  headers : List (String × String)
deriving DecidableEq, Repr

/-- What is wrong with a head. -/
inductive HeadFault
  | method
  | version
  | header
  /-- The text ends within the head. -/
  | unfinished
deriving DecidableEq, Repr

/-- The wording of what is wrong with a head. -/
def HeadFault.message : HeadFault → String
  | .method => "invalid HTTP method parsed"
  | .version => "invalid HTTP version parsed"
  | .header => "invalid HTTP header parsed"
  | .unfinished => "connection closed before message completed"

/-- Whether a character may stand in a method or in the name of a header. -/
def isTokenChar (char : Char) : Bool :=
  char.isAlphanum || "!#$%&'*+-.^_`|~".toList.contains char

/-- Whether a character may stand in a target. -/
def isTargetChar (char : Char) : Bool :=
  32 < char.toNat && char.toNat ≠ 127

/-- The text up to a line feed without the carriage return before it, and the rest. -/
def splitLine : List Char → Option (List Char × List Char)
  | [] => none
  | ['\r'] => none
  | '\r' :: '\n' :: rest => some ([], rest)
  | char :: rest =>
      if char = '\n' then some ([], rest)
      else (splitLine rest).map fun split => (char :: split.1, split.2)

/-- The text behind the empty lines at its start. -/
def skipEmptyLines : List Char → List Char
  | '\r' :: '\n' :: rest => skipEmptyLines rest
  | '\n' :: rest => skipEmptyLines rest
  | chars => chars

/-- Reads a part of the first line, up to a blank. -/
def readPart (allowed : Char → Bool) : List Char → Except HeadFault (List Char × List Char)
  | [] => .error .unfinished
  | char :: rest =>
      if char = ' ' then .ok ([], rest)
      else if allowed char then
        (readPart allowed rest).map fun split => (char :: split.1, split.2)
      else .error .method

/-- Reads the version at the end of the first line. -/
def readVersion (chars : List Char) : Except HeadFault (Version × List Char) :=
  match splitLine chars with
  | none =>
      if chars.isPrefixOf "HTTP/1.0\r".toList || chars.isPrefixOf "HTTP/1.1\r".toList then
        .error .unfinished
      else .error .version
  | some (line, rest) =>
      if line = "HTTP/1.1".toList then .ok (.current, rest)
      else if line = "HTTP/1.0".toList then .ok (.old, rest)
      else .error .version

/-- A text without the blanks and tabs at its ends. -/
def trimHeader (chars : List Char) : List Char :=
  let isPadding := fun char => char == ' ' || char == '\t'
  ((chars.dropWhile isPadding).reverse.dropWhile isPadding).reverse

/-- Reads a header from its line. -/
def readHeader (line : List Char) : Except HeadFault (String × String) :=
  let name := line.takeWhile isTokenChar
  match line.dropWhile isTokenChar with
  | ':' :: value =>
      if name.isEmpty then .error .header
      else .ok (String.ofList (name.map Char.toLower), String.ofList (trimHeader value))
  | _ => .error .header

/-- Reads the headers up to the empty line; every line takes a character, so the
length of the text is fuel enough. -/
def readHeaders : Nat → List Char → Except HeadFault (List (String × String))
  | 0, _ => .error .unfinished
  | fuel + 1, chars =>
      match splitLine chars with
      | none => .error .unfinished
      | some ([], _) => .ok []
      | some (line, rest) => do
          let header ← readHeader line
          let headers ← readHeaders fuel rest
          return header :: headers

/-- Reads the head of a request; there is none in a text of empty lines only. -/
def readHead (text : String) : Except HeadFault (Option Head) := do
  let chars := skipEmptyLines text.toList
  if chars.isEmpty then return none
  let (method, behindMethod) ← readPart isTokenChar chars
  if method.isEmpty then throw .method
  let (target, behindTarget) ← readPart isTargetChar behindMethod
  if target.isEmpty then throw .method
  let (version, behindVersion) ← readVersion behindTarget
  let headers ← readHeaders (behindVersion.length + 1) behindVersion
  return some { method := String.ofList method, target := String.ofList target, version, headers }

end Http

end Reconciler
