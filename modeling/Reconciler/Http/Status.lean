/-!
# Status codes

An answer starts with a code of three digits.  Codes from 400 on refuse a request, up
to 499 because of the request and up to 599 because of the server.  Registered codes
have a phrase that says what they mean.
-/

namespace Reconciler

namespace Http

/-- The codes that refuse a request, with their phrases. -/
def refusals : List (Nat × String) := [
  (400, "Bad Request"), (401, "Unauthorized"), (402, "Payment Required"), (403, "Forbidden"),
  (404, "Not Found"), (405, "Method Not Allowed"), (406, "Not Acceptable"),
  (407, "Proxy Authentication Required"), (408, "Request Timeout"), (409, "Conflict"),
  (410, "Gone"), (411, "Length Required"), (412, "Precondition Failed"),
  (413, "Payload Too Large"), (414, "URI Too Long"), (415, "Unsupported Media Type"),
  (416, "Range Not Satisfiable"), (417, "Expectation Failed"), (418, "I'm a teapot"),
  (421, "Misdirected Request"), (422, "Unprocessable Entity"), (423, "Locked"),
  (424, "Failed Dependency"), (425, "Too Early"), (426, "Upgrade Required"),
  (428, "Precondition Required"), (429, "Too Many Requests"),
  (431, "Request Header Fields Too Large"), (451, "Unavailable For Legal Reasons"),
  (500, "Internal Server Error"), (501, "Not Implemented"), (502, "Bad Gateway"),
  (503, "Service Unavailable"), (504, "Gateway Timeout"), (505, "HTTP Version Not Supported"),
  (506, "Variant Also Negotiates"), (507, "Insufficient Storage"), (508, "Loop Detected"),
  (510, "Not Extended"), (511, "Network Authentication Required")]

/-- Whether a code refuses a request. -/
def isRefusal (code : Nat) : Bool :=
  400 ≤ code && code < 600

/-- A code that refuses a request, with its phrase. -/
def refusalText (code : Nat) : String :=
  let phrase := (refusals.find? fun entry => entry.1 == code).map Prod.snd
  toString code ++ " " ++ phrase.getD "<unknown status code>"

end Http

end Reconciler
