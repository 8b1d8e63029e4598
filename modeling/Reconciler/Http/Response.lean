import Reconciler.Http.Head
import Reconciler.Journal

/-!
# Answers to requests for the metrics page

Every well formed request is answered with the page, whatever its method and target
are.  A request of which the head makes no sense is refused, one that breaks off gets
no answer, and both are noted in the log.  A connection on which nothing is sent gets
no answer either, and is not noted.
-/

namespace Reconciler

namespace Http

/-- An answer as it is sent, apart from the date. -/
structure Response where
  status : String
  /-- The lines of the headers, in order. -/
  headers : List String
  body : String
deriving DecidableEq, Repr

/-- The kind of text of the metrics page. -/
def pageType : String :=
  "text/plain; version=0.0.4"

/-- Whether a request asks for the connection to be closed. -/
def Head.closes (head : Head) : Bool :=
  head.headers.any fun header =>
    header.1 == "connection" && header.2.toLower == "close"

/-- The answer that shows a page. -/
def pageResponse (page : String) (head : Head) : Response :=
  let closing := head.version == .current && head.closes
  { status := head.version.text ++ " 200 OK"
    headers :=
      (if closing then ["connection: close"] else []) ++
        ["content-length: " ++ toString page.utf8ByteSize, "content-type: " ++ pageType]
    body := if head.method = "HEAD" then "" else page }

/-- The answer that refuses a request. -/
def refusal : Response :=
  { status := Version.current.text ++ " 400 Bad Request"
    headers := ["connection: close", "content-length: 0"]
    body := "" }

/-- The line about a connection that failed. -/
def failureLine (peer : String) (fault : HeadFault) : Line :=
  ⟨.debug, "metrics connection from " ++ peer ++ " failed: " ++ fault.message⟩

/-- The line about the start of the server. -/
def servingLine (address : String) : Line :=
  ⟨.info, "Serving metrics on http://" ++ address⟩

/-- The line about a server that failed. -/
def serverFailureLine (reason : String) : Line :=
  ⟨.error, "metrics server failed: " ++ reason⟩

/-- Answers what a peer sends on a connection before closing its side. -/
def serve (page peer text : String) : Option Response × List Line :=
  match readHead text with
  | .ok (some head) => (some (pageResponse page head), [])
  | .ok none => (none, [])
  | .error .unfinished => (none, [failureLine peer .unfinished])
  | .error fault => (some refusal, [failureLine peer fault])

end Http

end Reconciler
