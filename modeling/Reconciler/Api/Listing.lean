import Reconciler.Api.Collection
import Reconciler.Api.Exchange
import Reconciler.Cache

/-!
# Listing a collection

A watch begins with a listing, which the server hands out page by page.  The listing
begins, its objects follow in the order of the pages, and after the last page the
listing is done.  When a page cannot be had the watch fails, and the listing begins
again.
-/

namespace Reconciler

namespace Api

open Json

/-- A page of a listing. -/
structure Page (α : Type) where
  items : List α
  /-- The version of the collection that was listed. -/
  version : Option String
  /-- What to ask for the next page with. -/
  next : Option String

/-- Reads what a page says about itself. -/
def readPageMetadata : Decoder (Option String × Option String) := fun document => do
  let fields ← openLenient "ListMeta"
    [.of "continue" (Decoder.optional Decoder.text),
      .of "remainingItemCount"
        (Decoder.optional (Decoder.integer (-(Int.pow 2 63)) (Int.pow 2 63 - 1) "i64")),
      .of "resourceVersion" (Decoder.optional Decoder.text),
      .of "selfLink" (Decoder.optional Decoder.text)] document
  return (← fields.optional "resourceVersion" Decoder.text,
    ← fields.optional "continue" Decoder.text)

/-- Reads a page; missing objects and `null` are told apart. -/
def readPage {α : Type} (read : Decoder α) : Decoder (Page α) := fun document => do
  let items := Decoder.optional (Decoder.listOf read)
  let fields ← openObject "ObjectList"
    [.of "metadata" readPageMetadata, .of "items" items] document
  let (version, next) ← fields.required "metadata" readPageMetadata
  let items ← fields.required "items" items
  return { items := items.getD [], version := nonEmpty? version, next := nonEmpty? next }

/-- The number of objects asked for at once. -/
def pageSize : Nat :=
  500

/-- The request for a page of a collection. -/
def pageRequest (path : String) (token : Option String) : Except ApiFailure Request :=
  let next :=
    match token with
    | none => ""
    | some token => "&continue=" ++ Http.encodeValue token
  Request.to { method := "GET", target := "" }
    (path ++ "?&limit=" ++ toString pageSize ++ next)

/-- How far a listing has come. -/
inductive Listing (α : Type)
  /-- It is about to begin. -/
  | fresh
  /-- Some objects of a page are still to be told; then the next page is asked for, or
  else the listing is done. -/
  | telling (items : List α) (next : Option String) (version : Option String)
  /-- It is done. -/
  | done (version : String)

namespace Listing

variable {α : Type}

/-- What a listing does next: it tells something, it asks for a page, or it has
nothing more to do. -/
inductive Turn (α : Type)
  | tell (result : Except WatchFailure (Event α)) (after : Listing α)
  | ask (token : Option String)
  | rest

/-- What a listing does next. -/
def turn : Listing α → Turn α
  | fresh => .tell (.ok .listingStarted) (.telling [] none none)
  | telling (item :: items) next version => .tell (.ok (.listed item)) (.telling items next version)
  | telling [] (some token) _ => .ask (some token)
  | telling [] none (some version) => .tell (.ok .listingDone) (.done version)
  | telling [] none none => .ask none
  | done _ => .rest

/-- Takes a page, or why there is none.  A listing without a version cannot be
followed by a watch. -/
def take : Except ApiFailure (Page α) → Option WatchFailure × Listing α
  | .ok page =>
      if page.version.isNone && page.next.isNone then (some .noResourceVersion, fresh)
      else (none, telling page.items page.next page.version)
  | .error failure => (some (.initialListFailed failure), fresh)

/-- What was asked of the server, and what the listing told. -/
structure Course (α : Type) where
  requests : List Request := []
  results : List (Except WatchFailure (Event α)) := []

/-- A course with something told before it. -/
def Course.tell (course : Course α) (result : Except WatchFailure (Event α)) : Course α :=
  { course with results := result :: course.results }

/-- A course with a request made before it. -/
def Course.ask (course : Course α) (request : Except ApiFailure Request) : Course α :=
  match request with
  | .ok request => { course with requests := request :: course.requests }
  | .error _ => course

/-- The page that the server replies with. -/
def pageFrom (server : Request → Reply) (read : Decoder α) (request : Except ApiFailure Request) :
    Except ApiFailure (Page α) := do
  (server (← request)).read (readPage read)

/-- The course of a listing up to a number of results; `fuel` bounds the turns. -/
def course (server : Request → Reply) (read : Decoder α) (path : String) :
    Nat → Nat → Listing α → Course α
  | 0, _, _ => {}
  | _, 0, _ => {}
  | fuel + 1, count + 1, listing =>
      match listing.turn with
      | .tell result after => (course server read path fuel count after).tell result
      | .ask token =>
          let request := pageRequest path token
          match take (pageFrom server read request) with
          | (none, after) => (course server read path fuel (count + 1) after).ask request
          | (some failure, after) =>
              ((course server read path fuel count after).tell (.error failure)).ask request
      | .rest => {}

end Listing

end Api

end Reconciler
