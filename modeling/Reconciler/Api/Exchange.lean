import Reconciler.Failure
import Reconciler.Http.Status
import Reconciler.Http.Target
import Reconciler.Json.Decode
import Reconciler.Json.Reader

/-!
# Requests to the API server and its replies

A reply refuses a request with a status object; a refusal without one is described
by its code and its text.  Any other reply carries the object that was asked for.
-/

namespace Reconciler

namespace Api

open Json

/-- A request to the API server. -/
structure Request where
  method : String
  target : String
  contentType : Option String := none
  accept : Option String := none
  body : Option Json := none

/-- What became of a request. -/
inductive Reply
  /-- The server answered. -/
  | answered (code : Nat) (body : String)
  /-- The connection failed. -/
  | broken (reason : String)

/-- The greatest number of sixteen bits. -/
def shortLimit : Int :=
  Int.pow 2 16 - 1

/-- Reads the code of a status object. -/
def readCode : Decoder Int :=
  Decoder.integer 0 shortLimit "u16"

/-- Reads a status object. -/
def readStatus : Decoder ApiStatus := fun document => do
  let fields ← openRecord "ErrorResponse"
    [.of "status" Decoder.text, .defaulted "message" Decoder.text,
      .defaulted "reason" Decoder.text, .of "code" readCode] document
  return {
    status := ← fields.required "status" Decoder.text
    message := ← fields.defaulted "message" Decoder.text ""
    reason := ← fields.defaulted "reason" Decoder.text ""
    code := (← fields.required "code" readCode).toNat }

/-- The status object of a refusal. -/
def refusalOf (code : Nat) (body : String) : ApiStatus :=
  match Json.readWith readStatus body with
  | .ok status => status
  | .error _ =>
      { status := Http.refusalText code
        message := Text.quoted body
        reason := "Failed to parse error data"
        code }

/-- Reads the object in a reply. -/
def Reply.read {α : Type} (decoder : Decoder α) : Reply → Except ApiFailure α
  | .broken reason => .error (.service reason)
  | .answered code body =>
      if Http.isRefusal code then .error (.refused (refusalOf code body))
      else match Json.readWith decoder body with
        | .ok value => .ok value
        | .error fault => .error (.unreadable fault.message)

/-- A request for a target, unless the target cannot be addressed. -/
def Request.to (request : Request) (target : String) : Except ApiFailure Request :=
  match Http.readTarget target with
  | .ok target => .ok { request with target }
  | .error fault => .error (.unbuildable fault)

end Api

end Reconciler
