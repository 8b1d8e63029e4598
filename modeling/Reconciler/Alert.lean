import Reconciler.Handler

/-!
# Alerts about lost hosts

An alert is recorded for a host unless one is pending already, stays pending until
it is delivered, and is then kept as alerted.  Delivering hands every alert that is
pending at its start to the log and marks it; alerts recorded meanwhile wait for
the next delivery.
-/

namespace Reconciler

/-- An alert about a host. -/
structure Alert where
  host : String
  description : String
  /-- Whether it was delivered. -/
  alerted : Bool := false
deriving DecidableEq, Repr

/-- All alerts ever recorded, in order. -/
structure AlertStore where
  alerts : List Alert := []
deriving DecidableEq, Repr

/-- The line that delivers an alert; `age` is the text of the seconds since it was
recorded. -/
def Alert.announcement (alert : Alert) (age : String) : Line :=
  ⟨.warn, "ALERT " ++ alert.host ++ ": " ++ alert.description ++ " (recorded " ++ age ++ "s ago)"⟩

/-- Whether an alert is the pending one of a host. -/
def Alert.isPendingFor (host : String) (alert : Alert) : Bool :=
  alert.host == host && !alert.alerted

namespace AlertStore

/-- Whether an alert of a host is pending. -/
def isPending (store : AlertStore) (host : String) : Bool :=
  store.alerts.any (Alert.isPendingFor host)

/-- Records an alert unless one of the host is pending. -/
def record (store : AlertStore) (host description : String) : AlertStore :=
  if store.isPending host then store else ⟨store.alerts ++ [⟨host, description, false⟩]⟩

/-- Puts an alert into a list ordered by host, in the place of one of the same host. -/
def putByHost (alert : Alert) : List Alert → List Alert
  | [] => [alert]
  | first :: rest =>
      if first.host = alert.host then alert :: rest
      else if alert.host < first.host then alert :: first :: rest
      else first :: putByHost alert rest

/-- The pending alerts, ordered by host. -/
def pending (store : AlertStore) : List Alert :=
  (store.alerts.filter fun alert => !alert.alerted).foldl
    (fun sorted alert => putByHost alert sorted) []

/-- Marks the first pending alert of a host. -/
def markFirst (host : String) : List Alert → List Alert
  | [] => []
  | alert :: alerts =>
      if alert.isPendingFor host then { alert with alerted := true } :: alerts
      else alert :: markFirst host alerts

/-- Marks the pending alert of a host as delivered. -/
def markAlerted (store : AlertStore) (host : String) : AlertStore :=
  ⟨markFirst host store.alerts⟩

/-- Why no alert of a host can be marked. -/
def nothingPending (host : String) : Failure :=
  .notFound ("pending alert for " ++ host)

/-- Marks the pending alert of a host, as a call; fails if there is none. -/
def mark (host : String) (next : Call AlertStore) : Call AlertStore :=
  .act (fun store => store.markAlerted host) fun before =>
    if before.isPending host then next else Call.fail (nothingPending host)

/-- Delivers alerts one after the other. -/
def deliverAll (age : Alert → String) : List Alert → Call AlertStore
  | [] => Call.done
  | alert :: alerts =>
      .say (alert.announcement (age alert)) (mark alert.host (deliverAll age alerts))

/-- Delivers all pending alerts, as a call. -/
def deliver (age : Alert → String) : Call AlertStore :=
  .act id fun store =>
    let pending := store.pending
    if pending.isEmpty then .say ⟨.debug, "no alerts to deliver"⟩ Call.done
    else deliverAll age pending

end AlertStore

end Reconciler
