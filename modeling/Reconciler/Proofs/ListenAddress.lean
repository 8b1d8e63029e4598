import Reconciler.Proofs.EndpointText
import Reconciler.Settings

/-!
# Where metrics are served

Two variables name the endpoint at which metrics are served, an address and a port, and they
are put together as the text of an endpoint.  So an octet address is named by its text, and a
group address by its text in brackets.  The bare text of a group address is refused with every
port, for no endpoint begins with it.
-/

namespace Reconciler

open Net (Endpoint Groups Octets)

variable {lookUp : Variables} {host port : String}

theorem metricsEndpoint_of_text {endpoint : Endpoint} (text : host ++ ":" ++ port = endpoint.text)
    (addressed : lookUp "METRICS_LISTEN_ADDR" = some host)
    (ported : lookUp "METRICS_LISTEN_PORT" = some port) :
    metricsEndpoint lookUp = .ok endpoint := by
  simp only [metricsEndpoint, addressed, ported, Option.getD_some, text, Endpoint.parse?_text]

theorem metricsEndpoint_of_unbracketed {address : Groups}
    (addressed : lookUp "METRICS_LISTEN_ADDR" = some address.text)
    (ported : lookUp "METRICS_LISTEN_PORT" = some port) :
    metricsEndpoint lookUp = .error (.invalidEndpoint address.text port) := by
  simp only [metricsEndpoint, addressed, ported, Option.getD_some, String.append_assoc,
    Endpoint.parse?_unbracketed]

/-- The text of an address names it as the one to listen at exactly if it is an octet address.
A group address is refused by its bare text, with every port, and named by its text in
brackets. -/
theorem only_group_addresses_need_brackets (lookUp : Variables) (port : UInt16)
    (ported : lookUp "METRICS_LISTEN_PORT" = some (toString port.toNat)) :
    (∀ address : Net.Address, lookUp "METRICS_LISTEN_ADDR" = some address.text →
      (metricsEndpoint lookUp = .ok (address.at port) ↔ ∃ octets, address = .octets octets)) ∧
    (∀ address : Groups, lookUp "METRICS_LISTEN_ADDR" = some address.text →
      metricsEndpoint lookUp = .error (.invalidEndpoint address.text (toString port.toNat))) ∧
    ∀ address : Groups, lookUp "METRICS_LISTEN_ADDR" = some ("[" ++ address.text ++ "]") →
      metricsEndpoint lookUp = .ok ((Net.Address.groups address).at port) := by
  refine ⟨?_, fun address addressed => metricsEndpoint_of_unbracketed addressed ported, ?_⟩
  · intro address addressed
    cases address with
    | octets address =>
        have named : metricsEndpoint lookUp = .ok (.octets address port) :=
          metricsEndpoint_of_text rfl addressed ported
        exact ⟨fun _ => ⟨address, rfl⟩, fun _ => named⟩
    | groups address =>
        have refused := metricsEndpoint_of_unbracketed addressed ported
        rw [refused]
        exact ⟨nofun, nofun⟩
  · intro address addressed
    refine metricsEndpoint_of_text ?_ addressed ported
    simp [Net.Address.at, Endpoint.text, String.append_assoc]

/-- An octet address, and a group address with and without brackets. -/
theorem only_group_addresses_need_brackets_at_8080 :
    let listening (host : String) : Variables := fun name =>
      if name = "METRICS_LISTEN_ADDR" then some host
      else if name = "METRICS_LISTEN_PORT" then some "8080"
      else none
    let octets : Octets := ⟨127, 0, 0, 1⟩
    let groups : Groups := ⟨[0x2001, 0xdb8, 0, 0, 0, 0, 0, 1], rfl⟩
    (octets.text = "127.0.0.1" ∧ groups.text = "2001:db8::1") ∧
      metricsEndpoint (listening "127.0.0.1") = .ok (.octets octets 8080) ∧
      metricsEndpoint (listening "2001:db8::1") =
        .error (.invalidEndpoint "2001:db8::1" "8080") ∧
      metricsEndpoint (listening "[2001:db8::1]") = .ok (.groups groups 0 8080) := by
  intro listening octets groups
  have octetsText : octets.text = "127.0.0.1" := by decide
  have groupsText : groups.text = "2001:db8::1" := by decide
  refine ⟨⟨octetsText, groupsText⟩, ?_, ?_, ?_⟩
  · exact ((only_group_addresses_need_brackets (listening "127.0.0.1") 8080 rfl).1
      (.octets octets) (by decide)).mpr ⟨octets, rfl⟩
  · have refused := (only_group_addresses_need_brackets (listening "2001:db8::1") 8080 rfl).2.1
      groups (by decide)
    rwa [groupsText] at refused
  · exact (only_group_addresses_need_brackets (listening "[2001:db8::1]") 8080 rfl).2.2
      groups (by decide)

/-- The loopback address of groups is refused although it is an address. -/
theorem bare_loopback_is_refused :
    let lookUp : Variables := fun name =>
      if name = "METRICS_LISTEN_ADDR" then some "::1"
      else if name = "METRICS_LISTEN_PORT" then some "9000"
      else none
    let address : Net.Address := .groups ⟨[0, 0, 0, 0, 0, 0, 0, 1], rfl⟩
    lookUp "METRICS_LISTEN_ADDR" = some address.text ∧
      lookUp "METRICS_LISTEN_PORT" = some (toString (9000 : UInt16).toNat) ∧
      metricsEndpoint lookUp = .error (.invalidEndpoint "::1" "9000") ∧
      metricsEndpoint lookUp ≠ .ok (address.at 9000) := by
  decide

end Reconciler
