import Mathlib.Data.List.Nodup
import Mathlib.Data.String.Basic
import Reconciler.Alert

/-!
# The pending alerts of a store

A store keeps delivered and pending alerts in one list.  As long as no host has two
pending alerts, listing them by host loses none of them, and marking the alert of a host
moves exactly that alert to the delivered ones.

Hosts are ordered as texts, which is the order of their bytes: a character that comes
before another one is also written with smaller bytes, whatever follows.
-/

namespace Reconciler

/-! ## Texts in the order of their bytes -/

theorem toUTF8_toList (text : String) :
    text.toUTF8.data.toList = text.toList.flatMap String.utf8EncodeChar := by
  rw [String.toUTF8_eq_toByteArray, ← String.utf8Encode_toList, List.utf8Encode,
    List.data_toByteArray]

theorem utf8EncodeChar_lt {first second : Char} (less : first < second) (rest other : List UInt8) :
    String.utf8EncodeChar first ++ rest < String.utf8EncodeChar second ++ other := by
  have small : first.val.toNat < second.val.toNat := less
  have bounded : second.val.toNat < 1114112 := by
    rcases second.valid with low | high
    · have below : second.val.toNat < 55296 := low
      omega
    · exact high.2
  -- Which of the bytes of two long characters is the first one to differ.
  have place : first.val.toNat / 262144 < second.val.toNat / 262144 ∨
      first.val.toNat / 262144 = second.val.toNat / 262144 ∧
        (first.val.toNat / 4096 < second.val.toNat / 4096 ∨
          first.val.toNat / 4096 = second.val.toNat / 4096 ∧
            (first.val.toNat / 64 < second.val.toNat / 64 ∨
              first.val.toNat / 64 = second.val.toNat / 64)) := by
    omega
  unfold String.utf8EncodeChar
  dsimp only
  generalize first.val.toNat = one at *
  generalize second.val.toNat = two at *
  split_ifs <;>
    simp only [List.cons_append, List.nil_append, List.cons_lt_cons_iff, UInt8.lt_iff_toNat_lt,
      ← UInt8.toNat_inj, UInt8.toNat_ofNat']
  all_goals rcases place with less | ⟨same, less | ⟨same, less | same⟩⟩ <;> omega

theorem nil_lt_utf8EncodeChar (first : Char) (rest : List UInt8) :
    [] < String.utf8EncodeChar first ++ rest := by
  unfold String.utf8EncodeChar
  dsimp only
  split_ifs <;> exact List.nil_lt_cons _ _

theorem toUTF8_lt {one two : String} (less : one < two) :
    one.toUTF8.data.toList < two.toUTF8.data.toList := by
  rw [toUTF8_toList, toUTF8_toList]
  have before : one.toList < two.toList := less
  generalize one.toList = first, two.toList = second at before
  induction before with
  | nil =>
      rw [List.flatMap_cons]
      exact nil_lt_utf8EncodeChar _ _
  | rel smaller =>
      rw [List.flatMap_cons, List.flatMap_cons]
      exact utf8EncodeChar_lt smaller _ _
  | cons _ ih =>
      rw [List.flatMap_cons, List.flatMap_cons]
      exact List.append_left_lt ih

/-! ## Lists ordered by host -/

namespace AlertStore

variable {store : AlertStore} {host : String} {alert : Alert} {alerts sorted : List Alert}

theorem mem_of_mem_putByHost {other : Alert} (member : other ∈ putByHost alert sorted) :
    other = alert ∨ other ∈ sorted := by
  induction sorted with
  | nil => exact .inl (List.mem_singleton.mp member)
  | cons first rest ih =>
      rw [putByHost] at member
      split_ifs at member
      · rcases List.mem_cons.mp member with same | later
        · exact .inl same
        · exact .inr (List.mem_cons_of_mem first later)
      · exact List.mem_cons.mp member
      · rcases List.mem_cons.mp member with same | later
        · exact .inr (same ▸ List.mem_cons_self)
        · exact (ih later).imp_right (List.mem_cons_of_mem first)

/-- An alert of a new host displaces none. -/
theorem putByHost_perm (fresh : ∀ other ∈ sorted, other.host ≠ alert.host) :
    (putByHost alert sorted).Perm (alert :: sorted) := by
  induction sorted with
  | nil => rfl
  | cons first rest ih =>
      rw [putByHost, if_neg (fresh first List.mem_cons_self)]
      split
      · rfl
      · have placed := ih fun other member => fresh other (List.mem_cons_of_mem first member)
        exact (placed.cons first).trans (List.Perm.swap alert first rest)

theorem pairwise_putByHost
    (ordered : sorted.Pairwise fun first second => first.host < second.host) :
    (putByHost alert sorted).Pairwise fun first second => first.host < second.host := by
  induction sorted with
  | nil => exact List.pairwise_singleton _ _
  | cons first rest ih =>
      obtain ⟨least, later⟩ := List.pairwise_cons.mp ordered
      rw [putByHost]
      split_ifs with same before
      · exact List.pairwise_cons.mpr ⟨fun other member => same ▸ least other member, later⟩
      · refine List.pairwise_cons.mpr ⟨?_, ordered⟩
        intro other member
        rcases List.mem_cons.mp member with rfl | member
        · exact before
        · exact before.trans (least other member)
      · refine List.pairwise_cons.mpr ⟨?_, ih later⟩
        intro other member
        rcases mem_of_mem_putByHost member with rfl | member
        · exact (lt_or_gt_of_ne same).resolve_right before
        · exact least other member

theorem foldl_putByHost (alerts sorted : List Alert)
    (hosts : ((sorted ++ alerts).map Alert.host).Nodup)
    (ordered : sorted.Pairwise fun first second => first.host < second.host) :
    (alerts.foldl (fun sorted alert => putByHost alert sorted) sorted).Perm (sorted ++ alerts) ∧
      (alerts.foldl (fun sorted alert => putByHost alert sorted) sorted).Pairwise
        fun first second => first.host < second.host := by
  induction alerts generalizing sorted with
  | nil => exact ⟨by rw [List.append_nil, List.foldl_nil], ordered⟩
  | cons alert alerts ih =>
      have fresh : ∀ other ∈ sorted, other.host ≠ alert.host := by
        intro other member
        rw [List.map_append, List.nodup_append] at hosts
        exact hosts.2.2 _ (List.mem_map_of_mem member) _ (by simp)
      have placed : (putByHost alert sorted ++ alerts).Perm (sorted ++ alert :: alerts) :=
        ((putByHost_perm fresh).append_right alerts).trans List.perm_middle.symm
      obtain ⟨perm, result⟩ :=
        ih _ ((placed.map Alert.host).nodup_iff.mpr hosts) (pairwise_putByHost ordered)
      exact ⟨perm.trans placed, result⟩

/-! ## Waiting and delivered alerts -/

/-- The pending alerts in the order in which they were recorded. -/
def waiting (store : AlertStore) : List Alert :=
  store.alerts.filter fun alert => !alert.alerted

/-- The delivered alerts. -/
def delivered (store : AlertStore) : List Alert :=
  store.alerts.filter Alert.alerted

/-- The number of pending alerts of a host. -/
def pendingOf (store : AlertStore) (host : String) : Nat :=
  store.waiting.countP fun alert => alert.host == host

/-- The number of delivered alerts of a host. -/
def alertedOf (store : AlertStore) (host : String) : Nat :=
  store.delivered.countP fun alert => alert.host == host

theorem mem_waiting_iff : alert ∈ store.waiting ↔ alert ∈ store.alerts ∧ alert.alerted = false := by
  simp [waiting]

theorem isPending_iff : store.isPending host = true ↔
    ∃ alert ∈ store.alerts, alert.host = host ∧ alert.alerted = false := by
  simp [isPending, Alert.isPendingFor]

theorem isPending_iff_waiting :
    store.isPending host = true ↔ host ∈ store.waiting.map Alert.host := by
  rw [isPending_iff, List.mem_map]
  constructor
  · rintro ⟨alert, member, own, unmarked⟩
    exact ⟨alert, mem_waiting_iff.mpr ⟨member, unmarked⟩, own⟩
  · rintro ⟨alert, waits, own⟩
    obtain ⟨member, unmarked⟩ := mem_waiting_iff.mp waits
    exact ⟨alert, member, own, unmarked⟩

/-- No host has two pending alerts. -/
def Single (store : AlertStore) : Prop :=
  (store.waiting.map Alert.host).Nodup

theorem Single.pendingOf_le (single : store.Single) (host : String) : store.pendingOf host ≤ 1 := by
  have counted := List.nodup_iff_count_le_one.mp single host
  rwa [List.count, List.countP_map] at counted

/-- The alerts with distinct hosts that are pending are listed in the order of their hosts. -/
theorem Single.pending_perm (single : store.Single) : store.pending.Perm store.waiting :=
  (foldl_putByHost store.waiting [] single List.Pairwise.nil).1

theorem Single.pairwise_pending (single : store.Single) :
    store.pending.Pairwise fun first second =>
      first.host.toUTF8.data.toList < second.host.toUTF8.data.toList :=
  (foldl_putByHost store.waiting [] single List.Pairwise.nil).2.imp toUTF8_lt

theorem Single.eq_of_host (single : store.Single) {other : Alert} (mem : alert ∈ store.waiting)
    (otherMem : other ∈ store.waiting) (same : alert.host = other.host) : alert = other :=
  List.inj_on_of_nodup_map single mem otherMem same

/-! ## Recording and marking -/

theorem record_of_pending (pending : store.isPending host = true) (description : String) :
    store.record host description = store :=
  if_pos pending

theorem alerts_record (free : store.isPending host = false) (description : String) :
    (store.record host description).alerts = store.alerts ++ [⟨host, description, false⟩] := by
  rw [record, if_neg (by simp [free])]

theorem waiting_record (free : store.isPending host = false) (description : String) :
    (store.record host description).waiting = store.waiting ++ [⟨host, description, false⟩] := by
  rw [waiting, alerts_record free, List.filter_append]
  rfl

theorem delivered_record (host description : String) :
    (store.record host description).delivered = store.delivered := by
  cases free : store.isPending host with
  | true => rw [record_of_pending free]
  | false =>
      rw [delivered, alerts_record free, List.filter_append]
      exact List.append_nil _

/-- An alert is pending once one was recorded, new or not. -/
theorem isPending_record (host description : String) :
    (store.record host description).isPending host = true := by
  cases free : store.isPending host with
  | true => rwa [record_of_pending free]
  | false =>
      rw [isPending_iff]
      exact ⟨⟨host, description, false⟩, by simp [alerts_record free], rfl, rfl⟩

theorem Single.record (single : store.Single) (host description : String) :
    (store.record host description).Single := by
  cases free : store.isPending host with
  | true => rwa [record_of_pending free]
  | false =>
      have fresh : host ∉ store.waiting.map Alert.host := by
        rw [← isPending_iff_waiting, free]
        exact Bool.false_ne_true
      rw [Single, waiting_record free, List.map_append, List.nodup_append]
      refine ⟨single, List.nodup_singleton _, ?_⟩
      intro other member last lastMem same
      rw [List.map_singleton, List.mem_singleton] at lastMem
      rw [same, lastMem] at member
      exact fresh member

theorem exists_markFirst (pending : alerts.any (Alert.isPendingFor host) = true) :
    ∃ earlier alert later, alerts = earlier ++ alert :: later ∧ alert.isPendingFor host = true ∧
      markFirst host alerts = earlier ++ { alert with alerted := true } :: later := by
  induction alerts with
  | nil => cases pending
  | cons first rest ih =>
      rw [markFirst]
      by_cases own : first.isPendingFor host = true
      · exact ⟨[], first, rest, rfl, own, if_pos own⟩
      · rw [List.any_cons, Bool.eq_false_of_not_eq_true own, Bool.false_or] at pending
        obtain ⟨earlier, alert, later, rfl, found, marked⟩ := ih pending
        exact ⟨first :: earlier, alert, later, rfl, found, by rw [if_neg own, marked]; rfl⟩

/-- Marking the alert of a host makes it a delivered one and leaves all others alone. -/
theorem Single.markAlerted (single : store.Single) (mem : alert ∈ store.waiting) :
    store.waiting.Perm (alert :: (store.markAlerted alert.host).waiting) ∧
      (store.markAlerted alert.host).delivered.Perm
        ({ alert with alerted := true } :: store.delivered) := by
  have pending : store.isPending alert.host = true :=
    isPending_iff_waiting.mpr (List.mem_map_of_mem mem)
  obtain ⟨earlier, first, later, split, found, marked⟩ := exists_markFirst pending
  obtain ⟨host, unmarked⟩ : first.host = alert.host ∧ first.alerted = false := by
    simpa [Alert.isPendingFor] using found
  have own : first = alert := by
    refine single.eq_of_host (mem_waiting_iff.mpr ⟨?_, unmarked⟩) mem host
    rw [split]
    simp
  subst own
  constructor
  · rw [waiting, waiting, AlertStore.markAlerted, marked, split]
    simp [List.filter_append, unmarked]
  · rw [delivered, delivered, AlertStore.markAlerted, marked, split]
    simp [List.filter_append, unmarked]

end AlertStore

end Reconciler
