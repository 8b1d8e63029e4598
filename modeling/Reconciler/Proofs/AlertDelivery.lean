import Reconciler.Proofs.PendingAlerts

/-!
# Alerts are delivered once

Alerts are recorded while one delivery after the other takes them from the same store.
A delivery looks at the pending alerts once and then logs and marks them one by one, so
the store may change between any two of its steps.  All the same every alert is logged
once: at any time the pending alerts are the one that is about to be marked, those that the
delivery still has before it, and those that were recorded after it looked.
-/

namespace Reconciler

/-- The next step of a call, unless it is over: the line that it writes, if any, the
surroundings after it, and the rest of the call. -/
def Call.step? {ω : Type} : Call ω → ω → Option (Option Line × ω × Call ω)
  | .finish _, _ => none
  | .pause _ next, world => some (none, world, next)
  | .say line next, world => some (some line, world, next)
  | .act effect next, world => some (none, effect world, next world)

/-- A store from which alerts are delivered time and again. -/
structure Courier where
  store : AlertStore := {}
  /-- What is left of the delivery under way. -/
  call : Call AlertStore := Call.done

namespace Courier

/-- What can happen next. -/
inductive Deed
  | record (host description : String)
  /-- A delivery looks at the pending alerts. -/
  | start (age : Alert → String)
  /-- The delivery makes its next step. -/
  | proceed

/-- What is noted about a step. -/
inductive Entry
  /-- Somebody recorded an alert and was told whether it is a new one. -/
  | recorded (host description : String) (fresh : Bool)
  | started
  | said (line : Line)
deriving DecidableEq, Repr

/-- The next step of a call in the store. -/
def goOn (store : AlertStore) (call : Call AlertStore) : Option (List Entry × Courier) :=
  (call.step? store).map fun (line, store, call) => ((line.map Entry.said).toList, { store, call })

/-- What a step notes and leads to, if it is possible.  No delivery starts before the one
before has ended. -/
def act (courier : Courier) : Deed → Option (List Entry × Courier)
  | .record host description =>
      some ([.recorded host description (!courier.store.isPending host)],
        { courier with store := courier.store.record host description })
  | .start age =>
      match courier.call with
      | .finish _ =>
          (goOn courier.store (AlertStore.deliver age)).map fun (said, after) =>
            (.started :: said, after)
      | _ => none
  | .proceed => goOn courier.store courier.call

/-- What happens from an empty store on, with the notes about it, the newest first. -/
inductive Runs : List Entry → Courier → Prop
  | start : Runs [] {}
  | step {history entries : List Entry} {before after : Courier} {deed : Deed} :
      Runs history before → before.act deed = some (entries, after) →
      Runs (entries ++ history) after

/-- The notes and the state after steps one after another, if all of them are possible. -/
def replay (history : List Entry) (courier : Courier) :
    List Deed → Option (List Entry × Courier)
  | [] => some (history, courier)
  | deed :: deeds =>
      (courier.act deed).bind fun (entries, after) => replay (entries ++ history) after deeds

theorem Runs.replay {history newer : List Entry} {before after : Courier} {deeds : List Deed}
    (run : Runs history before) (replayed : replay history before deeds = some (newer, after)) :
    Runs newer after := by
  induction deeds generalizing history before with
  | nil =>
      obtain ⟨rfl, rfl⟩ := Prod.mk.inj (Option.some.inj replayed)
      exact run
  | cons deed deeds ih =>
      obtain ⟨⟨entries, next⟩, acted, rest⟩ := Option.bind_eq_some_iff.mp replayed
      exact ih (run.step acted) rest

/-! ## What the notes say -/

/-- Whether an alert of a host was recorded that was a new one. -/
def Entry.isNew (host : String) : Entry → Bool
  | .recorded other _ fresh => fresh && other == host
  | _ => false

/-- The number of new alerts of a host. -/
def recordings (host : String) (history : List Entry) : Nat :=
  history.countP (Entry.isNew host)

/-- The warnings that were logged; a delivery warns of nothing but alerts. -/
def warnings (history : List Entry) : List Line :=
  history.filterMap fun entry =>
    match entry with
    | .said line => if line.level = .warn then some line else none
    | _ => none

/-- The new alerts since a delivery looked at the store. -/
def newest : List Entry → List Alert
  | [] | .started :: _ => []
  | .recorded host description true :: history => ⟨host, description, false⟩ :: newest history
  | _ :: history => newest history

/-- The alert of a host was logged and is about to be marked. -/
def Marks (courier : Courier) (host : String) : Prop :=
  ∃ next, courier.call = AlertStore.mark host next

/-! ## Where a delivery stands -/

/-- The alert that a delivery is about to mark, and those that it has before it. -/
inductive Position : List Alert → List Alert → Call AlertStore → Prop
  | announcing (age : Alert → String) (rest : List Alert) :
      Position [] rest (AlertStore.deliverAll age rest)
  | idle : Position [] [] (.say ⟨.debug, "no alerts to deliver"⟩ Call.done)
  | marking (age : Alert → String) (alert : Alert) (rest : List Alert) :
      Position [alert] rest (AlertStore.mark alert.host (AlertStore.deliverAll age rest))

theorem mark_inj {host other : String} {next after : Call AlertStore}
    (same : AlertStore.mark host next = AlertStore.mark other after) : host = other := by
  -- In an empty store both calls fail, each with the name of its host.
  have rest := congrFun (Call.act.inj same).2 {}
  have failure : AlertStore.nothingPending host = AlertStore.nothingPending other :=
    Outcome.failed.inj (Call.finish.inj rest)
  exact String.append_right_inj _ |>.mp (Failure.notFound.inj failure)

variable {courier after : Courier} {history entries : List Entry} {marking rest : List Alert}
  {announced : List (Alert × String)}

theorem Position.marks_iff (position : Position marking rest courier.call) (host : String) :
    courier.Marks host ↔ host ∈ marking.map Alert.host := by
  unfold Marks
  generalize courier.call = call at position
  cases position with
  | announcing age =>
      constructor
      · rintro ⟨next, same⟩
        cases rest <;> cases same
      · intro member
        cases member
  | idle =>
      constructor
      · rintro ⟨next, same⟩
        cases same
      · intro member
        cases member
  | marking age alert =>
      rw [List.map_singleton, List.mem_singleton]
      constructor
      · rintro ⟨next, same⟩
        exact (mark_inj same).symm
      · rintro rfl
        exact ⟨_, rfl⟩

theorem Position.succeeded {outcome : Outcome} (position : Position marking rest courier.call)
    (ended : courier.call = .finish outcome) :
    outcome = .succeeded ∧ marking = [] ∧ rest = [] := by
  rw [ended] at position
  generalize same : Call.finish outcome = call at position
  cases position with
  | announcing age =>
      cases rest with
      | nil =>
          cases same
          exact ⟨rfl, rfl, rfl⟩
      | cons alert rest => cases same
  | idle => cases same
  | marking => cases same

theorem Position.countP_marking (position : Position marking rest courier.call) (host : String) :
    (courier.Marks host → (marking.countP fun alert => alert.host == host) = 1) ∧
      (¬courier.Marks host → (marking.countP fun alert => alert.host == host) = 0) := by
  rw [position.marks_iff]
  constructor
  · intro member
    have short : marking.length ≤ 1 := by
      generalize courier.call = call at position
      cases position <;> simp
    have bounded : (marking.countP fun alert => alert.host == host) ≤ marking.length :=
      List.countP_le_length
    have counted : 0 < marking.countP fun alert => alert.host == host := by
      obtain ⟨alert, own, same⟩ := List.mem_map.mp member
      exact List.countP_pos_iff.mpr ⟨alert, own, beq_iff_eq.mpr same⟩
    omega
  · intro absent
    refine List.countP_eq_zero.mpr fun alert own same => absent ?_
    exact List.mem_map.mpr ⟨alert, own, beq_iff_eq.mp same⟩

/-! ## The books of a delivery -/

/-- What the notes, the store and the delivery under way tell about one another, given the
alerts that were announced so far. -/
structure Sound (history : List Entry) (courier : Courier) (marking rest : List Alert)
    (announced : List (Alert × String)) : Prop where
  position : Position marking rest courier.call
  single : courier.store.Single
  waiting : courier.store.waiting.Perm (marking ++ rest ++ newest history)
  recorded : ∀ alert ∈ courier.store.waiting,
    Entry.recorded alert.host alert.description true ∈ history
  counted : ∀ host,
    recordings host history = courier.store.alertedOf host + courier.store.pendingOf host
  lines : warnings history = announced.map fun told => told.1.announcement told.2
  told : ∀ host, announced.countP (fun told => told.1.host == host) =
    courier.store.alertedOf host + marking.countP fun alert => alert.host == host
  known : ∀ told ∈ announced, Entry.recorded told.1.host told.1.description true ∈ history

theorem Sound.empty : Sound [] {} [] [] [] where
  position := .announcing (fun _ => "") []
  single := List.nodup_nil
  waiting := .refl _
  recorded alert member := by cases member
  counted _ := rfl
  lines := rfl
  told _ := rfl
  known told member := by cases member

/-- Recording an alert does not meddle with the delivery under way. -/
theorem Sound.record (sound : Sound history courier marking rest announced)
    (host description : String) :
    Sound (.recorded host description (!courier.store.isPending host) :: history)
      { courier with store := courier.store.record host description } marking rest announced := by
  cases free : courier.store.isPending host with
  | true =>
      rw [AlertStore.record_of_pending free]
      exact
        { sound with
          recorded := fun alert member => List.mem_cons_of_mem _ (sound.recorded alert member)
          known := fun told member => List.mem_cons_of_mem _ (sound.known told member) }
  | false =>
      refine
        { position := sound.position
          single := sound.single.record host description
          waiting := ?_
          recorded := ?_
          counted := ?_
          lines := sound.lines
          told := ?_
          known := fun told member => List.mem_cons_of_mem _ (sound.known told member) }
      · change (courier.store.record host description).waiting.Perm _
        rw [AlertStore.waiting_record free]
        have added := sound.waiting.append_right [⟨host, description, false⟩]
        rw [List.append_assoc] at added
        exact added.trans ((List.perm_append_singleton _ _).append_left _)
      · change ∀ alert ∈ (courier.store.record host description).waiting, _
        rw [AlertStore.waiting_record free]
        intro alert member
        rcases List.mem_append.mp member with earlier | new
        · exact List.mem_cons_of_mem _ (sound.recorded alert earlier)
        · rw [List.mem_singleton.mp new]
          exact List.mem_cons_self
      · intro other
        have before := sound.counted other
        rw [recordings] at before ⊢
        rw [AlertStore.alertedOf, AlertStore.pendingOf] at before ⊢
        rw [AlertStore.delivered_record, AlertStore.waiting_record free, List.countP_append,
          List.countP_cons, List.countP_singleton]
        simp only [Entry.isNew, Bool.not_false, Bool.true_and]
        omega
      · intro other
        rw [AlertStore.alertedOf, AlertStore.delivered_record]
        exact sound.told other

/-- A delivery that looks has all pending alerts before it. -/
theorem Sound.start (sound : Sound history courier marking rest announced)
    {outcome : Outcome} (ended : courier.call = .finish outcome) {age : Alert → String}
    (looked : goOn courier.store (AlertStore.deliver age) = some (entries, after)) :
    entries = [] ∧ Sound (.started :: history) after [] courier.store.pending announced := by
  obtain ⟨-, rfl, rfl⟩ := sound.position.succeeded ended
  obtain ⟨rfl, rfl⟩ := Prod.mk.inj (Option.some.inj looked)
  refine ⟨rfl, ?_⟩
  exact
    { position := by
        dsimp only
        split
        next none =>
          rw [List.isEmpty_iff.mp none]
          exact .idle
        next => exact .announcing age _
      single := sound.single
      waiting := by
        rw [newest, List.append_nil]
        exact sound.single.pending_perm.symm
      recorded := fun alert member => List.mem_cons_of_mem _ (sound.recorded alert member)
      counted := sound.counted
      lines := sound.lines
      told := sound.told
      known := fun told member => List.mem_cons_of_mem _ (sound.known told member) }

/-- An alert is announced while it is still pending. -/
theorem Sound.announce {age : Alert → String} {alert : Alert}
    (sound : Sound history courier [] (alert :: rest) announced) :
    Sound (.said (alert.announcement (age alert)) :: history)
      { courier with call := AlertStore.mark alert.host (AlertStore.deliverAll age rest) }
      [alert] rest ((alert, age alert) :: announced) where
  position := .marking age alert rest
  single := sound.single
  waiting := sound.waiting
  recorded other member := List.mem_cons_of_mem _ (sound.recorded other member)
  counted := sound.counted
  lines := congrArg (alert.announcement (age alert) :: ·) sound.lines
  told host := by
    have before := sound.told host
    rw [List.countP_nil] at before
    rw [List.countP_cons, List.countP_singleton, before]
    rfl
  known := by
    have own : alert ∈ courier.store.waiting :=
      sound.waiting.mem_iff.mpr (by simp)
    intro told member
    rcases List.mem_cons.mp member with rfl | earlier
    · exact List.mem_cons_of_mem _ (sound.recorded alert own)
    · exact List.mem_cons_of_mem _ (sound.known told earlier)

/-- The alert that was announced is found in the store and marked. -/
theorem Sound.mark {alert : Alert} (sound : Sound history courier [alert] rest announced)
    (age : Alert → String) :
    courier.store.isPending alert.host = true ∧
      Sound history ⟨courier.store.markAlerted alert.host, AlertStore.deliverAll age rest⟩ [] rest
        announced := by
  have own : alert ∈ courier.store.waiting := sound.waiting.mem_iff.mpr (by simp)
  obtain ⟨still, done⟩ := sound.single.markAlerted own
  refine ⟨AlertStore.isPending_iff_waiting.mpr (List.mem_map_of_mem own), ?_⟩
  have alerted (host : String) : (courier.store.markAlerted alert.host).alertedOf host =
      courier.store.alertedOf host + if alert.host == host then 1 else 0 := by
    rw [AlertStore.alertedOf, done.countP_eq, List.countP_cons]
    rfl
  have pending (host : String) : courier.store.pendingOf host =
      (courier.store.markAlerted alert.host).pendingOf host +
        if alert.host == host then 1 else 0 := by
    rw [AlertStore.pendingOf, still.countP_eq, List.countP_cons]
    rfl
  exact
    { position := .announcing age rest
      single := (List.nodup_cons.mp ((still.map Alert.host).nodup_iff.mp sound.single)).2
      waiting := (still.symm.trans sound.waiting).cons_inv
      recorded := fun other member =>
        sound.recorded other (still.mem_iff.mpr (List.mem_cons_of_mem alert member))
      counted := fun host => by
        have before := sound.counted host
        have moved := pending host
        dsimp only
        rw [alerted host]
        omega
      lines := sound.lines
      told := fun host => by
        rw [sound.told host, alerted host, List.countP_singleton]
        rfl
      known := sound.known }

theorem Sound.proceed (sound : Sound history courier marking rest announced)
    (went : goOn courier.store courier.call = some (entries, after)) :
    ∃ marking rest announced, Sound (entries ++ history) after marking rest announced := by
  obtain ⟨store, call⟩ := courier
  cases sound.position with
  | announcing age =>
      cases rest with
      | nil => cases went
      | cons alert rest =>
          obtain ⟨rfl, rfl⟩ := Prod.mk.inj (Option.some.inj went)
          exact ⟨_, _, _, sound.announce⟩
  | idle =>
      obtain ⟨rfl, rfl⟩ := Prod.mk.inj (Option.some.inj went)
      exact ⟨[], [], announced, { sound with
        position := .announcing (fun _ => "") []
        recorded := fun alert member => List.mem_cons_of_mem _ (sound.recorded alert member)
        known := fun told member => List.mem_cons_of_mem _ (sound.known told member) }⟩
  | marking age alert =>
      obtain ⟨rfl, rfl⟩ := Prod.mk.inj (Option.some.inj went)
      obtain ⟨pending, marked⟩ := sound.mark age
      dsimp only at pending ⊢
      rw [if_pos pending]
      exact ⟨_, _, _, marked⟩

theorem sound_of_runs (run : Runs history courier) :
    ∃ marking rest announced, Sound history courier marking rest announced := by
  induction run with
  | start => exact ⟨[], [], [], .empty⟩
  | @step history entries before after deed _ acted ih =>
      obtain ⟨marking, rest, announced, sound⟩ := ih
      cases deed with
      | record host description =>
          obtain ⟨rfl, rfl⟩ := Prod.mk.inj (Option.some.inj acted)
          exact ⟨marking, rest, announced, sound.record host description⟩
      | start age =>
          rw [act] at acted
          split at acted
          next outcome ended =>
            obtain ⟨⟨said, next⟩, looked, same⟩ := Option.map_eq_some_iff.mp acted
            obtain ⟨rfl, rfl⟩ := Prod.mk.inj same
            obtain ⟨rfl, started⟩ := sound.start ended looked
            exact ⟨_, _, _, started⟩
          next => cases acted
      | proceed => exact sound.proceed acted

/-- Alerts are delivered once, whatever is recorded between the steps of one delivery
after the other.  No host has two pending alerts, and recording another one changes
nothing and says so; the pending alerts are listed in the bytewise order of their hosts.
A delivery finds every alert that it marks, so it never fails, and leaves none pending but
those that were recorded after it looked.  Every new alert of a host is delivered or still
pending.  The warnings in the log are `ALERT` lines, each with the host and the description
of an alert that was recorded; there are as many of a host as it has delivered alerts, and one
more only as long as that is just about to be marked.  What was recorded after a delivery
looked is pending for the next one. -/
theorem alerts_are_delivered_once (run : Runs history courier) :
    (∀ host, courier.store.pendingOf host ≤ 1) ∧
      (∀ host description, ∃ fresh after,
        courier.act (.record host description) =
            some ([.recorded host description fresh], after) ∧
          (fresh = false ↔
            ∃ alert ∈ courier.store.alerts, alert.host = host ∧ alert.alerted = false) ∧
          (fresh = false → after = courier)) ∧
      (courier.store.pending.Perm (courier.store.alerts.filter fun alert => !alert.alerted) ∧
        courier.store.pending.Pairwise fun first second =>
          first.host.toUTF8.data.toList < second.host.toUTF8.data.toList) ∧
      ((∀ host, courier.Marks host → courier.store.isPending host = true) ∧
        ∀ outcome, courier.call = .finish outcome →
          outcome = .succeeded ∧ courier.store.pending.Perm (newest history)) ∧
      (∀ host, recordings host history =
        courier.store.alertedOf host + courier.store.pendingOf host) ∧
      (∃ announced : List (Alert × String),
        warnings history = announced.map (fun told => ⟨.warn, "ALERT " ++ told.1.host ++ ": " ++
          told.1.description ++ " (recorded " ++ told.2 ++ "s ago)"⟩) ∧
          (∀ told ∈ announced, .recorded told.1.host told.1.description true ∈ history) ∧
          ∀ host,
            (courier.Marks host → (announced.countP fun told => told.1.host == host) =
              courier.store.alertedOf host + 1) ∧
            (¬courier.Marks host → (announced.countP fun told => told.1.host == host) =
              courier.store.alertedOf host)) ∧
      ∀ alert ∈ newest history, alert ∈ courier.store.pending := by
  obtain ⟨marking, rest, announced, sound⟩ := sound_of_runs run
  have listed := sound.single.pending_perm
  refine ⟨sound.single.pendingOf_le, ?_, ⟨listed, sound.single.pairwise_pending⟩, ⟨?_, ?_⟩,
    sound.counted, ⟨announced, sound.lines, sound.known, ?_⟩, ?_⟩
  · intro host description
    refine ⟨_, _, rfl, ?_, ?_⟩
    · rw [← AlertStore.isPending_iff, Bool.not_eq_false']
    · intro known
      rw [Bool.not_eq_false'] at known
      rw [AlertStore.record_of_pending known]
  · intro host marks
    obtain ⟨alert, own, same⟩ := List.mem_map.mp ((sound.position.marks_iff host).mp marks)
    rw [AlertStore.isPending_iff_waiting, ← same]
    exact List.mem_map_of_mem (sound.waiting.mem_iff.mpr (by simp [own]))
  · intro outcome ended
    obtain ⟨succeeded, rfl, rfl⟩ := sound.position.succeeded ended
    exact ⟨succeeded, listed.trans sound.waiting⟩
  · intro host
    have counted := sound.told host
    obtain ⟨once, never⟩ := sound.position.countP_marking host
    constructor
    · intro marks
      rw [counted, once marks]
    · intro other
      rw [counted, never other, Nat.add_zero]
  · intro alert member
    exact listed.mem_iff.mpr (sound.waiting.mem_iff.mpr (by simp [member]))

/-- Two hosts have pending alerts when a delivery looks.  The first one is recorded again
as soon as its alert is marked, and the second one while its alert is being delivered. -/
theorem alerts_are_delivered_once_meanwhile :
    let deeds : List Deed := [.record "b" "lost", .record "a" "lost", .start fun _ => "1", .proceed,
      .proceed, .record "a" "lost again", .proceed, .record "b" "lost again"]
    let alert : Alert := ⟨"a", "lost again", false⟩
    ∃ history courier,
      replay [] {} deeds = some (history, courier) ∧ Runs history courier ∧
        newest history = [alert] ∧ alert ∈ courier.store.pending ∧ courier.Marks "b" ∧
        courier.store.isPending "b" = true ∧ recordings "a" history = 2 ∧
        courier.store.alertedOf "a" + courier.store.pendingOf "a" = 2 ∧
        warnings history = [⟨.warn, "ALERT b: lost (recorded 1s ago)"⟩,
          ⟨.warn, "ALERT a: lost (recorded 1s ago)"⟩] ∧
        courier.store.alertedOf "a" = 1 ∧ courier.store.alertedOf "b" = 0 ∧
        ∃ announced : List (Alert × String),
          warnings history = announced.map (fun told => ⟨.warn, "ALERT " ++ told.1.host ++ ": " ++
            told.1.description ++ " (recorded " ++ told.2 ++ "s ago)"⟩) ∧
          (announced.countP fun told => told.1.host == "b") =
            courier.store.alertedOf "b" + 1 := by
  intro deeds alert
  obtain ⟨⟨history, courier⟩, replayed⟩ : ∃ result, replay [] {} deeds = some result := ⟨_, rfl⟩
  have run := Runs.start.replay replayed
  obtain ⟨-, -, -, ⟨finds, -⟩, counted, ⟨announced, lines, -, told⟩, waits⟩ :=
    alerts_are_delivered_once run
  obtain ⟨rfl, rfl⟩ := Prod.mk.inj (Option.some.inj replayed)
  exact ⟨_, _, rfl, run, rfl, waits alert (List.mem_singleton.mpr rfl), ⟨_, rfl⟩,
    finds "b" ⟨_, rfl⟩, rfl, (counted "a").symm, rfl, rfl, rfl, announced, lines,
    (told "b").1 ⟨_, rfl⟩⟩

end Courier

end Reconciler
