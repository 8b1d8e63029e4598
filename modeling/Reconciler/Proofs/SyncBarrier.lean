import Reconciler.Proofs.Conduct

/-!
# Nothing is reconciled before the first listing

A service holds its workers back until the cache counts as synced.  The watching side
marks the cache only after it has passed on every change of a completed listing, and
nobody takes items from the queue until then.  So at that point the queue has all items
of the listing, in their order, on top of what was there when the listing was completed.
Whatever happens next, the cache stays synced, and a service that fails never had
workers.
-/

namespace Reconciler

variable {α ω : Type} [Resource α]

/-- The work items of changes. -/
def Work.ofChanges (changes : List (Key × Change α)) : List (Work α) :=
  changes.filterMap fun entry => Work.ofChange? entry.1 entry.2

theorem Work.ofChanges_concat (changes : List (Key × Change α)) (key : Key) (change : Change α) :
    Work.ofChanges (changes ++ [(key, change)]) =
      Work.ofChanges changes ++ (Work.ofChange? key change).toList := by
  rw [ofChanges, List.filterMap_append, ofChanges]
  cases item : Work.ofChange? key change <;> simp [item]

namespace System

variable {plan : Plan α ω} {before after : System α ω}

/-- Only the end of a listing makes a listing to pass on. -/
theorem receive_listing {order : Enumeration α} {event : Event α} (idle : before.relay = .idle)
    {rest : List (Key × Change α)} {enqueued : Nat}
    (passes : (before.receive plan order event).relay = .passing rest enqueued true) :
    event = .listingDone ∧ rest = (before.cache.apply order .listingDone).2 := by
  unfold receive at passes
  cases event with
  | listingStarted => cases passes
  | listingDone => exact ⟨rfl, (Relay.passing.inj passes).1.symm⟩
  | listed object | applied object | removed object =>
      simp only [Event.object?] at passes
      split at passes
      · cases passes
      · cases idle.symm.trans passes

theorem receive_queue (plan : Plan α ω) (order : Enumeration α) (event : Event α) :
    (before.receive plan order event).queue = before.queue := by
  unfold receive
  split
  · split <;> rfl
  · rfl

end System

namespace Service

variable {plan : Plan α ω} {settings : Settings} {first service after : Service α ω}
  {moves : List (Move α ω)} {move : Move α ω}

/-- The moves have led past a listing: its end was applied to the cache, and then the item
of every change that this made was added to the open queue, before anybody came. -/
def Listed (plan : Plan α ω) (first : Service α ω) (moves : List (Move α ω)) : Prop :=
  ∃ earlier order during later before ready,
    moves = earlier ++ .act (.receive order .listingDone) :: (during ++ later) ∧
    run plan first earlier = some before ∧
    run plan first (earlier ++ .act (.receive order .listingDone) :: during) = some ready ∧
    ready.system.queue =
      (Work.ofChanges (before.system.cache.apply order .listingDone).2).foldl Queue.add
        before.system.queue ∧
    ready.system.queue.closed = false ∧
    ∀ id, ready.system.callers.find? id = none

/-- The moves have led into a listing, of which some changes are still to be passed on. -/
def Listing (plan : Plan α ω) (first service : Service α ω) (moves : List (Move α ω))
    (rest : List (Key × Change α)) : Prop :=
  ∃ earlier order during before passed,
    moves = earlier ++ .act (.receive order .listingDone) :: during ∧
    run plan first earlier = some before ∧
    (before.system.cache.apply order .listingDone).2 = passed ++ rest ∧
    service.system.queue = (Work.ofChanges passed).foldl Queue.add before.system.queue

theorem Listed.append (listed : Listed plan first moves) (more : List (Move α ω)) :
    Listed plan first (moves ++ more) := by
  obtain ⟨earlier, order, during, later, before, ready, rfl, rest⟩ := listed
  exact ⟨earlier, order, during, later ++ more, before, ready, by simp, rest⟩

theorem Listing.carry {rest : List (Key × Change α)}
    (listing : Listing plan first service moves rest)
    (same : after.system.queue = service.system.queue) :
    Listing plan first after (moves ++ [move]) rest := by
  obtain ⟨earlier, order, during, before, passed, rfl, ran, changes, queue⟩ := listing
  exact ⟨earlier, order, during ++ [move], before, passed, by simp, ran, changes, same.trans queue⟩

theorem Listing.pass {key : Key} {change : Change α} {rest : List (Key × Change α)}
    (listing : Listing plan first service moves ((key, change) :: rest))
    (added : after.system.queue =
      (Work.ofChange? key change).toList.foldl Queue.add service.system.queue) :
    Listing plan first after (moves ++ [move]) rest := by
  obtain ⟨earlier, order, during, before, passed, rfl, ran, changes, queue⟩ := listing
  refine ⟨earlier, order, during ++ [move], before, passed ++ [(key, change)], by simp, ran, ?_, ?_⟩
  · rw [changes, List.append_assoc, List.singleton_append]
  · rw [added, queue, Work.ofChanges_concat, List.foldl_append]

theorem Listing.listed (listing : Listing plan first service moves [])
    (ran : run plan first moves = some service) (isOpen : service.system.queue.closed = false)
    (nobody : ∀ id, service.system.callers.find? id = none) : Listed plan first moves := by
  obtain ⟨earlier, order, during, before, passed, rfl, ranEarlier, changes, queue⟩ := listing
  rw [List.append_nil] at changes
  exact ⟨earlier, order, during, [], before, service, by simp, ranEarlier, ran, changes ▸ queue,
    isOpen, nobody⟩

/-- What the moves of a service keep true about its listings. -/
structure Barrier (plan : Plan α ω) (first : Service α ω) (moves : List (Move α ω))
    (service : Service α ω) : Prop where
  listed : service.system.cache.synced = true → Listed plan first moves
  listing : service.system.cache.synced = false → ∀ rest enqueued,
    service.system.relay = .passing rest enqueued true → Listing plan first service moves rest

namespace Barrier

/-- A move that leaves the watching side and the queue alone. -/
theorem aside (barrier : Barrier plan first moves service)
    (unsynced : service.system.cache.synced = false)
    (cache : after.system.cache = service.system.cache)
    (relay : after.system.relay = service.system.relay)
    (queue : after.system.queue = service.system.queue) :
    Barrier plan first (moves ++ [move]) after where
  listed synced := by
    rw [cache, unsynced] at synced
    cases synced
  listing _ rest enqueued passes :=
    (barrier.listing unsynced rest enqueued (relay ▸ passes)).carry queue

theorem receive (ran : run plan first moves = some service)
    (unsynced : service.system.cache.synced = false) (idle : service.system.relay = .idle)
    (order : Enumeration α) (event : Event α) :
    Barrier plan first (moves ++ [.act (.receive order event)])
      { service with system := service.system.receive plan order event } where
  listed synced := by
    have received : System.Turn plan service.system (.receive order event) _
        (service.system.receive plan order event) := System.turn_receive order event idle
    rw [received.synced_eq nofun, unsynced] at synced
    cases synced
  listing _ rest enqueued passes := by
    obtain ⟨rfl, rfl⟩ := System.receive_listing idle passes
    exact ⟨moves, order, [], service, [], rfl, ran, rfl,
      System.receive_queue plan order .listingDone⟩

theorem passOn (barrier : Barrier plan first moves service)
    (ran : run plan first moves = some service)
    (unsynced : service.system.cache.synced = false)
    (isOpen : service.system.queue.closed = false)
    (nobody : ∀ id, service.system.callers.find? id = none) {system : System α ω}
    (passed : service.system.passOn plan = some system) :
    Barrier plan first (moves ++ [.act .passOn]) { service with system } := by
  rcases System.passOn_cases passed with
    ⟨key, change, rest, enqueued, counted, listing, before, next, added, cache⟩ |
    ⟨enqueued, listing, before, next, same, marked⟩
  · constructor
    · intro synced
      rw [cache, unsynced] at synced
      cases synced
    · intro _ others count passes
      obtain ⟨rfl, -, rfl⟩ := Relay.passing.inj (next.symm.trans passes)
      exact (barrier.listing unsynced _ _ before).pass added
  · constructor
    · intro synced
      rw [marked, unsynced, Bool.false_or] at synced
      subst synced
      exact ((barrier.listing unsynced _ _ before).listed ran isOpen nobody).append _
    · intro _ rest count passes
      cases next.symm.trans passes

/-- As long as the cache is not synced nobody is there, so only the watching side does
anything that matters. -/
theorem step (barrier : Barrier plan first moves service) (orderly : service.Orderly plan settings)
    (ran : run plan first moves = some service) (turn : Turn plan service move after) :
    Barrier plan first (moves ++ [move]) after := by
  cases synced : service.system.cache.synced with
  | true =>
      refine ⟨fun _ => (barrier.listed synced).append _, fun unsynced => ?_⟩
      exact nomatch (turn.synced synced).symm.trans unsynced
  | false =>
      have unopened : service.control.progress.hasOpened = false := by
        cases opened : service.control.progress.hasOpened with
        | false => rfl
        | true => exact nomatch synced.symm.trans (orderly.synced opened)
      have isOpen : service.system.queue.closed = false := by
        rw [orderly.closed]
        exact Progress.not_hasClosed_of_unopened unopened
      obtain ⟨-, nobody, nothing⟩ := orderly.unopened unopened
      cases turn with
      | @acted action system permitted acted =>
          cases action with
          | receive order event =>
              cases idle : service.system.relay with
              | idle =>
                  simp only [System.act, idle, Option.some.injEq] at acted
                  subst acted
                  exact .receive ran synced idle order event
              | passing => simp [System.act, idle] at acted
          | receiveFailure failure =>
              cases idle : service.system.relay with
              | idle =>
                  simp only [System.act, idle, Option.some.injEq] at acted
                  subst acted
                  exact barrier.aside synced rfl rfl rfl
              | passing => simp [System.act, idle] at acted
          | passOn => exact barrier.passOn ran synced isOpen nobody acted
          | advance id =>
              have stuck : service.system.advance plan id = none := by
                apply System.advance_of_left
                intro caller found
                cases (nobody id).symm.trans found
              cases stuck.symm.trans acted
          | fire ticket => simp [System.act, System.fire, nothing ticket] at acted
          | alter effect =>
              obtain rfl := Option.some.inj acted
              exact barrier.aside synced rfl rfl rfl
          | elapse millis =>
              obtain rfl := Option.some.inj acted
              exact barrier.aside synced rfl rfl rfl
          | _ => cases permitted
      | closed closing =>
          rw [closing] at unopened
          cases unopened
      | _ => exact barrier.aside synced rfl rfl rfl

end Barrier

theorem barrier_of_run (begins : first.Orderly plan settings)
    (idle : first.system.relay = .idle) (unsynced : first.system.cache.synced = false)
    (ran : run plan first moves = some service) : Barrier plan first moves service := by
  revert ran
  apply run_induction (motive := fun moves service => Barrier plan first moves service)
  · constructor
    · intro synced
      cases unsynced.symm.trans synced
    · intro _ rest enqueued passes
      cases idle.symm.trans passes
  · intro moves before move after ran barrier turn
    exact barrier.step (orderly_of_run begins ran) ran turn

omit [Resource α] in
theorem opened_of_inCall (orderly : service.Orderly plan settings) {id : Nat} {key : Key}
    (call : service.system.InCall id key) : service.control.progress.hasOpened = true := by
  obtain ⟨caller, work, stage, found, -⟩ := System.exists_held_of_shown? call
  cases opened : service.control.progress.hasOpened with
  | true => rfl
  | false =>
      have nobody := (orderly.unopened opened).2.1
      cases (nobody id).symm.trans found

/-- Workers wait for the first listing.  In every run of a service, whatever its watch,
its workers, its clock and its surroundings do: if the handler is called, then before
that a listing was completed in the cache and the items of all its changes were added to
the queue; a synced cache stays synced; and a service that fails, because its cache was
not synced in time or because it was stopped, has never called the handler. -/
theorem no_call_before_listing {world : ω}
    (ran : run plan (start plan settings { world }) moves = some service) :
    (∀ id key, service.system.InCall id key →
        Listed plan (start plan settings { world }) moves) ∧
      (service.system.cache.synced = true → ∀ later final,
        run plan service later = some final → final.system.cache.synced = true) ∧
      ∀ failure, service.control.progress.outcome? = some (.error failure) →
        (failure = .syncTimeout plan.name settings.syncTimeout ∨ failure = .stopped plan.name) ∧
        ∀ earlier later before, moves = earlier ++ later →
          run plan (start plan settings { world }) earlier = some before →
          ∀ id key, ¬before.system.InCall id key := by
  have begins := Orderly.start plan settings world
  have orderly := orderly_of_run begins ran
  refine ⟨?_, ?_, ?_⟩
  · intro id key call
    have synced := orderly.synced (opened_of_inCall orderly call)
    exact (barrier_of_run begins rfl rfl ran).listed synced
  · intro synced later final
    exact run_induction (motive := fun _ last => last.system.cache.synced = true) synced
      (fun _ synced turn => turn.synced synced) later
  · intro failure failed
    refine ⟨orderly.failed failure failed, ?_⟩
    rintro earlier later before rfl ranEarlier id key call
    obtain ⟨between, ranBetween, rest⟩ := run_append ran
    obtain rfl := Option.some.inj (ranEarlier.symm.trans ranBetween)
    have opened := opened_of_inCall (orderly_of_run begins ranEarlier) call
    have staysOpen : service.control.progress.hasOpened = true :=
      run_induction (motive := fun _ last => last.control.progress.hasOpened = true) opened
        (fun _ opened turn => turn.staysOpen opened) later rest
    have unopened := Progress.unopened_of_error failed
    cases unopened.symm.trans staysOpen

/-- A worker is in a call for the one pod of a listing, and a service that is told to stop
before any listing fails. -/
theorem no_call_before_listing_of_pod :
    let pod : Pod := { metadata := { name := some "a", ns := some "ns" } }
    let plan : Plan Pod Unit := { name := "pod", backoff := {}, handler := Pod.handler }
    let first := start plan {} { world := () }
    let moves : List (Move Pod Unit) := [.act (.receive {} .listingStarted), .act .passOn,
      .act (.receive {} (.listed pod)), .act .passOn, .act (.receive {} .listingDone),
      .act .passOn, .act .passOn, .notice .synced, .callWorker,
      .act (.advance 0), .act (.advance 0), .act (.advance 0), .act (.advance 0)]
    (∃ service, run plan first moves = some service ∧
      service.system.InCall 0 ⟨some "ns", "a"⟩ ∧ Listed plan first moves) ∧
    ∃ service, run plan first [.stop, .notice .stopped] = some service ∧
      service.control.progress.outcome? = some (.error (.stopped "pod")) ∧
      ∀ id key, ¬service.system.InCall id key := by
  intro pod plan first moves
  have calls : (run plan first moves).map (fun service =>
      System.shown? Stage.calls? service.system.callers 0) = some (some ⟨some "ns", "a"⟩) := by
    decide
  have stops : (run plan first [.stop, .notice .stopped]).map (fun service =>
      service.control.progress.outcome?) = some (some (.error (.stopped "pod"))) :=
    rfl
  obtain ⟨serving, ranServing, call⟩ := Option.map_eq_some_iff.mp calls
  obtain ⟨failed, ranFailed, failure⟩ := Option.map_eq_some_iff.mp stops
  constructor
  · exact ⟨serving, ranServing, call,
      (no_call_before_listing ranServing).1 0 ⟨some "ns", "a"⟩ call⟩
  · obtain ⟨-, never⟩ := (no_call_before_listing ranFailed).2.2 _ failure
    exact ⟨failed, ranFailed, failure, never _ [] failed (by simp) ranFailed⟩

end Service

end Reconciler
