import Reconciler.Proofs.AlertTrail
import Reconciler.Proofs.ChangeStream
import Reconciler.Proofs.PipelineScope

/-!
# How many alerts a lost node costs

Every step of a node controller changes what is left of a key as the trail says.  So the
alerts about a node are bounded by the deletions that the cache told of and by the items
that were on their way when the node disappeared, whatever is delivered in between.
-/

namespace Reconciler

variable {α ω : Type}

/-- The key of an item, and whether it asks for a removal. -/
def Work.errand (work : Work α) : Key × Bool :=
  (work.key, work.isRemoval)

/-- The errand of an item for which the cache is still to be read. -/
def Stage.unread? (work : Work α) : Stage α ω → Option (Key × Bool)
  | .handed => some work.errand
  | _ => none

/-- The key of an item for which the handler is about to touch its surroundings. -/
def Stage.due? (work : Work α) : Stage α ω → Option Key
  | .looked none | .adopting _ (.act _ _) | .syncing (.act _ _) => some work.key
  | _ => none

theorem Stage.key_of_due? {work : Work α} {stage : Stage α ω} {key : Key}
    (due : stage.due? work = some key) : work.key = key := by
  unfold due? at due
  split at due
  all_goals cases due
  all_goals rfl

theorem Work.isRemoval_joining (work : Work α) (pending : Option (Work α)) :
    (work.joining pending).isRemoval = work.isRemoval := by
  cases pending with
  | none => rfl
  | some item =>
      change (item.operation.merge work.operation == .delete) = (work.operation == .delete)
      cases item.operation <;> cases work.operation <;> rfl

theorem Stage.unread?_opening (plan : Plan α ω) (work : Work α) (current : Option α) :
    (Stage.opening plan work current).unread? work = none := by
  unfold opening
  split <;> rfl

theorem Stage.Goes.unread {plan : Plan α ω} {work : Work α} {stage next : Stage α ω}
    (goes : stage.Goes plan work next) :
    stage.unread? work = none ∧ next.unread? work = none := by
  cases goes <;> exact ⟨rfl, rfl⟩

theorem Call.Plain.not_due {call : Call ω} (plain : call.Plain) (work : Work α) (current : α) :
    (Stage.syncing call).due? work = none ∧ (Stage.adopting current call).due? work = none := by
  cases plain <;> exact ⟨rfl, rfl⟩

section

variable {plan : Plan Node AlertStore} {read : Option (Work Node × Option Node)}
  {work : Work Node} {stage next : Stage Node AlertStore}

/-- Whether an alert is due is decided when the cache is read. -/
theorem Stage.due?_opening (handler : plan.handler = Node.handler) (work : Work Node)
    (current : Option Node) :
    (Stage.opening plan work current).due? work =
      (Stage.looked current : Stage Node AlertStore).due? work := by
  unfold opening
  rw [handler]
  cases current with
  | none =>
      split
      next absent => cases absent
      · rfl
  | some current => split <;> rfl

/-- The handler records at most one alert, in its first step. -/
theorem Stage.Expected.not_due (expected : stage.Expected read work)
    (handler : plan.handler = Node.handler) (goes : stage.Goes plan work next) :
    next.due? work = none := by
  cases goes with
  | @adopting current _ _ goesOn =>
      cases expected with
      | adopting _ plain => exact ((plain.continues goesOn).not_due work current).2
  | adopted | unadopted | ended => rfl
  | @begun current =>
      rw [handler]
      exact ((Call.plain_sayAll _).not_due work current).1
  | syncing goesOn =>
      cases expected with
      | lost =>
          cases Node.plain_of_alertLost goesOn <;> rfl
      | syncing plain =>
          cases plain.continues goesOn <;> rfl

theorem Stage.Handling.notice?_eq (handling : stage.Handling) (system : System Node AlertStore)
    (id : Nat) : stage.notice? system id work =
      (stage.due? work).map fun _ =>
        .recorded id work (!system.world.isPending work.key.name) := by
  cases handling with
  | adopting _ call | syncing call => cases call <;> rfl
  | adopted => rfl

end

namespace System

/-! ## What is left of a key in a controller -/

/-- The changes that are still to be passed on as items with an errand. -/
def told (errand : Key × Bool) (relay : Relay Node) : Nat :=
  relay.changes.countP fun entry =>
    (Work.ofChange? entry.1 entry.2).map Work.errand = some errand

/-- Whether the pending item of a key has an errand, as a number. -/
def queued (errand : Key × Bool) (queue : Queue α) : Nat :=
  if (queue.pending.find? errand.1).map Work.isRemoval = some errand.2 then 1 else 0

def trail (system : System Node AlertStore) (key : Key) : Trail where
  absent := (system.cache.objectAt? key).isNone
  told := told (key, false) system.relay
  removals := told (key, true) system.relay + queued (key, true) system.queue +
    showing Stage.unread? (key, true) system.callers
  others := queued (key, false) system.queue + showing Stage.unread? (key, false) system.callers
  due := showing Stage.due? key system.callers
  closed := system.queue.closed

variable {errand : Key × Bool} {key : Key}

theorem queued_le (errand : Key × Bool) (queue : Queue α) : queued errand queue ≤ 1 := by
  unfold queued
  split <;> omega

theorem queued_add {queue : Queue α} (isOpen : queue.closed = false) (work : Work α) :
    queued errand (queue.add work) =
      if work.key = errand.1 then (if work.isRemoval = errand.2 then 1 else 0)
      else queued errand queue := by
  unfold queued
  rw [Queue.find?_add isOpen]
  split
  · simp [Work.isRemoval_joining]
  · rfl

theorem queued_take (errand : Key × Bool) {queue after : Queue α} {work : Work α}
    (sound : queue.Sound) (taken : queue.take = (some work, after)) :
    (queued errand after + if work.errand = errand then 1 else 0) = queued errand queue := by
  obtain ⟨-, -, waits, pending, -⟩ := sound.take_some taken
  obtain ⟨key, removal⟩ := errand
  unfold queued
  rw [pending]
  by_cases same : work.key = key
  · subst same
    simp [waits, Work.errand]
  · simp [same, Work.errand]

theorem told_passing {other : Key} {change : Change Node} {changes : List (Key × Change Node)}
    {enqueued passed : Nat} {listing : Bool} {work : Work Node}
    (item : Work.ofChange? other change = some work) :
    told errand (.passing ((other, change) :: changes) enqueued listing) =
      told errand (.passing changes passed listing) + if work.errand = errand then 1 else 0 := by
  simp [told, Relay.changes, List.countP_cons, item]

/-! ## Every step follows the trail -/

variable {plan : Plan Node AlertStore} {admits : Event Node → Prop} {log notices : List Notice}
  {before after : System Node AlertStore} {action : Action Node AlertStore}
  {mark : Option (Mark Node)} {id : Nat} {caller next : Caller Node AlertStore}
  {work : Work Node} {stage nextStage : Stage Node AlertStore}

theorem trail_eq (objects : after.cache.objects = before.cache.objects)
    (changes : after.relay.changes = before.relay.changes)
    (pending : after.queue.pending = before.queue.pending)
    (closed : after.queue.closed = before.queue.closed)
    (unread : ∀ removal, showing Stage.unread? (key, removal) after.callers =
      showing Stage.unread? (key, removal) before.callers)
    (due : showing Stage.due? key after.callers = showing Stage.due? key before.callers) :
    after.trail key = before.trail key := by
  simp only [trail, told, queued, Cache.objectAt?, objects, changes, pending, closed, unread, due]

theorem trail_still (elsewhere : ∀ notice ∈ notices, notice.key ≠ key)
    (same : after.trail key = before.trail key) :
    Trail.Step key (before.trail key) (after.trail key) notices := by
  rw [same]
  exact .moved elsewhere rfl rfl (Nat.le_refl _) (Nat.le_refl _) (Nat.le_refl _)
    fun isOpen => ⟨isOpen, id⟩

/-- A caller that moves on without taking an item up or becoming due leaves the trail as
it is. -/
theorem trail_moved (found : before.callers.find? id = some caller)
    (callers : after.callers = before.callers.insert id next)
    (unread : next.point.shows Stage.unread? = caller.point.shows Stage.unread?)
    (due : next.point.shows Stage.due? = caller.point.shows Stage.due?)
    (objects : after.cache.objects = before.cache.objects)
    (changes : after.relay.changes = before.relay.changes)
    (pending : after.queue.pending = before.queue.pending)
    (closed : after.queue.closed = before.queue.closed) :
    after.trail key = before.trail key := by
  apply trail_eq objects changes pending closed
  · intro removal
    rw [callers]
    exact showing_move (key, removal) found unread
  · rw [callers]
    exact showing_move key found due

theorem trail_staged (found : before.callers.find? id = some caller)
    (held : caller.point.held? = some (work, stage))
    (callers : after.callers = before.callers.insert id next)
    (stillHeld : next.point.held? = some (work, nextStage))
    (unread : stage.unread? work = none ∧ nextStage.unread? work = none)
    (due : nextStage.due? work = stage.due? work)
    (objects : after.cache.objects = before.cache.objects)
    (changes : after.relay.changes = before.relay.changes)
    (pending : after.queue.pending = before.queue.pending)
    (closed : after.queue.closed = before.queue.closed) :
    after.trail key = before.trail key := by
  refine trail_moved found callers ?_ ?_ objects changes pending closed
  · rw [Point.shows_of_held held, Point.shows_of_held stillHeld, unread.1, unread.2]
  · rw [Point.shows_of_held held, Point.shows_of_held stillHeld, due]

/-- An item that is passed on takes the place of the pending one of its key, so of what is
told and pending nothing is added, and something is left. -/
theorem counts_of_added (isOpen : before.queue.closed = false)
    (queue : after.queue = before.queue.add work)
    (tells : ∀ removal, told (key, removal) before.relay =
      told (key, removal) after.relay + if work.errand = (key, removal) then 1 else 0) :
    (∀ removal, told (key, removal) after.relay + queued (key, removal) after.queue ≤
        told (key, removal) before.relay + queued (key, removal) before.queue) ∧
      (0 < told (key, true) before.relay + told (key, false) before.relay +
          (queued (key, true) before.queue + queued (key, false) before.queue) →
        0 < told (key, true) after.relay + told (key, false) after.relay +
          (queued (key, true) after.queue + queued (key, false) after.queue)) := by
  have queues (removal : Bool) : queued (key, removal) after.queue =
      if work.key = key then (if work.isRemoval = removal then 1 else 0)
      else queued (key, removal) before.queue := by
    rw [queue]
    exact queued_add isOpen work
  by_cases same : work.key = key
  · have placed (removal : Bool) : queued (key, removal) after.queue =
        if work.isRemoval = removal then 1 else 0 := by
      rw [queues, if_pos same]
    constructor
    · intro removal
      rw [tells, placed]
      by_cases asks : work.isRemoval = removal
      · rw [if_pos asks, if_pos (by rw [Work.errand, same, asks])]
        omega
      · rw [if_neg asks]
        omega
    · intro _
      have removals := placed true
      have others := placed false
      cases asks : work.isRemoval <;>
        simp only [asks, reduceCtorEq, if_true, if_false] at removals others
      all_goals omega
  · have kept (removal : Bool) :
        told (key, removal) before.relay = told (key, removal) after.relay ∧
          queued (key, removal) after.queue = queued (key, removal) before.queue := by
      have apart : work.errand ≠ (key, removal) := fun errand => same (Prod.mk.inj errand).1
      rw [tells, if_neg apart, queues, if_neg same]
      exact ⟨rfl, rfl⟩
    constructor
    · intro removal
      rw [(kept removal).1, (kept removal).2]
    · rw [(kept true).1, (kept true).2, (kept false).1, (kept false).2]
      exact id

/-- A change that is passed on joins the pending item of its key, or is lost to a closed
queue. -/
theorem trail_announced {other : Key} {change : Change Node} {changes : List (Key × Change Node)}
    {enqueued passed : Nat} {listing : Bool}
    (waits : before.relay = .passing ((other, change) :: changes) enqueued listing)
    (item : Work.ofChange? other change = some work)
    (relay : after.relay = .passing changes passed listing)
    (queue : after.queue = before.queue.add work) (cache : after.cache = before.cache)
    (callers : after.callers = before.callers) :
    Trail.Step key (before.trail key) (after.trail key) [] := by
  have tells (removal : Bool) : told (key, removal) before.relay =
      told (key, removal) after.relay + if work.errand = (key, removal) then 1 else 0 := by
    rw [waits, relay]
    exact told_passing item
  have fewer := tells true
  have quieter := tells false
  have absent : (after.trail key).absent = (before.trail key).absent := by
    rw [trail, trail, cache]
  have due : (after.trail key).due = (before.trail key).due := by rw [trail, trail, callers]
  by_cases isClosed : before.queue.closed = true
  · rw [Queue.add_of_closed isClosed] at queue
    refine .moved (by simp) absent due ?_ ?_ ?_ ?_
    · simp only [trail, queue, callers]
      omega
    · simp only [trail]
      omega
    · simp only [trail, queue, callers]
      omega
    · intro isOpen
      simp [trail, queue, isClosed] at isOpen
  · have isOpen : before.queue.closed = false := by simpa using isClosed
    obtain ⟨bound, left⟩ := counts_of_added isOpen queue tells
    have removals := bound true
    have others := bound false
    refine .moved (by simp) absent due ?_ ?_ ?_ ?_
    · simp only [trail, callers]
      omega
    · simp only [trail]
      omega
    · simp only [trail, callers]
      omega
    · intro _
      refine ⟨isOpen, ?_⟩
      simp only [trail, Trail.unread, callers]
      omega

/-- An item that is handed out is still to be read. -/
theorem trail_took (custody : before.Custody) (found : before.callers.find? id = some caller)
    (bare : caller.point.held? = none) (taken : before.queue.take = (some work, after.queue))
    (holds : next.point.held? = some (work, .handed))
    (callers : after.callers = before.callers.insert id next) (cache : after.cache = before.cache)
    (relay : after.relay = before.relay) :
    Trail.Step key (before.trail key) (after.trail key) [] := by
  obtain ⟨isOpen, stillOpen, -⟩ := custody.sound.take_some taken
  have read_eq (removal : Bool) :
      queued (key, removal) after.queue + showing Stage.unread? (key, removal) after.callers =
        queued (key, removal) before.queue +
          showing Stage.unread? (key, removal) before.callers := by
    have left := queued_take (key, removal) custody.sound taken
    have moved : showing Stage.unread? (key, removal) (before.callers.insert id next) + _ = _ :=
      showing_insert (key, removal) found next
    rw [Point.shows_of_bare bare, Point.shows_of_held holds, if_neg (by simp),
      Nat.add_zero] at moved
    simp only [Stage.unread?, Option.some.injEq] at moved
    rw [callers, moved]
    omega
  have removals := read_eq true
  have others := read_eq false
  have due : showing Stage.due? key after.callers = showing Stage.due? key before.callers := by
    rw [callers]
    refine showing_move key found ?_
    rw [Point.shows_of_bare bare, Point.shows_of_held holds]
    rfl
  have same : after.trail key = before.trail key := by
    simp only [trail, cache, relay, due, isOpen, stillOpen]
    congr 1
    omega
  exact trail_still (by simp) same

/-- What is read for an item decides whether its caller becomes due. -/
theorem trail_looked (present : before.cache.get? work.key = before.cache.objectAt? work.key)
    (found : before.callers.find? id = some caller)
    (held : caller.point.held? = some (work, .handed))
    (holds : next.point.held? = some (work, .looked (before.cache.get? work.key)))
    (callers : after.callers = before.callers.insert id next) (cache : after.cache = before.cache)
    (relay : after.relay = before.relay) (queue : after.queue = before.queue) :
    Trail.Step key (before.trail key) (after.trail key)
      [.read id work (before.cache.get? work.key)] := by
  have read_eq (removal : Bool) :
      (showing Stage.unread? (key, removal) after.callers +
          if work.errand = (key, removal) then 1 else 0) =
        showing Stage.unread? (key, removal) before.callers := by
    have moved : showing Stage.unread? (key, removal) (before.callers.insert id next) + _ = _ :=
      showing_insert (key, removal) found next
    rw [Point.shows_of_held held, Point.shows_of_held holds] at moved
    simpa [Stage.unread?, callers] using moved
  have due_eq : showing Stage.due? key after.callers = showing Stage.due? key before.callers +
      if (Stage.looked (before.cache.get? work.key) : Stage Node AlertStore).due? work = some key
        then 1 else 0 := by
    have moved : showing Stage.due? key (before.callers.insert id next) + _ = _ :=
      showing_insert key found next
    rw [Point.shows_of_held held, Point.shows_of_held holds] at moved
    simpa [Stage.due?, callers] using moved
  by_cases own : work.key = key
  · have asks (removal : Bool) : work.errand = (key, removal) ↔ work.isRemoval = removal := by
      rw [Work.errand, own, Prod.mk.injEq]
      exact and_iff_right rfl
    have removals := read_eq true
    have others := read_eq false
    simp only [asks] at removals others
    refine .read own ?_ ?_ ?_ ?_ ?_ ?_ ?_
    · rw [present, own]
      rfl
    · rw [trail, trail, cache]
    · rw [trail, trail, relay]
    · simp only [trail, relay, queue]
      omega
    · simp only [trail, queue]
      cases kind : work.isRemoval <;> simp only [kind, reduceCtorEq, if_true, if_false] at others ⊢
      all_goals omega
    · change showing Stage.due? key after.callers = showing Stage.due? key before.callers + _
      rw [due_eq]
      cases before.cache.get? work.key <;> simp [Stage.due?, own]
    · rw [trail, trail, queue]
  · refine trail_still (by simpa [Notice.key] using own) ?_
    apply trail_eq (by rw [cache]) (by rw [relay]) (by rw [queue]) (by rw [queue])
    · intro removal
      have kept := read_eq removal
      simpa [Work.errand, own] using kept
    · rw [due_eq]
      cases before.cache.get? work.key <;> simp [Stage.due?, own]

/-- Whoever is due records an alert with the next step and is due no more. -/
theorem trail_handled (handler : plan.handler = Node.handler) (watched : before.Watched log)
    (found : before.callers.find? id = some caller)
    (held : caller.point.held? = some (work, stage)) (goes : stage.Goes plan work nextStage)
    (holds : next.point.held? = some (work, nextStage))
    (callers : after.callers = before.callers.insert id next) (cache : after.cache = before.cache)
    (relay : after.relay = before.relay) (queue : after.queue = before.queue) :
    Trail.Step key (before.trail key) (after.trail key)
      (before.notices after (.advance id)) := by
  have idle : nextStage.due? work = none :=
    (watched.stages id caller work stage found held).not_due handler goes
  have unread (removal : Bool) : showing Stage.unread? (key, removal) after.callers =
      showing Stage.unread? (key, removal) before.callers := by
    rw [callers]
    refine showing_move _ found ?_
    rw [Point.shows_of_held held, Point.shows_of_held holds, goes.unread.1, goes.unread.2]
  have due : (showing Stage.due? key after.callers +
      if stage.due? work = some key then 1 else 0) = showing Stage.due? key before.callers := by
    have moved : showing Stage.due? key (before.callers.insert id next) + _ = _ :=
      showing_insert key found next
    rw [Point.shows_of_held held, Point.shows_of_held holds, idle, ← callers] at moved
    simpa using moved
  rw [notices_of_held found held, goes.handling.notice?_eq]
  by_cases own : stage.due? work = some key
  · rw [if_pos own] at due
    rw [own]
    refine .recorded (Stage.key_of_due? own) ?_
    simp only [trail, cache, relay, queue, unread, ← due]
  · rw [if_neg own, Nat.add_zero] at due
    refine trail_still ?_ (trail_eq (by rw [cache]) (by rw [relay]) (by rw [queue]) (by rw [queue])
      unread due)
    intro notice member same
    obtain ⟨other, isDue, rfl⟩ := Option.map_eq_some_iff.mp (Option.mem_toList.mp member)
    obtain rfl : work.key = key := same
    exact own (Stage.key_of_due? isDue ▸ isDue)

/-! ### An event -/

theorem told_eq_deletions (key : Key) (relay : Relay Node) :
    told (key, true) relay =
      deletions key (relay.changes.map fun entry => .changed entry.1 entry.2) := by
  rw [told, deletions, tally, List.countP_map]
  refine List.countP_congr fun entry _ => ?_
  obtain ⟨other, change⟩ := entry
  cases change with
  | added | deleted =>
      simp [Work.ofChange?, Work.errand, Work.isRemoval, Notice.isDeletion, Notice.key]
  | updated old new =>
      simp only [Work.ofChange?, Function.comp_apply, Notice.isDeletion]
      split <;> simp [Work.errand, Work.isRemoval]

/-- Of a key that nobody else keeps at most one item was handed out and is unread. -/
theorem showing_unread_le (custody : before.Custody) (nodup : before.callers.keys.Nodup)
    (errand : Key × Bool) : showing Stage.unread? errand before.callers ≤ 1 := by
  have keeps (id : Nat) (shows : shown? Stage.unread? before.callers id = some errand) :
      before.Keeps id errand.1 := by
    obtain ⟨caller, work, stage, found, held, unread⟩ := exists_held_of_shown? shows
    cases stage with
    | handed =>
        obtain rfl := Option.some.inj unread
        exact shown?_of_held found held
    | _ => cases unread
  exact showing_le_one nodup fun id other shows showsToo =>
    custody.alone id other errand.1 (keeps id shows) (keeps other showsToo)

/-- An event that finds nothing to do leaves at most two items of a key that ask for
anything but a removal, and if it leaves the key absent it tells of removals only. -/
theorem trail_received {order : Enumeration Node} {event : Event Node} {listing : Bool}
    (proper : before.cache.Proper .cluster) (within : event.Within .cluster) (fair : order.Fair)
    (custody : before.Custody) (nodup : before.callers.keys.Nodup) (idle : before.relay = .idle)
    (cache : after.cache = (before.cache.apply order event).1)
    (relay : after.relay = .passing (before.cache.apply order event).2 0 listing)
    (queue : after.queue = before.queue) (callers : after.callers = before.callers) :
    Trail.Step key (before.trail key) (after.trail key)
      (before.notices after (.receive order event)) := by
  have changes : after.relay.changes = (before.cache.apply order event).2 := by
    rw [relay]
    rfl
  have tells {change : Change Node} (member : (key, change) ∈ after.relay.changes) :
      Change.Tells event key (before.cache.objectAt? key) (after.cache.objectAt? key) change := by
    rw [changes] at member
    rw [cache]
    exact (Cache.mem_apply_iff proper within fair key change).mp member
  have silent (errand : Key × Bool) : told errand before.relay = 0 := by
    rw [idle]
    rfl
  have unread := showing_unread_le custody nodup (key, false)
  have pending := queued_le (key, false) before.queue
  rw [notices_of_received idle]
  refine .received ?_ (silent _) ?_ ?_ ?_ ?_ ?_ ?_ ?_ ?_
  · intro notice member
    obtain ⟨entry, -, rfl⟩ := List.mem_map.mp member
    exact ⟨entry.1, entry.2, rfl⟩
  · simp only [trail]
    omega
  · simp only [trail, queue, callers]
  · simp only [trail, queue, callers, silent, told_eq_deletions]
    omega
  · simp only [trail, callers]
  · intro absent
    have gone : after.cache.objectAt? key = none := Option.isNone_iff_eq_none.mp absent
    constructor
    · refine List.countP_eq_zero.mpr fun entry member asks => ?_
      obtain ⟨other, change⟩ := entry
      obtain ⟨work, item, errand⟩ := Option.map_eq_some_iff.mp (of_decide_eq_true asks)
      obtain ⟨own, asksOther⟩ := Prod.mk.inj errand
      obtain rfl : other = key := (Work.key_of_ofChange? item).symm.trans own
      cases tells member with
      | added _ found | updated _ _ found => simp [gone] at found
      | deleted | missed =>
          obtain rfl := Option.some.inj item
          cases asksOther
    · cases was : before.cache.objectAt? key with
      | none =>
          left
          rw [trail, was]
          rfl
      | some last =>
          right
          have member : (key, .deleted last) ∈ after.relay.changes := by
            rw [changes, Cache.mem_apply_iff proper within fair, ← cache]
            exact .deleted was gone
          refine List.countP_pos_iff.mpr ⟨_, List.mem_map_of_mem member, ?_⟩
          simp [Notice.isDeletion, Notice.key]
  · intro last changed
    have gone := (tells (mem_of_lastChange? changed)).gone
    simp [trail, gone]
  · intro untold
    have same : after.cache.objectAt? key = before.cache.objectAt? key := by
      rw [cache]
      exact Cache.objectAt?_of_untold proper within fair (changes ▸ not_mem_of_lastChange? untold)
    simp only [trail, same]
  · simp only [trail, queue]

/-- Every step of a node controller follows the trail of every key. -/
theorem trail_step (handler : plan.handler = Node.handler)
    (noticed : Noticed plan (Event.Within .cluster) log before)
    (occurs : action.Occurs (Event.Within .cluster)) (acted : before.act plan action = some after)
    (key : Key) :
    Trail.Step key (before.trail key) (after.trail key) (before.notices after action) := by
  obtain ⟨history, run⟩ := noticed.run
  have custody := custody_of_runs run
  have nodup := nodup_of_runs run
  have watched := watched_of_noticed handler noticed
  have inScope := Pipeline.inScope_of_runs (pipeline_of_runs run)
  have nothing (none : before.notices after action = [])
      (same : after.trail key = before.trail key) :
      Trail.Step key (before.trail key) (after.trail key) (before.notices after action) := by
    rw [none]
    exact trail_still (by simp) same
  have turn := turn_of_act occurs acted
  generalize before.mark? after action = mark at turn
  cases turn with
  | quiet _ elsewhere => exact nothing (notices_of_quiet rfl elsewhere) rfl
  | ignored idle =>
      refine nothing ?_ rfl
      rw [notices_of_received idle, idle]
      rfl
  | received idle =>
      exact trail_received inScope.cache occurs.2 occurs.1 custody nodup idle rfl rfl rfl rfl
  | announced told item => exact trail_announced told item rfl rfl rfl rfl
  | suppressed told' item =>
      refine nothing rfl ?_
      simp [trail, told, told', Relay.changes, item]
  | completed told' =>
      refine nothing rfl ?_
      simp [trail, told, told', Relay.changes]
      rfl
  | entered absent =>
      exact nothing rfl (trail_eq rfl rfl rfl rfl (fun removal => showing_enter _ absent rfl)
        (showing_enter _ absent rfl))
  | fired found =>
      rw [watched.delayed] at found
      cases found
  | closed =>
      refine .moved (by simp [notices]) rfl rfl (Nat.le_refl _) (Nat.le_refl _) (Nat.le_refl _) ?_
      intro isOpen
      cases isOpen
  | moved found bare free which =>
      refine nothing ?_ (trail_moved found rfl ?_ ?_ rfl rfl rfl rfl)
      · rcases which with rfl | rfl
        · exact notices_of_bare found bare
        · rfl
      · rw [Point.shows_of_bare bare, Point.shows_of_bare free]
      · rw [Point.shows_of_bare bare, Point.shows_of_bare free]
  | waited found bare free taken =>
      rw [custody.sound.eq_of_take_none taken] at nothing ⊢
      refine nothing (notices_of_bare found bare) (trail_moved found rfl ?_ ?_ rfl rfl rfl rfl)
      · rw [Point.shows_of_bare bare, Point.shows_of_bare free]
      · rw [Point.shows_of_bare bare, Point.shows_of_bare free]
  | took found bare taken =>
      rw [notices_of_bare found bare]
      exact trail_took custody found bare taken rfl rfl rfl rfl
  | carried found taker =>
      have worker := custody.workers _ _ found
      simp [taker] at worker
  | @looked id caller work found held =>
      rw [notices_of_held found held]
      have fits : Scope.cluster.Fits work.key.ns :=
        inScope.opening id work .awaited (shown?_of_held found held)
      exact trail_looked (inScope.cache.objects.get?_eq fits) found held rfl rfl rfl rfl rfl
  | called found held =>
      refine nothing (by rw [notices_of_held found held]; rfl) ?_
      exact trail_staged found held rfl rfl ⟨rfl, Stage.unread?_opening _ _ _⟩
        (Stage.due?_opening handler _ _) rfl rfl rfl rfl
  | handled found held goes =>
      exact trail_handled handler watched found held goes rfl rfl rfl rfl rfl
  | concluded found held =>
      cases watched.stages _ _ _ _ found held
      exact nothing (by rw [notices_of_held found held]; rfl)
        (trail_staged found held rfl rfl ⟨rfl, rfl⟩ rfl rfl rfl rfl rfl)
  | forgot found held =>
      exact nothing (by rw [notices_of_held found held]; rfl)
        (trail_staged found held rfl rfl ⟨rfl, rfl⟩ rfl rfl rfl rfl rfl)
  | released found held =>
      refine nothing (by rw [notices_of_held found held]; rfl)
        (trail_moved found rfl ?_ ?_ rfl rfl rfl rfl)
      · rw [Point.shows_of_held held, Point.shows_of_bare (Point.held?_rest _ _)]
        rfl
      · rw [Point.shows_of_held held, Point.shows_of_bare (Point.held?_rest _ _)]
        rfl
  | yielded found held | granted found held | dropped found held | returned found held
  | delayed found held | refused found held | noted found held =>
      cases watched.stages _ _ _ _ found held

theorem sound_of_noticed (handler : plan.handler = Node.handler)
    (noticed : Noticed plan (Event.Within .cluster) log after) (key : Key) :
    (after.trail key).Sound key log := by
  induction noticed with
  | start world =>
      exact ⟨Nat.le_refl 0, Nat.le_refl 0, Nat.le_refl 0, fun _ => ⟨rfl, Nat.le_refl 0⟩⟩
  | step noticed occurs acted ih => exact ih.step (trail_step handler noticed occurs acted key)

/-! ## New alerts -/

/-- The new alerts about a host that were recorded. -/
def newAlerts (host : String) (log : List Notice) : Nat :=
  log.countP fun notice =>
    match notice with
    | .recorded _ work fresh => fresh && work.key.name == host
    | _ => false

/-- An alert is recorded for a key in scope. -/
theorem key_of_recorded (noticed : Noticed plan (Event.Within .cluster) log after) {fresh : Bool}
    (member : .recorded id work fresh ∈ log) : work.key = ⟨none, work.key.name⟩ := by
  induction noticed with
  | start world => cases member
  | step noticed occurs acted ih =>
      rcases List.mem_append.mp member with new | old
      · obtain ⟨-, -, caller, stage, found, held, -⟩ := action_of_recorded new
        obtain ⟨history, run⟩ := noticed.run
        have inScope := Pipeline.inScope_of_runs (pipeline_of_runs run)
        have handed := (provenance_of_runs run).held id work (shown?_of_held found held)
        have fits : Scope.cluster.Fits work.key.ns := inScope.handed work handed
        obtain ⟨⟨ns, name⟩, operation, prior⟩ := work
        cases ns with
        | none => rfl
        | some ns => exact fits.elim
      · exact ih old

/-- A lost node costs few alerts: in every run with nodes outside of any namespace, there
are no more new alerts about a host than deletions of its node that the cache told of and
items of the node that asked for anything else and found it absent.  Of the latter there
are at most two for each deletion. -/
theorem alerts_within_deletions (handler : plan.handler = Node.handler)
    (noticed : Noticed plan (Event.Within .cluster) log after) (host : String) :
    let key : Key := ⟨none, host⟩
    newAlerts host log ≤ deletions key log + staleReads key log ∧
      staleReads key log ≤ 2 * deletions key log := by
  intro key
  obtain ⟨answered, deleted, spared, -⟩ := sound_of_noticed handler noticed key
  have recorded : newAlerts host log ≤ recordings key log := by
    refine List.countP_mono_left fun notice member counts => ?_
    cases notice with
    | changed | read => cases counts
    | recorded id work fresh =>
        obtain ⟨-, own⟩ := Bool.and_eq_true_iff.mp counts
        have same : work.key = key := by
          rw [key_of_recorded noticed member, beq_iff_eq.mp own]
        simp [Notice.isRecording, Notice.key, same]
  exact ⟨by omega, spared⟩

/-- A node changes and disappears while its first item is on its way.  All three items find
it absent, and each alert is delivered before the next one is recorded. -/
theorem alerts_within_deletions_crowded :
    let node (version : String) : Node :=
      { metadata := { name := some "a", resourceVersion := some version } }
    let plan : Plan Node AlertStore :=
      { name := "node", backoff := {}, handler := Node.handler }
    let delivered : Action Node AlertStore := .alter fun store => store.markAlerted "a"
    let actions : List (Action Node AlertStore) :=
      [.enter 0 .worker, .receive {} (.applied (node "1")), .passOn, .passOn, .advance 0,
        .advance 0, .receive {} (.applied (node "2")), .passOn, .passOn,
        .receive {} (.removed (node "3"))] ++
        List.replicate 8 (.advance 0) ++ [delivered] ++ List.replicate 10 (.advance 0) ++
        [delivered, .passOn, .passOn] ++ List.replicate 10 (.advance 0)
    ∃ log system,
      watch plan [] { world := {} } actions = some (log, system) ∧
        Noticed plan (Event.Within .cluster) log system ∧
        newAlerts "a" log = 3 ∧ deletions ⟨none, "a"⟩ log = 1 ∧
        3 ≤ 1 + staleReads ⟨none, "a"⟩ log := by
  intro node plan delivered actions
  have occur : ∀ action ∈ actions, action.Occurs (Event.Within .cluster) := by
    simp [actions, delivered, Action.Occurs, Enumeration.fair_default, Event.Within,
      Event.object?, Scope.Covers, Scope.Fits, Resource.metadata, node]
  have shows : (watch plan [] { world := {} } actions).map (fun result =>
      (newAlerts "a" result.1, deletions ⟨none, "a"⟩ result.1)) = some (3, 1) := by
    decide
  obtain ⟨⟨log, system⟩, watched, shown⟩ := Option.map_eq_some_iff.mp shows
  obtain ⟨fresh, deleted⟩ := Prod.mk.inj shown
  have noticed : Noticed plan (Event.Within .cluster) log system :=
    (Observed.start _).transcript occur watched
  have bounded := (alerts_within_deletions rfl noticed "a").1
  refine ⟨log, system, watched, noticed, fresh, deleted, ?_⟩
  rw [fresh, deleted] at bounded
  exact bounded

/-- One deletion can lead to two new alerts.  A node is removed before the cache is read for
its first item, and the alert that this item leads to is delivered before the removal is
taken up. -/
theorem alerts_exceed_deletions :
    let node (version : String) : Node :=
      { metadata := { name := some "a", resourceVersion := some version } }
    let plan : Plan Node AlertStore :=
      { name := "node", backoff := {}, handler := Node.handler }
    let actions : List (Action Node AlertStore) :=
      [.enter 0 .worker, .receive {} (.applied (node "1")), .passOn, .passOn, .advance 0,
        .advance 0, .receive {} (.removed (node "2")), .passOn, .passOn] ++
        List.replicate 8 (.advance 0) ++ [.alter fun store => store.markAlerted "a"] ++
        List.replicate 10 (.advance 0)
    ∃ log system,
      watch plan [] { world := {} } actions = some (log, system) ∧
        Noticed plan (Event.Within .cluster) log system ∧
        deletions ⟨none, "a"⟩ log = 1 ∧ newAlerts "a" log = 2 ∧
        ¬newAlerts "a" log ≤ deletions ⟨none, "a"⟩ log := by
  intro node plan actions
  have occur : ∀ action ∈ actions, action.Occurs (Event.Within .cluster) := by
    simp [actions, Action.Occurs, Enumeration.fair_default, Event.Within, Event.object?,
      Scope.Covers, Scope.Fits, Resource.metadata, node]
  have shows : (watch plan [] { world := {} } actions).map (fun result =>
      (deletions ⟨none, "a"⟩ result.1, newAlerts "a" result.1)) = some (1, 2) := by
    decide
  obtain ⟨⟨log, system⟩, watched, shown⟩ := Option.map_eq_some_iff.mp shows
  obtain ⟨deleted, fresh⟩ := Prod.mk.inj shown
  have noticed : Noticed plan (Event.Within .cluster) log system :=
    (Observed.start _).transcript occur watched
  refine ⟨log, system, watched, noticed, deleted, fresh, ?_⟩
  rw [fresh, deleted]
  omega

end System

end Reconciler
