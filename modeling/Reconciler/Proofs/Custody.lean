import Reconciler.Pod
import Reconciler.Proofs.Callers
import Reconciler.Proofs.QueueRefinement

/-!
# Who keeps a key

A worker keeps the key of its item from taking the item until releasing the key.  In
every run the keys in flight are exactly the keys that are kept, and every one of them
is kept by one worker only.  So no two workers are ever in a call of the handler for
one key, whatever is announced, fails, comes back or is closed in the meantime.

The only steps that touch this are taking an item, whose key was not in flight
before, and releasing the key of a kept item.
-/

namespace Reconciler

variable {α ω : Type}

/-- Whether an item in this stage keeps its key: it does until its key is released. -/
def Stage.keepsKey : Stage α ω → Bool
  | .weighing _ | .delaying .. | .noting .. => false
  | _ => true

/-- Whether the handler is in a call, adopting or reconciling. -/
def Stage.isCall : Stage α ω → Bool
  | .adopting .. | .syncing _ => true
  | _ => false

@[simp]
theorem Stage.keepsKey_opening (plan : Plan α ω) (work : Work α) (current : Option α) :
    (Stage.opening plan work current).keepsKey = true := by
  unfold opening
  split <;> rfl

@[simp]
theorem Stage.keepsKey_settling (outcome : Outcome) :
    (Stage.settling outcome : Stage α ω).keepsKey = true := by
  unfold settling
  repeat' split
  all_goals rfl

theorem Stage.Handling.keepsKey {stage : Stage α ω} (handling : stage.Handling) :
    stage.keepsKey = true := by
  cases handling <;> rfl

theorem Stage.keepsKey_of_handled {next : Stage α ω}
    (goesOn : next.Handling ∨ ∃ outcome, next = .concluded outcome) : next.keepsKey = true := by
  rcases goesOn with handling | ⟨outcome, rfl⟩
  · exact handling.keepsKey
  · rfl

theorem Stage.keepsKey_of_isCall {stage : Stage α ω} (call : stage.isCall = true) :
    stage.keepsKey = true := by
  cases stage with
  | adopting | syncing => rfl
  | _ => simp [isCall] at call

def Stage.kept? (work : Work α) (stage : Stage α ω) : Option Key :=
  if stage.keepsKey then some work.key else none

def Stage.calls? (work : Work α) (stage : Stage α ω) : Option Key :=
  if stage.isCall then some work.key else none

theorem Stage.kept?_of_keepsKey {stage : Stage α ω} (keeps : stage.keepsKey = true)
    (work : Work α) : stage.kept? work = some work.key :=
  if_pos keeps

namespace System

/-- A caller keeps a key: it took the item and has not released the key yet. -/
def Keeps (system : System α ω) (id : Nat) (key : Key) : Prop :=
  shown? Stage.kept? system.callers id = some key

/-- A caller is in a call of the handler for a key. -/
def InCall (system : System α ω) (id : Nat) (key : Key) : Prop :=
  shown? Stage.calls? system.callers id = some key

theorem InCall.keeps {system : System α ω} {id : Nat} {key : Key}
    (call : system.InCall id key) : system.Keeps id key := by
  obtain ⟨caller, work, stage, found, held, shown⟩ := exists_held_of_shown? call
  obtain ⟨isCall, same⟩ := Option.ite_none_right_eq_some.mp shown
  rw [Keeps, shown?_of_held found held, ← same]
  exact Stage.kept?_of_keepsKey (Stage.keepsKey_of_isCall isCall) work

/-- What a run keeps true about the keys in flight. -/
structure Custody (system : System α ω) : Prop where
  sound : system.queue.Sound
  workers : ∀ id caller, system.callers.find? id = some caller → caller.role = .worker
  inFlight_iff : ∀ key, key ∈ system.queue.inFlight ↔ ∃ id, system.Keeps id key
  alone : ∀ id other key, system.Keeps id key → system.Keeps other key → id = other

/-- What a step changes about the keys in flight and who keeps them. -/
inductive Exchange (before after : System α ω) : Prop
  | none
      (flying : ∀ key, key ∈ after.queue.inFlight ↔ key ∈ before.queue.inFlight)
      (kept : ∀ id, shown? Stage.kept? after.callers id = shown? Stage.kept? before.callers id)
  | taken (id : Nat) (key : Key)
      (grounded : key ∉ before.queue.inFlight)
      (flying : ∀ other, other ∈ after.queue.inFlight ↔
        other = key ∨ other ∈ before.queue.inFlight)
      (bare : shown? Stage.kept? before.callers id = .none)
      (kept : ∀ other, shown? Stage.kept? after.callers other =
        if id = other then some key else shown? Stage.kept? before.callers other)
  | released (id : Nat) (key : Key)
      (flying : ∀ other, other ∈ after.queue.inFlight ↔
        other ≠ key ∧ other ∈ before.queue.inFlight)
      (keeps : before.Keeps id key)
      (kept : ∀ other, shown? Stage.kept? after.callers other =
        if id = other then .none else shown? Stage.kept? before.callers other)

namespace Custody

variable [Resource α] {plan : Plan α ω} {before after : System α ω} {action : Action α ω}
  {mark : Option (Mark α)}

/-- Only taking an item and releasing a key change who keeps what. -/
theorem exchange (custody : before.Custody) (turn : Turn plan before action mark after) :
    before.Exchange after := by
  cases turn with
  | quiet | ignored | received | announced | suppressed | completed | fired | closed =>
      exact .none (by simp [Queue.close]) fun _ => rfl
  | entered absent => exact .none (fun _ => .rfl) (shown?_enter absent rfl)
  | moved found bare next => exact .none (fun _ => .rfl) (shown?_bare found bare next)
  | waited found bare next taken =>
      rw [custody.sound.eq_of_take_none taken]
      exact .none (fun _ => .rfl) (shown?_bare found bare next)
  | @took id _ work _ _ found bare taken =>
      obtain ⟨-, -, -, -, grounded, flying⟩ := custody.sound.take_some taken
      exact .taken id work.key grounded flying (shown?_of_bare found bare)
        (shown?_insert _ _ _ · _)
  | carried found taker =>
      have worker := custody.workers _ _ found
      simp [taker] at worker
  | looked found held | forgot found held =>
      exact .none (fun _ => .rfl) (shown?_stage found held rfl rfl)
  | @called _ _ work _ found held =>
      exact .none (fun _ => .rfl) (shown?_stage found held rfl
        (Stage.kept?_of_keepsKey (Stage.keepsKey_opening _ _ _) work))
  | @concluded _ _ work _ _ found held =>
      exact .none (fun _ => .rfl) (shown?_stage found held rfl
        (Stage.kept?_of_keepsKey (Stage.keepsKey_settling _) work))
  | @handled _ _ work _ _ _ _ _ found held goes =>
      exact .none (fun _ => .rfl) (shown?_stage found held rfl
        ((Stage.kept?_of_keepsKey (Stage.keepsKey_of_handled goes.next) work).trans
          (Stage.kept?_of_keepsKey goes.handling.keepsKey work).symm))
  | @released id _ work _ found held =>
      refine .released id work.key (by simp [Queue.release, and_comm]) ?_ fun other => ?_
      · exact shown?_of_held found held
      · rw [shown?_insert, Point.shows_of_bare (Point.held?_rest _ _)]
  | @yielded id _ work _ _ found held =>
      refine .released id work.key (by simp [Queue.release, and_comm]) ?_ fun other => ?_
      · exact shown?_of_held found held
      · rw [shown?_insert, Point.shows_of_held (Point.held?_holding _ _)]
        rfl
  | granted found held | returned found held | delayed found held | refused found held =>
      exact .none (by simp) (shown?_stage found held rfl rfl)
  | dropped found held | noted found held =>
      exact .none (by simp) (shown?_rest found held (Point.held?_rest _ _) rfl)

theorem sound_step (custody : before.Custody) (turn : Turn plan before action mark after) :
    after.queue.Sound := by
  have flying {id : Nat} {caller : Caller α ω} {work : Work α} {stage : Stage α ω}
      (found : before.callers.find? id = some caller)
      (held : caller.point.held? = some (work, stage)) (keeps : stage.keepsKey = true) :
      work.key ∈ before.queue.inFlight := by
    rw [custody.inFlight_iff]
    exact ⟨id, (shown?_of_held found held).trans (Stage.kept?_of_keepsKey keeps work)⟩
  cases turn with
  | announced | fired | returned => exact custody.sound.add _
  | closed => exact custody.sound.close
  | waited found bare next taken =>
      rw [custody.sound.eq_of_take_none taken]
      exact custody.sound
  | took found bare taken | carried found taker taken =>
      have kept := custody.sound.take
      rw [taken] at kept
      exact kept
  | released found held | yielded found held =>
      exact custody.sound.release (flying found held rfl)
  | quiet | ignored | received | suppressed | completed | entered | moved | looked | called
  | handled | concluded | forgot | granted | dropped | delayed | refused | noted =>
      exact custody.sound

/-- Whoever calls is a worker, since only workers come. -/
theorem workers_step (custody : before.Custody) (turn : Turn plan before action mark after)
    (id : Nat) (caller : Caller α ω) (found : after.callers.find? id = some caller) :
    caller.role = .worker := by
  have moved {other : Nat} {mover next : Caller α ω}
      (finds : before.callers.find? other = some mover)
      (after : (before.callers.insert other next).find? id = some caller)
      (role : next.role = mover.role) : caller.role = .worker := by
    rw [Table.find?_insert] at after
    split at after
    · rw [← Option.some.inj after, role]
      exact custody.workers other mover finds
    · exact custody.workers id caller after
  cases turn with
  | quiet | ignored | received | announced | suppressed | completed | fired | closed =>
      exact custody.workers id caller found
  | entered =>
      rw [Table.find?_insert] at found
      split at found
      · rw [← Option.some.inj found]
      · exact custody.workers id caller found
  | moved finds | waited finds | took finds | carried finds | looked finds | called finds
  | handled finds | concluded finds | forgot finds | released finds | yielded finds
  | granted finds | dropped finds | returned finds | delayed finds | refused finds
  | noted finds =>
      exact moved finds found rfl

omit [Resource α] in
theorem inFlight_iff_of_exchange (custody : before.Custody) (exchange : before.Exchange after)
    (key : Key) : key ∈ after.queue.inFlight ↔ ∃ id, after.Keeps id key := by
  cases exchange with
  | none flying kept => simp only [flying, Keeps, kept, custody.inFlight_iff]
  | taken id taken grounded flying bare kept =>
      rw [flying, custody.inFlight_iff]
      constructor
      · rintro (rfl | ⟨other, keeps⟩)
        · exact ⟨id, by simp [Keeps, kept]⟩
        · refine ⟨other, ?_⟩
          rw [Keeps, kept, if_neg]
          · exact keeps
          · rintro rfl
            simp [Keeps, bare] at keeps
      · rintro ⟨other, keeps⟩
        rw [Keeps, kept] at keeps
        split at keeps
        · exact .inl (Option.some.inj keeps).symm
        · exact .inr ⟨other, keeps⟩
  | released id freed flying keeps kept =>
      rw [flying, custody.inFlight_iff]
      constructor
      · rintro ⟨different, other, keepsToo⟩
        refine ⟨other, ?_⟩
        rw [Keeps, kept, if_neg]
        · exact keepsToo
        · rintro rfl
          exact different (Option.some.inj (keepsToo.symm.trans keeps))
      · rintro ⟨other, keepsToo⟩
        rw [Keeps, kept] at keepsToo
        split at keepsToo
        · simp at keepsToo
        next elsewhere =>
          refine ⟨?_, other, keepsToo⟩
          rintro rfl
          exact elsewhere (custody.alone id other _ keeps keepsToo)

omit [Resource α] in
theorem alone_of_exchange (custody : before.Custody) (exchange : before.Exchange after)
    (first second : Nat) (key : Key) (keepsFirst : after.Keeps first key)
    (keepsSecond : after.Keeps second key) : first = second := by
  cases exchange with
  | none flying kept =>
      rw [Keeps, kept] at keepsFirst keepsSecond
      exact custody.alone first second key keepsFirst keepsSecond
  | taken id taken grounded flying bare kept =>
      -- Nobody keeps the key that is taken, since it was not in flight.
      have notKept {other : Nat} (keeps : before.Keeps other taken) : False :=
        grounded ((custody.inFlight_iff taken).mpr ⟨other, keeps⟩)
      rw [Keeps, kept] at keepsFirst keepsSecond
      split at keepsFirst <;> split at keepsSecond
      next here there => exact here.symm.trans there
      next here there =>
        obtain rfl := Option.some.inj keepsFirst
        exact (notKept keepsSecond).elim
      next here there =>
        obtain rfl := Option.some.inj keepsSecond
        exact (notKept keepsFirst).elim
      next here there => exact custody.alone first second key keepsFirst keepsSecond
  | released id freed flying keeps kept =>
      rw [Keeps, kept] at keepsFirst keepsSecond
      split at keepsFirst
      · simp at keepsFirst
      split at keepsSecond
      · simp at keepsSecond
      exact custody.alone first second key keepsFirst keepsSecond

/-- A step keeps the keys in flight those that are kept, each by one caller. -/
theorem step (custody : before.Custody) (turn : Turn plan before action mark after) :
    after.Custody where
  sound := custody.sound_step turn
  workers := custody.workers_step turn
  inFlight_iff := custody.inFlight_iff_of_exchange (custody.exchange turn)
  alone := custody.alone_of_exchange (custody.exchange turn)

omit [Resource α] in
theorem start (world : ω) : ({ world } : System α ω).Custody where
  sound := .empty
  workers id caller found := by simp [Table.find?_empty] at found
  inFlight_iff key := by simp [Keeps, shown?, Table.find?_empty]
  alone id other key keeps := by simp [Keeps, shown?, Table.find?_empty] at keeps

end Custody

/-- Every run keeps the keys in flight those that are kept, each by one caller. -/
theorem custody_of_runs [Resource α] {plan : Plan α ω} {admits : Event α → Prop}
    {history : List (Mark α)} {system : System α ω} (run : Runs plan admits history system) :
    system.Custody :=
  run.keeps .start .step

/-- At most one reconciliation per key: in every run, no two callers are in a call of
the handler for one key, and a key that was handed out and is not yet released was
handed out to one caller only and is in flight. -/
theorem one_reconciliation_per_key [Resource α] {plan : Plan α ω} {admits : Event α → Prop}
    {history : List (Mark α)} {system : System α ω} (run : Runs plan admits history system) :
    (∀ id other key, system.InCall id key → system.InCall other key → id = other) ∧
      (∀ id other key, system.Keeps id key → system.Keeps other key → id = other) ∧
      ∀ key, key ∈ system.queue.inFlight ↔ ∃ id, system.Keeps id key := by
  have custody := custody_of_runs run
  refine ⟨?_, custody.alone, custody.inFlight_iff⟩
  intro id other key first second
  exact custody.alone id other key first.keeps second.keeps

/-- One worker is in a call for a pod that was removed meanwhile, and the other one
looked for something to do. -/
theorem one_reconciliation_per_key_while_parked :
    let pod : Pod := { metadata := { name := some "a", ns := some "ns" } }
    let key : Key := ⟨some "ns", "a"⟩
    let plan : Plan Pod Unit := { name := "pod", backoff := {}, handler := Pod.handler }
    let actions : List (Action Pod Unit) := [.enter 0 .worker, .enter 1 .worker,
      .receive {} (.applied pod), .passOn, .passOn, .advance 0, .advance 0, .advance 0, .advance 0,
      .receive {} (.removed pod), .passOn, .advance 1, .advance 1]
    ∃ history system,
      Runs plan (fun _ => True) history system ∧
        replay plan [] { world := () } actions = some (history, system) ∧
        system.queue.pending.contains key = true ∧ system.InCall 0 key ∧
        ∀ id, system.InCall id key → id = 0 := by
  intro pod key plan actions
  have occur : ∀ action ∈ actions, action.Occurs fun _ => True := by
    simp [actions, Action.Occurs, Enumeration.fair_default]
  have shows : (replay plan [] { world := () } actions).map (fun result =>
      (result.2.queue.pending.contains key, shown? Stage.calls? result.2.callers 0)) =
        some (true, some key) := by
    decide
  obtain ⟨⟨history, system⟩, replayed, shown⟩ := Option.map_eq_some_iff.mp shows
  obtain ⟨parked, call⟩ := Prod.mk.inj shown
  have run := (Runs.start ()).replay occur replayed
  refine ⟨history, system, run, replayed, parked, call, ?_⟩
  intro id other
  exact (one_reconciliation_per_key run).1 id 0 key other call

end System

end Reconciler
