import Mathlib.Logic.Function.Basic
import Reconciler.Proofs.RetryBudget

/-!
# Where the items of a key are

The docket of a key says which item is pending for it, which callers have an item of it in
their hands, and which of its items are delayed.  A caller that has given its item back and is
only about to write that down has nothing in its hands any more.

Most steps leave the docket of a key and its failures alone.  Unless a notification of the key
is accepted, these are all steps but those of the callers with its items, the steps that add
its delayed items, and the step of a caller that takes the pending item.
-/

namespace Reconciler

variable {α ω : Type}

/-- Where the items of a key are. -/
structure Docket (α ω : Type) where
  pending : Option (Work α) := none
  held : Nat → Option (Caller α ω) := fun _ => none
  delayed : Nat → Option (Delayed α) := fun _ => none

namespace Docket

/-- The only item is pending. -/
def waiting (work : Work α) : Docket α ω :=
  { pending := some work }

/-- The only item is in the hands of a caller. -/
def heldBy (id : Nat) (caller : Caller α ω) : Docket α ω :=
  { held := Function.update (fun _ => none) id (some caller) }

/-- The only item is delayed. -/
def postponed (ticket : Nat) (item : Delayed α) : Docket α ω :=
  { delayed := Function.update (fun _ => none) ticket (some item) }

end Docket

/-- Whether a caller has an item of a key in its hands. -/
def Caller.bears (key : Key) (caller : Caller α ω) : Bool :=
  caller.point.shows Stage.carried? = some key

theorem Caller.bears_of_held {caller : Caller α ω} {work : Work α} {stage : Stage α ω} {key : Key}
    (held : caller.point.held? = some (work, stage)) :
    caller.bears key = true ↔ stage.carried? work = some key := by
  rw [bears, decide_eq_true_iff, Point.shows_of_held held]

theorem Caller.bears_of_bare {caller : Caller α ω} {key : Key} (bare : caller.point.held? = none) :
    caller.bears key = false := by
  simp [bears, Point.shows_of_bare bare]

theorem Caller.bears_handed (role : Role) (resumes : Nat) (work : Work α) :
    ({ role, point := .holding work .handed, resumes } : Caller α ω).bears work.key = true :=
  (bears_of_held (Point.held?_holding _ _)).mpr rfl

/-- Whatever the stage, an item in somebody's hands is carried for its own key. -/
theorem Stage.key_of_carried? {work : Work α} {stage : Stage α ω} {key : Key}
    (carried : stage.carried? work = some key) : work.key = key := by
  cases stage with
  | noting => cases carried
  | _ => exact Option.some.inj carried

namespace System

/-- The callers with an item of a key in their hands. -/
def bearers (key : Key) (callers : Table Nat (Caller α ω)) (id : Nat) : Option (Caller α ω) :=
  (callers.find? id).filter (Caller.bears key)

/-- The delayed items of a key. -/
def tickets (key : Key) (delayed : Table Nat (Delayed α)) (ticket : Nat) : Option (Delayed α) :=
  (delayed.find? ticket).filter fun item => item.work.key = key

def docket (system : System α ω) (key : Key) : Docket α ω where
  pending := system.queue.pending.find? key
  held := bearers key system.callers
  delayed := tickets key system.delayed

variable {key : Key} {callers : Table Nat (Caller α ω)} {id : Nat} {caller next : Caller α ω}
  {delayed : Table Nat (Delayed α)} {ticket : Nat} {item : Delayed α}

theorem bearers_eq_some_iff :
    bearers key callers id = some caller ↔
      callers.find? id = some caller ∧ caller.bears key = true := by
  simp [bearers, Option.filter_eq_some_iff]

theorem exists_bearers_of_mem (nodup : callers.keys.Nodup) (member : caller ∈ callers.values)
    (bears : caller.bears key = true) : ∃ id, bearers key callers id = some caller := by
  obtain ⟨id, found⟩ := Table.exists_find?_of_mem_values nodup member
  exact ⟨id, bearers_eq_some_iff.mpr ⟨found, bears⟩⟩

theorem bearers_eq_none (bare : ∀ caller ∈ callers.values, caller.bears key = false) :
    bearers key callers = fun _ => none := by
  funext id
  rw [Option.eq_none_iff_forall_not_mem]
  intro caller held
  obtain ⟨found, bears⟩ := bearers_eq_some_iff.mp held
  cases (bare caller (Table.mem_values_of_find? found)).symm.trans bears

theorem bearers_insert (key : Key) (callers : Table Nat (Caller α ω)) (id : Nat)
    (next : Caller α ω) :
    bearers key (callers.insert id next) =
      Function.update (bearers key callers) id (if next.bears key then some next else none) := by
  funext other
  rw [bearers, Table.find?_insert, Function.update_apply]
  by_cases same : id = other
  · subst same
    simp [Option.filter]
  · rw [if_neg same, if_neg (Ne.symm same)]
    rfl

/-- A caller with nothing of a key in its hands may do as it likes if it takes nothing. -/
theorem bearers_insert_bare (apart : bearers key callers id = none)
    (bare : next.bears key = false) :
    bearers key (callers.insert id next) = bearers key callers := by
  rw [bearers_insert, if_neg (by simp [bare]), ← apart, Function.update_eq_self]

theorem tickets_eq_some_iff :
    tickets key delayed ticket = some item ↔
      delayed.find? ticket = some item ∧ item.work.key = key := by
  simp [tickets, Option.filter_eq_some_iff]

theorem exists_tickets_of_mem (nodup : delayed.keys.Nodup) (member : item ∈ delayed.values)
    (own : item.work.key = key) : ∃ ticket, tickets key delayed ticket = some item := by
  obtain ⟨ticket, found⟩ := Table.exists_find?_of_mem_values nodup member
  exact ⟨ticket, tickets_eq_some_iff.mpr ⟨found, own⟩⟩

theorem tickets_insert (key : Key) (delayed : Table Nat (Delayed α)) (ticket : Nat)
    (item : Delayed α) :
    tickets key (delayed.insert ticket item) =
      Function.update (tickets key delayed) ticket
        (if item.work.key = key then some item else none) := by
  funext other
  rw [tickets, Table.find?_insert, Function.update_apply]
  by_cases same : ticket = other
  · subst same
    simp [Option.filter]
  · rw [if_neg same, if_neg (Ne.symm same)]
    rfl

theorem tickets_erase (key : Key) (delayed : Table Nat (Delayed α)) (ticket : Nat) :
    tickets key (delayed.erase ticket) = Function.update (tickets key delayed) ticket none := by
  funext other
  rw [tickets, Table.find?_erase, Function.update_apply]
  by_cases same : ticket = other
  · subst same
    simp
  · rw [if_neg same, if_neg (Ne.symm same)]
    rfl

theorem bearers_entered (absent : callers.find? id = none) (bare : next.point.held? = none) :
    bearers key (callers.insert id next) = bearers key callers := by
  refine bearers_insert_bare ?_ (Caller.bears_of_bare bare)
  rw [bearers, absent]
  rfl

section

variable {system : System α ω} {work : Work α}

theorem docket_eq_empty_iff :
    system.docket key = {} ↔
      system.queue.pending.find? key = none ∧ (bearers key system.callers = fun _ => none) ∧
        tickets key system.delayed = fun _ => none := by
  simp [docket]

theorem docket_eq_waiting_iff :
    system.docket key = .waiting work ↔
      system.queue.pending.find? key = some work ∧ (bearers key system.callers = fun _ => none) ∧
        tickets key system.delayed = fun _ => none := by
  simp [docket, Docket.waiting]

theorem docket_eq_heldBy_iff :
    system.docket key = .heldBy id caller ↔
      system.queue.pending.find? key = none ∧
        bearers key system.callers = Function.update (fun _ => none) id (some caller) ∧
        tickets key system.delayed = fun _ => none := by
  simp [docket, Docket.heldBy]

theorem docket_eq_postponed_iff :
    system.docket key = .postponed ticket item ↔
      system.queue.pending.find? key = none ∧ (bearers key system.callers = fun _ => none) ∧
        tickets key system.delayed = Function.update (fun _ => none) ticket (some item) := by
  simp [docket, Docket.postponed]

theorem Spent.docket (spent : system.Spent key) : system.docket key = {} := by
  refine docket_eq_empty_iff.mpr ⟨spent.pending, bearers_eq_none ?_, ?_⟩
  · exact fun caller member => decide_eq_false (spent.callers caller member)
  · funext ticket
    rw [Option.eq_none_iff_forall_not_mem]
    intro item waits
    obtain ⟨found, own⟩ := tickets_eq_some_iff.mp waits
    exact spent.delayed item (Table.mem_values_of_find? found) own

theorem spent_of_docket (nodup : system.callers.keys.Nodup) (numbered : system.Numbered)
    (empty : system.docket key = {}) : system.Spent key := by
  obtain ⟨pending, bearers, tickets⟩ := docket_eq_empty_iff.mp empty
  refine ⟨pending, ?_, ?_⟩
  · intro caller member bears
    obtain ⟨id, held⟩ := exists_bearers_of_mem nodup member (decide_eq_true bears)
    cases (congrFun bearers id).symm.trans held
  · intro item member own
    obtain ⟨ticket, waits⟩ := exists_tickets_of_mem numbered.nodup member own
    cases (congrFun tickets ticket).symm.trans waits

end

/-! ## Steps that leave a docket alone -/

variable {before after : System α ω} {work : Work α} {stage : Stage α ω}

theorem docket_eq (pending : after.queue.pending.find? key = before.queue.pending.find? key)
    (held : bearers key after.callers = bearers key before.callers)
    (delayed : tickets key after.delayed = tickets key before.delayed) :
    after.docket key = before.docket key := by
  rw [docket, docket, pending, held, delayed]

/-- Whoever has nothing of a key in its hands, but an item, has one of another key. -/
theorem apart_of_bearers (unheld : bearers key callers id = none)
    (found : callers.find? id = some caller) (held : caller.point.held? = some (work, stage))
    (carried : stage.carried? work = some work.key) : work.key ≠ key := by
  rintro rfl
  have bears : bearers work.key callers id = some caller :=
    bearers_eq_some_iff.mpr ⟨found, (Caller.bears_of_held held).mpr carried⟩
  cases unheld.symm.trans bears

theorem bearers_stage (unheld : bearers key callers id = none)
    (found : callers.find? id = some caller) (held : caller.point.held? = some (work, stage))
    (carried : stage.carried? work = some work.key) {nextStage : Stage α ω}
    (stillHeld : next.point.held? = some (work, nextStage)) :
    bearers key (callers.insert id next) = bearers key callers := by
  have apart := apart_of_bearers unheld found held carried
  refine bearers_insert_bare unheld ?_
  rw [Bool.eq_false_iff, Ne, Caller.bears_of_held stillHeld]
  intro bears
  exact apart (Stage.key_of_carried? bears)

variable [Resource α] {plan : Plan α ω} {action : Action α ω} {mark : Option (Mark α)}

/-- Unless a notification of a key is accepted, its items are left where they are by all but
their callers and their timers, but for the one that is pending, which may be taken. -/
theorem docket_of_turn (custody : before.Custody) (numbered : before.Numbered)
    (isOpen : before.queue.closed = false) (turn : Turn plan before action mark after)
    (unannounced : before.booking? plan action ≠ some (key, .accepted))
    (unmoved : ∀ id, action = .advance id → bearers key before.callers id = none)
    (unfired : ∀ ticket, action = .fire ticket → tickets key before.delayed ticket = none) :
    after.limiter.failures key = before.limiter.failures key ∧
      (after.docket key = before.docket key ∨
        ∃ id caller work, action = .advance id ∧ before.callers.find? id = some caller ∧
          (before.docket key).pending = some work ∧
          after.docket key =
            { before.docket key with
              pending := none
              held := Function.update (before.docket key).held id
                (some { caller with point := .holding work .handed }) }) := by
  cases turn with
  | quiet | ignored | received | suppressed | completed | closed => exact ⟨rfl, .inl rfl⟩
  | @announced other change _ _ _ work _ told item =>
      have listed : before.booking? plan .passOn = some (other, .accepted) := by
        simp [booking?, told, isOpen, item]
      have apart : work.key ≠ key := by
        rw [Work.key_of_ofChange? item]
        rintro rfl
        exact unannounced listed
      exact ⟨rfl, .inl (docket_eq ((Queue.find?_add isOpen ..).trans (if_neg apart)) rfl rfl)⟩
  | entered absent => exact ⟨rfl, .inl (docket_eq rfl (bearers_entered absent rfl) rfl)⟩
  | @fired ticket delayed _ found =>
      have apart : delayed.work.key ≠ key := by
        intro same
        cases (unfired ticket rfl).symm.trans (tickets_eq_some_iff.mpr ⟨found, same⟩)
      refine ⟨rfl, .inl (docket_eq ((Queue.find?_add isOpen ..).trans (if_neg apart)) rfl ?_)⟩
      rw [tickets_erase, ← unfired ticket rfl, Function.update_eq_self]
  | moved found bare stillBare =>
      refine ⟨rfl, .inl (docket_eq rfl
        (bearers_insert_bare ?_ (Caller.bears_of_bare stillBare)) rfl)⟩
      rw [bearers, found]
      simp [Option.filter, Caller.bears_of_bare bare]
  | waited found bare stillBare taken =>
      obtain rfl := custody.sound.eq_of_take_none taken
      exact ⟨rfl, .inl (docket_eq rfl
        (bearers_insert_bare (unmoved _ rfl) (Caller.bears_of_bare stillBare)) rfl)⟩
  | @took id caller work _ _ found bare taken =>
      -- The one exception: the first ready item may be one of the key.
      obtain ⟨-, -, waits, pending, -⟩ := custody.sound.take_some taken
      refine ⟨rfl, ?_⟩
      by_cases same : work.key = key
      · subst same
        refine .inr ⟨id, caller, work, rfl, found, waits, ?_⟩
        simp only [docket, pending, bearers_insert, Caller.bears_handed, if_true]
      · left
        refine docket_eq ((pending key).trans (if_neg same))
          (bearers_insert_bare (unmoved id rfl) ?_) rfl
        rw [Bool.eq_false_iff, Ne, Caller.bears_of_held (Point.held?_holding _ _)]
        intro bears
        exact same (Stage.key_of_carried? bears)
  | carried found taker =>
      have worker := custody.workers _ _ found
      simp [taker] at worker
  | looked found held | called found held | concluded found held | yielded found held =>
      exact ⟨rfl, .inl (docket_eq rfl
        (bearers_stage (unmoved _ rfl) found held rfl (Point.held?_holding _ _)) rfl)⟩
  | handled found held goes =>
      exact ⟨rfl, .inl (docket_eq rfl
        (bearers_stage (unmoved _ rfl) found held goes.carried.1 (Point.held?_holding _ _)) rfl)⟩
  | forgot found held =>
      have apart := apart_of_bearers (unmoved _ rfl) found held rfl
      exact ⟨(Limiter.failures_forget ..).trans (if_neg apart), .inl (docket_eq rfl
        (bearers_stage (unmoved _ rfl) found held rfl (Point.held?_holding _ _)) rfl)⟩
  | released found held =>
      exact ⟨rfl, .inl (docket_eq rfl
        (bearers_insert_bare (unmoved _ rfl) (Caller.bears_of_bare (Point.held?_rest _ _))) rfl)⟩
  | granted found held weighed =>
      have apart := apart_of_bearers (unmoved _ rfl) found held rfl
      exact ⟨Limiter.failures_elsewhere weighed apart, .inl (docket_eq rfl
        (bearers_stage (unmoved _ rfl) found held rfl (Point.held?_holding _ _)) rfl)⟩
  | dropped found held weighed =>
      have apart := apart_of_bearers (unmoved _ rfl) found held rfl
      exact ⟨Limiter.failures_elsewhere weighed apart, .inl (docket_eq rfl
        (bearers_insert_bare (unmoved _ rfl) (Caller.bears_of_bare (Point.held?_rest _ _))) rfl)⟩
  | returned found held =>
      have apart := apart_of_bearers (unmoved _ rfl) found held rfl
      exact ⟨rfl, .inl (docket_eq ((Queue.find?_add isOpen ..).trans (if_neg apart))
        (bearers_stage (unmoved _ rfl) found held rfl (Point.held?_holding _ _)) rfl)⟩
  | delayed found held =>
      have apart := apart_of_bearers (unmoved _ rfl) found held rfl
      refine ⟨rfl, .inl (docket_eq rfl
        (bearers_stage (unmoved _ rfl) found held rfl (Point.held?_holding _ _)) ?_)⟩
      have fresh : tickets key before.delayed before.issued = none := by
        rw [tickets, numbered.fresh]
        rfl
      rw [tickets_insert, if_neg apart, ← fresh, Function.update_eq_self]
  | refused _ _ _ closed => cases isOpen.symm.trans closed
  | noted found held =>
      exact ⟨rfl, .inl (docket_eq rfl
        (bearers_insert_bare (unmoved _ rfl) (Caller.bears_of_bare (Point.held?_rest _ _))) rfl)⟩

end System

end Reconciler
