import Reconciler.Proofs.Course

/-!
# Shutting down

A service that is told to stop closes its queue.  From then on nobody is handed an item,
whoever holds one settles it, and when all workers have left nothing is in flight and
nothing changes the queue any more: notifications and delayed items come too late.
-/

namespace Reconciler

variable {α ω : Type} [Resource α]

namespace System

variable {plan : Plan α ω} {before after system : System α ω} {action : Action α ω}
  {mark : Option (Mark α)} {id : Nat} {work : Work α}

/-- A caller holds an item: it was handed out to it and is not settled yet. -/
def Holds (system : System α ω) (id : Nat) (work : Work α) : Prop :=
  shown? Stage.item? system.callers id = some work

/-- Nobody is handed an item by a closed queue. -/
theorem Turn.not_handed (turn : Turn plan before action (some (.handed id work)) after) :
    before.queue.closed = false := by
  cases closed : before.queue.closed with
  | false => rfl
  | true =>
      cases turn with
      | took _ _ taken | carried _ _ taken =>
          rw [Queue.take_of_closed closed] at taken
          cases taken

theorem Turn.holds (turn : Turn plan before action mark after)
    (closed : before.queue.closed = true) (holds : after.Holds id work) :
    before.Holds id work := by
  rcases item_of_turn turn holds with held | rfl
  · exact held
  · cases turn.not_handed.symm.trans closed

/-- Only callers change a closed queue. -/
theorem Turn.queue_eq (turn : Turn plan before action mark after)
    (closed : before.queue.closed = true) (noClose : action ≠ .close)
    (noAdvance : ∀ id, action ≠ .advance id) : after.queue = before.queue := by
  cases turn with
  | announced | fired => exact Queue.add_of_closed closed _
  | closed => exact (noClose rfl).elim
  | quiet | ignored | received | suppressed | completed | entered | moved => rfl
  | waited | took | carried | looked | called | handled | concluded | forgot | released
  | yielded | granted | dropped | returned | delayed | refused | noted =>
      exact (noAdvance _ rfl).elim

omit [Resource α] in
theorem Keeps.holds {key : Key} (keeps : system.Keeps id key) : ∃ work, system.Holds id work := by
  obtain ⟨caller, work, stage, found, held, -⟩ := exists_held_of_shown? keeps
  exact ⟨work, shown?_of_held found held⟩

omit [Resource α] in
/-- If nobody holds an item, no key is in flight. -/
theorem Custody.inFlight_eq_nil (custody : system.Custody)
    (settled : ∀ id work, ¬system.Holds id work) : system.queue.inFlight = [] := by
  apply List.eq_nil_iff_forall_not_mem.mpr
  intro key flies
  obtain ⟨id, keeps⟩ := (custody.inFlight_iff key).mp flies
  obtain ⟨work, holds⟩ := keeps.holds
  exact settled id work holds

omit [Resource α] in
theorem not_holds_of_left
    (left : ∀ id caller, system.callers.find? id = some caller → caller.hasLeft = true)
    (id : Nat) (work : Work α) : ¬system.Holds id work := by
  intro holds
  obtain ⟨caller, other, stage, found, held, -⟩ := exists_held_of_shown? holds
  have gone := left id caller found
  rw [Caller.hasLeft, Point.eq_holding held] at gone
  cases gone

end System

namespace Service

variable {plan : Plan α ω} {settings : Settings} {service after final : Service α ω}
  {moves : List (Move α ω)} {move : Move α ω}

theorem holds_of_turn (orderly : service.Orderly plan settings)
    (closed : service.system.queue.closed = true) (turn : Turn plan service move after)
    {id : Nat} {work : Work α} (holds : after.system.Holds id work) :
    service.system.Holds id work := by
  obtain ⟨action, mark, stepped, -⟩ := turn.system orderly.absent_new
  exact stepped.holds closed holds

/-- In a closed queue's service items are only ever put down. -/
theorem holds_of_run (orderly : service.Orderly plan settings)
    (closed : service.system.queue.closed = true) (ran : run plan service moves = some final)
    {id : Nat} {work : Work α} (holds : final.system.Holds id work) :
    service.system.Holds id work := by
  have kept := run_induction
    (motive := fun _ last => last.Orderly plan settings ∧ last.system.queue.closed = true ∧
      (last.system.Holds id work → service.system.Holds id work))
    ⟨orderly, closed, fun held => held⟩
    (fun _ ⟨orderly, closed, held⟩ turn => ⟨orderly.step turn, turn.staysClosed closed,
      fun holds => held (holds_of_turn orderly closed turn holds)⟩) moves ran
  exact kept.2.2 holds

/-! ## Settling what is in flight -/

namespace Course

variable {course : Course plan} (begins : (course.state 0).Orderly plan settings)
  (closed : (course.state 0).system.queue.closed = true)

include begins closed in
theorem holds_earlier {n m : Nat} (later : n ≤ m) {id : Nat} {work : Work α}
    (holds : (course.state m).system.Holds id work) : (course.state n).system.Holds id work := by
  induction m, later using Nat.le_induction with
  | base => exact holds
  | succ m _ ih =>
      exact ih (holds_of_turn (orderly begins m) (Course.closed closed m) (course.turn m) holds)

include begins closed in
theorem exists_settled (fair : course.Fair) (id : Nat) :
    ∃ n, ∀ m, n ≤ m → ∀ work, ¬(course.state m).system.Holds id work := by
  by_cases held : ∃ work, (course.state 0).system.Holds id work
  · obtain ⟨work, holds⟩ := held
    obtain ⟨caller, held, stage, found, holding, -⟩ := System.exists_held_of_shown? holds
    obtain ⟨n, -, next, finds, bare⟩ := exists_bare begins closed fair found holding
    refine ⟨n, fun m later work holds => ?_⟩
    have still := holds_earlier begins closed later holds
    rw [System.Holds, System.shown?_of_bare finds bare] at still
    cases still
  · refine ⟨0, fun m later work holds => held ⟨work, ?_⟩⟩
    exact holds_earlier begins closed later holds

include begins closed in
/-- After some time nobody holds an item any more, and no key is in flight. -/
theorem exists_all_settled (fair : course.Fair) :
    ∃ n, ∀ m, n ≤ m → (course.state m).system.queue.inFlight = [] ∧
      ∀ id work, ¬(course.state m).system.Holds id work := by
  have together (ids : List Nat) : ∃ n, ∀ m, n ≤ m → ∀ id ∈ ids, ∀ work,
      ¬(course.state m).system.Holds id work := by
    induction ids with
    | nil => exact ⟨0, fun m _ id member => nomatch member⟩
    | cons id ids ih =>
        obtain ⟨first, settled⟩ := exists_settled begins closed fair id
        obtain ⟨second, others⟩ := ih
        refine ⟨max first second, fun m later other member => ?_⟩
        rcases List.mem_cons.mp member with rfl | member
        · exact settled m (by omega)
        · exact others m (by omega) other member
  obtain ⟨n, settled⟩ := together (course.state 0).system.callers.keys
  refine ⟨n, fun m later => ?_⟩
  have nobody : ∀ id work, ¬(course.state m).system.Holds id work := by
    intro id work holds
    by_cases member : id ∈ (course.state 0).system.callers.keys
    · exact settled m later id member work holds
    · -- Whoever had not come by then never holds anything.
      have holdsFirst := holds_earlier begins closed (Nat.zero_le m) holds
      have absent : (course.state 0).system.callers.find? id = none :=
        Table.lookup_eq_none member
      rw [System.Holds, System.shown?, absent] at holdsFirst
      cases holdsFirst
  exact ⟨(orderly begins m).custody.inFlight_eq_nil nobody, nobody⟩

end Course

/-! ## The end -/

theorem Turn.outcome (turn : Turn plan service move after) {result : Except Failure Unit}
    (known : service.control.progress.outcome? = some result) :
    after.control.progress.outcome? = some result := by
  cases turn with
  | acted | told | came => exact known
  | opened progress | failed progress | stopped progress | closed progress | woke progress
  | emptied progress =>
      rw [progress] at known
      cases known
  | ended progress =>
      rw [progress] at known
      exact known

/-- When all workers have left, nothing changes the queue any more. -/
theorem Turn.queue_eq (turn : Turn plan service move after)
    (orderly : service.Orderly plan settings)
    (served : service.control.progress.outcome? = some (.ok ())) :
    after.system.queue = service.system.queue := by
  have closed : service.system.queue.closed = true := by
    rw [orderly.closed]
    exact Progress.hasClosed_of_ok served
  obtain ⟨absent, left⟩ := orderly.served served
  cases turn with
  | @acted action _ permitted acted =>
      obtain ⟨mark, turn⟩ := turn_of_permitted permitted acted
      apply turn.queue_eq closed (ne_of_permitted permitted).2.2
      rintro id rfl
      have stuck : service.system.advance plan id = none := System.advance_of_left (left id)
      cases stuck.symm.trans acted
  | closed closing =>
      rw [closing] at served
      cases served
  | _ => rfl

omit [Resource α] in
theorem settled_of_served (orderly : service.Orderly plan settings)
    (served : service.control.progress.outcome? = some (.ok ())) :
    service.system.queue.inFlight = [] ∧ ∀ id key, ¬service.system.InCall id key := by
  have nobody := System.not_holds_of_left (orderly.served served).2
  refine ⟨orderly.custody.inFlight_eq_nil nobody, ?_⟩
  intro id key call
  obtain ⟨work, holds⟩ := call.keeps.holds
  exact nobody id work holds

theorem served_of_run (orderly : service.Orderly plan settings)
    (served : service.control.progress.outcome? = some (.ok ()))
    (ran : run plan service moves = some final) :
    final.system.queue = service.system.queue ∧
      final.control.progress.outcome? = some (.ok ()) ∧ final.Orderly plan settings :=
  run_induction
    (motive := fun _ last => last.system.queue = service.system.queue ∧
      last.control.progress.outcome? = some (.ok ()) ∧ last.Orderly plan settings)
    ⟨rfl, served, orderly⟩
    (fun _ ⟨queue, served, orderly⟩ turn =>
      ⟨(turn.queue_eq orderly served).trans queue, turn.outcome served, orderly.step turn⟩)
    moves ran

/-- A service shuts down cleanly.  Once its queue is closed, nobody is handed an item,
and on every fair course whatever is held is settled and its key released.  Once its
result is known and good, no call of the handler is going on and no key is in flight;
from then on no call begins, and nothing changes the queue. -/
theorem shuts_down_cleanly {world : ω}
    (ran : run plan (start plan settings { world }) moves = some service) :
    (service.system.queue.closed = true →
        (∀ later final, run plan service later = some final →
          ∀ id work, final.system.Holds id work → service.system.Holds id work) ∧
        ∀ course : Course plan, course.state 0 = service → course.Fair →
          ∃ n, ∀ m, n ≤ m → (course.state m).system.queue.inFlight = [] ∧
            ∀ id work, ¬(course.state m).system.Holds id work) ∧
      (service.control.progress.outcome? = some (.ok ()) →
        (service.system.queue.inFlight = [] ∧ ∀ id key, ¬service.system.InCall id key) ∧
        ∀ later final, run plan service later = some final →
          final.system.queue = service.system.queue ∧
            ∀ id key, ¬final.system.InCall id key) := by
  have orderly := orderly_of_run (Orderly.start plan settings world) ran
  constructor
  · intro closed
    constructor
    · intro later final ran id work holds
      exact holds_of_run orderly closed ran holds
    · rintro course rfl fair
      exact course.exists_all_settled orderly closed fair
  · intro served
    refine ⟨settled_of_served orderly served, ?_⟩
    intro later final ran
    obtain ⟨queue, stillServed, stillOrderly⟩ := served_of_run orderly served ran
    exact ⟨queue, (settled_of_served stillOrderly stillServed).2⟩

/-- The queue is closed while a worker is in a call for a pod.  The call is brought to its
end, and a notification that comes after the end changes nothing. -/
theorem shuts_down_cleanly_in_call :
    let pod : Pod := { metadata := { name := some "a", ns := some "ns" } }
    let plan : Plan Pod Unit := { name := "pod", backoff := {}, handler := Pod.handler }
    let first := start plan {} { world := () }
    let passing (event : Event Pod) : List (Move Pod Unit) :=
      [.act (.receive {} event), .act .passOn]
    let moves : List (Move Pod Unit) := passing .listingStarted ++ passing (.listed pod) ++
      passing .listingDone ++ [.act .passOn, .notice .synced, .callWorker] ++
      List.replicate 4 (.act (.advance 0)) ++ [.stop, .proceed, .proceed]
    let ending : List (Move Pod Unit) := [.proceed, .callWorker] ++
      List.replicate 9 (.act (.advance 0)) ++ List.replicate 2 (.act (.advance 1)) ++ [.proceed]
    (∃ service, run plan first moves = some service ∧
      service.system.Holds 0 ⟨⟨some "ns", "a"⟩, .add, none⟩ ∧
      ∃ course : Course plan, course.state 0 = service ∧
        ∃ n, ∀ m, n ≤ m → (course.state m).system.queue.inFlight = []) ∧
    ∃ service final, run plan first (moves ++ ending) = some service ∧
      run plan service (passing (.removed pod)) = some final ∧
      final.system.queue = service.system.queue := by
  intro pod plan first passing moves ending
  have closes : (run plan first moves).map (fun service =>
      (service.system.queue.closed, System.shown? Stage.item? service.system.callers 0)) =
      some (true, some ⟨⟨some "ns", "a"⟩, .add, none⟩) := by
    decide
  have ends : (run plan first (moves ++ ending)).map (fun service =>
      service.control.progress.outcome?) = some (some (.ok ())) := by
    decide
  have continues : ((run plan first (moves ++ ending)).bind fun service =>
      run plan service (passing (.removed pod))).isSome = true := by
    decide
  obtain ⟨closing, ranClosing, found⟩ := Option.map_eq_some_iff.mp closes
  obtain ⟨closed, holds⟩ := Prod.mk.inj found
  obtain ⟨ended, ranEnded, served⟩ := Option.map_eq_some_iff.mp ends
  obtain ⟨final, ranFinal⟩ := Option.isSome_iff_exists.mp continues
  obtain ⟨other, ranOther, ranFinal⟩ := Option.bind_eq_some_iff.mp ranFinal
  obtain rfl := Option.some.inj (ranEnded.symm.trans ranOther)
  obtain ⟨course, begins, fair⟩ := Course.exists_fair plan closing
  constructor
  · obtain ⟨n, settled⟩ := ((shuts_down_cleanly ranClosing).1 closed).2 course begins fair
    exact ⟨closing, ranClosing, holds, course, begins, n, fun m later => (settled m later).1⟩
  · obtain ⟨queue, -⟩ := ((shuts_down_cleanly ranEnded).2 served).2 _ final ranFinal
    exact ⟨ended, final, ranEnded, ranFinal, queue⟩

end Service

end Reconciler
