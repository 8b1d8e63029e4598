import Reconciler.Pod
import Reconciler.Proofs.Addressing
import Reconciler.Proofs.Turn
import Reconciler.Service

/-!
# The results of a watch

A watch brings events, and now and then a failure.  A failure cannot be used, and neither
can an event about an object without a name.  The watching side takes one result after
the other, passes on all changes of each, and ends with the watch.

What cannot be used leaves nothing behind but a report.  The proof follows the watching
side along a stream and along the same stream without such results: all the while the one
system is the other one with some reports added to its journal.
-/

namespace Reconciler

variable {α ω : Type}

/-- What a watch brings.  An event comes with the order in which the cache enumerates its
objects meanwhile. -/
inductive WatchResult (α : Type)
  | brought (order : Enumeration α) (event : Event α)
  | failed (failure : WatchFailure)

namespace WatchResult

variable [Resource α]

/-- Whether a result is an event and its object, if it is about one, has a name. -/
def isUsable : WatchResult α → Bool
  | .brought _ event =>
      event.object?.all fun object => (nonEmpty? (Resource.metadata object).name).isSome
  | .failed _ => false

/-- The line that reports a result which cannot be used. -/
def report? (plan : Plan α ω) : WatchResult α → Option Line
  | .brought _ event =>
      match event.object?.map identify with
      | some (.error failure) =>
          some ⟨.error, plan.name ++ " controller dropped notification" ++ ": " ++ failure.message⟩
      | _ => none
  | .failed failure =>
      some ⟨.error, plan.name ++ " controller watch failed" ++ ": " ++ failure.message⟩

theorem report?_eq_none_iff (plan : Plan α ω) (result : WatchResult α) :
    result.report? plan = none ↔ result.isUsable = true := by
  cases result with
  | failed failure => simp [report?, isUsable]
  | brought order event =>
      rw [report?, isUsable]
      cases event.object? with
      | none => simp
      | some object =>
          rw [Option.map_some, Option.all_some, identify, Metadata.key, Metadata.key?]
          cases nonEmpty? (Resource.metadata object).name <;> simp

end WatchResult

namespace System

variable [Resource α]

def passMany (plan : Plan α ω) : Nat → System α ω → System α ω
  | 0, system => system
  | steps + 1, system => passMany plan steps ((system.passOn plan).getD system)

/-- The number of steps until the next result can be taken. -/
def backlog (system : System α ω) : Nat :=
  match system.relay with
  | .idle => 0
  | .passing changes _ _ => changes.length + 1

def takeResult (plan : Plan α ω) (system : System α ω) : WatchResult α → System α ω
  | .brought order event => system.receive plan order event
  | .failed failure => system.receiveFailure plan failure

def settleResult (plan : Plan α ω) (system : System α ω) (result : WatchResult α) :
    System α ω :=
  let taken := system.takeResult plan result
  passMany plan taken.backlog taken

def follow (plan : Plan α ω) (system : System α ω) (stream : List (WatchResult α)) :
    System α ω :=
  stream.foldl (settleResult plan) system

end System

namespace Service

variable [Resource α]

/-- The service after its watching side has followed a watch to its end. -/
def watch (plan : Plan α ω) (service : Service α ω) (stream : List (WatchResult α)) :
    Service α ω :=
  { service.unfollow with
    system := (service.system.follow plan stream).write .warn
      (plan.name ++ " controller watch stream ended") }

def Move.result? : Move α ω → Option (WatchResult α)
  | .act (.receive order event) => some (.brought order event)
  | .act (.receiveFailure failure) => some (.failed failure)
  | _ => none

def Move.isWatching : Move α ω → Bool
  | .act (.receive ..) | .act (.receiveFailure _) | .act .passOn | .endWatch => true
  | _ => false

/-- The watching side leads from one state of a service to another and takes these results
meanwhile. -/
def Watches (plan : Plan α ω) (service : Service α ω) (stream : List (WatchResult α))
    (after : Service α ω) : Prop :=
  ∃ moves, run plan service moves = some after ∧ moves.filterMap Move.result? = stream ∧
    ∀ move ∈ moves, move.isWatching = true

end Service

/-! ## The watching side comes to the end of a watch -/

section

variable {plan : Plan α ω}

theorem System.relay_eq_idle_iff (system : System α ω) :
    system.relay = .idle ↔ system.backlog = 0 := by
  unfold backlog
  cases system.relay <;> simp

variable [Resource α]

theorem System.exists_passOn (plan : Plan α ω) {system : System α ω} {steps : Nat}
    (busy : system.backlog = steps + 1) :
    ∃ after, system.passOn plan = some after ∧ after.backlog = steps := by
  unfold System.backlog at busy
  unfold System.passOn
  cases relay : system.relay with
  | idle => simp [relay] at busy
  | passing changes enqueued listing =>
      simp only [relay, Nat.add_right_cancel_iff] at busy
      subst busy
      cases changes with
      | nil => cases listing <;> exact ⟨_, rfl, rfl⟩
      | cons change changes =>
          cases item : Work.ofChange? change.1 change.2 <;> simp [item, System.backlog]

theorem System.relay_passMany (plan : Plan α ω) {system : System α ω} {steps : Nat}
    (backlog : system.backlog = steps) : (system.passMany plan steps).relay = .idle := by
  induction steps generalizing system with
  | zero => exact system.relay_eq_idle_iff.mpr backlog
  | succ steps ih =>
      obtain ⟨after, passed, less⟩ := exists_passOn plan backlog
      rw [passMany, passed]
      exact ih less

theorem System.relay_settleResult (plan : Plan α ω) (system : System α ω)
    (result : WatchResult α) : (system.settleResult plan result).relay = .idle :=
  relay_passMany plan rfl

theorem System.relay_follow (plan : Plan α ω) {system : System α ω} (idle : system.relay = .idle)
    (stream : List (WatchResult α)) : (system.follow plan stream).relay = .idle := by
  induction stream generalizing system with
  | nil => exact idle
  | cons result stream ih => exact ih (relay_settleResult plan system result)

namespace Service

variable {service after last : Service α ω} {stream later : List (WatchResult α)}

theorem Watches.move {move : Move α ω} (moved : act plan service move = some after)
    (watching : move.isWatching = true) :
    Watches plan service move.result?.toList after := by
  refine ⟨[move], ?_, ?_, by simpa using watching⟩
  · rw [run, List.foldlM_cons, moved]
    rfl
  · cases result : move.result? <;> simp [result]

theorem Watches.trans (first : Watches plan service stream after)
    (second : Watches plan after later last) : Watches plan service (stream ++ later) last := by
  obtain ⟨moves, ran, took, watching⟩ := first
  obtain ⟨more, ranOn, tookMore, watchingOn⟩ := second
  refine ⟨moves ++ more, ?_, ?_, ?_⟩
  · rw [run, List.foldlM_append]
    exact Option.bind_eq_some_iff.mpr ⟨after, ran, ranOn⟩
  · rw [List.filterMap_append, took, tookMore]
  · intro move member
    exact (List.mem_append.mp member).elim (watching move) (watchingOn move)

/-- The watching side passes on whatever is left of a result. -/
theorem watches_passMany (plan : Plan α ω) (following : service.control.following = true)
    {steps : Nat} (backlog : service.system.backlog = steps) :
    Watches plan service [] { service with system := service.system.passMany plan steps } := by
  induction steps generalizing service with
  | zero => exact ⟨[], rfl, rfl, by simp⟩
  | succ steps ih =>
      obtain ⟨after, passed, less⟩ := System.exists_passOn plan backlog
      have moved : act plan service (.act .passOn) = some { service with system := after } := by
        simp [act, permits, following, System.act, passed]
      rw [System.passMany, passed]
      exact (Watches.move moved rfl).trans (@ih { service with system := after } following less)

theorem watches_settleResult (plan : Plan α ω) (following : service.control.following = true)
    (idle : service.system.relay = .idle) (result : WatchResult α) :
    Watches plan service [result]
      { service with system := service.system.settleResult plan result } := by
  let taken : Service α ω := { service with system := service.system.takeResult plan result }
  have takes : Watches plan service [result] taken := by
    cases result with
    | brought order event =>
        have moved : act plan service (.act (.receive order event)) = some taken := by
          simp [act, permits, following, System.act, idle, taken, System.takeResult]
        exact .move moved rfl
    | failed failure =>
        have moved : act plan service (.act (.receiveFailure failure)) = some taken := by
          simp [act, permits, following, System.act, idle, taken, System.takeResult]
        exact .move moved rfl
  exact takes.trans (@watches_passMany _ _ _ taken plan following _ rfl)

theorem watches_follow (plan : Plan α ω) (following : service.control.following = true)
    (idle : service.system.relay = .idle) (stream : List (WatchResult α)) :
    Watches plan service stream { service with system := service.system.follow plan stream } := by
  induction stream generalizing service with
  | nil => exact ⟨[], rfl, rfl, by simp⟩
  | cons result stream ih =>
      have settles := watches_settleResult plan following idle result
      exact settles.trans
        (@ih { service with system := service.system.settleResult plan result } following
          (System.relay_settleResult plan service.system result))

/-- The watching side takes every result of a watch and comes to its end. -/
theorem watches_watch (plan : Plan α ω) (following : service.control.following = true)
    (idle : service.system.relay = .idle) (stream : List (WatchResult α)) :
    Watches plan service stream (service.watch plan stream) := by
  have follows := watches_follow plan following idle stream
  have ends := System.relay_follow plan idle stream
  have moved : act plan { service with system := service.system.follow plan stream } .endWatch =
      some (service.watch plan stream) := by
    simp [act, isBetweenEvents, ends, following, watch, unfollow]
  have whole := follows.trans (.move moved rfl)
  rwa [show (Move.endWatch : Move α ω).result?.toList = [] from rfl, List.append_nil] at whole

/-- Where the watching side gets from here, given the results that are still to come. -/
def watchOn (plan : Plan α ω) (service : Service α ω) (stream : List (WatchResult α)) :
    Service α ω :=
  watch plan
    { service with system := service.system.passMany plan service.system.backlog } stream

theorem watchOn_eq_watch (plan : Plan α ω) (idle : service.system.relay = .idle)
    (stream : List (WatchResult α)) : service.watchOn plan stream = service.watch plan stream := by
  rw [watchOn, service.system.relay_eq_idle_iff.mp idle]
  rfl

/-- The watching side has no choice: it ends, or a step leaves what is still to be done. -/
theorem watchOn_of_act {move : Move α ω} (following : service.control.following = true)
    (watching : move.isWatching = true) (acted : act plan service move = some after) :
    move = .endWatch ∧ after = service.watchOn plan [] ∨
      after.control.following = true ∧ ∀ rest,
        service.watchOn plan (move.result?.toList ++ rest) = after.watchOn plan rest := by
  cases move with
  | act action =>
      obtain ⟨-, permitted⟩ := Option.ite_none_right_eq_some.mp acted
      obtain ⟨next, stepped, rfl⟩ := Option.map_eq_some_iff.mp permitted
      refine .inr ⟨following, fun rest => ?_⟩
      cases action with
      | receive order event =>
          cases relay : service.system.relay with
          | idle =>
              simp only [System.act, relay, Option.some.injEq] at stepped
              rw [watchOn_eq_watch plan relay, ← stepped]
              rfl
          | passing => simp [System.act, relay] at stepped
      | receiveFailure failure =>
          cases relay : service.system.relay with
          | idle =>
              simp only [System.act, relay, Option.some.injEq] at stepped
              rw [watchOn_eq_watch plan relay, ← stepped]
              rfl
          | passing => simp [System.act, relay] at stepped
      | passOn =>
          have passed : service.system.passOn plan = some next := stepped
          cases backlog : service.system.backlog with
          | zero =>
              have idle := service.system.relay_eq_idle_iff.mpr backlog
              simp [System.passOn, idle] at passed
          | succ steps =>
              obtain ⟨after, passes, less⟩ := System.exists_passOn plan backlog
              obtain rfl := Option.some.inj (passed.symm.trans passes)
              rw [watchOn, watchOn, backlog, System.passMany, passed, less]
              rfl
      | _ => cases watching
  | endWatch =>
      obtain ⟨between, ended⟩ := Option.ite_none_right_eq_some.mp acted
      obtain rfl := Option.some.inj ended
      have idle : service.system.relay = .idle := by
        unfold isBetweenEvents at between
        split at between
        next idle => exact idle
        next => cases between
      exact .inl ⟨rfl, by rw [watchOn_eq_watch plan idle]; rfl⟩
  | _ => cases watching

/-- The watching side does nothing once it has left the watch. -/
theorem act_of_left {move : Move α ω} (left : service.control.following = false)
    (watching : move.isWatching = true) : act plan service move = none := by
  cases move with
  | act action =>
      cases action with
      | receive | receiveFailure | passOn => simp [act, permits, left]
      | _ => cases watching
  | endWatch => cases relay : service.system.relay <;> simp [act, isBetweenEvents, relay, left]
  | _ => cases watching

/-- However the watching side comes to the end of a watch, it has got there. -/
theorem Watches.eq_watchOn (following : service.control.following = true)
    (watches : Watches plan service stream after) (ended : after.control.following = false) :
    after = service.watchOn plan stream := by
  obtain ⟨moves, ran, rfl, watching⟩ := watches
  induction moves generalizing service with
  | nil =>
      obtain rfl := Option.some.inj ran
      rw [following] at ended
      cases ended
  | cons move moves ih =>
      rw [run, List.foldlM_cons] at ran
      obtain ⟨next, acted, goesOn⟩ := Option.bind_eq_some_iff.mp ran
      have watchingOn : ∀ move ∈ moves, move.isWatching = true :=
        fun move member => watching move (List.mem_cons_of_mem _ member)
      rcases watchOn_of_act following (watching move List.mem_cons_self) acted with
        ⟨rfl, rfl⟩ | ⟨followsOn, leads⟩
      · -- Nothing can follow the end of the watch.
        cases moves with
        | nil => exact (Option.some.inj goesOn).symm
        | cons move moves =>
            rw [List.foldlM_cons, act_of_left rfl (watchingOn move List.mem_cons_self)] at goesOn
            cases goesOn
      · rw [ih followsOn goesOn watchingOn, ← leads, List.filterMap_cons]
        cases move.result? <;> rfl

end Service

end

/-! ## Reports and nothing else -/

/-- Whether a line reports an error. -/
def Line.isError (line : Line) : Bool :=
  line.level == .error

/-- A journal is another one in which some more errors are reported. -/
structure Journal.Reports (reports : List Line) (clean journal : Journal) : Prop where
  errors : journal.lines.filter Line.isError = clean.lines.filter Line.isError ++ reports
  others : (journal.lines.filter fun line => !line.isError) =
    clean.lines.filter fun line => !line.isError
  counts : ∀ counter, journal.meter.count counter =
    clean.meter.count counter + if counter = .reported then reports.length else 0

namespace Journal.Reports

variable {reports : List Line} {clean journal : Journal}

theorem refl (journal : Journal) : Reports [] journal journal where
  errors := (List.append_nil _).symm
  others := rfl
  counts counter := by simp

/-- Lines other than errors come to both journals. -/
theorem write (reported : Reports reports clean journal) {level : Level} (harmless : level ≠ .error)
    (text : String) : Reports reports (clean.write level text) (journal.write level text) where
  errors := by simp [Journal.write, Line.isError, harmless, reported.errors]
  others := by
    simp only [Journal.write, List.filter_append, reported.others]
  counts := reported.counts

theorem report (reported : Reports reports clean journal) (context : String) (failure : Failure) :
    Reports (reports ++ [⟨.error, context ++ ": " ++ failure.message⟩]) clean
      (journal.report context failure) where
  errors := by
    simp only [Journal.report, Journal.count, Journal.write, List.filter_append, reported.errors,
      List.append_assoc]
    rfl
  others := by
    simp only [Journal.report, Journal.count, Journal.write, List.filter_append, reported.others]
    exact List.append_nil _
  counts counter := by
    simp only [Journal.report, Journal.count, Journal.write, Meter.count_increment,
      reported.counts, List.length_append, List.length_singleton, eq_comm]
    split <;> simp_all [Nat.add_assoc]

end Journal.Reports

/-- A journal in which nothing was reported or counted meanwhile. -/
structure Journal.Silent (before after : Journal) : Prop where
  errors : after.lines.filter Line.isError = before.lines.filter Line.isError
  meter : after.meter = before.meter

namespace Journal.Silent

variable {before between after : Journal}

theorem refl (journal : Journal) : Silent journal journal :=
  ⟨rfl, rfl⟩

theorem trans (first : Silent before between) (second : Silent between after) :
    Silent before after :=
  ⟨second.errors.trans first.errors, second.meter.trans first.meter⟩

theorem write (journal : Journal) {level : Level} (harmless : level ≠ .error) (text : String) :
    Silent journal (journal.write level text) where
  errors := by simp [Journal.write, Line.isError, harmless]
  meter := rfl

end Journal.Silent

namespace System

/-- A system is another one that has reported some more errors. -/
structure Reports (reports : List Line) (clean system : System α ω) : Prop where
  same : system = { clean with journal := system.journal }
  journal : Journal.Reports reports clean.journal system.journal

variable [Resource α] {plan : Plan α ω} {reports : List Line} {clean system : System α ω}

omit [Resource α] in
theorem Reports.refl (system : System α ω) : Reports [] system system :=
  ⟨rfl, .refl _⟩

omit [Resource α] in
theorem Reports.write (reported : Reports reports clean system) {level : Level}
    (harmless : level ≠ .error) (text : String) :
    Reports reports (clean.write level text) (system.write level text) :=
  ⟨congrArg (fun before : System α ω =>
    { before with journal := system.journal.write level text }) reported.same,
    reported.journal.write harmless text⟩

omit [Resource α] in
theorem Reports.backlog_eq (reported : Reports reports clean system) :
    system.backlog = clean.backlog := by
  rw [reported.same]
  rfl

theorem Reports.passOn (reported : Reports reports clean system) (plan : Plan α ω) :
    Reports reports ((clean.passOn plan).getD clean) ((system.passOn plan).getD system) := by
  obtain ⟨same, journal⟩ := reported
  generalize system.journal = newer at same journal
  subst same
  obtain ⟨now, cache, relay, queue, bell, limiter, delayed, issued, callers, older, world⟩ := clean
  cases relay with
  | idle => exact ⟨rfl, journal⟩
  | passing changes enqueued listing =>
      cases changes with
      | nil =>
          cases listing with
          | false => exact ⟨rfl, journal⟩
          | true => exact ⟨rfl, journal.write (by simp) _⟩
      | cons change changes =>
          simp only [System.passOn]
          cases Work.ofChange? change.1 change.2 with
          | none => exact ⟨rfl, journal⟩
          | some work => exact ⟨rfl, journal⟩

theorem Reports.passMany (reported : Reports reports clean system) (plan : Plan α ω)
    (steps : Nat) : Reports reports (clean.passMany plan steps) (system.passMany plan steps) := by
  induction steps generalizing clean system with
  | zero => exact reported
  | succ steps ih => exact ih (reported.passOn plan)

theorem Reports.takeResult (reported : Reports reports clean system) (plan : Plan α ω)
    {result : WatchResult α} (usable : result.isUsable = true) :
    Reports reports (clean.takeResult plan result) (system.takeResult plan result) := by
  obtain ⟨same, journal⟩ := reported
  generalize system.journal = newer at same journal
  subst same
  cases result with
  | failed failure => cases usable
  | brought order event =>
      have silent := (WatchResult.report?_eq_none_iff plan _).mpr usable
      simp only [WatchResult.report?] at silent
      simp only [System.takeResult, receive]
      cases concerns : event.object? with
      | none => exact ⟨rfl, journal⟩
      | some object =>
          cases identified : identify object with
          | ok key =>
              simp only [identified]
              exact ⟨rfl, journal⟩
          | error failure => simp [concerns, identified] at silent

/-- A usable result is taken the same way whatever was reported before. -/
theorem Reports.usable (reported : Reports reports clean system) {result : WatchResult α}
    (usable : result.isUsable = true) :
    Reports reports (clean.settleResult plan result) (system.settleResult plan result) := by
  have taken := reported.takeResult plan usable
  rw [settleResult, settleResult, taken.backlog_eq]
  exact taken.passMany plan _

theorem takeResult_unusable (system : System α ω) {result : WatchResult α} {line : Line}
    (unusable : result.report? plan = some line) :
    ∃ context failure, line = ⟨.error, context ++ ": " ++ failure.message⟩ ∧
      system.takeResult plan result = system.report context failure := by
  cases result with
  | failed failure => exact ⟨_, _, (Option.some.inj unusable).symm, rfl⟩
  | brought order event =>
      simp only [WatchResult.report?] at unusable
      simp only [takeResult, receive]
      cases concerns : event.object? with
      | none => simp [concerns] at unusable
      | some object =>
          cases identified : identify object with
          | ok key => simp [concerns, identified] at unusable
          | error failure =>
              simp only [concerns, Option.map_some, identified, Option.some.injEq] at unusable
              simp only [identified]
              exact ⟨_, _, unusable.symm, rfl⟩

theorem silent_passMany (plan : Plan α ω) (steps : Nat) (system : System α ω) :
    system.journal.Silent (system.passMany plan steps).journal := by
  induction steps generalizing system with
  | zero => exact .refl _
  | succ steps ih =>
      have passed : system.journal.Silent ((system.passOn plan).getD system).journal := by
        unfold passOn
        split
        · exact .refl _
        · split <;> exact .refl _
        · exact .write _ (by simp) _
        · exact .refl _
      exact passed.trans (ih _)

/-- Nothing is reported about results that can be used. -/
theorem silent_follow {stream : List (WatchResult α)}
    (usable : ∀ result ∈ stream, result.isUsable = true) (system : System α ω) :
    system.journal.Silent (system.follow plan stream).journal := by
  induction stream generalizing system with
  | nil => exact .refl _
  | cons result stream ih =>
      have taken : system.journal.Silent (system.takeResult plan result).journal := by
        have told := (result.report?_eq_none_iff plan).mpr (usable result List.mem_cons_self)
        cases result with
        | failed failure => cases told
        | brought order event =>
            simp only [WatchResult.report?] at told
            simp only [takeResult, receive]
            split
            next object concerns =>
              split
              · exact .refl _
              next failure identified => simp [concerns, identified] at told
            · exact .refl _
      exact (taken.trans (silent_passMany plan _ _)).trans
        (ih (fun result member => usable result (List.mem_cons_of_mem _ member)) _)

/-- A result that cannot be used is reported, and that is all. -/
theorem Reports.unusable (reported : Reports reports clean system)
    (idle : clean.relay = .idle) {result : WatchResult α} {line : Line}
    (unusable : result.report? plan = some line) :
    Reports (reports ++ [line]) clean (system.settleResult plan result) := by
  obtain ⟨context, failure, rfl, takes⟩ := takeResult_unusable system unusable
  have nothing : (system.report context failure).backlog = 0 := by
    rw [← (relay_eq_idle_iff clean).mp idle, ← reported.backlog_eq]
    rfl
  rw [settleResult, takes, nothing]
  exact ⟨congrArg (fun before : System α ω =>
    { before with journal := system.journal.report context failure }) reported.same,
    reported.journal.report context failure⟩

/-- Without the results that cannot be used, the watching side comes to the same state but
for their reports. -/
theorem Reports.follow (following : Reports reports clean system) (idle : clean.relay = .idle)
    (stream : List (WatchResult α)) :
    Reports (reports ++ stream.filterMap (WatchResult.report? plan))
      (clean.follow plan (stream.filter WatchResult.isUsable)) (system.follow plan stream) := by
  induction stream generalizing reports clean system with
  | nil =>
      rw [List.filterMap_nil, List.append_nil]
      exact following
  | cons result stream ih =>
      cases told : result.report? plan with
      | none =>
          have usable := (result.report?_eq_none_iff plan).mp told
          rw [List.filter_cons_of_pos usable, List.filterMap_cons_none told]
          exact ih (following.usable usable) (relay_settleResult plan clean result)
      | some line =>
          have unusable : ¬result.isUsable = true := by
            rw [← result.report?_eq_none_iff plan, told]
            simp
          rw [List.filter_cons_of_neg unusable, List.filterMap_cons_some told, List.append_cons]
          exact ih (following.unusable idle told) idle

/-! ## Nothing without a name is cached -/

/-- Every object of a table has a name, so its key can be made. -/
def Identified (objects : Table Ref α) : Prop :=
  ∀ object ∈ objects.values, identify object = .ok (Cache.keyOf object)

theorem identify_keyOf {object : α} {key : Key} (identified : identify object = .ok key) :
    identify object = .ok (Cache.keyOf object) := by
  obtain ⟨own, -⟩ := Metadata.key_eq_ok_iff.mp identified
  rw [identified]
  exact congrArg Except.ok own.symm

theorem Identified.empty : Identified (Table.empty : Table Ref α) := by
  intro object member
  cases member

theorem Identified.insert {objects : Table Ref α} (all : Identified objects) {object : α}
    (identified : identify object = .ok (Cache.keyOf object)) (ref : Ref) :
    Identified (objects.insert ref object) := by
  intro other member
  rcases Table.eq_or_mem_of_mem_values_insert member with rfl | old
  · exact identified
  · exact all other old

theorem Identified.erase {objects : Table Ref α} (all : Identified objects) (ref : Ref) :
    Identified (objects.erase ref) := by
  intro other member
  obtain ⟨entry, kept, rfl⟩ := List.mem_map.mp member
  exact all _ (List.mem_map_of_mem (List.mem_of_mem_filter kept))

theorem Identified.apply {cache : Cache α} (cached : Identified cache.objects)
    (listed : Identified cache.listing) {event : Event α}
    (named : ∀ object, event.object? = some object → ∃ key, identify object = .ok key)
    (order : Enumeration α) :
    Identified (cache.apply order event).1.objects ∧
      Identified (cache.apply order event).1.listing := by
  cases event with
  | listingStarted => exact ⟨cached, .empty⟩
  | listingDone => exact ⟨listed, .empty⟩
  | listed object =>
      obtain ⟨key, identified⟩ := named object rfl
      exact ⟨cached, listed.insert (identify_keyOf identified) _⟩
  | applied object =>
      obtain ⟨key, identified⟩ := named object rfl
      exact ⟨cached.insert (identify_keyOf identified) _, listed⟩
  | removed object => exact ⟨cached.erase _, listed⟩

theorem identified_of_runs {admits : Event α → Prop} {history : List (Mark α)}
    (run : Runs plan admits history system) :
    Identified system.cache.objects ∧ Identified system.cache.listing := by
  refine run.keeps (motive := fun system =>
    Identified system.cache.objects ∧ Identified system.cache.listing) ?_ ?_
  · intro world
    exact ⟨.empty, .empty⟩
  · intro before action mark after kept turn
    cases turn with
    | received _ named => exact kept.1.apply kept.2 named _
    | _ => exact kept

end System

namespace Service

variable [Resource α] {plan : Plan α ω} {service : Service α ω}

/-- The watching side comes to the end of a watch in one way only. -/
theorem watches_to_end_iff (follows : service.control.following = true)
    (idle : service.system.relay = .idle) (stream : List (WatchResult α)) (after : Service α ω) :
    Watches plan service stream after ∧ after.control.following = false ↔
      after = service.watch plan stream := by
  constructor
  · rintro ⟨watches, ended⟩
    rw [watches.eq_watchOn follows ended, watchOn_eq_watch plan idle]
  · rintro rfl
    exact ⟨watches_watch plan follows idle stream, rfl⟩

/-- What cannot be used leaves nothing behind but a report.  The watching side comes to the
end of every watch, and then it has come to the same state as without the results that
cannot be used, but for one report of each of them in its journal, in their order.  No run
ever brings an object without a name into the cache. -/
theorem unusable_results_are_only_reported (follows : service.control.following = true)
    (idle : service.system.relay = .idle) (stream : List (WatchResult α)) :
    let usable := stream.filter WatchResult.isUsable
    let reports := stream.filterMap (WatchResult.report? plan)
    (∃ after clean : Service α ω,
      (∀ last, Watches plan service stream last ∧ last.control.following = false ↔ last = after) ∧
        (∀ last, Watches plan service usable last ∧ last.control.following = false ↔
          last = clean) ∧
        after.control = clean.control ∧ System.Reports reports clean.system after.system ∧
        service.system.journal.Silent clean.system.journal) ∧
      (∀ result : WatchResult α, result.report? plan = none ↔ result.isUsable = true) ∧
      ∀ history system, System.Runs plan (fun _ => True) history system →
        ∀ object ∈ system.cache.objects.values ++ system.cache.listing.values,
          identify object = .ok (Cache.keyOf object) := by
  intro usable reports
  refine ⟨⟨service.watch plan stream, service.watch plan usable,
    watches_to_end_iff follows idle stream, watches_to_end_iff follows idle usable, rfl, ?_, ?_⟩,
    WatchResult.report?_eq_none_iff plan, ?_⟩
  · exact ((System.Reports.refl service.system).follow idle stream).write (by simp) _
  · have kept : ∀ result ∈ usable, result.isUsable = true := by
      intro result member
      exact (List.mem_filter.mp member).2
    exact (System.silent_follow kept service.system).trans (.write _ (by simp) _)
  · intro history system run object member
    obtain ⟨cached, listed⟩ := System.identified_of_runs run
    exact (List.mem_append.mp member).elim (cached object) (listed object)

/-- A listing brings one pod with a name and one without, and then the watch fails before
the listing is complete.  Both are reported, and the listing is complete without them. -/
theorem unusable_results_are_only_reported_listing :
    let named : Pod := { metadata := { name := some "a", ns := some "ns" } }
    let nameless : Pod := { metadata := { name := some "", ns := some "ns" } }
    let plan : Plan Pod Unit := { name := "pod", backoff := {}, handler := Pod.handler }
    let service : Service Pod Unit := start plan {} { world := () }
    let stream : List (WatchResult Pod) :=
      [.brought {} .listingStarted, .brought {} (.listed named), .brought {} (.listed nameless),
        .failed .noResourceVersion, .brought {} .listingDone]
    ∃ after, Watches plan service stream after ∧ after.system.cache.list = [named] ∧
      after.system.cache.synced = true ∧ after.system.queue.ready = [⟨some "ns", "a"⟩] ∧
      after.system.journal.lines.filter Line.isError =
        [⟨.error, plan.name ++ " controller dropped notification" ++ ": " ++
            nameless.metadata.nameless.message⟩,
          ⟨.error, plan.name ++ " controller watch failed" ++ ": " ++
            WatchFailure.noResourceVersion.message⟩] := by
  intro named nameless plan service stream
  have follows : service.control.following = true := rfl
  have idle : service.system.relay = .idle := rfl
  obtain ⟨⟨after, clean, ends, endsClean, -, reported, silent⟩, -⟩ :
      (∃ after clean : Service Pod Unit,
        (∀ last, Watches plan service stream last ∧ _ ↔ _) ∧ _) ∧ _ :=
    unusable_results_are_only_reported follows idle stream
  have cleaned : service.watch plan (stream.filter WatchResult.isUsable) = clean :=
    (endsClean _).mp ⟨watches_watch plan follows idle _, rfl⟩
  obtain ⟨watches, -⟩ := (ends after).mpr rfl
  have cache : after.system.cache = clean.system.cache := by rw [reported.same]
  have queue : after.system.queue = clean.system.queue := by rw [reported.same]
  have errors := reported.journal.errors
  rw [silent.errors] at errors
  rw [← cleaned] at cache queue
  refine ⟨after, watches, ?_, ?_, ?_, errors.trans ?_⟩
  · rw [cache]
    decide
  · rw [cache]
    decide
  · rw [queue]
    decide
  · rfl

end Service

end Reconciler
