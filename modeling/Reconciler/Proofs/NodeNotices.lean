import Reconciler.Node
import Reconciler.Proofs.Observed
import Reconciler.Proofs.Pipeline

/-!
# What happens to the alerts of a node controller

Three kinds of steps of a node controller matter for its alerts: an event changes the
cache, the cache is read for an item, and the handler touches the alerts.  Each leaves a
notice.

The handler of nodes writes lines, or records one alert and then writes a line, and always
ends well.  So no item of a node comes back, and a caller stands at one of a few stages.
Which of them is due to record an alert depends only on what was read for its item.
-/

namespace Reconciler

variable {α ω : Type}

/-! ## Calls of the node handler -/

/-- The rest of a call that only writes lines and ends well. -/
inductive Call.Plain : Call ω → Prop
  | ended : Plain Call.done
  | say (line : Line) {next : Call ω} : next.Plain → Plain (.say line next)

theorem Call.plain_sayAll (lines : List Line) : (Call.sayAll lines Call.done : Call ω).Plain := by
  induction lines with
  | nil => exact .ended
  | cons line lines ih => exact .say line ih

theorem Call.Plain.continues {call rest : Call ω} (plain : call.Plain)
    (goesOn : call.Continues rest) : rest.Plain := by
  cases goesOn with
  | pause | act => cases plain
  | say line => cases plain with
    | say _ plain => exact plain

theorem Call.Plain.succeeded {outcome : Outcome} (plain : (Call.finish outcome : Call ω).Plain) :
    outcome = .succeeded := by
  cases plain with
  | ended => rfl

/-- Once an alert is recorded, a line is left to write. -/
theorem Node.plain_of_alertLost {key : Key} {rest : Call AlertStore}
    (goesOn : (Node.alertLost key).Continues rest) : rest.Plain := by
  cases goesOn with
  | act _ _ world =>
      dsimp only
      split <;> exact .say _ .ended

/-- What is to be expected of an item, given what its caller read last. -/
inductive Stage.Expected (read : Option (Work Node × Option Node)) (work : Work Node) :
    Stage Node AlertStore → Prop
  | handed : Expected read work .handed
  | looked {current : Option Node} :
      read = some (work, current) → Expected read work (.looked current)
  | adopting (current : Node) {call : Call AlertStore} :
      call.Plain → Expected read work (.adopting current call)
  | adopted (current : Node) : Expected read work (.adopted current)
  | lost : read = some (work, none) → Expected read work (.syncing (Node.alertLost work.key))
  | syncing {call : Call AlertStore} : call.Plain → Expected read work (.syncing call)
  | concluded : Expected read work (.concluded .succeeded)
  | forgetting : Expected read work .forgetting
  | releasing : Expected read work .releasing

section

variable {plan : Plan Node AlertStore} {read : Option (Work Node × Option Node)}
  {work : Work Node} {stage next : Stage Node AlertStore}

theorem Stage.expected_opening (handler : plan.handler = Node.handler) {current : Option Node}
    (known : read = some (work, current)) :
    (Stage.opening plan work current).Expected read work := by
  unfold opening
  rw [handler]
  cases current with
  | none =>
      split
      next absent => cases absent
      · exact .lost known
  | some current =>
      split
      · exact .adopting _ .ended
      · exact .syncing (Call.plain_sayAll _)

theorem Stage.Expected.goes (expected : stage.Expected read work)
    (handler : plan.handler = Node.handler) (goes : stage.Goes plan work next) :
    next.Expected read work := by
  cases goes with
  | adopting goesOn =>
      cases expected with
      | adopting _ plain => exact .adopting _ (plain.continues goesOn)
  | adopted => exact .adopted _
  | unadopted failed =>
      cases expected with
      | adopting _ plain => exact (failed plain.succeeded).elim
  | begun =>
      rw [handler]
      exact .syncing (Call.plain_sayAll _)
  | syncing goesOn =>
      cases expected with
      | lost => exact .syncing (Node.plain_of_alertLost goesOn)
      | syncing plain => exact .syncing (plain.continues goesOn)
  | ended =>
      cases expected with
      | syncing plain =>
          rw [plain.succeeded]
          exact .concluded

end

/-! ## Notices -/

/-- What matters about a step for the alerts of a node controller. -/
inductive Notice
  /-- An event changed the cache. -/
  | changed (key : Key) (change : Change Node)
  /-- The cache was read for an item. -/
  | read (id : Nat) (work : Work Node) (found : Option Node)
  /-- An alert about the key of an item was recorded; it is a new one if none was pending. -/
  | recorded (id : Nat) (work : Work Node) (fresh : Bool)
deriving DecidableEq, Repr

/-- The notice that the next step of an item leaves. -/
def Stage.notice? (system : System Node AlertStore) (id : Nat) (work : Work Node) :
    Stage Node AlertStore → Option Notice
  | .handed => some (.read id work (system.cache.get? work.key))
  | .adopting _ (.act _ _) | .syncing (.act _ _) =>
      some (.recorded id work (!system.world.isPending work.key.name))
  | _ => none

/-- The item that a caller read the cache for last, and what it found. -/
def lastRead? (id : Nat) : List Notice → Option (Work Node × Option Node)
  | [] => none
  | .read other work found :: log => if other = id then some (work, found) else lastRead? id log
  | _ :: log => lastRead? id log

theorem lastRead?_append {notices log : List Notice} {id : Nat}
    (elsewhere : ∀ work found, .read id work found ∉ notices) :
    lastRead? id (notices ++ log) = lastRead? id log := by
  induction notices with
  | nil => rfl
  | cons notice notices ih =>
      have rest := ih fun work found member => elsewhere work found (List.mem_cons_of_mem _ member)
      cases notice with
      | changed | recorded => exact rest
      | read other work found =>
          have apart : other ≠ id := by
            rintro rfl
            exact elsewhere work found List.mem_cons_self
          exact (if_neg apart).trans rest

namespace System

/-- The notices that a step leaves.  An event is taken only while nothing is passed on. -/
def notices (before after : System Node AlertStore) : Action Node AlertStore → List Notice
  | .receive _ _ =>
      match before.relay with
      | .idle => after.relay.changes.map fun entry => .changed entry.1 entry.2
      | .passing .. => []
  | .advance id =>
      (shown? (fun work stage => stage.notice? before id work) before.callers id).toList
  | _ => []

/-- The runs of a node controller with their notices, the newest first. -/
abbrev Noticed (plan : Plan Node AlertStore) (admits : Event Node → Prop) :
    List Notice → System Node AlertStore → Prop :=
  Observed plan (fun before action after => before.notices after action) (Action.Occurs admits)

/-- The notices and the state after actions one after another, if all of them are possible. -/
abbrev watch (plan : Plan Node AlertStore) :
    List Notice → System Node AlertStore → List (Action Node AlertStore) →
      Option (List Notice × System Node AlertStore) :=
  transcript plan fun before action after => before.notices after action

variable {plan : Plan Node AlertStore} {admits : Event Node → Prop} {log newer : List Notice}
  {before after : System Node AlertStore} {action : Action Node AlertStore}
  {mark : Option (Mark Node)} {id : Nat} {caller : Caller Node AlertStore} {work : Work Node}
  {stage : Stage Node AlertStore}

theorem notices_of_held (found : before.callers.find? id = some caller)
    (held : caller.point.held? = some (work, stage)) :
    before.notices after (.advance id) = (stage.notice? before id work).toList := by
  rw [notices, shown?_of_held found held]

theorem notices_of_bare (found : before.callers.find? id = some caller)
    (bare : caller.point.held? = none) : before.notices after (.advance id) = [] := by
  rw [notices, shown?_of_bare found bare]
  rfl

/-- A step that takes no event and advances no caller leaves no notice. -/
theorem notices_of_quiet (relay : after.relay = before.relay)
    (elsewhere : ∀ id, action ≠ .advance id) : before.notices after action = [] := by
  cases action with
  | receive =>
      rw [notices, relay]
      cases before.relay <;> rfl
  | advance id => exact (elsewhere id rfl).elim
  | _ => rfl

theorem notices_of_received {order : Enumeration Node} {event : Event Node}
    (idle : before.relay = .idle) :
    before.notices after (.receive order event) =
      after.relay.changes.map fun entry => .changed entry.1 entry.2 := by
  rw [notices, idle]

/-- An alert is recorded by the next step of an item, and nothing else happens in it. -/
theorem action_of_recorded {fresh : Bool}
    (member : .recorded id work fresh ∈ before.notices after action) :
    action = .advance id ∧ before.notices after action = [.recorded id work fresh] ∧
      ∃ caller stage, before.callers.find? id = some caller ∧
        caller.point.held? = some (work, stage) ∧
        stage.notice? before id work = some (.recorded id work fresh) := by
  cases action with
  | receive order event =>
      rw [notices] at member
      split at member
      · obtain ⟨entry, -, same⟩ := List.mem_map.mp member
        cases same
      · cases member
  | advance other =>
      have shown := Option.mem_toList.mp member
      obtain ⟨caller, item, stage, found, held, notice⟩ := exists_held_of_shown? shown
      obtain ⟨rfl, rfl⟩ : other = id ∧ item = work := by
        unfold Stage.notice? at notice
        split at notice
        all_goals cases notice
        all_goals exact ⟨rfl, rfl⟩
      refine ⟨rfl, ?_, caller, stage, found, held, notice⟩
      rw [notices_of_held found held, notice]
      rfl
  | _ => cases member

/-- Only a caller itself changes what it read last. -/
theorem lastRead?_elsewhere (apart : action ≠ .advance id) (log : List Notice) :
    lastRead? id (before.notices after action ++ log) = lastRead? id log := by
  refine lastRead?_append fun work found member => ?_
  cases action with
  | receive =>
      rw [notices] at member
      split at member
      · obtain ⟨entry, -, same⟩ := List.mem_map.mp member
        cases same
      · cases member
  | advance other =>
      obtain ⟨caller, item, stage, -, -, notice⟩ :=
        exists_held_of_shown? (Option.mem_toList.mp member)
      unfold Stage.notice? at notice
      split at notice
      · obtain ⟨rfl, -⟩ := Notice.read.inj (Option.some.inj notice)
        exact apart rfl
      all_goals cases notice
  | _ => cases member

theorem lastRead?_unread (found : before.callers.find? id = some caller)
    (held : caller.point.held? = some (work, stage)) (unread : stage ≠ .handed)
    (log : List Notice) :
    lastRead? id (before.notices after (.advance id) ++ log) = lastRead? id log := by
  rw [notices_of_held found held]
  refine lastRead?_append fun item found member => ?_
  have notice := Option.mem_toList.mp member
  unfold Stage.notice? at notice
  split at notice
  · exact unread rfl
  all_goals cases notice

/-! ## Where the callers of a node controller stand -/

/-- What a run keeps true about the callers of a node controller. -/
structure Watched (log : List Notice) (system : System Node AlertStore) : Prop where
  stages : ∀ id caller work stage, system.callers.find? id = some caller →
    caller.point.held? = some (work, stage) → stage.Expected (lastRead? id log) work
  delayed : system.delayed = Table.empty

theorem Watched.step (watched : before.Watched log) (handler : plan.handler = Node.handler)
    (turn : Turn plan before action mark after) :
    after.Watched (before.notices after action ++ log) := by
  constructor
  · intro id caller work stage found held
    cases came_of_turn turn found held with
    | stayed apart stays =>
        rw [lastRead?_elsewhere apart]
        exact watched.stages id caller work stage stays held
    | taken => exact .handed
    | @moved former earlier _ came bore moves =>
        have expected := watched.stages id former work earlier came bore
        cases moves with
        | looked =>
            rw [notices_of_held came bore]
            exact .looked (if_pos rfl)
        | called =>
            rw [lastRead?_unread came bore nofun]
            cases expected with
            | looked known => exact Stage.expected_opening handler known
        | handled goes =>
            have unread : earlier ≠ .handed := by
              rintro rfl
              cases goes
            rw [lastRead?_unread came bore unread]
            exact expected.goes handler goes
        | concluded =>
            cases expected
            exact .forgetting
        | forgot => exact .releasing
        | yielded | granted | given => cases expected
  · cases turn with
    | fired found =>
        rw [watched.delayed] at found
        cases found
    | delayed found held => cases watched.stages _ _ _ _ found held
    | _ => exact watched.delayed

theorem watched_of_noticed (handler : plan.handler = Node.handler)
    (noticed : Noticed plan admits log after) : after.Watched log := by
  induction noticed with
  | start world =>
      refine ⟨?_, rfl⟩
      intro id caller work stage found
      cases found
  | step noticed occurs acted ih => exact ih.step handler (turn_of_act occurs acted)

end System

end Reconciler
