import Reconciler.VirtualMachine.Basic
import Reconciler.Proofs.NodeNotices
import Reconciler.Proofs.Observed

/-!
# Who sets the phase of a virtual machine

The handler of virtual machines asks a status writer to set a phase, and nothing is known
about that writer: it may pause, write lines, change its surroundings, fail or panic.  So it
is put into surroundings with a recorder, which notes every request to the writer and every
write that ended well.

An observer takes down the notes together with the changes of the cache and the readings
of it.  At every point of a run it is clear from the last reading of a caller what it may
ask of the writer.
-/

namespace Reconciler

variable {α ω : Type}

/-! ## What a step does to the surroundings -/

/-- What the next step of a call does to its surroundings. -/
def Call.effect : Call ω → ω → ω
  | .act effect _ => effect
  | _ => id

/-- What the next step of an item does to the surroundings. -/
def Stage.effect : Stage α ω → ω → ω
  | .adopting _ call | .syncing call => call.effect
  | _ => id

/-- Whether the handler is done with an item. -/
def Stage.hasEnded : Stage α ω → Bool
  | .handed | .looked _ | .adopting .. | .adopted _ | .syncing _ => false
  | _ => true

theorem Stage.effect_of_hasEnded {stage : Stage α ω} (ended : stage.hasEnded = true) :
    stage.effect = id := by
  cases stage with
  | adopting | syncing => cases ended
  | _ => rfl

@[simp]
theorem Stage.hasEnded_settling (outcome : Outcome) :
    (Stage.settling outcome : Stage α ω).hasEnded = true := by
  unfold settling
  repeat' split
  all_goals rfl

theorem Call.Plain.effect_eq {call : Call ω} (plain : call.Plain) : call.effect = id := by
  cases plain <;> rfl

instance Call.decidablePlain : (call : Call ω) → Decidable call.Plain
  | .finish .succeeded => isTrue .ended
  | .finish (.failed _) | .finish (.panicked _) | .pause _ _ | .act _ _ => isFalse (by rintro ⟨⟩)
  | .say line next =>
      match decidablePlain next with
      | isTrue plain => isTrue (.say line plain)
      | isFalse busy => isFalse fun plain => busy (plain.continues (.say line next))

namespace System

variable [Resource α] {plan : Plan α ω} {before after : System α ω} {id : Nat}
  {caller : Caller α ω} {work : Work α} {stage : Stage α ω}

end System

namespace VirtualMachine

/-! ## The recorder -/

/-- What is noted about a status writer. -/
inductive PhaseNote
  /-- It was asked to set the phase of a machine. -/
  | asked (key : Key) (phase : String)
  /-- It has set the phase of a machine. -/
  | written (key : Key) (phase : String)
deriving DecidableEq, Repr

/-- Surroundings with the notes about a status writer, the newest first. -/
structure Recorder (ω : Type) where
  world : ω
  notes : List PhaseNote := []

namespace Recorder

def add (note : PhaseNote) (recorder : Recorder ω) : Recorder ω :=
  { recorder with notes := note :: recorder.notes }

/-- The notes that came to a recorder since an earlier state of it. -/
def since (before after : Recorder ω) : List PhaseNote :=
  after.notes.take (after.notes.length - before.notes.length)

@[simp]
theorem since_self (recorder : Recorder ω) : recorder.since recorder = [] := by
  simp [since]

@[simp]
theorem since_add (recorder : Recorder ω) (note : PhaseNote) :
    recorder.since (recorder.add note) = [note] := by
  simp [since, add]

theorem since_of_notes {before after : Recorder ω} (same : after.notes = before.notes) :
    before.since after = [] := by
  simp [since, same]

end Recorder

def noting (note : PhaseNote) (next : Call (Recorder ω)) : Call (Recorder ω) :=
  .act (Recorder.add note) fun _ => next

/-- A call in the surroundings of a recorder, of which it knows nothing. -/
def unaware (call : Call ω) : Call (Recorder ω) :=
  call.within Recorder.world fun world recorder => { recorder with world }

/-- A status writer under record: its requests are noted, and those that it met. -/
def recorded (setPhase : StatusWriter ω) : StatusWriter (Recorder ω) := fun key phase =>
  noting (.asked key phase)
    ((unaware (setPhase key phase)).andThen (noting (.written key phase) Call.done))

theorem runAlone_unaware_andThen (call : Call ω) (following : Call (Recorder ω))
    (recorder : Recorder ω) :
    ((unaware call).andThen following).runAlone recorder =
      let (world, lines, outcome) := call.runAlone recorder.world
      match outcome with
      | .succeeded =>
          let (after, more, last) := following.runAlone { recorder with world }
          (after, lines ++ more, last)
      | _ => ({ recorder with world }, lines, outcome) := by
  induction call generalizing recorder with
  | finish outcome => cases outcome <;> rfl
  | pause millis next ih => exact ih recorder
  | say line next ih =>
      have rest := ih recorder
      simp only [unaware, Call.within, Call.andThen, Call.runAlone] at rest ⊢
      rw [rest]
      cases (next.runAlone recorder.world).2.2 <;> rfl
  | act effect next ih => exact ih recorder.world { recorder with world := effect recorder.world }

/-- A writer under record does what it does otherwise. -/
theorem runAlone_recorded (setPhase : StatusWriter ω) (key : Key) (phase : String)
    (recorder : Recorder ω) :
    (recorded setPhase key phase).runAlone recorder =
      let (world, lines, outcome) := (setPhase key phase).runAlone recorder.world
      let asked := PhaseNote.asked key phase :: recorder.notes
      ({ world, notes := if outcome = .succeeded then .written key phase :: asked else asked },
        lines, outcome) := by
  have runs := runAlone_unaware_andThen (setPhase key phase) (noting (.written key phase) Call.done)
    (recorder.add (.asked key phase))
  simp only [recorded, noting, Call.runAlone] at runs ⊢
  rw [runs]
  simp only [Recorder.add]
  rcases (setPhase key phase).runAlone recorder.world with ⟨world, lines, outcome⟩
  cases outcome <;> simp [Call.done, Call.runAlone]

/-! ## The calls of the handler -/

/-- The rest of an adoption while the writer is at work. -/
def writing (key : Key) (call : Call ω) : Call (Recorder ω) :=
  ((unaware call).andThen (noting (.written key runningPhase) Call.done)).andThen
    (.say (adoptedLine key) Call.done)

/-- The adoption of a machine without a phase. -/
def asking (setPhase : StatusWriter ω) (key : Key) : Call (Recorder ω) :=
  noting (.asked key runningPhase) (writing key (setPhase key runningPhase))

theorem adopt_recorded (setPhase : StatusWriter ω) (key : Key) (machine : VirtualMachine) :
    (handler (recorded setPhase)).adopt key machine =
      if machine.phase? = none then asking setPhase key else Call.done := by
  unfold handler
  cases phase : machine.phase? with
  | none =>
      simp only [phase, if_true]
      rfl
  | some found => simp only [phase, reduceCtorEq, if_false]

/-- The writer goes on, or has ended well and its write is noted. -/
theorem writing_cases {key : Key} {call : Call ω} {rest : Call (Recorder ω)}
    (goesOn : (writing key call).Continues rest) :
    (∃ next, rest = writing key next ∧
        ∀ recorder : Recorder ω,
          recorder.since ((writing key call).effect recorder) = []) ∨
      rest.Plain ∧ ∀ recorder : Recorder ω,
        recorder.since ((writing key call).effect recorder) = [.written key runningPhase] := by
  cases call with
  | finish outcome =>
      cases outcome with
      | succeeded =>
          cases goesOn
          exact .inr ⟨.say _ .ended, fun recorder => recorder.since_add _⟩
      | failed | panicked => cases goesOn
  | pause millis next =>
      cases goesOn
      exact .inl ⟨next, rfl, Recorder.since_self⟩
  | say line next =>
      cases goesOn
      exact .inl ⟨next, rfl, Recorder.since_self⟩
  | act effect next =>
      cases goesOn
      exact .inl ⟨_, rfl, fun recorder => Recorder.since_of_notes rfl⟩

/-- While the writer is at work, nothing but its write is noted. -/
theorem since_writing (key : Key) (call : Call ω) (recorder : Recorder ω) :
    ∀ note ∈ recorder.since ((writing key call).effect recorder),
      note = .written key runningPhase := by
  intro note member
  cases call with
  | finish outcome =>
      cases outcome with
      | succeeded => exact List.mem_singleton.mp (recorder.since_add _ ▸ member)
      | failed | panicked =>
          simp [writing, unaware, Call.within, Call.andThen, Call.effect] at member
  | pause | say => simp [writing, unaware, Call.within, Call.andThen, Call.effect] at member
  | act effect next =>
      have silent : recorder.since ((writing key (.act effect next)).effect recorder) = [] :=
        Recorder.since_of_notes rfl
      rw [silent] at member
      cases member

end VirtualMachine

open VirtualMachine

/-! ## Events -/

/-- What matters about a step for the phases of virtual machines. -/
inductive PhaseEvent
  /-- An event of the watch changed the cache. -/
  | changed (key : Key) (change : Change VirtualMachine)
  /-- A caller read the cache for its item. -/
  | read (id : Nat) (work : Work VirtualMachine) (found : Option VirtualMachine)
  /-- Something was noted about the status writer while a caller worked on its item. -/
  | noted (id : Nat) (work : Work VirtualMachine) (note : PhaseNote)
deriving Repr

namespace PhaseEvent

@[simp]
def reading? (id : Nat) : PhaseEvent → Option (Work VirtualMachine × Option VirtualMachine)
  | .read other work found => if other = id then some (work, found) else none
  | _ => none

end PhaseEvent

/-- The item that a caller read the cache for last, and what it found. -/
def lastReading? (id : Nat) (log : List PhaseEvent) :
    Option (Work VirtualMachine × Option VirtualMachine) :=
  log.findSome? (PhaseEvent.reading? id)

/-- What the next step of an item shows. -/
def Stage.phaseEvents (before after : System VirtualMachine (Recorder ω)) (id : Nat)
    (work : Work VirtualMachine) : Stage VirtualMachine (Recorder ω) → List PhaseEvent
  | .handed => [.read id work (before.cache.get? work.key)]
  | _ => (before.world.since after.world).map (.noted id work)

namespace System

/-- What a step shows.  An event of the watch is taken only while nothing is passed on. -/
def phaseEvents (before : System VirtualMachine (Recorder ω))
    (action : Action VirtualMachine (Recorder ω)) (after : System VirtualMachine (Recorder ω)) :
    List PhaseEvent :=
  match action with
  | .receive _ _ =>
      match before.relay with
      | .idle => after.relay.changes.map fun entry => .changed entry.1 entry.2
      | .passing .. => []
  | .advance id =>
      match (before.callers.find? id).bind fun caller => caller.point.held? with
      | some (work, stage) => stage.phaseEvents before after id work
      | none => []
  | _ => []

variable {before after : System VirtualMachine (Recorder ω)}
  {action : Action VirtualMachine (Recorder ω)} {id : Nat}
  {caller : Caller VirtualMachine (Recorder ω)} {work : Work VirtualMachine}
  {stage : Stage VirtualMachine (Recorder ω)}

theorem phaseEvents_of_held (found : before.callers.find? id = some caller)
    (held : caller.point.held? = some (work, stage)) :
    phaseEvents before (.advance id) after = stage.phaseEvents before after id work := by
  simp only [phaseEvents, found, Option.bind_some, held]

end System

section

variable {id : Nat} {log events : List PhaseEvent}

theorem lastReading?_append (unread : ∀ event ∈ events, event.reading? id = none) :
    lastReading? id (events ++ log) = lastReading? id log := by
  rw [lastReading?, List.findSome?_append, List.findSome?_eq_none_iff.mpr unread]
  rfl

theorem lastReading?_read (work : Work VirtualMachine) (found : Option VirtualMachine) :
    lastReading? id (.read id work found :: log) = some (work, found) := by
  simp [lastReading?]

end

namespace System

variable {before after : System VirtualMachine (Recorder ω)}
  {action : Action VirtualMachine (Recorder ω)} {id : Nat} {log : List PhaseEvent}
  {caller : Caller VirtualMachine (Recorder ω)} {work : Work VirtualMachine}
  {stage : Stage VirtualMachine (Recorder ω)}

theorem lastReading?_elsewhere (apart : action ≠ .advance id) :
    lastReading? id (phaseEvents before action after ++ log) = lastReading? id log := by
  refine lastReading?_append fun event member => ?_
  unfold phaseEvents at member
  split at member
  · split at member
    · obtain ⟨entry, -, rfl⟩ := List.mem_map.mp member
      rfl
    · cases member
  next other =>
    have elsewhere : other ≠ id := by
      rintro rfl
      exact apart rfl
    split at member
    · unfold Stage.phaseEvents at member
      split at member
      · obtain rfl := List.mem_singleton.mp member
        exact if_neg elsewhere
      · obtain ⟨note, -, rfl⟩ := List.mem_map.mp member
        rfl
    · cases member
  · cases member

theorem lastReading?_unread (found : before.callers.find? id = some caller)
    (held : caller.point.held? = some (work, stage)) (unread : stage ≠ .handed) :
    lastReading? id (phaseEvents before (.advance id) after ++ log) = lastReading? id log := by
  refine lastReading?_append fun event member => ?_
  rw [phaseEvents_of_held found held] at member
  unfold Stage.phaseEvents at member
  split at member
  · exact (unread rfl).elim
  · obtain ⟨note, -, rfl⟩ := List.mem_map.mp member
    rfl

end System

/-! ## Where the callers of a controller of virtual machines stand -/

/-- What is to be expected of an item, given what its caller read last. -/
inductive Stage.Anticipated (setPhase : StatusWriter ω)
    (read : Option (Work VirtualMachine × Option VirtualMachine)) (work : Work VirtualMachine) :
    Stage VirtualMachine (Recorder ω) → Prop
  | handed : Anticipated setPhase read work .handed
  | looked {current : Option VirtualMachine} :
      read = some (work, current) → Anticipated setPhase read work (.looked current)
  | asking {machine : VirtualMachine} :
      read = some (work, some machine) → work.operation = .add → machine.phase? = none →
      Anticipated setPhase read work (.adopting machine (VirtualMachine.asking setPhase work.key))
  | writing (machine : VirtualMachine) (call : Call ω) :
      work.operation = .add →
      Anticipated setPhase read work (.adopting machine (VirtualMachine.writing work.key call))
  | adopting (machine : VirtualMachine) {call : Call (Recorder ω)} :
      call.Plain → Anticipated setPhase read work (.adopting machine call)
  | adopted (machine : VirtualMachine) : Anticipated setPhase read work (.adopted machine)
  | syncing {call : Call (Recorder ω)} :
      call.Plain → Anticipated setPhase read work (.syncing call)
  | settled {stage : Stage VirtualMachine (Recorder ω)} :
      stage.hasEnded = true → Anticipated setPhase read work stage

section

variable {setPhase : StatusWriter ω} {plan : Plan VirtualMachine (Recorder ω)}
  {read : Option (Work VirtualMachine × Option VirtualMachine)} {work : Work VirtualMachine}
  {stage next : Stage VirtualMachine (Recorder ω)}

theorem Stage.anticipated_opening
    (handler : plan.handler = VirtualMachine.handler (recorded setPhase))
    {current : Option VirtualMachine} (known : read = some (work, current)) :
    (Stage.opening plan work current).Anticipated setPhase read work := by
  unfold opening
  split
  next machine addition =>
    rw [handler, adopt_recorded]
    split
    next unset => exact .asking known addition unset
    · exact .adopting _ .ended
  · rw [handler]
    exact .syncing (.say _ .ended)

theorem Stage.Anticipated.goes (anticipated : stage.Anticipated setPhase read work)
    (handler : plan.handler = VirtualMachine.handler (recorded setPhase))
    (goes : stage.Goes plan work next) : next.Anticipated setPhase read work := by
  cases goes with
  | @adopting machine _ _ goesOn =>
      cases anticipated with
      | asking _ addition =>
          cases goesOn
          exact .writing machine _ addition
      | writing _ call addition =>
          rcases writing_cases goesOn with ⟨next, rfl, -⟩ | ⟨plain, -⟩
          · exact .writing machine next addition
          · exact .adopting machine plain
      | adopting _ plain => exact .adopting machine (plain.continues goesOn)
      | settled ended => cases ended
  | adopted => exact .adopted _
  | unadopted | ended => exact .settled rfl
  | begun =>
      rw [handler]
      exact .syncing (.say _ .ended)
  | syncing goesOn =>
      cases anticipated with
      | syncing plain => exact .syncing (plain.continues goesOn)
      | settled ended => cases ended

/-- Only the adoption of a machine that was read without a phase asks for one. -/
theorem Stage.Anticipated.asked (anticipated : stage.Anticipated setPhase read work)
    {recorder : Recorder ω} {key : Key} {phase : String}
    (member : .asked key phase ∈ recorder.since (stage.effect recorder)) :
    key = work.key ∧ phase = runningPhase ∧ work.operation = .add ∧
      ∃ machine, read = some (work, some machine) ∧ machine.phase? = none := by
  have idle (still : stage.effect = id) : False := by
    rw [still, id, Recorder.since_self] at member
    cases member
  cases anticipated with
  | asking known addition unset =>
      have asked : PhaseNote.asked key phase = .asked work.key runningPhase :=
        List.mem_singleton.mp (recorder.since_add _ ▸ member)
      obtain ⟨rfl, rfl⟩ := PhaseNote.asked.inj asked
      exact ⟨rfl, rfl, addition, _, known, unset⟩
  | writing machine call => cases since_writing work.key call recorder _ member
  | adopting _ plain | syncing plain => exact (idle plain.effect_eq).elim
  | settled ended => exact (idle (Stage.effect_of_hasEnded ended)).elim
  | handed | looked | adopted => exact (idle rfl).elim

end

namespace System

/-- What a run keeps true about the callers of a controller of virtual machines. -/
def Dispatches (setPhase : StatusWriter ω) (log : List PhaseEvent)
    (system : System VirtualMachine (Recorder ω)) : Prop :=
  ∀ id caller work stage, system.callers.find? id = some caller →
    caller.point.held? = some (work, stage) →
    stage.Anticipated setPhase (lastReading? id log) work

variable {setPhase : StatusWriter ω} {plan : Plan VirtualMachine (Recorder ω)}
  {admits : Event VirtualMachine → Prop} {log : List PhaseEvent}
  {before after : System VirtualMachine (Recorder ω)}
  {action : Action VirtualMachine (Recorder ω)} {mark : Option (Mark VirtualMachine)} {id : Nat}
  {work : Work VirtualMachine}

theorem Dispatches.step (dispatches : before.Dispatches setPhase log)
    (handler : plan.handler = VirtualMachine.handler (recorded setPhase))
    (turn : Turn plan before action mark after) :
    after.Dispatches setPhase (phaseEvents before action after ++ log) := by
  intro id caller work stage found held
  cases came_of_turn turn found held with
  | stayed apart stays =>
      rw [lastReading?_elsewhere apart]
      exact dispatches id caller work stage stays held
  | taken => exact .handed
  | @moved former earlier _ came bore moves =>
      have anticipated := dispatches id former work earlier came bore
      cases moves with
      | looked =>
          rw [phaseEvents_of_held came bore]
          exact .looked (lastReading?_read _ _)
      | called =>
          rw [lastReading?_unread came bore nofun]
          cases anticipated with
          | looked known => exact Stage.anticipated_opening handler known
          | settled ended => cases ended
      | handled goes =>
          have unread : earlier ≠ .handed := by
            rintro rfl
            cases goes
          rw [lastReading?_unread came bore unread]
          exact anticipated.goes handler goes
      | concluded => exact .settled (Stage.hasEnded_settling _)
      | forgot | yielded | granted | given => exact .settled rfl

end System

end Reconciler
