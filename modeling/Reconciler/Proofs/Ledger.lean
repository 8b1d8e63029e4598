import Reconciler.Proofs.Callers
import Reconciler.Proofs.Observed

/-!
# The ledger of a run

For the retry budget of a key three kinds of steps count: the queue takes a notification,
a failed attempt is granted another one, and a failed attempt was the last one.  Each
makes an entry in the ledger of the run.

Besides, a key has an account: its failures in a row, and the number of its items that
somebody still carries.  Only a notification adds to these items, and a drop takes one
away; other items may join each other, or are lost to a closed queue.  So there are never
more drops than notifications, and as long as there are failures in a row, an item is
left that paid for them.
-/

namespace Reconciler

variable {α ω : Type}

/-- What a step means for the budget of a key: the queue took a notification, or an
attempt failed and another one was granted, or the item was dropped. -/
inductive Entry
  | accepted
  | granted
  | dropped
deriving DecidableEq, Repr

def Verdict.entry : Verdict → Entry
  | .retry _ => .granted
  | .drop _ => .dropped

/-- The key of an item that is about to be weighed. -/
def Stage.weighed? (work : Work α) : Stage α ω → Option Key
  | .weighing _ => some work.key
  | _ => none

/-- The attempts that were decided about. -/
def attempts (key : Key) (ledger : List (Key × Entry)) : Nat :=
  ledger.count (key, .granted) + ledger.count (key, .dropped)

def drops (key : Key) (ledger : List (Key × Entry)) : Nat :=
  ledger.count (key, .dropped)

/-- The notifications that the queue took. -/
def notifications (key : Key) (ledger : List (Key × Entry)) : Nat :=
  ledger.count (key, .accepted)

theorem attempts_cons (key : Key) (kind : Entry) (ledger : List (Key × Entry)) :
    attempts key ((key, kind) :: ledger) =
      attempts key ledger + if kind = .accepted then 0 else 1 := by
  cases kind with
  | accepted => simp [attempts]
  | granted | dropped =>
      simp [attempts]
      omega

theorem drops_cons (key : Key) (kind : Entry) (ledger : List (Key × Entry)) :
    drops key ((key, kind) :: ledger) = drops key ledger + if kind = .dropped then 1 else 0 := by
  cases kind <;> simp [drops]

theorem notifications_cons (key : Key) (kind : Entry) (ledger : List (Key × Entry)) :
    notifications key ((key, kind) :: ledger) =
      notifications key ledger + if kind = .accepted then 1 else 0 := by
  cases kind <;> simp [notifications]

namespace System

variable [Resource α]

/-- The entry that a step makes. -/
def booking? (plan : Plan α ω) (system : System α ω) : Action α ω → Option (Key × Entry)
  | .passOn =>
      match system.relay with
      | .passing ((key, change) :: _) _ _ =>
          if system.queue.closed then none
          else (Work.ofChange? key change).map fun _ => (key, .accepted)
      | _ => none
  | .advance id =>
      (shown? Stage.weighed? system.callers id).map fun key =>
        (key, (system.limiter.fail plan.backoff key).1.entry)
  | _ => none

/-- The runs of a controller with their ledgers, the newest entry first. -/
abbrev Booked (plan : Plan α ω) (admits : Event α → Prop) :
    List (Key × Entry) → System α ω → Prop :=
  Observed plan (fun before action _ => (before.booking? plan action).toList)
    (Action.Occurs admits)

/-- The ledger and the state after actions one after another, if all of them are possible. -/
abbrev audit (plan : Plan α ω) :
    List (Key × Entry) → System α ω → List (Action α ω) →
      Option (List (Key × Entry) × System α ω) :=
  transcript plan fun before action _ => (before.booking? plan action).toList

end System

/-! ## The account of a key -/

/-- What matters for the budget of a key. -/
structure Account where
  failures : Nat
  carried : Nat
  closed : Bool

namespace Account

/-- How a step changes the account of a key. -/
inductive Step (retries : Nat) (key : Key) (before after : Account) :
    Option (Key × Entry) → Prop
  /-- Items are passed on, join each other, or are lost to a closed queue. -/
  | moved {entry : Option (Key × Entry)} :
      (∀ kind, entry ≠ some (key, kind)) → after.failures = before.failures →
      after.carried ≤ before.carried →
      (after.closed = false →
        before.closed = false ∧ (0 < before.carried → 0 < after.carried)) →
      Step retries key before after entry
  | accepted :
      after.failures = before.failures → before.closed = false →
      after.carried ≤ before.carried + 1 → 0 < after.carried →
      Step retries key before after (some (key, .accepted))
  | granted :
      before.failures < retries → after.failures = before.failures + 1 → 0 < before.carried →
      after.carried = before.carried → after.closed = before.closed →
      Step retries key before after (some (key, .granted))
  | dropped :
      retries ≤ before.failures → after.failures = 0 → after.carried + 1 = before.carried →
      Step retries key before after (some (key, .dropped))

/-- What a run keeps true about the account of a key that always fails. -/
structure Sound (retries : Nat) (key : Key) (ledger : List (Key × Entry)) (account : Account) :
    Prop where
  balance : attempts key ledger = (retries + 1) * drops key ledger + account.failures
  bounded : account.failures ≤ retries
  covered : drops key ledger + account.carried ≤ notifications key ledger
  paid : 0 < account.failures → drops key ledger < notifications key ledger
  attended : account.closed = false → 0 < account.failures → 0 < account.carried

variable {retries : Nat} {key : Key} {ledger : List (Key × Entry)} {before after : Account}
  {entry : Option (Key × Entry)}

theorem count_of_unlisted (ledger : List (Key × Entry))
    (unlisted : ∀ kind, entry ≠ some (key, kind)) (kind : Entry) :
    (entry.toList ++ ledger).count (key, kind) = ledger.count (key, kind) := by
  cases entry with
  | none => rfl
  | some entry =>
      have apart : entry ≠ (key, kind) := fun same => unlisted kind (congrArg some same)
      exact List.count_cons_of_ne apart

theorem Sound.moved (sound : before.Sound retries key ledger)
    (unlisted : ∀ kind, entry ≠ some (key, kind)) (failures : after.failures = before.failures)
    (carried : after.carried ≤ before.carried)
    (stays : after.closed = false →
      before.closed = false ∧ (0 < before.carried → 0 < after.carried)) :
    after.Sound retries key (entry.toList ++ ledger) := by
  have same := count_of_unlisted ledger unlisted
  constructor
  · simp only [attempts, drops, same, failures]
    exact sound.balance
  · rw [failures]
    exact sound.bounded
  · simp only [drops, notifications, same]
    exact Nat.le_trans (Nat.add_le_add_left carried _) sound.covered
  · simp only [drops, notifications, same, failures]
    exact sound.paid
  · intro isOpen failed
    rw [failures] at failed
    obtain ⟨wasOpen, kept⟩ := stays isOpen
    exact kept (sound.attended wasOpen failed)

theorem Sound.step (sound : before.Sound retries key ledger)
    (step : Step retries key before after entry) :
    after.Sound retries key (entry.toList ++ ledger) := by
  cases step with
  | moved unlisted failures carried stays => exact sound.moved unlisted failures carried stays
  | accepted failures isOpen grows carried =>
      obtain ⟨balance, bounded, covered, paid, attended⟩ := sound
      change after.Sound retries key ((key, .accepted) :: ledger)
      have tried := attempts_cons key .accepted ledger
      have lost := drops_cons key .accepted ledger
      have told := notifications_cons key .accepted ledger
      simp only [reduceCtorEq, if_true, if_false, Nat.add_zero] at tried lost told
      refine ⟨?_, ?_, ?_, ?_, ?_⟩
      · rw [tried, lost, failures]
        exact balance
      all_goals omega
  | granted spare failures carried same closed =>
      obtain ⟨balance, bounded, covered, paid, attended⟩ := sound
      change after.Sound retries key ((key, .granted) :: ledger)
      have tried := attempts_cons key .granted ledger
      have lost := drops_cons key .granted ledger
      have told := notifications_cons key .granted ledger
      simp only [reduceCtorEq, if_false, Nat.add_zero] at tried lost told
      refine ⟨?_, ?_, ?_, ?_, ?_⟩
      · rw [tried, lost]
        omega
      all_goals omega
  | dropped spent failures freed =>
      -- The counter was at its limit, so the drop ends a full round.
      obtain ⟨balance, bounded, covered, paid, attended⟩ := sound
      change after.Sound retries key ((key, .dropped) :: ledger)
      have tried := attempts_cons key .dropped ledger
      have lost := drops_cons key .dropped ledger
      have told := notifications_cons key .dropped ledger
      simp only [reduceCtorEq, if_true, if_false, Nat.add_zero] at tried lost told
      have round : (retries + 1) * (drops key ledger + 1) =
          (retries + 1) * drops key ledger + (retries + 1) := Nat.mul_add_one _ _
      refine ⟨?_, ?_, ?_, ?_, ?_⟩
      · rw [tried, lost, round]
        omega
      all_goals omega

/-- Each notification pays for one round of attempts. -/
theorem Sound.attempts_le (sound : before.Sound retries key ledger) :
    attempts key ledger ≤ notifications key ledger * (retries + 1) := by
  obtain ⟨balance, bounded, covered, paid, -⟩ := sound
  rw [Nat.mul_comm]
  rcases Nat.eq_zero_or_pos before.failures with none | failed
  · have rounds : drops key ledger ≤ notifications key ledger := by omega
    calc attempts key ledger
      _ = (retries + 1) * drops key ledger := by rw [balance, none, Nat.add_zero]
      _ ≤ (retries + 1) * notifications key ledger := Nat.mul_le_mul_left _ rounds
  · have rounds : drops key ledger + 1 ≤ notifications key ledger := paid failed
    calc attempts key ledger = (retries + 1) * drops key ledger + before.failures := balance
      _ ≤ (retries + 1) * drops key ledger + (retries + 1) := by omega
      _ = (retries + 1) * (drops key ledger + 1) := (Nat.mul_add_one _ _).symm
      _ ≤ (retries + 1) * notifications key ledger := Nat.mul_le_mul_left _ rounds

theorem Step.still {entry : Option (Key × Entry)} (unlisted : ∀ kind, entry ≠ some (key, kind))
    (same : after = before) : Step retries key before after entry := by
  rw [same]
  exact .moved unlisted rfl (Nat.le_refl _) fun isOpen => ⟨isOpen, id⟩

end Account

end Reconciler
