import Reconciler.Proofs.NodeNotices

/-!
# The trail from a lost node to its alerts

An alert about a node is recorded for an item that found the node absent when the cache
was read for it.  Most of these items ask for a removal, and there are no more of them
than deletions that the cache told of.  But an item that asks for something else may have
been on its way when the node disappeared, and find it absent as well.  As long as a node
is absent no such item is added, so every disappearance leaves at most two of them: the
pending one, and one that was handed out and is still to be read.

This file counts what is left of a key on its way to an alert, and says how a step changes
these numbers.  What holds for the steps of a controller is shown elsewhere.
-/

namespace Reconciler

/-- Whether an item asks for the removal of its object. -/
def Work.isRemoval {α : Type} (work : Work α) : Bool :=
  work.operation == .delete

namespace Notice

/-- The key that a notice is about. -/
def key : Notice → Key
  | .changed key _ => key
  | .read _ work _ | .recorded _ work _ => work.key

def isDeletion : Notice → Bool
  | .changed _ (.deleted _) => true
  | _ => false

/-- Whether the cache was read for an item that asks for a removal. -/
def isRemoval : Notice → Bool
  | .read _ work _ => work.isRemoval
  | _ => false

/-- Whether the cache was read for an item that asks for no removal, and had no object. -/
def isStale : Notice → Bool
  | .read _ work none => !work.isRemoval
  | _ => false

def isRecording : Notice → Bool
  | .recorded .. => true
  | _ => false

/-- The change of a key that a notice tells of. -/
def change? (key : Key) : Notice → Option (Change Node)
  | .changed other change => if other = key then some change else none
  | _ => none

theorem change?_elsewhere {notice : Notice} {key : Key} (elsewhere : notice.key ≠ key) :
    notice.change? key = none := by
  cases notice with
  | changed other change => exact if_neg elsewhere
  | read | recorded => rfl

end Notice

/-! ## Counting notices -/

/-- The number of notices of a kind about a key. -/
def tally (kind : Notice → Bool) (key : Key) (log : List Notice) : Nat :=
  log.countP fun notice => kind notice && notice.key == key

/-- The deletions of a key that the cache told of. -/
def deletions (key : Key) (log : List Notice) : Nat :=
  tally Notice.isDeletion key log

/-- The items of a key that asked for its removal and for which the cache was read. -/
def removalReads (key : Key) (log : List Notice) : Nat :=
  tally Notice.isRemoval key log

/-- The items of a key that asked for something else, but found nothing in the cache. -/
def staleReads (key : Key) (log : List Notice) : Nat :=
  tally Notice.isStale key log

/-- The alerts about a key that were recorded, new ones or not. -/
def recordings (key : Key) (log : List Notice) : Nat :=
  tally Notice.isRecording key log

/-- The last change of a key. -/
def lastChange? (key : Key) (log : List Notice) : Option (Change Node) :=
  log.findSome? (Notice.change? key)

variable {key : Key} {notices log : List Notice} {kind : Notice → Bool}

theorem tally_append (kind : Notice → Bool) (key : Key) (notices log : List Notice) :
    tally kind key (notices ++ log) = tally kind key notices + tally kind key log :=
  List.countP_append

theorem tally_elsewhere (elsewhere : ∀ notice ∈ notices, notice.key ≠ key) :
    tally kind key notices = 0 := by
  refine List.countP_eq_zero.mpr fun notice member counts => ?_
  rw [Bool.and_eq_true, beq_iff_eq] at counts
  exact elsewhere notice member counts.2

theorem tally_unlike (unlike : ∀ notice ∈ notices, kind notice = false) :
    tally kind key notices = 0 := by
  refine List.countP_eq_zero.mpr fun notice member counts => ?_
  rw [unlike notice member] at counts
  cases counts

theorem tally_cons_elsewhere (elsewhere : ∀ notice ∈ notices, notice.key ≠ key)
    (kind : Notice → Bool) (log : List Notice) :
    tally kind key (notices ++ log) = tally kind key log := by
  rw [tally_append, tally_elsewhere elsewhere, Nat.zero_add]

theorem tally_cons (kind : Notice → Bool) {notice : Notice} (own : notice.key = key)
    (log : List Notice) :
    tally kind key (notice :: log) = tally kind key log + if kind notice then 1 else 0 := by
  simp [tally, List.countP_cons, own]

theorem lastChange?_append (key : Key) (notices log : List Notice) :
    lastChange? key (notices ++ log) = (lastChange? key notices).or (lastChange? key log) :=
  List.findSome?_append

theorem lastChange?_elsewhere (elsewhere : ∀ notice ∈ notices, notice.key ≠ key) :
    lastChange? key notices = none := by
  rw [lastChange?, List.findSome?_eq_none_iff]
  intro notice member
  exact Notice.change?_elsewhere (elsewhere notice member)

theorem mem_of_lastChange? {changes : List (Key × Change Node)} {change : Change Node}
    (told : lastChange? key (changes.map fun entry => .changed entry.1 entry.2) = some change) :
    (key, change) ∈ changes := by
  obtain ⟨notice, member, tells⟩ := List.exists_of_findSome?_eq_some told
  obtain ⟨⟨other, found⟩, listed, rfl⟩ := List.mem_map.mp member
  obtain ⟨rfl, same⟩ := Option.ite_none_right_eq_some.mp tells
  rw [← Option.some.inj same]
  exact listed

theorem not_mem_of_lastChange? {changes : List (Key × Change Node)}
    (untold : lastChange? key (changes.map fun entry => .changed entry.1 entry.2) = none)
    (change : Change Node) : (key, change) ∉ changes := by
  intro member
  have none := List.findSome?_eq_none_iff.mp untold _ (List.mem_map_of_mem member)
  simp [Notice.change?] at none

theorem deletions_pos {last : Node} (changed : lastChange? key log = some (.deleted last)) :
    0 < deletions key log := by
  obtain ⟨notice, member, told⟩ := List.exists_of_findSome?_eq_some changed
  refine List.countP_pos_iff.mpr ⟨notice, member, ?_⟩
  cases notice with
  | changed other change =>
      obtain ⟨same, deleted⟩ := Option.ite_none_right_eq_some.mp told
      rw [Option.some.inj deleted, Notice.isDeletion, Notice.key, Bool.true_and]
      exact beq_iff_eq.mpr same
  | read | recorded => cases told

/-! ## What is left of a key -/

/-- What is left of a key on its way to an alert. -/
structure Trail where
  /-- Whether the cache has no object of the key. -/
  absent : Bool
  /-- The changes that are still to be passed on and ask for anything but a removal. -/
  told : Nat
  /-- The removals that are still to be passed on, pending, or handed out and unread. -/
  removals : Nat
  /-- The other items that are pending, or handed out and unread. -/
  others : Nat
  /-- The callers that are due to record an alert. -/
  due : Nat
  /-- Whether the queue is closed. -/
  closed : Bool

namespace Trail

/-- What still has to be read from the cache. -/
def unread (trail : Trail) : Nat :=
  trail.told + trail.removals + trail.others

/-- How a step changes what is left of a key. -/
inductive Step (key : Key) (before after : Trail) : List Notice → Prop
  /-- Items are passed on, join each other, or are lost to a closed queue. -/
  | moved {notices : List Notice} :
      (∀ notice ∈ notices, notice.key ≠ key) → after.absent = before.absent →
      after.due = before.due → after.removals ≤ before.removals → after.told ≤ before.told →
      after.told + after.others ≤ before.told + before.others →
      (after.closed = false →
        before.closed = false ∧ (0 < before.unread → 0 < after.unread)) →
      Step key before after notices
  | received {notices : List Notice} :
      (∀ notice ∈ notices, ∃ other change, notice = .changed other change) →
      before.told = 0 → before.others ≤ 2 → after.others = before.others →
      after.removals = before.removals + deletions key notices → after.due = before.due →
      (after.absent = true → after.told = 0 ∧
        (before.absent = true ∨ 0 < deletions key notices)) →
      (∀ last, lastChange? key notices = some (.deleted last) → after.absent = true) →
      (lastChange? key notices = none → after.absent = before.absent) →
      after.closed = before.closed →
      Step key before after notices
  | read {id : Nat} {work : Work Node} {found : Option Node} :
      work.key = key → before.absent = found.isNone → after.absent = before.absent →
      after.told = before.told →
      (after.removals + if work.isRemoval then 1 else 0) = before.removals →
      (after.others + if work.isRemoval then 0 else 1) = before.others →
      after.due = before.due + (if found.isNone then 1 else 0) →
      after.closed = before.closed →
      Step key before after [.read id work found]
  | recorded {id : Nat} {work : Work Node} {fresh : Bool} :
      work.key = key → before = { after with due := after.due + 1 } →
      Step key before after [.recorded id work fresh]

/-- What a run keeps true about what is left of a key. -/
structure Sound (key : Key) (log : List Notice) (trail : Trail) : Prop where
  /-- Every recording answers an item that found nothing. -/
  answered : recordings key log + trail.due ≤ staleReads key log + removalReads key log
  deleted : removalReads key log + trail.removals ≤ deletions key log
  spared : staleReads key log ≤ 2 * deletions key log
  absent : trail.absent = true →
    trail.told = 0 ∧ staleReads key log + trail.others ≤ 2 * deletions key log

variable {before after : Trail}

theorem Sound.step (sound : before.Sound key log) (step : Step key before after notices) :
    after.Sound key (notices ++ log) := by
  obtain ⟨answered, deleted, spared, absent⟩ := sound
  cases step with
  | moved elsewhere stays due fewer quieter passed =>
      have same (kind : Notice → Bool) := tally_cons_elsewhere elsewhere kind log
      refine ⟨?_, ?_, ?_, ?_⟩
      · simp only [recordings, staleReads, removalReads, same] at answered ⊢
        omega
      · simp only [removalReads, deletions, same] at deleted ⊢
        omega
      · simp only [staleReads, deletions, same] at spared ⊢
        exact spared
      · intro isAbsent
        rw [stays] at isAbsent
        obtain ⟨silent, bounded⟩ := absent isAbsent
        simp only [staleReads, deletions, same] at bounded ⊢
        omega
  | received changes silent few others more due leaves =>
      have unlike (kind : Notice → Bool)
          (blind : ∀ other change, kind (.changed other change) = false) :
          tally kind key (notices ++ log) = tally kind key log := by
        rw [tally_append, tally_unlike, Nat.zero_add]
        intro notice member
        obtain ⟨other, change, rfl⟩ := changes notice member
        exact blind other change
      have recorded : recordings key (notices ++ log) = recordings key log :=
        unlike _ fun _ _ => rfl
      have removed : removalReads key (notices ++ log) = removalReads key log :=
        unlike _ fun _ _ => rfl
      have found : staleReads key (notices ++ log) = staleReads key log := unlike _ fun _ _ => rfl
      have told : deletions key (notices ++ log) = deletions key notices + deletions key log :=
        tally_append _ _ _ _
      refine ⟨by omega, by omega, by omega, ?_⟩
      intro isAbsent
      obtain ⟨stillSilent, left⟩ := leaves isAbsent
      refine ⟨stillSilent, ?_⟩
      rcases left with wasAbsent | disappeared
      · obtain ⟨-, bounded⟩ := absent wasAbsent
        omega
      · -- The items that are left over by this disappearance are paid for by its deletion.
        omega
  | @read id work found own seen stays told removal other due =>
      have about : (Notice.read id work found).key = key := own
      have recorded : recordings key ([.read id work found] ++ log) = recordings key log :=
        tally_cons _ about log
      have removed : removalReads key ([.read id work found] ++ log) =
          removalReads key log + if work.isRemoval then 1 else 0 :=
        tally_cons _ about log
      have deletes : deletions key ([.read id work found] ++ log) = deletions key log :=
        tally_cons _ about log
      have finds : staleReads key ([.read id work found] ++ log) =
          staleReads key log + if Notice.isStale (.read id work found) then 1 else 0 :=
        tally_cons _ about log
      cases found with
      | none =>
          have isAbsent : before.absent = true := seen
          obtain ⟨silent, bounded⟩ := absent isAbsent
          cases asks : work.isRemoval <;>
            simp only [asks, Notice.isStale, Option.isNone_none, Bool.not_true, Bool.not_false,
              Bool.false_eq_true, if_true, if_false] at removal other due removed finds
          all_goals exact ⟨by omega, by omega, by omega, fun _ => ⟨by omega, by omega⟩⟩
      | some current =>
          have present : before.absent = false := seen
          simp only [Notice.isStale, Option.isNone_some, Bool.false_eq_true, if_false] at due finds
          refine ⟨by omega, by omega, by omega, ?_⟩
          intro isAbsent
          rw [stays, present] at isAbsent
          cases isAbsent
  | @recorded id work fresh own same =>
      subst same
      have about : (Notice.recorded id work fresh).key = key := own
      have recorded : recordings key ([.recorded id work fresh] ++ log) = recordings key log + 1 :=
        tally_cons _ about log
      have removed : removalReads key ([.recorded id work fresh] ++ log) =
          removalReads key log :=
        tally_cons _ about log
      have deletes : deletions key ([.recorded id work fresh] ++ log) = deletions key log :=
        tally_cons _ about log
      have finds : staleReads key ([.recorded id work fresh] ++ log) = staleReads key log :=
        tally_cons _ about log
      dsimp only at answered deleted absent
      refine ⟨by omega, by omega, by omega, ?_⟩
      intro isAbsent
      obtain ⟨silent, bounded⟩ := absent isAbsent
      omega

end Trail

end Reconciler
