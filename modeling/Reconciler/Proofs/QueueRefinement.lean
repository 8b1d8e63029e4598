import Reconciler.Proofs.Mailbox

/-!
# The queue refines the mailbox

A queue represents a mailbox if its line holds the keys of the ready items, its
table holds the items, ready or parked, and both agree about the keys in flight and
about closing.  Every use of the queue keeps this relation and gives the answer of
the mailbox, provided that a key is only released while it is in flight.

It follows that keys leave the line in the order in which they became ready, that
none is lost on the way, and that none is handed out twice.
-/

namespace Reconciler

variable {α : Type}

namespace Queue

/-- A queue keeps the state of a mailbox. -/
structure Represents (queue : Queue α) (box : Mailbox α) : Prop where
  ready : queue.ready = box.readyKeys
  pending : ∀ key, queue.pending.find? key = box.item? key
  inFlight : ∀ key, key ∈ queue.inFlight ↔ key ∈ box.inFlight
  closed : queue.closed = box.closed

/-! ## One operation -/

@[simp]
theorem add_closed (queue : Queue α) (work : Work α) :
    (queue.add work).closed = queue.closed := by
  unfold add
  repeat' split
  all_goals rfl

theorem closed_take {queue after : Queue α} {answer : Option (Work α)}
    (taken : queue.take = (answer, after)) : after.closed = queue.closed := by
  unfold take at taken
  split at taken
  · rw [← (Prod.mk.inj taken).2]
  · split at taken <;> rw [← (Prod.mk.inj taken).2]

theorem find?_add {queue : Queue α} (isOpen : queue.closed = false) (work : Work α) (key : Key) :
    (queue.add work).pending.find? key =
      if work.key = key then some (work.joining (queue.pending.find? work.key))
      else queue.pending.find? key := by
  unfold add
  rw [if_neg (by simp [isOpen])]
  cases found : queue.pending.find? work.key with
  | some item => simp [Table.find?_insert]
  | none =>
      simp only
      split <;> simp [Table.find?_insert]

theorem ready_add (queue : Queue α) (work : Work α) :
    (queue.add work).ready =
      queue.ready ++
        if queue.closed = false ∧ queue.pending.find? work.key = none ∧
          work.key ∉ queue.inFlight then [work.key] else [] := by
  unfold add
  split
  next isClosed => simp [isClosed]
  next isOpen =>
    cases found : queue.pending.find? work.key with
    | some item => simp
    | none => by_cases flying : work.key ∈ queue.inFlight <;> simp [flying, isOpen]

theorem take_of_nil {queue : Queue α} (nothing : queue.ready = []) :
    queue.take = (none, queue) := by
  obtain ⟨ready, pending, inFlight, closed⟩ := queue
  obtain rfl : ready = [] := nothing
  cases closed <;> simp [take, firstReady]

namespace Represents

variable {queue : Queue α} {box : Mailbox α}

theorem empty : ({} : Queue α).Represents {} where
  ready := rfl
  pending _ := rfl
  inFlight _ := by simp
  closed := rfl

theorem add (related : queue.Represents box) (work : Work α) :
    (queue.add work).Represents (box.add work) := by
  by_cases isClosed : queue.closed = true
  · have boxClosed : box.closed = true := related.closed ▸ isClosed
    rw [Queue.add_of_closed isClosed, Mailbox.add_of_closed boxClosed]
    exact related
  have isOpen : queue.closed = false := by simpa using isClosed
  have boxOpen : box.closed = false := related.closed ▸ isOpen
  constructor
  · simp only [ready_add, Mailbox.readyKeys_add, Mailbox.arriving, related.ready, related.closed,
      related.pending, related.inFlight]
  · intro key
    rw [find?_add isOpen, Mailbox.item?_add boxOpen, related.pending, related.pending]
  · simpa using related.inFlight
  · simpa using related.closed

theorem take (related : queue.Represents box) :
    queue.take.1 = box.take.1 ∧ queue.take.2.Represents box.take.2 := by
  by_cases isClosed : queue.closed = true
  · have boxClosed : box.closed = true := related.closed ▸ isClosed
    rw [take_of_closed isClosed, Mailbox.take_of_closed boxClosed]
    exact ⟨rfl, related⟩
  have isOpen : queue.closed = false := by simpa using isClosed
  have boxOpen : box.closed = false := related.closed ▸ isOpen
  cases line : box.ready with
  | nil =>
      have nothing : queue.ready = [] := by rw [related.ready, Mailbox.readyKeys, line]; rfl
      rw [take_of_nil nothing, Mailbox.take_of_nil line]
      exact ⟨rfl, related⟩
  | cons work rest =>
      have keys : queue.ready = work.key :: rest.map Work.key := by
        rw [related.ready, Mailbox.readyKeys, line, List.map_cons]
      have pending : queue.pending.find? work.key = some work := by
        rw [related.pending]
        simp [Mailbox.item?, Mailbox.readyItem?, line]
      obtain ⟨after, boxTake, readyEq, parkedEq, flyingEq, closedEq⟩ :=
        Mailbox.take_of_cons boxOpen line
      have first : firstReady queue.pending queue.ready =
          some (work, work.key, rest.map Work.key) := by
        simp [keys, firstReady, pending]
      have grounded : work.key ∉ queue.inFlight := by
        rw [related.inFlight]
        exact box.ready_apart work (by simp [line])
      rw [boxTake]
      unfold Queue.take
      simp only [isOpen, first, Bool.false_eq_true, if_false, List.contains_eq_mem,
        decide_eq_true_eq, grounded, true_and]
      constructor
      · simp [Mailbox.readyKeys, readyEq]
      · intro key
        rw [Table.find?_erase, Mailbox.item?_of_taken boxOpen line readyEq parkedEq,
          related.pending]
      · intro key
        simp [flyingEq, related.inFlight, or_comm]
      · exact closedEq.symm

theorem release (related : queue.Represents box) {key : Key} (flying : key ∈ box.inFlight) :
    (queue.release key).Represents (box.release key) where
  ready := by
    have parked : (queue.pending.contains key = true) ↔ (box.parked key).isSome := by
      rw [Table.contains, related.pending, Mailbox.item?, box.readyItem?_of_inFlight flying,
        Option.none_or]
    simp only [Mailbox.readyKeys_release, Mailbox.arriving, ← related.ready, ← related.closed,
      ← parked]
    cases isClosed : queue.closed <;> cases pending : queue.pending.contains key <;>
      simp [Queue.release, returns, isClosed, pending]
  pending other := by
    rw [Mailbox.item?_release flying, ← related.pending]
    rfl
  inFlight other := by
    simp [Queue.release, related.inFlight, and_comm]
  closed := by
    rw [Mailbox.closed_release, ← related.closed]
    rfl

theorem close (related : queue.Represents box) : queue.close.Represents box.close where
  ready := related.ready
  pending := related.pending
  inFlight := related.inFlight
  closed := rfl

end Represents

/-! ## Sound queues -/

/-- A queue is sound if it keeps the state of some mailbox. -/
def Sound (queue : Queue α) : Prop :=
  ∃ box : Mailbox α, queue.Represents box

namespace Sound

variable {queue after : Queue α} {work : Work α} {key : Key}

theorem empty : ({} : Queue α).Sound :=
  ⟨{}, .empty⟩

theorem add (sound : queue.Sound) (work : Work α) : (queue.add work).Sound := by
  obtain ⟨box, related⟩ := sound
  exact ⟨_, related.add work⟩

theorem take (sound : queue.Sound) : queue.take.2.Sound := by
  obtain ⟨box, related⟩ := sound
  exact ⟨_, related.take.2⟩

theorem release (sound : queue.Sound) (flying : key ∈ queue.inFlight) :
    (queue.release key).Sound := by
  obtain ⟨box, related⟩ := sound
  exact ⟨_, related.release ((related.inFlight key).mp flying)⟩

theorem close (sound : queue.Sound) : queue.close.Sound := by
  obtain ⟨box, related⟩ := sound
  exact ⟨_, related.close⟩

/-- In an open queue a pending item is ready or parked in flight. -/
theorem placed (sound : queue.Sound) (isOpen : queue.closed = false)
    (found : queue.pending.find? key = some work) :
    key ∈ queue.ready ∨ key ∈ queue.inFlight := by
  obtain ⟨box, related⟩ := sound
  rw [related.pending] at found
  rcases Option.or_eq_some_iff.mp found with ready | ⟨-, parked⟩
  · left
    rw [related.ready, ← Mailbox.key_of_readyItem? ready]
    exact List.mem_map_of_mem (List.mem_of_find?_eq_some ready)
  · right
    rw [related.inFlight]
    exact box.parked_inFlight (related.closed ▸ isOpen) key work parked

theorem eq_of_take_none (sound : queue.Sound) (taken : queue.take = (none, after)) :
    after = queue := by
  obtain ⟨box, related⟩ := sound
  by_cases isClosed : queue.closed = true
  · rw [take_of_closed isClosed] at taken
    exact (Prod.mk.inj taken).2.symm
  cases line : queue.ready with
  | nil =>
      rw [take_of_nil line] at taken
      exact (Prod.mk.inj taken).2.symm
  | cons first rest =>
      have boxOpen : box.closed = false := by
        rw [← related.closed]
        simpa using isClosed
      have nothing := related.take.1
      rw [taken] at nothing
      cases boxLine : box.ready with
      | nil =>
          rw [related.ready, Mailbox.readyKeys, boxLine] at line
          simp at line
      | cons head others =>
          obtain ⟨boxAfter, boxTaken, -⟩ := Mailbox.take_of_cons boxOpen boxLine
          rw [boxTaken] at nothing
          simp at nothing

/-- The item handed out was pending and its key was not in flight; it is pending no
longer and its key is in flight, and nothing else changes. -/
theorem take_some (sound : queue.Sound) (taken : queue.take = (some work, after)) :
    queue.closed = false ∧ after.closed = false ∧
      queue.pending.find? work.key = some work ∧
      (∀ key, after.pending.find? key =
        if work.key = key then none else queue.pending.find? key) ∧
      work.key ∉ queue.inFlight ∧
      ∀ key, key ∈ after.inFlight ↔ key = work.key ∨ key ∈ queue.inFlight := by
  obtain ⟨box, related⟩ := sound
  obtain ⟨sameAnswer, stillRelated⟩ := related.take
  rw [taken] at sameAnswer stillRelated
  by_cases boxClosed : box.closed = true
  · rw [Mailbox.take_of_closed boxClosed] at sameAnswer
    simp at sameAnswer
  have boxOpen : box.closed = false := by simpa using boxClosed
  cases line : box.ready with
  | nil =>
      rw [Mailbox.take_of_nil line] at sameAnswer
      simp at sameAnswer
  | cons head rest =>
      obtain ⟨boxAfter, boxTaken, readyEq, parkedEq, flyingEq, openEq⟩ :=
        Mailbox.take_of_cons boxOpen line
      rw [boxTaken] at sameAnswer stillRelated
      obtain rfl : work = head := Option.some.inj sameAnswer
      refine ⟨related.closed ▸ boxOpen, stillRelated.closed ▸ openEq, ?_, ?_, ?_, ?_⟩
      · rw [related.pending]
        simp [Mailbox.item?, Mailbox.readyItem?, line]
      · intro key
        rw [stillRelated.pending, related.pending]
        exact Mailbox.item?_of_taken boxOpen line readyEq parkedEq key
      · rw [related.inFlight]
        exact box.ready_apart work (by simp [line])
      · intro key
        rw [stillRelated.inFlight, flyingEq, Finset.mem_insert, related.inFlight]

theorem pending_of_ready (sound : queue.Sound) (ready : key ∈ queue.ready) :
    queue.pending.find? key ≠ none := by
  obtain ⟨box, related⟩ := sound
  rw [related.ready] at ready
  obtain ⟨work, member, own⟩ := List.mem_map.mp ready
  rw [related.pending, Mailbox.item?, Ne, Option.or_eq_none_iff, Mailbox.readyItem?_eq_none_iff]
  rintro ⟨absent, -⟩
  exact absent work member own

/-- An open queue with a line hands out an item, and the line moves up. -/
theorem exists_take (sound : queue.Sound) (isOpen : queue.closed = false) {first : Key}
    {rest : List Key} (line : queue.ready = first :: rest) :
    ∃ work after, queue.take = (some work, after) ∧ after.ready = rest := by
  obtain ⟨box, related⟩ := sound
  obtain ⟨sameAnswer, stillRelated⟩ := related.take
  have boxOpen : box.closed = false := related.closed ▸ isOpen
  have keys : box.ready.map Work.key = first :: rest := related.ready.symm.trans line
  obtain ⟨work, works, boxLine, -, others⟩ := List.map_eq_cons_iff.mp keys
  obtain ⟨boxAfter, boxTaken, readyEq, -⟩ := Mailbox.take_of_cons boxOpen boxLine
  rw [boxTaken] at sameAnswer stillRelated
  refine ⟨work, queue.take.2, Prod.ext sameAnswer rfl, ?_⟩
  rw [stillRelated.ready, Mailbox.readyKeys, readyEq, others]

end Sound

/-! ## Every use, and uses one after another -/

/-- The answer of a queue to a use and the queue after it. -/
def use (queue : Queue α) : Use α → Option (Work α) × Queue α
  | .add work => (none, queue.add work)
  | .take => queue.take
  | .release key => (none, queue.release key)
  | .close => (none, queue.close)

theorem Represents.use {queue : Queue α} {box : Mailbox α} (related : queue.Represents box)
    {next : Use α} (permitted : box.Permits next) :
    (queue.use next).1 = (box.use next).1 ∧
      (queue.use next).2.Represents (box.use next).2 := by
  cases next with
  | add work => exact ⟨rfl, related.add work⟩
  | take => exact related.take
  | release key => exact ⟨rfl, related.release permitted⟩
  | close => exact ⟨rfl, related.close⟩

/-- Uses in order give the answers of the mailbox and keep the relation. -/
theorem Represents.uses {queue : Queue α} {box : Mailbox α} (related : queue.Represents box)
    {uses : List (Use α)} (orderly : box.Orderly uses) :
    Use.answers Queue.use queue uses = Use.answers Mailbox.use box uses ∧
      (Use.after Queue.use queue uses).Represents (Use.after Mailbox.use box uses) := by
  induction uses generalizing queue box with
  | nil => exact ⟨rfl, related⟩
  | cons next uses ih =>
      obtain ⟨permitted, rest⟩ := orderly
      obtain ⟨sameAnswer, stillRelated⟩ := related.use permitted
      obtain ⟨sameAnswers, finallyRelated⟩ := ih stillRelated rest
      refine ⟨?_, finallyRelated⟩
      rw [Use.answers, Use.answers, sameAnswer, sameAnswers]

/-- A queue whose keys are only released in flight is a mailbox for every key: it
gives the answers of the mailbox and represents its state.  Its size is the number of ready
items, no key waits twice, and the keys handed out followed by those that still wait
are the keys that became ready, in the order in which they did. -/
theorem refines_mailbox (uses : List (Use α)) (orderly : Mailbox.Orderly {} uses) :
    let queue := Use.after use ({} : Queue α) uses
    let box := Use.after Mailbox.use ({} : Mailbox α) uses
    let answers := Use.answers use ({} : Queue α) uses
    answers = Use.answers Mailbox.use {} uses ∧
      queue.Represents box ∧
      queue.size = box.ready.length ∧
      queue.ready.Nodup ∧
      Use.keysOf answers ++ queue.ready = Mailbox.arrivals {} uses := by
  intro queue box answers
  obtain ⟨sameAnswers, related⟩ := Represents.empty.uses orderly
  have ready : queue.ready = box.readyKeys := related.ready
  refine ⟨sameAnswers, related, ?_, ?_, ?_⟩
  · simp [size, ready, Mailbox.readyKeys]
  · rw [ready]
    exact box.ready_nodup
  · have conserved := Mailbox.readyKeys_arrivals {} uses
    rw [show answers = Use.answers Mailbox.use {} uses from sameAnswers, ready, ← conserved]
    simp [Mailbox.readyKeys]

/-- A key that is added again in flight is parked, comes back after its release, and
is left in the line by closing. -/
theorem refines_mailbox_parked :
    let key : Key := ⟨some "ns", "foo"⟩
    let uses : List (Use Nat) := [.add ⟨key, .add, none⟩, .take, .add ⟨key, .update, some 1⟩,
      .add ⟨key, .delete, some 2⟩, .release key, .take, .release key, .add ⟨key, .add, none⟩,
      .close, .take]
    Mailbox.Orderly {} uses ∧
      (Use.after use ({} : Queue Nat) uses).size = 1 ∧
      Use.keysOf (Use.answers use ({} : Queue Nat) uses) ++
        (Use.after use ({} : Queue Nat) uses).ready = [key, key, key] := by
  intro key uses
  have orderly : Mailbox.Orderly {} uses := by decide
  obtain ⟨-, -, -, -, conserved⟩ := refines_mailbox uses orderly
  exact ⟨orderly, by decide, conserved.trans (by decide)⟩

end Queue

end Reconciler
