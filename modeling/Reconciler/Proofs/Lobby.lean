import Mathlib.Data.List.Nodup
import Mathlib.Data.List.Perm.Subperm
import Mathlib.Logic.Function.Basic
import Reconciler.Bell

/-!
# Callers around a bell

Several callers share one bell.  A caller comes to the bell before it looks for an item,
so that a ring between its look and its sleep wakes it.  The bell remembers one ring only,
so a caller that takes an item rings for the next one if there are more.

The invariant behind this: if an item is ready and somebody waits at the bell, then the
bell has rung for somebody who still has to look, or somebody is about to look anyway.
Whoever was woken by a ring and gives up passes the ring on, which keeps it.
-/

namespace Reconciler

namespace Bell

variable {bell : Bell} {id other : Nat}

/-- Those who wait and those who were woken and have not noticed yet. -/
def known (bell : Bell) : List Nat :=
  bell.waiting ++ bell.woken.map Prod.fst

/-- What every use of a bell keeps true. -/
structure Sound (bell : Bell) : Prop where
  nodup : bell.known.Nodup
  remembered : bell.remembered = true → bell.waiting = []

/-- Nobody waits, or the bell has rung for somebody who has not noticed yet. -/
def Relieves (bell : Bell) : Prop :=
  bell.waiting = [] ∨ ∃ id, (id, Waking.ring) ∈ bell.woken

theorem mem_known : id ∈ bell.known ↔ id ∈ bell.waiting ∨ id ∈ bell.woken.map Prod.fst :=
  List.mem_append

theorem mem_known_of_woken {waking : Waking} (woken : (id, waking) ∈ bell.woken) :
    id ∈ bell.known :=
  mem_known.mpr (.inr (List.mem_map_of_mem woken))

theorem wokenBy?_eq_none_iff : bell.wokenBy? id = none ↔ id ∉ bell.woken.map Prod.fst := by
  rw [wokenBy?, Option.map_eq_none_iff, List.find?_eq_none]
  constructor
  · intro nobody member
    obtain ⟨entry, woken, same⟩ := List.mem_map.mp member
    exact nobody entry woken (by simpa using same)
  · intro absent entry woken same
    have same : entry.1 = id := by simpa using same
    exact absent (same ▸ List.mem_map_of_mem woken)

theorem Sound.wokenBy?_eq (sound : bell.Sound) {waking : Waking}
    (woken : (id, waking) ∈ bell.woken) : bell.wokenBy? id = some waking := by
  have nodup : (bell.woken.map Prod.fst).Nodup := (List.nodup_append.mp sound.nodup).2.1
  cases found : bell.wokenBy? id with
  | none => exact (wokenBy?_eq_none_iff.mp found (List.mem_map_of_mem woken)).elim
  | some first =>
      obtain ⟨entry, searched, rfl⟩ := Option.map_eq_some_iff.mp found
      have here : entry.1 = id := by simpa using List.find?_some searched
      have same := List.inj_on_of_nodup_map nodup (List.mem_of_find?_eq_some searched) woken here
      rw [same]

theorem Sound.not_mem_woken (sound : bell.Sound) (waits : id ∈ bell.waiting) :
    id ∉ bell.woken.map Prod.fst := by
  intro woken
  exact (List.nodup_append.mp sound.nodup).2.2 id waits id woken rfl

/-! ## Ringing -/

theorem known_ring (bell : Bell) : bell.ring.known.Perm bell.known := by
  unfold ring known
  cases bell.waiting with
  | nil => rfl
  | cons first rest =>
      simp only [List.map_append, List.map_cons, List.map_nil, ← List.append_assoc]
      exact List.perm_append_comm

theorem Sound.ring (sound : bell.Sound) : bell.ring.Sound where
  nodup := (known_ring bell).nodup_iff.mpr sound.nodup
  remembered remembers := by
    have before := sound.remembered
    unfold Bell.ring at remembers ⊢
    cases waiting : bell.waiting with
    | nil => rfl
    | cons first rest =>
        simp only [waiting] at remembers before
        cases before remembers

theorem waiting_ring_subset (bell : Bell) : bell.ring.waiting ⊆ bell.waiting := by
  unfold ring
  cases waiting : bell.waiting with
  | nil => simp
  | cons first rest => exact List.subset_cons_self first rest

theorem relieves_ring (bell : Bell) : bell.ring.Relieves := by
  unfold ring Relieves
  cases bell.waiting with
  | nil => exact .inl rfl
  | cons first rest => exact .inr ⟨first, by simp⟩

theorem woken_subset_ring (bell : Bell) : bell.woken ⊆ bell.ring.woken := by
  unfold ring
  cases bell.waiting with
  | nil => exact List.Subset.refl _
  | cons first rest => exact List.subset_append_left _ _

/-! ## Waking everybody -/

theorem known_wakeAll (bell : Bell) : bell.wakeAll.known.Perm bell.known := by
  have same : (bell.waiting.map fun waiter => (waiter, Waking.closing)).map Prod.fst =
      bell.waiting := by
    simp [Function.comp_def]
  rw [wakeAll, known, List.nil_append, List.map_append, same]
  exact List.perm_append_comm

theorem Sound.wakeAll (sound : bell.Sound) : bell.wakeAll.Sound where
  nodup := (known_wakeAll bell).nodup_iff.mpr sound.nodup
  remembered _ := rfl

/-! ## Coming -/

theorem mem_known_come : other ∈ (bell.come id).known ↔
    other ∈ bell.known ∨ other = id ∧ bell.remembered = false := by
  unfold come
  cases bell.remembered with
  | true => simp [known]
  | false => simp [known, or_comm, or_left_comm]

theorem Sound.come (sound : bell.Sound) (unknown : id ∉ bell.known) : (bell.come id).Sound := by
  unfold Bell.come
  cases remembered : bell.remembered with
  | true => exact ⟨sound.nodup, nofun⟩
  | false =>
      constructor
      · have shuffled : (id :: bell.known).Perm
            ((bell.waiting ++ [id]) ++ bell.woken.map Prod.fst) := by
          rw [List.append_assoc, List.singleton_append]
          exact List.perm_middle.symm
        exact shuffled.nodup_iff.mp (List.nodup_cons.mpr ⟨unknown, sound.nodup⟩)
      · intro remembers
        simp at remembers

/-! ## Noticing and leaving -/

/-- The bell without a caller. -/
def without (bell : Bell) (id : Nat) : Bell :=
  { bell with
    waiting := bell.waiting.filter fun other => other ≠ id
    woken := bell.woken.filter fun entry => entry.1 ≠ id }

theorem leave_eq (bell : Bell) (id : Nat) :
    bell.leave id =
      if bell.wokenBy? id = some .ring then (bell.without id).ring else bell.without id := by
  unfold leave without
  cases bell.wokenBy? id with
  | none => rfl
  | some waking => cases waking <;> rfl

theorem mem_known_without : other ∈ (bell.without id).known ↔ other ∈ bell.known ∧ other ≠ id := by
  simp only [without, known, List.mem_append, List.mem_filter, List.mem_map, decide_eq_true_eq]
  constructor
  · rintro (⟨waits, apart⟩ | ⟨entry, ⟨woken, apart⟩, rfl⟩)
    · exact ⟨.inl waits, apart⟩
    · exact ⟨.inr ⟨entry, woken, rfl⟩, apart⟩
  · rintro ⟨waits | ⟨entry, woken, rfl⟩, apart⟩
    · exact .inl ⟨waits, apart⟩
    · exact .inr ⟨entry, ⟨woken, apart⟩, rfl⟩

theorem Sound.without (sound : bell.Sound) (id : Nat) : (bell.without id).Sound where
  nodup := sound.nodup.sublist
    (List.Sublist.append List.filter_sublist (List.filter_sublist.map Prod.fst))
  remembered remembers := by
    have nobody := sound.remembered remembers
    simp [Bell.without, nobody]

/-- Whoever was woken does not wait any longer, so noticing is only that. -/
theorem Sound.notice_eq (sound : bell.Sound) (woken : id ∈ bell.woken.map Prod.fst) :
    bell.notice id = bell.without id := by
  have kept : bell.waiting.filter (fun other => other ≠ id) = bell.waiting := by
    rw [List.filter_eq_self]
    intro other waits
    have apart : other ≠ id := by
      rintro rfl
      exact sound.not_mem_woken waits woken
    simpa using apart
  rw [notice, Bell.without, kept]

theorem mem_known_leave : other ∈ (bell.leave id).known ↔ other ∈ bell.known ∧ other ≠ id := by
  rw [leave_eq]
  split
  · rw [(known_ring _).mem_iff, mem_known_without]
  · exact mem_known_without

theorem Sound.leave (sound : bell.Sound) (id : Nat) : (bell.leave id).Sound := by
  rw [leave_eq]
  split
  · exact (sound.without id).ring
  · exact sound.without id

theorem waiting_leave_subset (bell : Bell) (id : Nat) :
    (bell.leave id).waiting ⊆ bell.waiting := by
  have fewer : (bell.without id).waiting ⊆ bell.waiting := List.filter_subset_self _
  rw [leave_eq]
  split
  · exact List.Subset.trans (waiting_ring_subset _) fewer
  · exact fewer

theorem mem_woken_leave {waking : Waking} (woken : (other, waking) ∈ bell.woken)
    (apart : other ≠ id) : (other, waking) ∈ (bell.leave id).woken := by
  have kept : (other, waking) ∈ (bell.without id).woken := by
    simp [without, woken, apart]
  rw [leave_eq]
  split
  · exact woken_subset_ring _ kept
  · exact kept

theorem Sound.relieves_leave_self (sound : bell.Sound) (rung : (id, Waking.ring) ∈ bell.woken) :
    (bell.leave id).Relieves := by
  rw [leave_eq, if_pos (sound.wokenBy?_eq rung)]
  exact relieves_ring _

/-- A ring that was not noticed is not lost when somebody leaves. -/
theorem Sound.relieves_leave (sound : bell.Sound) (relieves : bell.Relieves) (id : Nat) :
    (bell.leave id).Relieves := by
  rcases relieves with nobody | ⟨other, rung⟩
  · left
    exact List.eq_nil_of_subset_nil (nobody ▸ waiting_leave_subset bell id)
  · by_cases same : other = id
    · subst same
      exact sound.relieves_leave_self rung
    · exact .inr ⟨other, mem_woken_leave rung same⟩

end Bell

/-! ## The lobby -/

/-- Where a caller stands, as far as the bell is concerned. -/
inductive Place
  /-- Elsewhere: not yet there, busy, or gone. -/
  | away
  /-- Was woken and is about to come to the bell again. -/
  | returning
  /-- Came to the bell and is about to look; `held` says that a remembered ring was taken. -/
  | checking (held : Bool)
  | asleep
deriving DecidableEq

/-- A bell with the callers around it. -/
structure Lobby where
  bell : Bell
  place : Nat → Place
  /-- Whether an item is ready. -/
  ready : Bool
  closed : Bool

namespace Lobby

variable {lobby after : Lobby} {id : Nat}

/-- What can happen in a lobby.  Items come only with a ring, and whoever takes one while
others are ready rings as well. -/
inductive Step (lobby : Lobby) : Lobby → Prop
  | still {ready closed : Bool} :
      (ready = true → lobby.ready = true) → (lobby.closed = true → closed = true) →
      Step lobby { lobby with ready, closed }
  | rang {ready : Bool} : Step lobby { lobby with bell := lobby.bell.ring, ready }
  | came {id : Nat} :
      lobby.place id = .away ∨ lobby.place id = .returning →
      Step lobby
        { lobby with
          bell := lobby.bell.come id
          place := Function.update lobby.place id (.checking lobby.bell.answers) }
  | waited {id : Nat} {held : Bool} :
      lobby.place id = .checking held → lobby.closed = false →
      Step lobby
        { lobby with
          ready := false
          place := Function.update lobby.place id (if held then .returning else .asleep) }
  | took {id : Nat} {held ready : Bool} :
      lobby.place id = .checking held → lobby.closed = false →
      Step lobby
        { lobby with
          bell := (if ready then lobby.bell.ring else lobby.bell).leave id
          ready
          place := Function.update lobby.place id .away }
  | turnedAway {id : Nat} {held : Bool} :
      lobby.place id = .checking held → lobby.closed = true →
      Step lobby
        { lobby with
          bell := lobby.bell.leave id
          place := Function.update lobby.place id .away }
  | noticed {id : Nat} :
      lobby.place id = .asleep → lobby.bell.wokenBy? id ≠ none →
      Step lobby
        { lobby with
          bell := lobby.bell.notice id
          place := Function.update lobby.place id .returning }
  | cancelled {id : Nat} :
      lobby.place id = .asleep →
      Step lobby
        { lobby with
          bell := lobby.bell.leave id
          place := Function.update lobby.place id .away }
  | wokeAll : Step lobby { lobby with bell := lobby.bell.wakeAll }

theorem Step.refl (lobby : Lobby) : lobby.Step lobby :=
  .still id id

theorem Step.of_eq (same : after = lobby) : lobby.Step after :=
  same ▸ .refl lobby

/-- The bell knows exactly the callers that wait or were woken without having noticed. -/
structure Kept (lobby : Lobby) : Prop where
  sound : lobby.bell.Sound
  known : ∀ id, id ∈ lobby.bell.known ↔
    lobby.place id = .checking false ∨ lobby.place id = .asleep

/-- Somebody who will look into the queue before sleeping, or was woken by a ring. -/
def IsUp (lobby : Lobby) (id : Nat) : Prop :=
  lobby.place id = .returning ∨ (∃ held, lobby.place id = .checking held) ∨
    lobby.place id = .asleep ∧ (id, Waking.ring) ∈ lobby.bell.woken

/-- If an item is ready and somebody sleeps, then somebody is up. -/
def Attended (lobby : Lobby) : Prop :=
  lobby.closed = false → lobby.ready = true →
    (∃ id ∈ lobby.bell.waiting, lobby.place id = .asleep) → ∃ id, lobby.IsUp id

/-- The lobby is closed and nobody sleeps in it without having been woken. -/
def Cleared (lobby : Lobby) : Prop :=
  lobby.closed = true ∧ ∀ id ∈ lobby.bell.waiting, lobby.place id ≠ .asleep

theorem Kept.isUp_of_rung (kept : lobby.Kept) (rung : (id, Waking.ring) ∈ lobby.bell.woken) :
    lobby.IsUp id := by
  rcases (kept.known id).mp (Bell.mem_known_of_woken rung) with checks | asleep
  · exact .inr (.inl ⟨false, checks⟩)
  · exact .inr (.inr ⟨asleep, rung⟩)

theorem Kept.attended_of_relieves (kept : lobby.Kept) (relieves : lobby.bell.Relieves) :
    lobby.Attended := by
  rintro - - ⟨sleeper, waits, -⟩
  rcases relieves with nobody | ⟨id, rung⟩
  · simp [nobody] at waits
  · exact ⟨id, kept.isUp_of_rung rung⟩

/-! ### One step -/

theorem Kept.leave (kept : lobby.Kept) (id : Nat) {bell : Bell} (sound : bell.Sound)
    (same : ∀ other, other ∈ bell.known ↔ other ∈ lobby.bell.known) (ready : Bool) :
    Kept { lobby with
      bell := bell.leave id, ready, place := Function.update lobby.place id .away } where
  sound := sound.leave id
  known other := by
    rw [Bell.mem_known_leave, same, kept.known]
    by_cases here : other = id <;> simp [here]

theorem Kept.step (kept : lobby.Kept) (step : lobby.Step after) : after.Kept := by
  obtain ⟨sound, known⟩ := kept
  cases step with
  | still _ _ => exact ⟨sound, known⟩
  | rang => exact ⟨sound.ring, fun id => (Bell.known_ring _).mem_iff.trans (known id)⟩
  | @came id outside =>
      have unknown : id ∉ lobby.bell.known := by
        rw [known]
        rcases outside with outside | outside <;> simp [outside]
      refine ⟨sound.come unknown, fun other => ?_⟩
      rw [Bell.mem_known_come, known]
      by_cases here : other = id
      · subst here
        rcases outside with outside | outside <;> simp [outside, Bell.answers]
      · simp [here]
  | @waited id held checks _ =>
      refine ⟨sound, fun other => ?_⟩
      rw [known]
      by_cases here : other = id
      · subst here
        cases held <;> simp [checks]
      · simp [here]
  | @took id held ready checks _ =>
      refine Kept.leave ⟨sound, known⟩ id ?_ ?_ ready
      · split
        · exact sound.ring
        · exact sound
      · intro other
        split
        · exact (Bell.known_ring _).mem_iff
        · rfl
  | turnedAway => exact Kept.leave ⟨sound, known⟩ _ sound (fun _ => Iff.rfl) lobby.ready
  | @noticed id asleep woken =>
      have here := Bell.wokenBy?_eq_none_iff.not_left.mp woken
      rw [sound.notice_eq here]
      refine ⟨sound.without id, fun other => ?_⟩
      rw [Bell.mem_known_without, known]
      by_cases here : other = id <;> simp [here]
  | cancelled => exact Kept.leave ⟨sound, known⟩ _ sound (fun _ => Iff.rfl) lobby.ready
  | wokeAll => exact ⟨sound.wakeAll, fun id => (Bell.known_wakeAll _).mem_iff.trans (known id)⟩

theorem IsUp.cancelled {other : Nat} (up : lobby.IsUp other) (apart : other ≠ id) :
    IsUp { lobby with
      bell := lobby.bell.leave id, place := Function.update lobby.place id .away } other := by
  have same : Function.update lobby.place id .away other = lobby.place other :=
    Function.update_of_ne apart _ _
  rcases up with returning | ⟨held, checks⟩ | ⟨asleep, rung⟩
  · exact .inl (same.trans returning)
  · exact .inr (.inl ⟨held, same.trans checks⟩)
  · exact .inr (.inr ⟨same.trans asleep, Bell.mem_woken_leave rung apart⟩)

/-- Whoever gives up while it is the one that was woken passes the ring on; so somebody
stays up, or nobody waits any longer. -/
theorem Attended.cancelled (kept : lobby.Kept) (attended : lobby.Attended)
    (asleep : lobby.place id = .asleep) :
    Attended { lobby with
      bell := lobby.bell.leave id, place := Function.update lobby.place id .away } := by
  have step := kept.step (.cancelled asleep)
  rintro isOpen ready ⟨sleeper, waits, sleeps⟩
  have apart : sleeper ≠ id := by
    rintro rfl
    simp at sleeps
  have slept : lobby.place sleeper = .asleep :=
    (Function.update_of_ne apart _ _).symm.trans sleeps
  obtain ⟨other, up⟩ := attended isOpen ready
    ⟨sleeper, Bell.waiting_leave_subset _ _ waits, slept⟩
  by_cases same : other = id
  · subst same
    have rung : (other, Waking.ring) ∈ lobby.bell.woken := by
      simpa [IsUp, asleep] using up
    exact step.attended_of_relieves (kept.sound.relieves_leave_self rung) isOpen ready
      ⟨sleeper, waits, sleeps⟩
  · exact ⟨other, up.cancelled same⟩

theorem Attended.step (kept : lobby.Kept) (attended : lobby.Attended)
    (step : lobby.Step after) : after.Attended := by
  have keeps := kept.step step
  cases step with
  | still lessReady staysClosed =>
      intro isOpen ready sleeps
      refine attended ?_ (lessReady ready) sleeps
      cases closed : lobby.closed with
      | false => rfl
      | true => exact (Bool.false_ne_true (isOpen.symm.trans (staysClosed closed))).elim
  | rang => exact keeps.attended_of_relieves (Bell.relieves_ring _)
  | @came id _ => exact fun _ _ _ => ⟨id, .inr (.inl ⟨_, Function.update_self ..⟩)⟩
  | waited _ _ => exact fun _ ready => nomatch ready
  | @took id held ready checks _ =>
      cases ready with
      | false => exact fun _ ready => nomatch ready
      | true =>
          exact keeps.attended_of_relieves
            (kept.sound.ring.relieves_leave (Bell.relieves_ring _) id)
  | turnedAway _ closed => exact fun isOpen => nomatch closed.symm.trans isOpen
  | @noticed id _ _ => exact fun _ _ _ => ⟨id, .inl (Function.update_self ..)⟩
  | cancelled asleep => exact attended.cancelled kept asleep
  | wokeAll => exact fun _ _ ⟨_, waits, _⟩ => nomatch waits

theorem Cleared.step (cleared : lobby.Cleared) (step : lobby.Step after) : after.Cleared := by
  obtain ⟨closed, nobody⟩ := cleared
  /- Whoever moves does not move to sleep, because the lobby is closed. -/
  have moved {bell : Bell} {id : Nat} {place : Place}
      (fewer : bell.waiting ⊆ lobby.bell.waiting) (up : place ≠ .asleep) :
      ∀ other ∈ bell.waiting, Function.update lobby.place id place other ≠ .asleep := by
    intro other waits
    by_cases same : other = id
    · rwa [same, Function.update_self]
    · rw [Function.update_of_ne same]
      exact nobody other (fewer waits)
  cases step with
  | still _ staysClosed => exact ⟨staysClosed closed, nobody⟩
  | rang => exact ⟨closed, fun id waits => nobody id (Bell.waiting_ring_subset _ waits)⟩
  | @came id _ =>
      refine ⟨closed, fun other waits => ?_⟩
      by_cases same : other = id
      · simp [same]
      · have before : other ∈ lobby.bell.waiting := by
          unfold Bell.come at waits
          split at waits
          · exact waits
          · simpa [same] using waits
        simpa [same] using nobody other before
  | waited _ isOpen | took _ isOpen => exact nomatch closed.symm.trans isOpen
  | turnedAway _ _ => exact ⟨closed, moved (Bell.waiting_leave_subset _ _) nofun⟩
  | noticed _ _ => exact ⟨closed, moved (List.Subset.refl _) nofun⟩
  | cancelled _ => exact ⟨closed, moved (Bell.waiting_leave_subset _ _) nofun⟩
  | wokeAll => exact ⟨closed, nofun⟩

end Lobby

end Reconciler
