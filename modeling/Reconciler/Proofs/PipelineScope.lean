import Reconciler.Proofs.Difference
import Reconciler.Proofs.Pipeline

/-!
# What is on the way is in scope

If the watch brings objects of one scope only, then every key on the way to the handler
is in scope, and so is every key that was ever handed out.  Every change that waits to
be passed on still tells what became of its key, since no event is taken meanwhile.
-/

namespace Reconciler

variable {α : Type} [Resource α] {scope : Scope} {history : List (Mark α)}

namespace Pipeline

/-- What a run with events in scope keeps true. -/
structure InScope (scope : Scope) (history : List (Mark α)) (pipe : Pipeline α) : Prop where
  cache : pipe.cache.Proper scope
  changes : ∀ key change, (key, change) ∈ pipe.changes →
    scope.Fits key.ns ∧
      ∃ event before, Change.Tells event key before (pipe.cache.objectAt? key) change
  pending : ∀ key work, pipe.pending key = some work → scope.Fits key.ns
  opening : ∀ id work reading, pipe.opening id = some (work, reading) → scope.Fits work.key.ns
  handed : ∀ work, Mark.Handed history work → scope.Fits work.key.ns

namespace InScope

theorem start : InScope scope [] ({} : Pipeline α) where
  cache := .empty
  changes key change member := by simp at member
  pending key work found := by simp at found
  opening id work reading found := by simp at found
  handed work found := by simp [Mark.Handed] at found

theorem add {pipe : Pipeline α} (inScope : pipe.InScope scope history) {work : Work α}
    (fits : scope.Fits work.key.ns) : (pipe.add work).InScope scope history where
  cache := inScope.cache
  changes := inScope.changes
  pending key item found := by
    rcases pending_of_add found with same | before
    · rw [same]
      exact fits
    · exact inScope.pending key item before
  opening := inScope.opening
  handed := inScope.handed

theorem opens {pipe : Pipeline α} (inScope : pipe.InScope scope history) {work : Work α}
    (fits : scope.Fits work.key.ns) (id : Nat) {reading : Reading α} (other : Nat) (item : Work α)
    (stage : Reading α)
    (found : Function.update pipe.opening id (some (work, reading)) other = some (item, stage)) :
    scope.Fits item.key.ns := by
  rw [Function.update_apply] at found
  split at found
  · obtain ⟨rfl, -⟩ := Prod.mk.inj (Option.some.inj found)
    exact fits
  · exact inScope.opening other item stage found

theorem recorded {pipe : Pipeline α} (inScope : pipe.InScope scope history) {mark : Mark α}
    (fits : ∀ id work, mark = .handed id work → scope.Fits work.key.ns) :
    pipe.InScope scope ((some mark).toList ++ history) where
  cache := inScope.cache
  changes := inScope.changes
  pending := inScope.pending
  opening := inScope.opening
  handed work handed := by
    obtain ⟨id, member⟩ := handed
    rcases List.mem_cons.mp member with same | older
    · exact fits id work same.symm
    · exact inScope.handed work ⟨id, older⟩

theorem step {before after : Pipeline α} {mark : Option (Mark α)}
    (inScope : before.InScope scope history)
    (step : Step (Event.Within scope) history mark before after) :
    after.InScope scope (mark.toList ++ history) := by
  cases step with
  | still => exact inScope
  | synced synced =>
      exact { inScope with cache := ⟨inScope.cache.objects, inScope.cache.listing⟩ }
  | closed => exact { inScope with }
  | ignored => exact inScope.recorded (by simp)
  | @received _ order event nothing fair within =>
      have applied : InScope scope history { before with
          cache := (before.cache.apply order event).1
          changes := (before.cache.apply order event).2 } :=
        { inScope with
          cache := inScope.cache.apply within
          changes := fun key change member =>
            ⟨Cache.fits_of_mem_apply inScope.cache within fair member, _, _,
              (Cache.mem_apply_iff inScope.cache within fair key change).mp member⟩ }
      exact applied.recorded (by simp)
  | @announced _ key change changes work told item =>
      have next : scope.Fits work.key.ns := by
        rw [Work.key_of_ofChange? item]
        exact (inScope.changes key change (by simp [told])).1
      have passed : InScope scope history { before.add work with changes } :=
        { inScope.add next with
          changes := fun other rest member => inScope.changes other rest (by simp [told, member]) }
      exact passed.recorded (by simp)
  | suppressed told =>
      exact { inScope with
        changes := fun other rest member => inScope.changes other rest (by simp [told, member]) }
  | returned handed => exact (inScope.add (inScope.handed _ handed)).recorded (by simp)
  | @handed _ id work isOpen waits free =>
      have fits := inScope.pending _ _ waits
      have taken : InScope scope history { before with
          pending := Function.update before.pending work.key none
          opening := Function.update before.opening id (some (work, .awaited)) } :=
        { inScope with
          pending := fun key item found =>
            inScope.pending key item (apply_of_update_none found).2
          opening := inScope.opens fits id }
      refine taken.recorded ?_
      intro other item same
      obtain ⟨-, rfl⟩ := Mark.handed.inj same
      exact fits
  | @looked _ id work awaits =>
      have read : InScope scope history { before with
          opening := Function.update before.opening id
            (some (work, .found (before.cache.get? work.key))) } :=
        { inScope with opening := inScope.opens (inScope.opening _ _ _ awaits) id }
      exact read.recorded (by simp)
  | @called _ id work current read =>
      have opened : InScope scope history { before with
          opening := Function.update before.opening id none } :=
        { inScope with
          opening := fun other item reading found =>
            inScope.opening other item reading (apply_of_update_none found).2 }
      exact opened.recorded (by simp)

end InScope

/-- Every run with events in scope keeps everything on the way in scope. -/
theorem inScope_of_runs {pipe : Pipeline α} (run : Runs (Event.Within scope) history pipe) :
    pipe.InScope scope history := by
  induction run with
  | start => exact .start
  | step run step ih => exact ih.step step

end Pipeline

end Reconciler
