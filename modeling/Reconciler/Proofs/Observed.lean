import Reconciler.Proofs.Run

/-!
# Runs under observation

Much of what is said about a run is said about what somebody can see of its steps: how the
handler ended, what was announced, what was asked of the surroundings.  An observer takes
this down step by step.  It sees the states before and after a step, and changes nothing.
-/

namespace Reconciler

variable {α ω β : Type}

namespace System

variable [Resource α]

/-- The runs of a controller from its start by steps that are allowed, with what an
observer takes down of every step, the newest first. -/
inductive Observed (plan : Plan α ω) (observe : System α ω → Action α ω → System α ω → List β)
    (allowed : Action α ω → Prop) : List β → System α ω → Prop
  | start (world : ω) : Observed plan observe allowed [] { world }
  | step {log : List β} {before after : System α ω} {action : Action α ω} :
      Observed plan observe allowed log before → allowed action →
      before.act plan action = some after →
      Observed plan observe allowed (observe before action after ++ log) after

/-- What an observer has taken down, and the state, after actions one after another, if all
of them are possible. -/
def transcript (plan : Plan α ω) (observe : System α ω → Action α ω → System α ω → List β)
    (log : List β) (system : System α ω) : List (Action α ω) → Option (List β × System α ω)
  | [] => some (log, system)
  | action :: actions =>
      (system.act plan action).bind fun after =>
        transcript plan observe (observe system action after ++ log) after actions

variable {plan : Plan α ω} {observe : System α ω → Action α ω → System α ω → List β}

theorem Observed.transcript {allowed : Action α ω → Prop} {log newer : List β}
    {before after : System α ω} {actions : List (Action α ω)}
    (observed : Observed plan observe allowed log before)
    (possible : ∀ action ∈ actions, allowed action)
    (taken : System.transcript plan observe log before actions = some (newer, after)) :
    Observed plan observe allowed newer after := by
  induction actions generalizing log before with
  | nil =>
      obtain ⟨rfl, rfl⟩ := Prod.mk.inj (Option.some.inj taken)
      exact observed
  | cons action actions ih =>
      obtain ⟨next, acted, rest⟩ := Option.bind_eq_some_iff.mp taken
      exact ih (observed.step (possible action List.mem_cons_self) acted)
        (fun other member => possible other (List.mem_cons_of_mem _ member)) rest

/-- Every entry of a log was taken down of one step, on top of what was there before. -/
theorem Observed.step_of_entry {allowed : Action α ω → Prop} {later earlier : List β} {entry : β}
    {system : System α ω}
    (observed : Observed plan observe allowed (later ++ entry :: earlier) system) :
    ∃ log before action after newer older, Observed plan observe allowed log before ∧
      allowed action ∧ before.act plan action = some after ∧
      observe before action after = newer ++ entry :: older ∧ earlier = older ++ log := by
  obtain ⟨entries, split⟩ : ∃ entries, entries = later ++ entry :: earlier := ⟨_, rfl⟩
  rw [← split] at observed
  induction observed generalizing later earlier with
  | start world => simp at split
  | @step log before after action observed possible acted ih =>
      rcases List.append_eq_append_iff.mp split with ⟨rest, -, older⟩ | ⟨rest, newer, older⟩
      · exact ih older
      · cases rest with
        | nil =>
            have here : log = [] ++ entry :: earlier := older.symm
            exact ih here
        | cons first rest =>
            obtain ⟨rfl, rfl⟩ := List.cons.inj older
            exact ⟨log, before, action, after, later, rest, observed, possible, acted, newer, rfl⟩

/-- Whoever observes a run observes one. -/
theorem Observed.run {admits : Event α → Prop} {log : List β} {system : System α ω}
    (observed : Observed plan observe (Action.Occurs admits) log system) :
    ∃ history, Runs plan admits history system := by
  induction observed with
  | start world => exact ⟨[], .start world⟩
  | step observed occurs acted ih =>
      obtain ⟨history, run⟩ := ih
      exact ⟨_, run.step occurs acted⟩

end System

end Reconciler
