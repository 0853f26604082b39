import Mathlib.Logic.Relation

/-!
# Runs of a labelled machine

A machine is a total step function from a state and a label to the next state;
a label that does not apply leaves the state alone.  Every schedule is a list of
labels, and a guard says which labels a schedule may use in which state.  The
rules below turn a fact about one step into a fact about every run.
-/

namespace LabelledRuns

variable {State Label : Type*} (step : State → Label → State)

/-- The state reached by a schedule. -/
def run (state : State) (labels : List Label) : State :=
  labels.foldl step state

def Edge (admits : State → Label → Prop) (before after : State) : Prop :=
  ∃ label, admits before label ∧ after = step before label

/-- Some admitted schedule leads from the first state to the second. -/
abbrev Reaches (admits : State → Label → Prop) : State → State → Prop :=
  Relation.ReflTransGen (Edge step admits)

def anyLabel : State → Label → Prop := fun _ _ => True

/-- Every label of the schedule is admitted in the state it is used in. -/
def Admitted (admits : State → Label → Prop) : State → List Label → Prop
  | _, [] => True
  | state, label :: labels =>
      admits state label ∧ Admitted admits (step state label) labels

instance Admitted.decidable (admits : State → Label → Prop)
    [∀ state label, Decidable (admits state label)] :
    ∀ state labels, Decidable (Admitted step admits state labels)
  | _, [] => .isTrue trivial
  | state, label :: labels =>
      have := Admitted.decidable admits (step state label) labels
      inferInstanceAs (Decidable (_ ∧ _))

variable {step}

@[simp]
theorem run_nil (state : State) : run step state [] = state := rfl

@[simp]
theorem run_cons (state : State) (label : Label) (labels : List Label) :
    run step state (label :: labels) = run step (step state label) labels := rfl

theorem run_append (state : State) (first second : List Label) :
    run step state (first ++ second) = run step (run step state first) second :=
  List.foldl_append

theorem admitted_append {admits : State → Label → Prop} {state : State}
    {first second : List Label} : Admitted step admits state (first ++ second) ↔
      Admitted step admits state first ∧ Admitted step admits (run step state first) second := by
  induction first generalizing state with
  | nil => simp [Admitted]
  | cons label labels ih => simp [Admitted, ih, and_assoc]

/-- A schedule is admitted when every label of it is, in the state that the labels before
it lead to. -/
theorem admitted_iff_forall {admits : State → Label → Prop} {state : State}
    {labels : List Label} : Admitted step admits state labels ↔
      ∀ earlier label later, labels = earlier ++ label :: later →
        admits (run step state earlier) label := by
  constructor
  · rintro admitted earlier label later rfl
    exact (admitted_append.1 admitted).2.1
  · intro each
    induction labels generalizing state with
    | nil => trivial
    | cons label labels ih =>
        refine ⟨each [] label labels rfl, ih fun earlier next later same => ?_⟩
        exact each (label :: earlier) next later (by rw [same]; rfl)

theorem reaches_run {admits : State → Label → Prop} {state : State} {labels : List Label}
    (admitted : Admitted step admits state labels) :
    Reaches step admits state (run step state labels) := by
  induction labels generalizing state with
  | nil => exact .refl
  | cons label labels ih =>
      exact .head ⟨label, admitted.1, rfl⟩ (ih admitted.2)

theorem reaches_run_anyLabel (state : State) (labels : List Label) :
    Reaches step anyLabel state (run step state labels) := by
  induction labels generalizing state with
  | nil => exact .refl
  | cons label labels ih => exact .head ⟨label, trivial, rfl⟩ (ih _)

theorem Reaches.invariant {admits : State → Label → Prop} (Holds : State → Prop)
    (preserved : ∀ state label, admits state label → Holds state → Holds (step state label))
    {first last : State} (reaches : Reaches step admits first last)
    (holds : Holds first) : Holds last := by
  induction reaches with
  | refl => exact holds
  | tail _ edge ih =>
      obtain ⟨label, admitted, rfl⟩ := edge
      exact preserved _ label admitted ih

theorem Reaches.mono {small large : State → Label → Prop}
    (weaker : ∀ state label, small state label → large state label)
    {first last : State} (reaches : Reaches step small first last) :
    Reaches step large first last := by
  refine Relation.ReflTransGen.mono ?_ _ _ reaches
  rintro before after ⟨label, admitted, rfl⟩
  exact ⟨label, weaker _ _ admitted, rfl⟩

end LabelledRuns
