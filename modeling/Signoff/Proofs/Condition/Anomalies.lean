import Mathlib
import Signoff.Condition.Evaluation

/-!
Traces add up. What an evaluation counts does not depend on what was counted before it, so that each
condition has anomalies of its own in a context, and an evaluation adds them.
-/

namespace Signoff

namespace Trace

theorem add_assoc (s t u : Trace) : (s.add t).add u = s.add (t.add u) := by
  simp only [add, Nat.add_assoc]

@[simp] theorem add_zero (t : Trace) : t.add zero = t := rfl

@[simp] theorem zero_add (t : Trace) : zero.add t = t := by
  simp only [add, zero, Nat.zero_add]

/-- All traces of a list together. -/
def sum (ts : List Trace) : Trace := ts.foldr add zero

@[simp] theorem sum_nil : sum [] = zero := rfl

@[simp] theorem sum_cons (t : Trace) (ts : List Trace) : sum (t :: ts) = t.add (sum ts) := rfl

end Trace

namespace Condition

mutual

/-- Anomalies that were counted before stay apart. -/
theorem evaluateTraced_add (ctx : Context) (s : Trace) : ∀ (c : Condition) (t : Trace),
    evaluateTraced ctx c (s.add t) =
      ((evaluateTraced ctx c t).1, s.add (evaluateTraced ctx c t).2)
  | .all cs, t => by
    rw [evaluateTraced, evaluateTraced]
    exact evaluateAll_add ctx s cs t
  | .any cs, t => by
    rw [evaluateTraced, evaluateTraced]
    exact evaluateAny_add ctx s cs t
  | .not c, t => by
    simp only [evaluateTraced, evaluateTraced_add ctx s c t]
  | .leaf field test, t => by
    simp only [evaluateTraced, Trace.add_assoc]

theorem evaluateAll_add (ctx : Context) (s : Trace) : ∀ (cs : List Condition) (t : Trace),
    evaluateAll ctx cs (s.add t) = ((evaluateAll ctx cs t).1, s.add (evaluateAll ctx cs t).2)
  | [], t => rfl
  | c :: cs, t => by
    -- the rest starts from what the first has counted
    rw [evaluateAll, evaluateAll, evaluateTraced_add ctx s c t]
    obtain ⟨holds, t'⟩ := evaluateTraced ctx c t
    cases holds with
    | true => exact evaluateAll_add ctx s cs t'
    | false => rfl

theorem evaluateAny_add (ctx : Context) (s : Trace) : ∀ (cs : List Condition) (t : Trace),
    evaluateAny ctx cs (s.add t) = ((evaluateAny ctx cs t).1, s.add (evaluateAny ctx cs t).2)
  | [], t => rfl
  | c :: cs, t => by
    rw [evaluateAny, evaluateAny, evaluateTraced_add ctx s c t]
    obtain ⟨holds, t'⟩ := evaluateTraced ctx c t
    cases holds with
    | true => rfl
    | false => exact evaluateAny_add ctx s cs t'

end

/-- The anomalies of a condition, evaluated by itself. -/
def anomalies (ctx : Context) (c : Condition) : Trace := (evaluateTraced ctx c .zero).2

/-- An evaluation answers the same whatever was counted before, and adds its own anomalies. -/
theorem evaluateTraced_eq (ctx : Context) (c : Condition) (t : Trace) :
    evaluateTraced ctx c t = (evaluate ctx c, t.add (anomalies ctx c)) := by
  have h := evaluateTraced_add ctx t c .zero
  rw [Trace.add_zero] at h
  exact h

end Condition
end Signoff
