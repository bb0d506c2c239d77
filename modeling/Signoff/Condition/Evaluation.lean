import Signoff.Condition.Basic
import Signoff.Condition.Comparison
import Signoff.Context
import Signoff.Json.Printer

/-!
Evaluating conditions. Groups stop at the first child that decides them, and the anomalies of the
tests that were made on the way are counted.
-/

namespace Signoff

/-- How many tests met a missing field, and how many a value of the wrong kind. -/
structure Trace where
  missingFields : Nat
  typeMismatches : Nat
  deriving DecidableEq, Repr, Inhabited

namespace Trace

def zero : Trace := ⟨0, 0⟩

def add (s t : Trace) : Trace :=
  ⟨s.missingFields + t.missingFields, s.typeMismatches + t.typeMismatches⟩

def anomalies (t : Trace) : Nat := t.missingFields + t.typeMismatches

end Trace

namespace Condition

/-- What can go wrong in a test; the test is false then. -/
inductive Anomaly where
  | missingField
  | typeMismatch
  deriving DecidableEq, Repr

def Anomaly.trace : Anomaly → Trace
  | .missingField => ⟨1, 0⟩
  | .typeMismatch => ⟨0, 1⟩

/-- The outcome of one test. -/
inductive Verdict where
  | is (holds : Bool)
  | anomalous (a : Anomaly)
  deriving DecidableEq, Repr

namespace Verdict

def holds : Verdict → Bool
  | .is b => b
  | .anomalous _ => false

def trace : Verdict → Trace
  | .is _ => .zero
  | .anomalous a => a.trace

/-- The verdict of an answer that there may not be. -/
def ofOption : Option Bool → Verdict
  | some b => .is b
  | none => .anomalous .typeMismatch

end Verdict

/-- Whether an order is accepted. -/
def ordered (ctx : Context) (v : Json) (bound : Bound) (accept : Ordering → Bool) : Verdict :=
  .ofOption ((compare? v (ctx.operand bound.toJson)).map accept)

/-- A test of a value that is there. -/
def testVerdict (ctx : Context) (v : Json) : Test → Verdict
  | .eq operand => .is (looseEq v (ctx.operand operand))
  | .neq operand => .is (!looseEq v (ctx.operand operand))
  | .lt bound => ordered ctx v bound (·.isLT)
  | .lte bound => ordered ctx v bound (·.isLE)
  | .gt bound => ordered ctx v bound (·.isGT)
  | .gte bound => ordered ctx v bound (·.isGE)
  | .among items => .is (items.any fun item => looseEq v (ctx.operand item))
  | .contains needle => .ofOption (contains? v (ctx.operand needle))
  | .regex pattern =>
    match v with
    | .str s => .is (pattern.matchesIn s)
    | .num n => .is (pattern.matchesIn n.text)
    | _ => .anomalous .typeMismatch
  | .present _ => .is true

/-- A test of a field. -/
def leafVerdict (ctx : Context) (field : FieldPath) (test : Test) : Verdict :=
  match test, ctx.resolve? field with
  | .present expected, found => .is (found.isSome == expected)
  | _, none => .anomalous .missingField
  | test, some v => testVerdict ctx v test

mutual

/-- Whether a condition holds, with the anomalies of the tests made added to a trace. -/
def evaluateTraced (ctx : Context) : Condition → Trace → Bool × Trace
  | .all cs, t => evaluateAll ctx cs t
  | .any cs, t => evaluateAny ctx cs t
  | .not c, t =>
    let (b, t) := evaluateTraced ctx c t
    (!b, t)
  | .leaf field test, t =>
    let v := leafVerdict ctx field test
    (v.holds, t.add v.trace)

/-- Stops at the first condition that does not hold. -/
def evaluateAll (ctx : Context) : List Condition → Trace → Bool × Trace
  | [], t => (true, t)
  | c :: cs, t =>
    match evaluateTraced ctx c t with
    | (true, t) => evaluateAll ctx cs t
    | (false, t) => (false, t)

/-- Stops at the first condition that holds. -/
def evaluateAny (ctx : Context) : List Condition → Trace → Bool × Trace
  | [], t => (false, t)
  | c :: cs, t =>
    match evaluateTraced ctx c t with
    | (true, t) => (true, t)
    | (false, t) => evaluateAny ctx cs t

end

/-- Whether a condition holds. -/
def evaluate (ctx : Context) (c : Condition) : Bool := (evaluateTraced ctx c .zero).1

end Condition
end Signoff
