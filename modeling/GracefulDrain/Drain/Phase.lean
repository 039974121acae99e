namespace GracefulDrain

inductive Phase
  | init
  | ready
  | draining
  | done
  | timedOut
  deriving DecidableEq, Repr

namespace Phase

def code : Phase → Nat
  | init => 0
  | ready => 1
  | draining => 2
  | done => 3
  | timedOut => 4

/-- Every code above three reads as the last phase. -/
def ofCode : Nat → Phase
  | 0 => init
  | 1 => ready
  | 2 => draining
  | 3 => done
  | _ => timedOut

/-- The name in answers and logs. -/
def name : Phase → String
  | init => "init"
  | ready => "ready"
  | draining => "draining"
  | done => "done"
  | timedOut => "timed_out"

/-- The name in diagnostic texts. -/
def label : Phase → String
  | init => "Init"
  | ready => "Ready"
  | draining => "Draining"
  | done => "Done"
  | timedOut => "TimedOut"

theorem ofCode_code (p : Phase) : ofCode p.code = p := by
  cases p <;> rfl

theorem code_ofCode {n : Nat} (h : n ≤ 4) : (ofCode n).code = n := by
  match n, h with
  | 0, _ | 1, _ | 2, _ | 3, _ | 4, _ => rfl

end Phase

end GracefulDrain
