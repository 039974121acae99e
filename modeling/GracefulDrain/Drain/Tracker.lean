namespace GracefulDrain

/-- The last word a load balancer got. -/
inductive Ack
  | ready
  /-- Told "not ready" without interruption since this clock reading. -/
  | notReady (since : Nat)
  deriving DecidableEq, Repr

namespace Ack

/-- Another "not ready" keeps the reading of the first one. -/
def noteNotReady (now : Nat) : Option Ack → Ack
  | some (notReady since) => notReady since
  | _ => notReady now

/-- May still send traffic: not told, or told for less than the window. A clock that went back
counts as no time at all. -/
def active (now window : Nat) : Ack → Bool
  | ready => true
  | notReady since => now - since < window

end Ack

/-- Entries in the order in which the load balancers first appeared. -/
structure Tracker where
  entries : List (String × Ack)
  deriving DecidableEq, Repr

namespace Tracker

def empty : Tracker := ⟨[]⟩

def size (t : Tracker) : Nat := t.entries.length

def get? (t : Tracker) (id : String) : Option Ack := t.entries.lookup id

/-- Replaces the entry of `id`, or adds it at the end. -/
def putEntry (id : String) (a : Ack) : List (String × Ack) → List (String × Ack)
  | [] => [(id, a)]
  | (k, old) :: rest => if k = id then (k, a) :: rest else (k, old) :: putEntry id a rest

def put (t : Tracker) (id : String) (a : Ack) : Tracker := ⟨putEntry id a t.entries⟩

def noteReady (t : Tracker) (id : String) (deployer : Bool) : Tracker :=
  if deployer then t else t.put id .ready

def noteNotReady (t : Tracker) (now : Nat) (id : String) (deployer : Bool) : Tracker :=
  if deployer then t else t.put id (Ack.noteNotReady now (t.get? id))

def anyActive (t : Tracker) (now window : Nat) : Bool :=
  t.entries.any fun e => e.2.active now window

theorem lookup_cons_ite (k k' : String) (a : Ack) (es : List (String × Ack)) :
    ((k', a) :: es).lookup k = if k = k' then some a else es.lookup k := by
  by_cases h : k = k'
  · simp [h]
  · rw [List.lookup_cons, beq_eq_false_iff_ne.2 h, if_neg h]

theorem lookup_putEntry (id k : String) (a : Ack) (es : List (String × Ack)) :
    (putEntry id a es).lookup k = if k = id then some a else es.lookup k := by
  induction es with
  | nil => simp only [putEntry, lookup_cons_ite, List.lookup_nil]
  | cons e rest ih =>
    obtain ⟨k', old⟩ := e
    simp only [putEntry]
    split
    · next hk => subst hk; simp only [lookup_cons_ite]; split <;> rfl
    · next hk =>
      simp only [lookup_cons_ite, ih]
      split <;> split <;> simp_all

@[simp] theorem get?_empty (id : String) : empty.get? id = none := rfl

theorem get?_put (t : Tracker) (id k : String) (a : Ack) :
    (t.put id a).get? k = if k = id then some a else t.get? k :=
  lookup_putEntry id k a t.entries

theorem get?_noteReady (t : Tracker) (id k : String) :
    (t.noteReady id false).get? k = if k = id then some .ready else t.get? k := by
  simp [noteReady, get?_put]

theorem get?_noteNotReady (t : Tracker) (now : Nat) (id k : String) :
    (t.noteNotReady now id false).get? k =
      if k = id then some (Ack.noteNotReady now (t.get? id)) else t.get? k := by
  simp [noteNotReady, get?_put]

end Tracker

end GracefulDrain
