/-!
# A reference counter that can be closed

Users of an object count themselves while they use it, and the owner holds one reference
from the start.  To get rid of the users the owner kills the counter: from then on nobody
new is counted, and the owner's own reference is gone, so that the counter reaches zero
when the last user has left.
-/

namespace MxDriver

structure KillableRef where
  count : Nat := 1
  dying : Bool := false
  deriving DecidableEq, Repr

namespace KillableRef

variable {ref next : KillableRef} {users : Nat}

/-- A new user, unless the counter was killed. -/
def tryGetLive (ref : KillableRef) : Option KillableRef :=
  if ref.dying then none else some { ref with count := ref.count + 1 }

/-- One more reference, for somebody who has one. -/
def get (ref : KillableRef) : KillableRef := { ref with count := ref.count + 1 }

def put (ref : KillableRef) : KillableRef := { ref with count := ref.count - 1 }

def kill (ref : KillableRef) : KillableRef := { ref with count := ref.count - 1, dying := true }

/-- Nobody is left. -/
def isZero (ref : KillableRef) : Bool := ref.dying && ref.count == 0

/-- The counter is exact for this many users. -/
def Counts (ref : KillableRef) (users : Nat) : Prop :=
  ref.count = users + if ref.dying then 0 else 1

theorem Counts.tryGetLive (counts : ref.Counts users) (got : ref.tryGetLive = some next) :
    next.Counts (users + 1) := by
  unfold KillableRef.tryGetLive at got
  split at got
  · cases got
  · obtain rfl := Option.some.inj got
    unfold Counts at counts ⊢
    dsimp only
    omega

theorem Counts.get (counts : ref.Counts users) : ref.get.Counts (users + 1) := by
  unfold Counts KillableRef.get at *
  dsimp only
  omega

theorem Counts.put (counts : ref.Counts (users + 1)) : ref.put.Counts users := by
  unfold Counts KillableRef.put at *
  dsimp only
  omega

theorem Counts.kill (counts : ref.Counts users) (live : ref.dying = false) :
    ref.kill.Counts users := by
  simp only [Counts, KillableRef.kill, live] at counts ⊢
  simp only [Bool.false_eq_true, if_false, if_true] at counts ⊢
  omega

theorem Counts.isZero_iff (counts : ref.Counts users) :
    ref.isZero = true ↔ ref.dying = true ∧ users = 0 := by
  unfold Counts at counts
  rw [isZero, Bool.and_eq_true, beq_iff_eq, counts]
  constructor
  · rintro ⟨dying, none⟩
    exact ⟨dying, by omega⟩
  · rintro ⟨dying, rfl⟩
    simp [dying]

end KillableRef

end MxDriver
