import Mathlib.Data.Nat.Notation

/-!
Owns: one stored object with a version that changes with its value, writes that
are accepted only against the version they were computed from, and the fact
that such a write acts on the value it read.

A snapshot is `Coherent` with a store when its version is no newer and equal
versions mean equal values. Every read is coherent, every write keeps older
snapshots coherent, and a successful compare-and-swap therefore took place on
exactly the value the caller had read.
-/

universe u

/-- A value together with the version the store gave it. -/
structure Versioned (α : Type u) where
  value : α
  version : Nat
deriving DecidableEq

namespace Versioned

variable {α : Type u}

/-- A snapshot the store may have handed out earlier. -/
def Coherent (stored read : Versioned α) : Prop :=
  read.version ≤ stored.version ∧
    (read.version = stored.version → read.value = stored.value)

theorem Coherent.refl (stored : Versioned α) : Coherent stored stored :=
  ⟨Nat.le_refl _, fun _ => rfl⟩

variable [DecidableEq α]

def put (stored : Versioned α) (value : α) : Versioned α :=
  if value = stored.value then stored else ⟨value, stored.version + 1⟩

def compareAndSwap (stored read : Versioned α) (value : α) :
    Option (Versioned α) :=
  if stored.version = read.version then some (stored.put value) else none

@[simp] theorem put_value (stored : Versioned α) (value : α) :
    (stored.put value).value = value := by
  unfold put
  split
  · next same => exact same.symm
  · rfl

theorem Coherent.put {stored read : Versioned α}
    (coherent : Coherent stored read) (value : α) :
    Coherent (stored.put value) read := by
  unfold Versioned.put
  split
  · exact coherent
  · refine ⟨Nat.le_succ_of_le coherent.1, fun sameVersion => ?_⟩
    have notNewer := coherent.1
    simp only at sameVersion
    omega

theorem compareAndSwap_eq_some {stored read written : Versioned α} {value : α}
    (coherent : Coherent stored read)
    (accepted : stored.compareAndSwap read value = some written) :
    read.value = stored.value ∧ written = stored.put value := by
  unfold compareAndSwap at accepted
  split at accepted
  · next sameVersion =>
    exact ⟨coherent.2 sameVersion.symm, (Option.some.inj accepted).symm⟩
  · contradiction

end Versioned
