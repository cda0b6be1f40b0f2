import UniversalMachine.Session.Basic

/-! Independent sessions under numbers that are never used twice. -/
namespace UniversalMachine

/-- The open sessions under their numbers. -/
structure Registry where
  /-- The sizes of which the host has no memory for an array. -/
  refuses : UInt32 → Bool
  sessions : List (Nat × Session) := []
  nextId : Nat := 0
  increasing : (sessions.map Prod.fst).Pairwise (· < ·) := by simp
  below : ∀ id ∈ sessions.map Prod.fst, id < nextId := by simp

namespace Registry

/-- The registry that has opened no session yet. -/
def empty (refuses : UInt32 → Bool) : Registry := { refuses }

/-- The numbers of the open sessions. -/
def ids (registry : Registry) : List Nat := registry.sessions.map Prod.fst

/-- A number above all others goes behind them. -/
theorem increasing_append {ids : List Nat} {next : Nat} (hi : ids.Pairwise (· < ·))
    (hb : ∀ id ∈ ids, id < next) :
    (ids ++ [next]).Pairwise (· < ·) ∧ ∀ id ∈ ids ++ [next], id < next + 1 := by
  constructor
  · exact List.pairwise_append.mpr ⟨hi, by simp, by simpa using hb⟩
  · intro id hid
    rcases List.mem_append.mp hid with hid | hid
    · exact Nat.lt_succ_of_lt (hb id hid)
    · rw [List.mem_singleton.mp hid]
      exact Nat.lt_succ_self next

def openSession (registry : Registry) : Nat × Registry :=
  let session : Session := { refuses := registry.refuses }
  have hnext := increasing_append registry.increasing registry.below
  (registry.nextId,
    { registry with
      sessions := registry.sessions ++ [(registry.nextId, session)]
      nextId := registry.nextId + 1
      increasing := by simpa using hnext.1
      below := by simpa using hnext.2 })

def get? (registry : Registry) (id : Nat) : Option Session := registry.sessions.lookup id

theorem map_fst_zip_sublist (ids : List Nat) (sessions : List Session) :
    ((ids.zip sessions).map Prod.fst).Sublist ids := by
  induction ids generalizing sessions with
  | nil => simp
  | cons id ids ih => cases sessions <;> simp [ih]

/-- Puts other sessions in the place of all, in order and under the same numbers. -/
def withSessions (registry : Registry) (sessions : List Session) : Registry :=
  have hkept : ((registry.ids.zip sessions).map Prod.fst).Sublist registry.ids :=
    map_fst_zip_sublist registry.ids sessions
  { registry with
    sessions := registry.ids.zip sessions
    increasing := registry.increasing.sublist hkept
    below := fun id hid => registry.below id (hkept.subset hid) }

/-- Replaces the session `id`, if it is open. -/
def set (registry : Registry) (id : Nat) (session : Session) : Registry :=
  registry.withSessions
    (registry.sessions.map fun entry => if entry.1 = id then session else entry.2)

def close (registry : Registry) (id : Nat) : Option Session × Registry :=
  have hkept : ((registry.sessions.filter fun entry => entry.1 != id).map Prod.fst).Sublist
      registry.ids := List.filter_sublist.map Prod.fst
  (registry.get? id,
    { registry with
      sessions := registry.sessions.filter fun entry => entry.1 != id
      increasing := registry.increasing.sublist hkept
      below := fun other hother => registry.below other (hkept.subset hother) })

/-- Passes a request to the session `id`. -/
def handle (registry : Registry) (id : Nat) (request : Request) :
    Except Session.Error Unit × Registry :=
  match registry.get? id with
  | none => (.error (.unknownSession id), registry)
  | some session =>
    let (result, session) := session.handle request
    (result, registry.set id session)

/-- Pumps every session once, in order, and tells the status of each. -/
def pumpAll (registry : Registry) (budget : Nat) : List (Nat × Session.Status) × Registry :=
  let pumped := registry.sessions.map fun entry => entry.2.pump budget
  (registry.ids.zip (pumped.map Prod.fst), registry.withSessions (pumped.map Prod.snd))

/-- The same as `pumpAll` without a budget; `none` if a session needs more than `fuel`
instructions. -/
def pumpAllUntilStop? (registry : Registry) (fuel : Nat) :
    Option (List (Nat × Session.Status) × Registry) := do
  let pumped ← registry.sessions.mapM fun entry => entry.2.pumpUntilStop? fuel
  some (registry.ids.zip (pumped.map Prod.fst), registry.withSessions (pumped.map Prod.snd))

def size (registry : Registry) : Nat := registry.sessions.length

def isEmpty (registry : Registry) : Bool := registry.sessions.isEmpty

end Registry
end UniversalMachine
