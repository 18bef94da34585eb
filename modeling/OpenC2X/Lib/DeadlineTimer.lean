import Mathlib.Order.MinMax
import Mathlib.Tactic.Common

/-!
# Deadline timers

A timer of an event loop on which any number of waits can be armed.  When it expires, the
handlers of all armed waits are queued.  Moving the expiry aborts the armed waits: their
handlers are queued too, with an error.  What has been queued cannot be taken back.

A client that only ever re-arms the timer (`rearm`) keeps exactly one wait going: `OneWait`.
-/

/-- `armed` holds the moments at which the armed waits were armed; `fired` and `aborted`
count the queued handlers. -/
structure DeadlineTimer (Time : Type*) where
  expiresAt : Time
  armed : List Time
  fired : ℕ
  aborted : ℕ
  deriving DecidableEq

namespace DeadlineTimer

variable {Time : Type*}

def new (time : Time) : DeadlineTimer Time where
  expiresAt := time
  armed := []
  fired := 0
  aborted := 0

/-- Moves the expiry and aborts the armed waits. -/
def setExpiresAt (timer : DeadlineTimer Time) (time : Time) : DeadlineTimer Time where
  expiresAt := time
  armed := []
  fired := timer.fired
  aborted := timer.aborted + timer.armed.length

/-- Arms a wait at the moment `now`. -/
def asyncWait (timer : DeadlineTimer Time) (now : Time) : DeadlineTimer Time :=
  { timer with armed := timer.armed ++ [now] }

/-- The timer expires and the handlers of its waits are queued. -/
def expire (timer : DeadlineTimer Time) : Option (DeadlineTimer Time) :=
  if timer.armed = [] then
    none
  else
    some { timer with armed := [], fired := timer.fired + timer.armed.length }

/-- A queued handler of an expired wait is taken from the queue. -/
def takeFired (timer : DeadlineTimer Time) : Option (DeadlineTimer Time) :=
  if timer.fired = 0 then none else some { timer with fired := timer.fired - 1 }

/-- A queued handler of an aborted wait is taken from the queue. -/
def takeAborted (timer : DeadlineTimer Time) : Option (DeadlineTimer Time) :=
  if timer.aborted = 0 then none else some { timer with aborted := timer.aborted - 1 }

/-- Moves the expiry and arms a wait for it. -/
def rearm (timer : DeadlineTimer Time) (time now : Time) : DeadlineTimer Time :=
  (timer.setExpiresAt time).asyncWait now

/-- The moment at which the handler of a wait is due. -/
def due [LinearOrder Time] (timer : DeadlineTimer Time) (armedAt : Time) : Time :=
  max timer.expiresAt armedAt

@[simp] theorem rearm_expiresAt (timer : DeadlineTimer Time) (time now : Time) :
    (timer.rearm time now).expiresAt = time := rfl

@[simp] theorem rearm_armed (timer : DeadlineTimer Time) (time now : Time) :
    (timer.rearm time now).armed = [now] := rfl

/-! ## The three events leave the expiry alone -/

theorem expire_eq_some {timer timer' : DeadlineTimer Time} :
    timer.expire = some timer' ↔ timer.armed ≠ [] ∧
      timer' = { timer with armed := [], fired := timer.fired + timer.armed.length } := by
  rw [expire, Option.ite_none_left_eq_some, Option.some.injEq, eq_comm (b := timer')]

theorem takeFired_eq_some {timer timer' : DeadlineTimer Time} :
    timer.takeFired = some timer' ↔
      timer.fired ≠ 0 ∧ timer' = { timer with fired := timer.fired - 1 } := by
  rw [takeFired, Option.ite_none_left_eq_some, Option.some.injEq, eq_comm (b := timer')]

theorem takeAborted_eq_some {timer timer' : DeadlineTimer Time} :
    timer.takeAborted = some timer' ↔
      timer.aborted ≠ 0 ∧ timer' = { timer with aborted := timer.aborted - 1 } := by
  rw [takeAborted, Option.ite_none_left_eq_some, Option.some.injEq, eq_comm (b := timer')]

/-! ## One wait -/

/-- Not more than one wait is armed, and one is armed or has its handler queued. -/
structure OneWait (timer : DeadlineTimer Time) : Prop where
  armed_le : timer.armed.length ≤ 1
  waiting : 1 ≤ timer.armed.length + timer.fired

theorem OneWait.eq_of_mem {timer : DeadlineTimer Time} (h : OneWait timer) {a b : Time}
    (ha : a ∈ timer.armed) (hb : b ∈ timer.armed) : a = b := by
  have hle := h.armed_le
  cases harmed : timer.armed with
  | nil =>
      rw [harmed] at ha
      cases ha
  | cons first rest =>
      rw [harmed, List.length_cons] at hle
      obtain rfl : rest = [] := List.eq_nil_of_length_eq_zero (by omega)
      rw [harmed, List.mem_singleton] at ha hb
      exact ha.trans hb.symm

theorem oneWait_asyncWait_new (time now : Time) : OneWait ((new time).asyncWait now) :=
  ⟨le_rfl, le_rfl⟩

/-- Re-arming leaves one wait, whatever was armed or queued before. -/
theorem oneWait_rearm (timer : DeadlineTimer Time) (time now : Time) :
    OneWait (timer.rearm time now) :=
  ⟨le_rfl, Nat.le_add_right 1 _⟩

theorem OneWait.expire {timer timer' : DeadlineTimer Time} (h : OneWait timer)
    (hexpire : timer.expire = some timer') : OneWait timer' := by
  obtain ⟨-, rfl⟩ := expire_eq_some.mp hexpire
  refine ⟨Nat.zero_le _, ?_⟩
  have hwaiting := h.waiting
  show 1 ≤ 0 + (timer.fired + timer.armed.length)
  omega

theorem OneWait.takeAborted {timer timer' : DeadlineTimer Time} (h : OneWait timer)
    (htake : timer.takeAborted = some timer') : OneWait timer' := by
  obtain ⟨-, rfl⟩ := takeAborted_eq_some.mp htake
  exact ⟨h.armed_le, h.waiting⟩

end DeadlineTimer
