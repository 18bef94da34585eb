import OpenC2X.Cam.Alarms
import OpenC2X.Dcc.PacketLedger

/-!
# The lifetime of a CAM

`CaService::send` stamps a CAM with the time until which it is valid, and DCC judges it by
that time in two places: in `flushQueue` and in `sendQueuedPackets`.  Both places compare
with `validUntil` in the same way, so DCC keeps to the time it is given.  But the product
of `mExpirationTime` with 10⁹ is computed in the type `int`, which holds it only up to two
seconds.
-/

namespace OpenC2X.Cam

open Dcc Interleaving

variable {R : Type*}

/-! ## Computing the time -/

theorem int32_product (x : ℤ) : int32 (int32 (int32 (x * 1000) * 1000) * 1000) =
    int32 (x * second) := by
  have hproduct : x * 1000 * (1000 * 1000) = x * second := by
    rw [second]
    omega
  rw [int32_mul, mul_assoc, int32_mul, hproduct]

/-- The stamp is the intended one if and only if the expiration time is at most 2 s. -/
theorem validUntil_eq_iff {s : CaService R} {t : ℤ}
    (hconfig : IsInt32 s.mConfig.mExpirationTime) (hnonneg : 0 ≤ s.mConfig.mExpirationTime)
    (hsum : IsInt64 (t + s.mConfig.mExpirationTime * second)) :
    s.validUntil t = t + s.mConfig.mExpirationTime * second ↔ s.mConfig.mExpirationTime ≤ 2 := by
  unfold CaService.validUntil
  rw [int32_product]
  set E := s.mConfig.mExpirationTime
  obtain ⟨hlow, hhigh⟩ := isInt32_int32 (E * second)
  have hsecond : second = 1000000000 := rfl
  constructor
  · intro heq
    -- the difference of the two stamps is a multiple of `2 ^ 64`, but smaller than that
    obtain ⟨k, hk⟩ := exists_int64_eq (t + int32 (E * second))
    obtain ⟨-, hE⟩ := hconfig
    by_contra hlarge
    rw [heq] at hk
    have hproduct : 3000000000 ≤ E * second ∧ E * second < 0x80000000 * 1000000000 := by
      rw [hsecond]
      omega
    generalize E * second = product at *
    have hzero : k = 0 := by omega
    omega
  · intro hsmall
    have hproduct : int32 (E * second) = E * second :=
      int32_of_isInt32 ⟨by rw [hsecond]; omega, by rw [hsecond]; omega⟩
    rw [hproduct]
    exact int64_of_isInt64 hsum

/-! ## Judging by the time -/

/-- What DCC does to packages that are equal to `data` is right for this deadline: it
deletes them only after a clock reading beyond it, and sends them only after a clock
reading up to it. -/
def JudgedBy (deadline : ℤ) (data : DATA) (m : Memory) : Event → Prop
  | .flush _ deleted => ∀ p ∈ deleted, p.data = data →
      ∃ nowTime, m.reading = some nowTime ∧ deadline < nowTime
  | .refund p _ => p.data = data → ∃ nowTime, m.reading = some nowTime ∧ deadline < nowTime
  | .send p => p.data = data → ∃ nowTime, m.reading = some nowTime ∧ nowTime ≤ deadline
  | _ => True

/-- In every run of the DCC threads, `data` is judged by this deadline. -/
def KeepsDeadline (deadline : ℤ) (data : DATA) : Prop :=
  ∀ (Tid : Type) [DecidableEq Tid] (ac : AccessCategory) (bucketSize queueSize : ℕ)
    (tr : Trace Tid Event) (c : Config Tid Shared Local),
    Run (Act ac) (start Tid bucketSize queueSize) tr c →
      ∀ before t e after, tr = before ++ (t, e) :: after →
        JudgedBy deadline data (memory t before) e

/-- DCC judges every package by its `validUntil`. -/
theorem keepsDeadline_validuntil (data : DATA) : KeepsDeadline data.validuntil data := by
  intro Tid _ ac bucketSize queueSize tr c hrun before t e after heq
  have hjustified := justified hrun before t e after heq
  cases e with
  | flush nowTime deleted =>
      obtain ⟨hreading, hexpired⟩ := hjustified
      intro p hp hdata
      exact ⟨nowTime, hreading, hdata ▸ hexpired p hp⟩
  | refund p added =>
      obtain ⟨nowTime, hmemory, hexpired⟩ := hjustified
      intro hdata
      exact ⟨nowTime, by rw [hmemory], hdata ▸ hexpired⟩
  | send p =>
      obtain ⟨nowTime, hmemory, hvalid⟩ := hjustified
      intro hdata
      exact ⟨nowTime, by rw [hmemory], hdata ▸ hvalid⟩
  | _ => trivial

/-! ## From the service to the air -/

variable [Field R] [LinearOrder R] [FloorRing R]

/-- **Lifetime of a CAM.**  The package of a CAM sent at the clock reading `t` carries
`t + mExpirationTime` seconds, and DCC neither deletes it up to then nor sends it later,
if and only if the configured expiration time is at most 2 s. -/
theorem camLifetime_iff {s s' : CaService R} {env : Env R} {r : Readings} {cam : Asn1.CAM}
    {data : DATA} (hconfig : IsInt32 s.mConfig.mExpirationTime)
    (hnonneg : 0 ≤ s.mConfig.mExpirationTime)
    (hsum : IsInt64 (r.send + s.mConfig.mExpirationTime * second))
    (hsend : s.send env r = some (s', cam, data)) :
    (data.validUntil = some (r.send + s.mConfig.mExpirationTime * second) ∧
        KeepsDeadline (r.send + s.mConfig.mExpirationTime * second) data) ↔
      s.mConfig.mExpirationTime ≤ 2 := by
  have hdata : data.validUntil = some (s.validUntil r.send) := by
    unfold CaService.send at hsend
    obtain ⟨encodedCam, -, heq⟩ := Option.map_eq_some_iff.mp hsend
    obtain ⟨-, -, rfl⟩ := by simpa only [Prod.mk.injEq] using heq
    rfl
  rw [← validUntil_eq_iff hconfig hnonneg hsum, hdata, Option.some.injEq]
  constructor
  · exact fun h => h.1
  · intro hstamp
    have hdeadline : data.validuntil = r.send + s.mConfig.mExpirationTime * second := by
      rw [DATA.validuntil, hdata, hstamp]
      rfl
    exact ⟨hstamp, hdeadline ▸ keepsDeadline_validuntil data⟩

/-! ## One second and three seconds -/

/-- A service with this expiration time, before its first CAM. -/
def serviceWithExpiration (mExpirationTime : ℤ) : CaService ℚ :=
  .new { defaultConfig with mExpirationTime := mExpirationTime } 1 0

theorem exists_send (mExpirationTime : ℤ)
    (h : ((serviceWithExpiration mExpirationTime).send meridianEnv firstAlarm).isSome) :
    ∃ s' cam data, (serviceWithExpiration mExpirationTime).send meridianEnv firstAlarm =
      some (s', cam, data) := by
  obtain ⟨⟨s', cam, data⟩, hsend⟩ := Option.isSome_iff_exists.mp h
  exact ⟨s', cam, data, hsend⟩

theorem camLifetime_one : ∃ s' cam data,
    (serviceWithExpiration 1).send meridianEnv firstAlarm = some (s', cam, data) ∧
      data.validUntil = some (102 * second) ∧ KeepsDeadline (102 * second) data := by
  obtain ⟨s', cam, data, hsend⟩ := exists_send 1 (by decide +kernel)
  exact ⟨s', cam, data, hsend, (camLifetime_iff ⟨by decide, by decide⟩ (by decide)
    ⟨by decide, by decide⟩ hsend).mpr (by decide)⟩

/-- With three seconds the product wraps to a negative number: the CAM has expired before
it is sent. -/
theorem not_camLifetime_three : ∃ s' cam data,
    (serviceWithExpiration 3).send meridianEnv firstAlarm = some (s', cam, data) ∧
      data.validUntil = some (101 * second - 1294967296) ∧
      data.validUntil ≠ some (firstAlarm.send + 3 * second) := by
  have heval : ((serviceWithExpiration 3).send meridianEnv firstAlarm).any fun next =>
      decide (next.2.2.validUntil = some (101 * second - 1294967296)) := by decide +kernel
  obtain ⟨⟨s', cam, data⟩, hsend, hdata⟩ := (Option.any_eq_true _ _).mp heval
  have hstamp : data.validUntil = some (101 * second - 1294967296) := of_decide_eq_true hdata
  refine ⟨s', cam, data, hsend, hstamp, ?_⟩
  rw [hstamp]
  decide

end OpenC2X.Cam
