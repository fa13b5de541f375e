import AcceleratorHealth.Agreement
import AcceleratorHealth.Loads
import AcceleratorHealth.RoundTrip

/-! Refused images. The decoder writes into its target as it reads, so a refusal after
the header leaves the header's values and the records read so far in place of what the
target held. -/
namespace AcceleratorHealth
open Codec Wire Util

namespace Persistence

/-- The target already holds what a decode refused after this header writes: the header's
values, the records listed before the refused one and their uuids, and nothing else. -/
structure AlreadyHolds (h : Header) (data : Bytes) (out : HealthStore) : Prop where
  policy : out.policy = h.policy
  policyGeneration : out.policyGeneration = h.policyGeneration
  epoch : out.coordinatorEpoch = h.epoch
  devices : out.devices = OrdMap.empty.insertAll ((records data).map fun d => (d.id, d))
  uuidIndex : out.uuidIndex = OrdMap.empty.insertAll ((records data).map fun d => (d.uuid, d.id))
  stateIndex : out.stateIndex = .empty
  readinessIndex : out.readinessIndex = .empty
  faultIndex : out.faultIndex = .empty
  quarantineIndex : out.quarantineIndex = .empty
  staleIndex : out.staleIndex = .empty
  globalFaults : out.globalFaults = []
  globalChanges : out.globalChanges = []

theorem leftover_eq_iff {h : Header} {data : Bytes} {out : HealthStore} :
    leftover h data out = out ↔ AlreadyHolds h data out := by
  constructor
  · intro heq
    rw [← heq]
    exact ⟨rfl, rfl, rfl, rfl, rfl, rfl, rfl, rfl, rfl, rfl, rfl, rfl⟩
  · rintro ⟨h₁, h₂, h₃, h₄, h₅, h₆, h₇, h₈, h₉, h₁₀, h₁₁, h₁₂⟩
    exact HealthStore.ext h₁.symm h₂.symm h₃.symm rfl rfl rfl rfl rfl rfl rfl rfl rfl rfl h₄.symm
      h₅.symm h₆.symm h₇.symm h₈.symm h₉.symm h₁₀.symm h₁₁.symm h₁₂.symm

/-- A refusal of this image leaves this target alone: it comes before the header has been
read, or finds everything that it writes already there. -/
def Spares (data : Bytes) (out : HealthStore) : Prop :=
  ∀ h r, header data = some (h, r) → AlreadyHolds h data out

theorem refused_decode_eq_iff {data : Bytes} {out : HealthStore}
    (hrefused : (decodeStateInternal data out).result ≠ .ok ()) :
    (decodeStateInternal data out).state = out ↔ Spares data out := by
  generalize hx : decodeStateInternal data out = x at hrefused
  have hcases := hx ▸ decode_cases data out
  cases hcases with
  | refusedEarly hh =>
    refine ⟨fun _ h r hh' => ?_, fun _ => rfl⟩
    rw [hh] at hh'
    cases hh'
  | @refusedLate e h r hh =>
    rw [Exit.throw_state, leftover_eq_iff]
    refine ⟨fun heq h' r' hh' => ?_, fun hspares => hspares h r hh⟩
    rw [hh] at hh'
    cases hh'
    exact heq
  | accepted => exact absurd rfl hrefused

/-- When a refused image changes nothing, for `decode` and for `loadFromFile`. -/
theorem refused_image_changes_nothing_iff (out : HealthStore) :
    (∀ data, (decodeStateInternal data out).result ≠ .ok () →
      ((decodeStateInternal data out).state = out ↔ Spares data out)) ∧
    ∀ clk contents error, (loadInternal clk contents out).result = .ok (.error error) →
      ((loadInternal clk contents out).state = out ↔ ∀ data ∈ contents, Spares data out) := by
  refine ⟨fun data => refused_decode_eq_iff, fun clk contents error hload => ?_⟩
  unfold loadInternal at hload ⊢
  cases contents with
  | none => simp
  | some data =>
    simp only [Option.mem_def, Option.some.injEq, forall_eq'] at hload ⊢
    cases hres : (decodeStateInternal data out).result with
    | error e => exact refused_decode_eq_iff (by simp [hres])
    | ok u =>
      -- a load whose image was accepted either returns true or throws
      simp only [hres] at hload
      unfold Exit.andThen Exit.bind at hload
      split at hload <;> cases hload

/-- The body of an image that announces one device and ends there. -/
def cutBody : Bytes :=
  match emitAll [HealthPolicy.write {}, Generation.write (⟨1⟩ : PolicyGeneration), u64 0, u32 1]
    with
  | .ok body => body
  | .error _ => []

/-- A refusal finds what an earlier one of the same image has written. -/
theorem spares_of_refused {data : Bytes} {out : HealthStore}
    (hrefused : (decodeStateInternal data out).result ≠ .ok ()) :
    Spares data (decodeStateInternal data out).state := by
  intro h r hh
  generalize hx : decodeStateInternal data out = x at hrefused
  have hcases := hx ▸ decode_cases data out
  cases hcases with
  | refusedEarly hnone => cases hnone.symm.trans hh
  | refusedLate hheader =>
    cases hheader.symm.trans hh
    exact leftover_eq_iff.mp rfl
  | accepted => exact absurd rfl hrefused

private theorem cut_refused {data : Bytes} (hopen : openImage data = .ok cutBody) :
    (decodeStateInternal data (HealthStore.after {} 0 HealthStore.bringUp)).result =
        .error "invalid health state" ∧
      (decodeStateInternal data (HealthStore.after {} 0 HealthStore.bringUp)).state ≠
        HealthStore.after {} 0 HealthStore.bringUp := by
  unfold decodeStateInternal
  rw [hopen]
  refine ⟨by decide +kernel, fun h => ?_⟩
  have hkept := congrArg (fun s : HealthStore => s.devices.contains ⟨7⟩) h
  revert hkept
  decide +kernel

/-- The image is refused behind its header, and again on the store that this leaves. -/
theorem refused_image_spares_after_refusal :
    (decodeStateInternal (sealImage cutBody) (decodeStateInternal (sealImage cutBody)
      (HealthStore.after {} 0 HealthStore.bringUp)).state).state =
      (decodeStateInternal (sealImage cutBody)
        (HealthStore.after {} 0 HealthStore.bringUp)).state := by
  have hfirst := (cut_refused ((openImage_sealImage cutBody).1 (by decide +kernel))).1
  refine ((refused_image_changes_nothing_iff _).1 _ ?_).mpr (spares_of_refused ?_)
  · rw [decode_result_eq, hfirst]
    exact nofun
  · rw [hfirst]
    exact nofun

/-- An image that ends early is refused, but the device tracked before is gone. -/
theorem refused_image_drops_device :
    (decodeStateInternal (sealImage cutBody) (HealthStore.after {} 0 HealthStore.bringUp)).result =
        .error "invalid health state" ∧
      (decodeStateInternal (sealImage cutBody) (HealthStore.after {} 0 HealthStore.bringUp)).state ≠
        HealthStore.after {} 0 HealthStore.bringUp :=
  cut_refused ((openImage_sealImage cutBody).1 (by decide +kernel))

end Persistence
end AcceleratorHealth
