import Mathlib.Logic.Relation
import NatGateway.Mapping.Error

/-!
# Causes of a failure

What is left of a failure of the layers below when the user of a gateway is told it. A failure of an
action may be the cause of one of a description; nothing else stands inside anything. A refusal that is
the failure itself is told as it is. One inside a description is not: the failure is told as that of the
description, and no fault is found in it. So faults are told for what they are exactly if none of them
is the cause of a description's failure. No cancellation is lost, and neither is it which failures are
those of the exchange.
-/

namespace NatGateway.Mapping

open NatGateway.Description (DescriptionError)
open NatGateway.Soap (Fault SoapError)
open NatGateway.Ssdp (SsdpError)

/-- A failure of one of the layers that mappings are built on. -/
inductive LayerError where
  | soap (error : SoapError)
  | description (error : DescriptionError)
  | search (error : SsdpError)

namespace LayerError

/-- The failure right inside another one. -/
inductive Wraps : LayerError → LayerError → Prop
  | description (cause : SoapError) : Wraps (.description (.soap cause)) (.soap cause)

/-- A failure carries itself and whatever stands inside it, at any depth. -/
def Carries : LayerError → LayerError → Prop := Relation.ReflTransGen Wraps

/-- How a failure is told to the user of a gateway. -/
def told : LayerError → MappingError
  | .soap error => .ofSoap error
  | .description error => .description error
  | .search error => .search error

variable {error inner : LayerError}

/-- Below a failure there is at most the action that failed when a description was used. -/
theorem carries_iff :
    error.Carries inner ↔
      inner = error ∨ ∃ cause, error = .description (.soap cause) ∧ inner = .soap cause := by
  constructor
  · intro h
    induction h with
    | refl => exact Or.inl rfl
    | tail _ hstep ih =>
      -- A step leads to an action from a description, and no action wraps anything.
      cases hstep with
      | description cause =>
        rcases ih with rfl | ⟨_, _, hsoap⟩
        · exact Or.inr ⟨cause, rfl, rfl⟩
        · exact nomatch hsoap
  · rintro (rfl | ⟨cause, rfl, rfl⟩)
    · exact Relation.ReflTransGen.refl
    · exact Relation.ReflTransGen.single (.description cause)

/-- A failure carries a refusal of the gateway by being it, or inside the failure of a description. -/
theorem carries_fault_iff {refusal : Fault} :
    error.Carries (.soap (.fault refusal)) ↔
      error = .soap (.fault refusal) ∨ error = .description (.soap (.fault refusal)) := by
  rw [carries_iff]
  constructor
  · rintro (rfl | ⟨cause, rfl, hcause⟩)
    · exact Or.inl rfl
    · cases hcause
      exact Or.inr rfl
  · rintro (rfl | rfl)
    · exact Or.inl rfl
    · exact Or.inr ⟨_, rfl, rfl⟩

/-- Cancellations stand inside nothing. -/
theorem carries_cancelled_iff :
    error.Carries (.description .cancelled) ∨ error.Carries (.search .cancelled) ↔
      error = .description .cancelled ∨ error = .search .cancelled := by
  rw [carries_iff, carries_iff]
  constructor
  · rintro ((rfl | ⟨_, _, hcause⟩) | (rfl | ⟨_, _, hcause⟩))
    · exact Or.inl rfl
    · exact nomatch hcause
    · exact Or.inr rfl
    · exact nomatch hcause
  · exact Or.imp (fun h => Or.inl h.symm) fun h => Or.inl h.symm

/-- The failure of an action is sorted as a refusal, as one of the exchange, or as one of the answer. -/
theorem ofSoap_cases (cause : SoapError) :
    (∃ refusal, cause = .fault refusal ∧ MappingError.ofSoap cause = .fault refusal) ∨
      (∀ refusal, cause ≠ .fault refusal) ∧
        (cause.isTransport = true ∧ MappingError.ofSoap cause = .transport cause ∨
          cause.isTransport = false ∧ MappingError.ofSoap cause = .decode cause) := by
  cases cause with
  | fault refusal => exact Or.inl ⟨refusal, rfl, rfl⟩
  | transport => exact Or.inr ⟨nofun, Or.inl ⟨rfl, rfl⟩⟩
  | status code => exact Or.inr ⟨nofun, Or.inl ⟨rfl, rfl⟩⟩
  | _ => exact Or.inr ⟨nofun, Or.inr ⟨rfl, rfl⟩⟩

/-- Only an action that failed at the exchange is told as such, with its own failure. -/
theorem told_eq_transport_iff {kept : SoapError} :
    error.told = .transport kept ↔ error = .soap kept ∧ kept.isTransport = true := by
  cases error with
  | soap cause =>
    rw [told, soap.injEq]
    obtain ⟨refusal, rfl, htold⟩ | ⟨_, ⟨htransport, htold⟩ | ⟨hanswer, htold⟩⟩ := ofSoap_cases cause
    · rw [htold]
      constructor
      · exact nofun
      · rintro ⟨rfl, htransport⟩
        exact nomatch htransport
    · rw [htold, MappingError.transport.injEq]
      exact ⟨fun h => ⟨h, h ▸ htransport⟩, And.left⟩
    · rw [htold]
      constructor
      · exact nofun
      · rintro ⟨rfl, htransport⟩
        exact Bool.noConfusion (hanswer.symm.trans htransport)
  | description cause => simp [told]
  | search cause => simp [told]

/-- What is told is a refusal exactly if the failure is this refusal. -/
theorem told_eq_fault_iff {refusal : Fault} :
    error.told = .fault refusal ↔ error = .soap (.fault refusal) := by
  cases error with
  | soap cause =>
    rw [told, soap.injEq]
    obtain ⟨other, rfl, htold⟩ | ⟨hother, ⟨_, htold⟩ | ⟨_, htold⟩⟩ := ofSoap_cases cause
    · rw [htold, MappingError.fault.injEq, SoapError.fault.injEq]
    · rw [htold]
      exact ⟨nofun, fun h => absurd h (hother refusal)⟩
    · rw [htold]
      exact ⟨nofun, fun h => absurd h (hother refusal)⟩
  | description cause => simp [told]
  | search cause => simp [told]

/-- A fault is found in what is told exactly if it is what is told. -/
theorem fault?_eq_some_iff {answer : MappingError} {refusal : Fault} :
    answer.fault? = some refusal ↔ answer = .fault refusal := by
  cases answer with
  | fault other => rw [MappingError.fault?, Option.some.injEq, MappingError.fault.injEq]
  | _ => exact ⟨nofun, nofun⟩

/-- What is told is a cancellation exactly if one of a layer below was. -/
theorem isCancelled_told_iff :
    error.told.isCancelled = true ↔ error = .description .cancelled ∨ error = .search .cancelled := by
  cases error with
  | soap cause =>
    obtain ⟨refusal, rfl, htold⟩ | ⟨_, ⟨_, htold⟩ | ⟨_, htold⟩⟩ := ofSoap_cases cause
    · exact ⟨nofun, nofun⟩
    · rw [told, htold]
      exact ⟨nofun, nofun⟩
    · rw [told, htold]
      exact ⟨nofun, nofun⟩
  | description cause => cases cause <;> simp [told, MappingError.isCancelled]
  | search cause => cases cause <;> simp [told, MappingError.isCancelled]

/-- What is left of a failure in what is told. A fault is found exactly if it is the failure itself. So
it is found exactly where it is carried, unless it stands inside the failure of a description. The
gateway is said to have refused exactly if a fault is found, the operation to have been given up exactly
if a cancellation is carried, and the exchange to have failed exactly if an action failed by it. -/
theorem told_classes (error : LayerError) :
    (∀ refusal, error.told.fault? = some refusal ↔ error = .soap (.fault refusal)) ∧
    ((∀ refusal, error.told.fault? = some refusal ↔ error.Carries (.soap (.fault refusal))) ↔
      ∀ refusal, error ≠ .description (.soap (.fault refusal))) ∧
    (error.told.isFault = true ↔ ∃ refusal, error.told.fault? = some refusal) ∧
    (error.told.isCancelled = true ↔
      error.Carries (.description .cancelled) ∨ error.Carries (.search .cancelled)) ∧
    ∀ kept, error.told = .transport kept ↔ error = .soap kept ∧ kept.isTransport = true := by
  refine ⟨fun refusal => ?_, ?_, ?_, ?_, fun kept => told_eq_transport_iff⟩
  · rw [fault?_eq_some_iff, told_eq_fault_iff]
  · simp only [fault?_eq_some_iff, told_eq_fault_iff, carries_fault_iff]
    refine forall_congr' fun refusal => ⟨?_, fun h => ?_⟩
    · rintro h rfl
      exact nomatch h.2 (Or.inr rfl)
    · exact ⟨Or.inl, fun hcarried => hcarried.resolve_right h⟩
  · rw [MappingError.isFault, Option.isSome_iff_exists]
  · rw [isCancelled_told_iff, carries_cancelled_iff]

/-- A refusal inside the failure of a description: it is carried, and it is not found. -/
theorem not_told_conflict :
    LayerError.Carries (.description (.soap (.fault ⟨"s:Client", "E", "", ⟨"718", "Conflict"⟩⟩)))
        (.soap (.fault ⟨"s:Client", "E", "", ⟨"718", "Conflict"⟩⟩)) ∧
      (told (.description (.soap (.fault ⟨"s:Client", "E", "", ⟨"718", "Conflict"⟩⟩)))).fault? = none :=
  ⟨carries_fault_iff.2 (Or.inr rfl), rfl⟩

end LayerError

end NatGateway.Mapping
