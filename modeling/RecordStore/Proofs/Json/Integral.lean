import Mathlib
import RecordStore.Proofs.Json.RoundTrip

/-!
Values without doubles.  Integers are written digit by digit, so such a value is read back as it is.
-/
namespace RecordStore.Json

mutual

/-- Whether every number in a value is an integer. -/
def Integral : Json → Prop
  | .real _ => False
  | .array vs => ItemsIntegral vs
  | .object ms => MembersIntegral ms
  | _ => True

def ItemsIntegral : List Json → Prop
  | [] => True
  | v :: vs => Integral v ∧ ItemsIntegral vs

def MembersIntegral : List (String × Json) → Prop
  | [] => True
  | (_, v) :: ms => Integral v ∧ MembersIntegral ms

end

mutual

theorem reread_of_integral (v : Json) (hv : v.Integral) : v.reread = v := by
  match v with
  | .null | .bool b | .integer n | .string t => rfl
  | .real x => exact absurd hv id
  | .array vs => exact congrArg Json.array (rereadItems_of_integral vs hv)
  | .object ms => exact congrArg Json.object (rereadMembers_of_integral ms hv)

theorem rereadItems_of_integral (vs : List Json) (hvs : ItemsIntegral vs) : rereadItems vs = vs := by
  match vs with
  | [] => rfl
  | v :: vs => rw [rereadItems, reread_of_integral v hvs.1, rereadItems_of_integral vs hvs.2]

theorem rereadMembers_of_integral (ms : Record) (hms : MembersIntegral ms) :
    rereadMembers ms = ms := by
  match ms with
  | [] => rfl
  | (k, v) :: ms =>
    rw [rereadMembers, reread_of_integral v hms.1, rereadMembers_of_integral ms hms.2]

end

end RecordStore.Json
