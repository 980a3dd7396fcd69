/-
**Settings as documents.**

Settings and dimensions are read from structured documents and written to them. A structure is read
from an object that has all of its fields, others being ignored, or from an array with the fields in
their order and nothing else. The origin of a horizon may be missing at its place, and is zero then.

* A scalar field takes any number, a count only a natural number;
* `Horizon.Settings.ofDocument?`, `Tracking.Settings.ofDocument?` and `Dimensions.ofDocument?`
  read, and the functions `toDocument` write.
-/

import RecedingHorizon.Tracking.Settings
import RecedingHorizon.Dimensions
import RecedingHorizon.Horizon

namespace RecedingHorizon

universe u

/-- A structured document with numbers over the scalars `K`. -/
inductive Document (K : Type u) where
  | null
  | boolean (value : Bool)
  /-- A number written as a natural number. -/
  | natural (value : Nat)
  /-- Any other number. -/
  | real (value : K)
  | text (value : String)
  | array (items : List (Document K))
  /-- Fields with different names. -/
  | object (fields : List (String × Document K))
deriving Inhabited

namespace Document

variable {K : Type u}

/-- The number that a document is. -/
def scalar? [NatCast K] : Document K → Option K
  | .natural value => some (value : K)
  | .real value => some value
  | _ => none

/-- The natural number that a document is. -/
def count? : Document K → Option Nat
  | .natural value => some value
  | _ => none

/-- The number in a field, if the field is there. -/
def scalarField? [NatCast K] (fields : List (String × Document K)) (name : String) : Option K :=
  (fields.lookup name).bind fun field => field.scalar?

/-- The natural number in a field, if the field is there. -/
def countField? (fields : List (String × Document K)) (name : String) : Option Nat :=
  (fields.lookup name).bind fun field => field.count?

end Document

variable {K : Type u}

/-- Read the settings of a horizon. -/
def Horizon.Settings.ofDocument? [Zero K] [NatCast K] :
    Document K → Option (Horizon.Settings K)
  | .object fields => do
    let finalLength ← Document.scalarField? fields "final_length"
    let growthRate ← Document.scalarField? fields "growth_rate"
    let origin ← match fields.lookup "initial_time" with
      | some field => field.scalar?
      | none => some 0
    return { finalLength, growthRate, origin }
  | .array [finalLength, growthRate] => do
    return {
      finalLength := ← finalLength.scalar?
      growthRate := ← growthRate.scalar?
      origin := 0 }
  | .array [finalLength, growthRate, origin] => do
    return {
      finalLength := ← finalLength.scalar?
      growthRate := ← growthRate.scalar?
      origin := ← origin.scalar? }
  | _ => none

/-- Write the settings of a horizon. -/
def Horizon.Settings.toDocument (settings : Horizon.Settings K) : Document K :=
  .object [("final_length", .real settings.finalLength),
    ("growth_rate", .real settings.growthRate),
    ("initial_time", .real settings.origin)]

/-- Read the settings of a continuation. -/
def Tracking.Settings.ofDocument? [NatCast K] :
    Document K → Option (Tracking.Settings K)
  | .object fields => do
    return {
      increment := ← Document.scalarField? fields "finite_difference_increment"
      gain := ← Document.scalarField? fields "stabilization_gain" }
  | .array [increment, gain] => do
    return { increment := ← increment.scalar?, gain := ← gain.scalar? }
  | _ => none

/-- Write the settings of a continuation. -/
def Tracking.Settings.toDocument (settings : Tracking.Settings K) : Document K :=
  .object [("finite_difference_increment", .real settings.increment),
    ("stabilization_gain", .real settings.gain)]

/-- Read dimensions. -/
def Dimensions.ofDocument? : Document K → Option Dimensions
  | .object fields => do
    return {
      state := ← Document.countField? fields "state"
      input := ← Document.countField? fields "control_input"
      constraints := ← Document.countField? fields "constraints"
      stages := ← Document.countField? fields "stages" }
  | .array [state, input, constraints, stages] => do
    return {
      state := ← state.count?
      input := ← input.count?
      constraints := ← constraints.count?
      stages := ← stages.count? }
  | _ => none

/-- Write dimensions. -/
def Dimensions.toDocument (dimensions : Dimensions) : Document K :=
  .object [("state", .natural dimensions.state),
    ("control_input", .natural dimensions.input),
    ("constraints", .natural dimensions.constraints),
    ("stages", .natural dimensions.stages)]

end RecedingHorizon
