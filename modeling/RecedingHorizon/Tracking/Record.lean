/-
**Log records of the continuation engine.**

An engine reports its construction, the resets of its horizon, every step it prepares, and a
residual that is not finite. `Record` holds what is reported, `Record.message` is the logged line.
-/

import RecedingHorizon.Tracking.Settings
import RecedingHorizon.Dimensions
import RecedingHorizon.Horizon

namespace RecedingHorizon.Tracking

universe u

/-- How urgent a record is. -/
inductive Level where
  | trace
  | debug
  | warn
deriving DecidableEq, Repr

/-- How a level is called. -/
def Level.label : Level → String
  | .trace => "TRACE"
  | .debug => "DEBUG"
  | .warn => "WARN"

/-- What happened. -/
inductive Event (K : Type u) where
  | constructed (dimensions : Dimensions) (settings : Settings K)
  | horizonReset (horizon : Horizon.Settings K)
  | originMoved (origin : K)
  /-- The norm of the residual at a time is not finite. -/
  | notFinite (time : K)
  | prepared (sequence : Nat) (time : K)

/-- What happened to which engine. -/
structure Record (K : Type u) where
  engine : Nat
  event : Event K

/-- How urgent an event is. -/
def Event.level {K : Type u} : Event K → Level
  | .constructed _ _ | .horizonReset _ | .originMoved _ => .debug
  | .notFinite _ => .warn
  | .prepared _ _ => .trace

/-- What a line says of an event. -/
def Event.message : Event Float → String
  | .constructed dimensions settings =>
    "n_x = " ++ toString dimensions.state ++ ", n_u = " ++ toString dimensions.input ++
      ", n_c = " ++ toString dimensions.constraints ++ ", N = " ++ toString dimensions.stages ++
      ", h = " ++ Decimal.plain settings.increment ++ ", zeta = " ++ Decimal.plain settings.gain
  | .horizonReset horizon =>
    "horizon reset (T_f = " ++ Decimal.plain horizon.finalLength ++ ", alpha = " ++
      Decimal.plain horizon.growthRate ++ ", t0 = " ++ Decimal.plain horizon.origin ++ ")"
  | .originMoved origin => "horizon origin moved to t0 = " ++ Decimal.plain origin
  | .notFinite time => "optimality residual is not finite at t = " ++ Decimal.plain time
  | .prepared sequence time =>
    "prepared step " ++ toString sequence ++ " at t = " ++ Decimal.plain time

/-- The line of a record. -/
def Record.message (record : Record Float) : String :=
  record.event.level.label ++ " continuation engine " ++ toString record.engine ++ ": " ++
    record.event.message

end RecedingHorizon.Tracking
