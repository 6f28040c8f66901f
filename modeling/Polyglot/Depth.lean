import Polyglot.Failure

/-!
# Depth limits

Work on trees is nested, and a limit bounds how deep. A limit may be any number, but one above the
ceiling is lowered to it: the ceiling leaves room on a stack of a thousand frames, four to a level,
less a reserve. `DepthGuard` counts the levels entered; entering past the limit fails and leaves the
count as it was.
-/

namespace Polyglot.Depth

/-- The number of frames of a stack. -/
def stackFrames : Int := 1000

/-- The frames kept free unless stated otherwise. -/
def standardReserve : Int := 50

/-- The limit of work on trees unless stated otherwise. -/
def standardLimit : Int := 100

/-- The highest limit that leaves a reserve of frames free. -/
def ceiling (reserve : Int) : Int :=
  (stackFrames - reserve).fdiv 4

/-- The limit that stands for a requested one. -/
def clamp (reserve requested : Int) : Int :=
  min requested (ceiling reserve)

/-- What is reported about a requested limit. -/
def clampEvents (reserve requested : Int) : List Event :=
  if requested > ceiling reserve then
    [.depthClamped requested stackFrames (ceiling reserve)]
  else []

/-- The limit that stands for a requested one, reporting a change. -/
def clampReporting (reserve requested : Int) : Reporting Int := do
  reportAll (clampEvents reserve requested)
  return clamp reserve requested

theorem clamp_le_ceiling (reserve requested : Int) : clamp reserve requested ≤ ceiling reserve :=
  Int.min_le_right _ _

theorem clamp_of_le {reserve requested : Int} (h : requested ≤ ceiling reserve) :
    clamp reserve requested = requested :=
  Int.min_eq_left h

/-- A count of the levels entered, below a limit. -/
structure Guard where
  limit : Int
  depth : Int
  deriving DecidableEq, Repr

namespace Guard

/-- Enter one level. -/
def enter (guard : Guard) : Except Failure Guard :=
  if guard.depth ≥ guard.limit then .error (.depth guard.limit)
  else .ok { guard with depth := guard.depth + 1 }

/-- Leave one level. -/
def leave (guard : Guard) : Guard :=
  { guard with depth := guard.depth - 1 }

theorem leave_of_enter {guard entered : Guard} (h : guard.enter = .ok entered) :
    entered.leave = guard := by
  unfold enter at h
  split at h
  · contradiction
  · cases h
    simp [leave]

end Guard

end Polyglot.Depth
