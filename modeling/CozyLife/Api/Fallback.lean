import CozyLife.Api.Cloud
import CozyLife.Api.Rediscovering

/-! `fallback.py`: local first, the cloud if it must, and the circuit breaker between them. What the
clock reads and how long the circuit rests are exact: their difference is not rounded to a float. -/

namespace CozyLife
open Python Effects

/-- What the clock reads where a request reads it: to see how long the circuit has been open, to
start a probe and to open the circuit. -/
structure Readings where
  check : ℚ
  probe : ℚ
  trip : ℚ

/-- The fields of `FallbackClient` the breaker lives in. -/
structure Breaker where
  failureThreshold : Int
  recoveryInterval : ℚ
  consecutiveFailures : Nat
  circuitOpenedAt : Option ℚ

namespace Breaker

def DEFAULT_FAILURE_THRESHOLD : Int := 3

def DEFAULT_RECOVERY_INTERVAL : ℚ := 600

def initial (threshold : Int) (interval : ℚ) : Breaker := ⟨threshold, interval, 0, none⟩

/-- `local_circuit_open`. -/
def isOpen (b : Breaker) : Bool := b.circuitOpenedAt.isSome

/-- `_should_try_local()`; `cloud` says whether there is a cloud transport. -/
def shouldTryLocal (b : Breaker) (cloud : Bool) (check probe : ℚ) : Bool × Breaker :=
  match cloud, b.circuitOpenedAt with
  | false, _ => (true, b)
  | true, none => (true, b)
  | true, some openedAt =>
    if check - openedAt < b.recoveryInterval then (false, b)
    else (true, { b with circuitOpenedAt := some probe })

/-- `_record_local_failure()`, with whether it announces that local is cut out. -/
def recordLocalFailure (b : Breaker) (cloud : Bool) (trip : ℚ) : Bool × Breaker :=
  let b := { b with consecutiveFailures := b.consecutiveFailures + 1 }
  if b.circuitOpenedAt = none ∧ cloud = true ∧ b.failureThreshold ≤ b.consecutiveFailures then
    (true, { b with circuitOpenedAt := some trip })
  else (false, b)

/-- `_record_local_success()`, with whether it announces that local is back. -/
def recordLocalSuccess (b : Breaker) : Bool × Breaker :=
  (b.isOpen, { b with consecutiveFailures := 0, circuitOpenedAt := none })

end Breaker

structure FallbackClient (L C : Type) extends Breaker where
  local' : L
  cloud : Option C
  activePath : Option Str

namespace FallbackClient

variable {L C : Type}

/-- A client as it is built. -/
def initial (l : L) (c : Option C) (threshold : Int) (interval : ℚ) : FallbackClient L C :=
  { Breaker.initial threshold interval with local' := l, cloud := c, activePath := none }

def breaker : Method (FallbackClient L C) Breaker := do return (← getSelf).toBreaker

def setBreaker (b : Breaker) : Method (FallbackClient L C) Unit :=
  modifySelf (fun s => { s with toBreaker := b })

def setActivePath (path : Option Str) : Method (FallbackClient L C) Unit :=
  modifySelf (fun s => { s with activePath := path })

def onLocal : Lens (FallbackClient L C × World) (L × World) where
  get s := (s.1.local', s.2)
  set t s := ({ s.1 with local' := t.1 }, t.2)
  get_set _ _ := rfl
  set_get _ := rfl

/-- Run a method of the cloud transport `c`, which is the one the client has. -/
def onCloud (c : C) (m : Method C α) : Method (FallbackClient L C) α := fun s =>
  match m.run (c, s.2) with
  | .ok a t => .ok a ({ s.1 with cloud := some t.1 }, t.2)
  | .error e t => .error e ({ s.1 with cloud := some t.1 }, t.2)

/-- `_note_path(path)`. -/
def notePath (path : Str) : Method (FallbackClient L C) Unit := do
  match (← getSelf).activePath with
  | none => onWorld (info (.servedOver path))
  | some before => if path ≠ before then onWorld (info (.switched before path)) else pure ()
  setActivePath (some path)

def shouldTryLocal (r : Readings) : Method (FallbackClient L C) Bool := do
  let s ← getSelf
  let (try', b) := s.toBreaker.shouldTryLocal s.cloud.isSome r.check r.probe
  setBreaker b
  return try'

def recordLocalFailure (r : Readings) : Method (FallbackClient L C) Unit := do
  let s ← getSelf
  let (announce, b) := s.toBreaker.recordLocalFailure s.cloud.isSome r.trip
  setBreaker b
  if announce then
    onWorld (info (.localFailing b.consecutiveFailures b.recoveryInterval))
  else pure ()

def recordLocalSuccess : Method (FallbackClient L C) Unit := do
  let (announce, b) := (← getSelf).toBreaker.recordLocalSuccess
  setBreaker b
  if announce then onWorld (info .localAnswering) else pure ()

variable (localName cloudName : Str)

/-- `_via_cloud(call, local_error=...)`. -/
def viaCloud (callCloud : Method C α) (localError : Option TransportError) :
    Method (FallbackClient L C) α := do
  match (← getSelf).cloud with
  | none => throw .assertion
  | some c =>
    match ← caught (onCloud c callCloud) with
    | .error (.transport cloudError) =>
      setActivePath none
      match localError with
      | none => throw (.transport cloudError)
      | some localError =>
        raiseTransport (str "both paths failed -- local: " ++ localError.message ++
          str "; cloud: " ++ cloudError.message)
    | .error e => throw e
    | .ok result =>
      notePath cloudName
      return result

/-- `_attempt(call)`, for the call on the local and on the cloud transport. -/
def attempt (r : Readings) (callLocal : Method L α) (callCloud : Method C α) :
    Method (FallbackClient L C) α := do
  if ← shouldTryLocal r then
    match ← caught (zoom onLocal callLocal) with
    | .error (.transport localError) =>
      recordLocalFailure r
      if (← getSelf).cloud.isNone then
        setActivePath none
        throw (.transport localError)
      else viaCloud cloudName callCloud (some localError)
    | .error e => throw e
    | .ok result =>
      recordLocalSuccess
      notePath localName
      return result
  else viaCloud cloudName callCloud none

/-- What one request meets. -/
structure RequestEnv (ωL ωC : Type) where
  readings : Readings
  local' : ωL
  cloud : ωC

variable {ωL ωC : Type} (l : Transport ωL L) (c : Transport ωC C)

def query (env : RequestEnv ωL ωC) (attrs : Option (List Int)) :
    Method (FallbackClient L C) (Dict Json) :=
  attempt l.name c.name env.readings (l.query env.local' attrs) (c.query env.cloud attrs)

def control (env : RequestEnv ωL ωC) (payload : Payload) : Method (FallbackClient L C) Bool :=
  attempt l.name c.name env.readings (l.control env.local' payload) (c.control env.cloud payload)

/-- `close()`: what cannot be closed is left alone. -/
def close : Method (FallbackClient L C) Unit := do
  match l.close with
  | some closer => zoom onLocal closer
  | none => pure ()
  match (← getSelf).cloud, c.close with
  | some cloud, some closer => onCloud cloud closer
  | _, _ => pure ()

end FallbackClient

end CozyLife
