import CozyLife.Api.Local

/-! `rediscovering.py`: a local transport for a device whose address may change. The clock and the
interval between searches are exact, so their difference is not rounded to a float. -/

namespace CozyLife
open Python Effects

/-- What a search meets: the clock as it is reached, `time.time()` if a probe is built, and what
discovery then returns or raises. -/
structure SearchEnv where
  now : ℚ
  probe : Option ℚ
  found : Except Exn (Option Str)

/-- What one call meets: the first inner call, the search after it and the retry. -/
structure RediscoverEnv (ω : Type) where
  first : ω
  search : SearchEnv
  retry : ω

/-- `T` is what `transport_factory` builds, by default a `LocalTransport`. -/
structure RediscoveringLocalTransport (T : Type) where
  deviceId : Str
  host : Str
  minInterval : ℚ
  lastSearch : Option ℚ
  transport : T

namespace RediscoveringLocalTransport

def DEFAULT_REDISCOVERY_INTERVAL : ℚ := 300

def name : Str := str "local"

def inner (T : Type) : Lens (RediscoveringLocalTransport T × World) (T × World) where
  get s := (s.1.transport, s.2)
  set t s := ({ s.1 with transport := t.1 }, t.2)
  get_set _ _ := rfl
  set_get _ := rfl

/-- `_rediscover(device_id)`: a probe takes a sequence number of its own. -/
def rediscover (env : SearchEnv) : EStateM Exn World (Option Str) := do
  match env.probe with
  | some time => let _ ← newSn time
  | none => pure ()
  rethrow env.found

/-- Whether the last search is long enough ago for another one. -/
def searchDue (t : RediscoveringLocalTransport T) (now : ℚ) : Bool :=
  match t.lastSearch with
  | some last => ¬ now - last < t.minInterval
  | none => true

variable (inside : Transport ω T) (factory : Str → T)

/-- `_close(transport)`. -/
def closeInner : Method (RediscoveringLocalTransport T) Unit :=
  match inside.close with
  | some close => zoom (inner T) close
  | none => pure ()

/-- `_relocate()`. -/
def relocate (env : SearchEnv) : Method (RediscoveringLocalTransport T) Bool := do
  let t ← getSelf
  if !t.searchDue env.now then return false
  modifySelf (fun t => { t with lastSearch := some env.now })
  match ← caught (onWorld (rediscover env)) with
  | .error (.os _) => return false
  | .error e => throw e
  | .ok none => return false
  | .ok (some found) =>
    if found = [] ∨ found = t.host then return false
    closeInner inside
    modifySelf (fun t => { t with host := found, transport := factory found })
    return true

def query (env : RediscoverEnv ω) (attrs : Option (List Int)) :
    Method (RediscoveringLocalTransport T) (Dict Json) := do
  match ← caught (zoom (inner T) (inside.query env.first attrs)) with
  | .ok data => return data
  | .error (.transport e) =>
    if ← relocate inside factory env.search then
      let t ← getSelf
      onWorld (info (.moved t.deviceId t.host))
      zoom (inner T) (inside.query env.retry attrs)
    else throw (.transport e)
  | .error e => throw e

def control (env : RediscoverEnv ω) (payload : Payload) :
    Method (RediscoveringLocalTransport T) Bool := do
  match ← caught (zoom (inner T) (inside.control env.first payload)) with
  | .ok accepted => return accepted
  | .error (.transport e) =>
    let _ ← relocate inside factory env.search
    throw (.transport e)
  | .error e => throw e

def asTransport : Transport (RediscoverEnv ω) (RediscoveringLocalTransport T) where
  name := name
  query := query inside factory
  control := control inside factory
  close := some (closeInner inside)

end RediscoveringLocalTransport

end CozyLife
