import CozyLife.Api.Client

/-! `coordinator.py`: a poll of one device, and what is known of its metering. -/

namespace CozyLife
open Python Effects

def DPID_ENERGY : Int := 26
def DPID_CURRENT : Int := 27
def DPID_POWER : Int := 28
def DPID_VOLTAGE : Int := 29

/-- Asked for as a group and abandoned as a group. -/
def METERING_DPIDS : List Int := [DPID_ENERGY, DPID_CURRENT, DPID_POWER, DPID_VOLTAGE]

/-- `K` is the client. `metering` is none until the group has been probed, and empty if it is not
supported. -/
structure CozyLifeCoordinator (K : Type) where
  client : K
  metering : Option (List Int)

/-- What the two queries of a poll meet. -/
structure PollEnv (ω : Type) where
  wildcard : ω
  metering : ω

namespace CozyLifeCoordinator

variable {K ω : Type}

def new (client : K) : CozyLifeCoordinator K := ⟨client, none⟩

def onClient : Lens (CozyLifeCoordinator K × World) (K × World) where
  get s := (s.1.client, s.2)
  set t s := ({ s.1 with client := t.1 }, t.2)
  get_set _ _ := rfl
  set_get _ := rfl

/-- `connection_path`. -/
def connectionPath {L C : Type} (c : CozyLifeCoordinator (FallbackClient L C)) : Option Str :=
  c.client.activePath

variable (query : ω → Option (List Int) → Method K (Dict Json))

/-- `_probe_metering(data)`: whether there is metering, and `data` as it leaves it. -/
def probeMetering (env : ω) (data : Dict Json) :
    Method (CozyLifeCoordinator K) (Bool × Dict Json) := do
  match ← caught (zoom onClient (query env (some METERING_DPIDS))) with
  | .error (.transport _) => return (false, data)
  | .error e => throw e
  | .ok readings =>
    if readings = [] then return (false, data)
    return (true, data.update readings)

/-- `_poll()`. -/
def poll (env : PollEnv ω) : Method (CozyLifeCoordinator K) (Dict Json) := do
  let data ← zoom onClient (query env.wildcard none)
  match (← getSelf).metering with
  | none =>
    let (found, data) ← probeMetering query env.metering data
    modifySelf (fun c => { c with metering := some (if found then METERING_DPIDS else []) })
    return data
  | some [] => return data
  | some (d :: ds) =>
    match ← caught (zoom onClient (query env.metering (some (d :: ds)))) with
    | .error (.transport _) => return data
    | .error e => throw e
    | .ok readings => return data.update readings

/-- The call of `client.control` in `async_control`. -/
def control (write : ω → Payload → Method K Bool) (env : ω) (payload : Payload) :
    Method (CozyLifeCoordinator K) Bool := zoom onClient (write env payload)

end CozyLifeCoordinator

end CozyLife
