import CozyLife.Entities

/-! The integration inside Home Assistant: the coroutines of `coordinator.py` and `switch.py`, the
set-up of `sensor.py`, and the entries of `__init__.py`. -/

namespace CozyLife
open Python Effects

def DOMAIN : Str := str "cozylife_cloud"

/-- What a coroutine of the integration raises: the errors of Home Assistant, and what goes through. -/
inductive HassExn
  | updateFailed (message : Str)
  | homeAssistant (message : Str)
  | configEntryNotReady
  | other (e : Exn)
  deriving DecidableEq

/-- The part of Home Assistant's `DataUpdateCoordinator` that the integration relies on: `H` is what
it keeps, `refreshed` what it makes of the end of `_async_update_data`, `setUpdatedData` what
`async_set_updated_data` does. -/
structure UpdateCoordinator (H : Type) where
  new : H
  data : H → Option (Dict Json)
  lastUpdateSuccess : H → Bool
  refreshed : H → Except HassExn (Dict Json) → H
  setUpdatedData : H → Dict Json → H
  data_new : data new = none
  data_refreshed : ∀ h r, data (refreshed h r) = match r with
    | .ok d => some d
    | .error _ => data h
  success_refreshed : ∀ h r, lastUpdateSuccess (refreshed h r) = r.isOk
  data_set : ∀ h d, data (setUpdatedData h d) = some d
  success_set : ∀ h d, lastUpdateSuccess (setUpdatedData h d) = true

/-- One that keeps nothing else. -/
def UpdateCoordinator.plain : UpdateCoordinator (Option (Dict Json) × Bool) where
  new := (none, true)
  data := Prod.fst
  lastUpdateSuccess := Prod.snd
  refreshed h r := match r with
    | .ok d => (some d, true)
    | .error _ => (h.1, false)
  setUpdatedData _ d := (some d, true)
  data_new := rfl
  data_refreshed := by
    intro h r
    cases r <;> rfl
  success_refreshed := by
    intro h r
    cases r <;> rfl
  data_set _ _ := rfl
  success_set _ _ := rfl

/-- A coroutine of an object whose own fields are `σ`. -/
abbrev Coroutine (σ α : Type) := EStateM HassExn (σ × World) α

/-- `await hass.async_add_executor_job(m)` under a `try`. -/
def inExecutor (m : Method σ α) : Coroutine σ (Except Exn α) := fun s => .ok (answer m s) (after m s)

@[simp] theorem run_inExecutor (m : Method σ α) (s : σ × World) :
    (inExecutor m).run s = .ok (answer m s) (after m s) := rfl

/-! ### The coordinator -/

/-- `CozyLifeCoordinator` with what its base class keeps, and with the title of its entry. -/
structure HassCoordinator (H K : Type) extends CozyLifeCoordinator K where
  title : Str
  updates : H

/-- `{str(dpid): value for dpid, value in payload.items()}`, as data. -/
def confirmedData (payload : Payload) : Dict Json :=
  (payloadData payload).map (fun p => (p.1, .int p.2))

namespace HassCoordinator

variable {H K ω : Type} (hass : UpdateCoordinator H)

/-- `CozyLifeCoordinator(hass, entry, client)`. -/
def new (title : Str) (client : K) : HassCoordinator H K :=
  { CozyLifeCoordinator.new client with title := title, updates := hass.new }

/-- `self.name`. -/
def name (c : HassCoordinator H K) : Str := DOMAIN ++ str " " ++ c.title

/-- `self.data`. -/
def data (c : HassCoordinator H K) : Option (Dict Json) := hass.data c.updates

/-- `CoordinatorEntity.available`. -/
def available (c : HassCoordinator H K) : Bool := hass.lastUpdateSuccess c.updates

def onPolled : Lens (HassCoordinator H K × World) (CozyLifeCoordinator K × World) where
  get s := (s.1.toCozyLifeCoordinator, s.2)
  set t s := ({ s.1 with toCozyLifeCoordinator := t.1 }, t.2)
  get_set _ _ := rfl
  set_get _ := rfl

variable (query : ω → Option (List Int) → Method K (Dict Json)) (write : ω → Payload → Method K Bool)

/-- `_async_update_data()`. -/
def asyncUpdateData (env : PollEnv ω) : Coroutine (HassCoordinator H K) (Dict Json) := do
  match ← inExecutor (zoom onPolled (CozyLifeCoordinator.poll query env)) with
  | .ok data => return data
  | .error (.transport err) => throw (.updateFailed err.message)
  | .error e => throw (.other e)

/-- `async_refresh()` of the base class, around `_async_update_data()`. -/
def asyncRefresh (env : PollEnv ω) : Coroutine (HassCoordinator H K) Unit := do
  let r ← caught (asyncUpdateData query env)
  modify (fun s => ({ s.1 with updates := hass.refreshed s.1.updates r }, s.2))

/-- `async_control(payload)`. Whether the refresh it requests runs at once is up to Home Assistant;
`reconcile` is what it then meets. -/
def asyncControl (env : ω) (reconcile : Option (PollEnv ω)) (payload : Payload) :
    Coroutine (HassCoordinator H K) Unit := do
  match ← inExecutor (zoom onPolled (CozyLifeCoordinator.control write env payload)) with
  | .error (.transport err) =>
    throw (.homeAssistant (str "Could not reach " ++ (← get).1.name ++ str " on either path: " ++
      err.message))
  | .error e => throw (.other e)
  | .ok accepted =>
    if !accepted then throw (.homeAssistant ((← get).1.name ++ str " refused the command"))
    let confirmed := (((← get).1.data hass).getD []).update (confirmedData payload)
    modify (fun s => ({ s.1 with updates := hass.setUpdatedData s.1.updates confirmed }, s.2))
    match reconcile with
    | some env => asyncRefresh hass query env
    | none => pure ()

end HassCoordinator

/-! ### The entities -/

namespace CozyLifeSwitch

variable {H K ω : Type} (hass : UpdateCoordinator H)
  (query : ω → Option (List Int) → Method K (Dict Json)) (write : ω → Payload → Method K Bool)

/-- `{str(DPID_SWITCH): value}`. -/
def switchPayload (value : Int) : Payload := [(.text false (str "1") (by decide), value)]

/-- `async_turn_on()`. -/
def asyncTurnOn (env : ω) (reconcile : Option (PollEnv ω)) : Coroutine (HassCoordinator H K) Unit :=
  HassCoordinator.asyncControl hass query write env reconcile (switchPayload 1)

/-- `async_turn_off()`. -/
def asyncTurnOff (env : ω) (reconcile : Option (PollEnv ω)) : Coroutine (HassCoordinator H K) Unit :=
  HassCoordinator.asyncControl hass query write env reconcile (switchPayload 0)

end CozyLifeSwitch

/-- `async_setup_entry` of `sensor.py`: the sensors of a device with that data. -/
def reportedSensors (data : Option (Dict Json)) : List CozyLifeSensorDescription :=
  SENSORS.filter (fun description => ((data.getD []).get (intText description.dpid)).isSome)

/-! ### The entries -/

/-- A config entry that is set up: its `runtime_data`, the sensors its platform added, and how its
client builds transports. -/
structure LoadedEntry (H : Type) where
  coordinator : HassCoordinator H Client
  sensors : List CozyLifeSensorDescription
  factory : Factory

/-- The entries that are set up, by their ids, and the coordinators of set-ups that failed, which
nothing refers to any more. -/
structure House (H : Type) where
  loaded : Nat → Option (LoadedEntry H)
  dropped : List (HassCoordinator H Client)

namespace House

variable {H : Type}

def empty : House H := ⟨fun _ => none, []⟩

def put (house : House H) (id : Nat) (e : Option (LoadedEntry H)) : House H :=
  { house with loaded := fun i => if i = id then e else house.loaded i }

/-- Run a coroutine of an entry's coordinator. -/
def onEntry (id : Nat) (e : LoadedEntry H) (m : Coroutine (HassCoordinator H Client) α) :
    Coroutine (House H) α := fun s =>
  match m.run (e.coordinator, s.2) with
  | .ok a t => .ok a (s.1.put id (some { e with coordinator := t.1 }), t.2)
  | .error x t => .error x (s.1.put id (some { e with coordinator := t.1 }), t.2)

@[simp] theorem run_onEntry (id : Nat) (e : LoadedEntry H)
    (m : Coroutine (HassCoordinator H Client) α) (s : House H × World) : (onEntry id e m).run s =
      match m.run (e.coordinator, s.2) with
      | .ok a t => .ok a (s.1.put id (some { e with coordinator := t.1 }), t.2)
      | .error x t => .error x (s.1.put id (some { e with coordinator := t.1 }), t.2) := rfl

/-- Run a coroutine of an object that nothing refers to yet, and hand the object over. -/
def onNew (c : τ) (m : Coroutine τ α) : Coroutine σ τ := fun s =>
  .ok (after m (c, s.2)).1 (s.1, (after m (c, s.2)).2)

@[simp] theorem run_onNew (c : τ) (m : Coroutine τ α) (s : σ × World) :
    (onNew c m : Coroutine σ τ).run s = .ok (after m (c, s.2)).1 (s.1, (after m (c, s.2)).2) := rfl

/-- What Home Assistant has an entry do. A reload is an unload and a set-up. -/
inductive Step
  | setup (id : Nat) (title : Str) (entry : ConfigEntry) (env : PollEnv ClientEnv)
  | refresh (id : Nat) (env : PollEnv ClientEnv)
  | control (id : Nat) (env : ClientEnv) (reconcile : Option (PollEnv ClientEnv))
      (payload : Payload)
  | unload (id : Nat) (unloaded : Bool)

variable (hass : UpdateCoordinator H) (py : Interpreter)

/-- `async_setup_entry(hass, entry)`: the first refresh decides. -/
def asyncSetupEntry (id : Nat) (title : Str) (entry : ConfigEntry) (env : PollEnv ClientEnv) :
    Coroutine (House H) Unit := do
  let factory := Factory.standard (entry.localTimeout.getD DEFAULT_LOCAL_TIMEOUT)
  let coordinator ← onNew (HassCoordinator.new hass title (buildClient entry))
    (HassCoordinator.asyncRefresh hass (Client.query py factory) env)
  if coordinator.available hass then
    let e := ⟨coordinator, reportedSensors (coordinator.data hass), factory⟩
    modify (fun s => (s.1.put id (some e), s.2))
  else
    modify (fun s => ({ s.1 with dropped := coordinator :: s.1.dropped }, s.2))
    throw .configEntryNotReady

/-- `entry.runtime_data.client.close()`. -/
def closeClient (factory : Factory) : Coroutine (HassCoordinator H Client) (Except Exn Unit) :=
  inExecutor (zoom HassCoordinator.onPolled (zoom CozyLifeCoordinator.onClient
    (Client.close py factory)))

/-- `async_unload_entry(hass, entry)`: `unloaded` says whether its platforms could be. -/
def asyncUnloadEntry (id : Nat) (e : LoadedEntry H) (unloaded : Bool) :
    Coroutine (House H) Unit := do
  if unloaded then
    let _ ← onEntry id e (closeClient py e.factory)
    modify (fun s => (s.1.put id none, s.2))

/-- An entry that is not set up does nothing. -/
def withEntry (id : Nat) (f : LoadedEntry H → Coroutine (House H) Unit) : Coroutine (House H) Unit := do
  match (← get).1.loaded id with
  | some e => f e
  | none => pure ()

/-- One step. No entry is set up twice. -/
def perform : Step → Coroutine (House H) Unit
  | .setup id title entry env => do
    match (← get).1.loaded id with
    | none => asyncSetupEntry hass py id title entry env
    | some _ => pure ()
  | .refresh id env => withEntry id (fun e =>
    onEntry id e (HassCoordinator.asyncRefresh hass (Client.query py e.factory) env))
  | .control id env reconcile payload => withEntry id (fun e =>
    onEntry id e (HassCoordinator.asyncControl hass (Client.query py e.factory)
      (Client.control py e.factory) env reconcile payload))
  | .unload id unloaded => withEntry id (fun e => asyncUnloadEntry py id e unloaded)

/-- The house after some steps, each run to its end. -/
def run (steps : List Step) (s : House H × World) : House H × World :=
  steps.foldl (fun s step => after (perform hass py step) s) s

end House

end CozyLife
