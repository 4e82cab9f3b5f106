import CozyLife.Api.Account
import CozyLife.Api.Client
import CozyLife.Api.Discovery

/-! `config_flow.py`: the flows that add a device or reconfigure it. Any number of them run side by
side, and each is left and resumed where its coroutine awaits. Home Assistant, which keeps the
entries and hands the forms in, is a parameter. -/

namespace CozyLife.ConfigFlow
open Python Effects Account Discovery

/-! ### Entries -/

/-- `data` of a config entry. -/
structure EntryData where
  deviceId : Str
  deviceKey : Str
  deviceName : Str
  relayHost : Str
  relayPort : Int
  localIp : Str
  model : Option Json

/-- A config entry, without its title. -/
structure Entry where
  uniqueId : Option Str
  data : EntryData

/-- What `build_client` reads of an entry with these timeouts in its options. -/
def EntryData.config (data : EntryData) (localTimeout cloudTimeout : Option ℚ) : ConfigEntry where
  deviceId := data.deviceId
  localIp := data.localIp
  deviceKey := some data.deviceKey
  relayHost := some data.relayHost
  relayPort := data.relayPort
  localTimeout := localTimeout
  cloudTimeout := cloudTimeout

/-- The `data_updates` of a reconfiguration. -/
structure DataUpdates where
  deviceKey : Str
  deviceName : Str
  relayHost : Str
  relayPort : Int
  model : Option Json
  localIp : Str

/-- `entry.data | data_updates`. -/
def EntryData.updated (data : EntryData) (updates : DataUpdates) : EntryData where
  deviceId := data.deviceId
  deviceKey := updates.deviceKey
  deviceName := updates.deviceName
  relayHost := updates.relayHost
  relayPort := updates.relayPort
  localIp := updates.localIp
  model := updates.model

/-! ### Flows -/

inductive StepId
  | user
  | reconfigure
  | device
  | address

/-- What a step of a flow returns to Home Assistant. `choices` is what the form offers. -/
inductive FlowResult
  | form (step : StepId) (errors placeholders choices : Dict Str)
  | createEntry (title : Str) (data : EntryData)
  | abort (reason : Str)

/-- What a step of a flow raises: `AbortFlow`, what a job in the executor raised, or another error. -/
inductive FlowExn
  | abortFlow (reason : Str)
  | account (e : AccountExn)
  | search (e : Exn)
  | unknown

/-- A job in the executor that a flow awaits, in `async_step_reconfigure` with the entry it got. -/
inductive Job
  | fetchDevices (entry : Option Nat) (email password : Str)
  | findDeviceIp (entry : Option Nat) (device : CozyLifeDevice)

/-- How far a step of a flow gets at one go. -/
inductive Progress
  | returns (result : FlowResult)
  | awaits (job : Job)

/-- `CozyLifeConfigFlow`. -/
structure CozyLifeConfigFlow where
  devices : List CozyLifeDevice
  device : Option CozyLifeDevice

/-! ### Home Assistant -/

/-- What the flows use of Home Assistant: `H` is what it keeps, where entries and flows go by numbers,
and `A` what happens to that without the flows. `entry` has an entry also once it is removed, as a
flow may still hold it; `uniqueId` is the unique id in the context of a flow. -/
structure HomeAssistant (H A : Type) where
  entry : H → Nat → Option Entry
  title : H → Nat → Str
  present : H → Nat → Bool
  inProgress : H → Nat → Bool
  uniqueId : H → Nat → Option Str
  asyncSetUniqueId : H → Nat → Str → Except FlowExn H
  abortIfUniqueIdConfigured : H → Nat → Except FlowExn Unit
  getReconfigureEntry : H → Nat → Except FlowExn Nat
  asyncUpdateReloadAndAbort : H → Nat → Nat → DataUpdates → Except FlowExn (Str × H)
  init : H → Nat → Option Nat → H
  finish : H → Nat → Except FlowExn FlowResult → H
  act : H → A → H

/-- After these a flow is over. -/
def isOver : Except FlowExn FlowResult → Bool
  | .ok (.form _ _ _ _) => false
  | .ok _ => true
  | .error (.abortFlow _) => true
  | .error _ => false

namespace HomeAssistant

variable {H A : Type} (hass : HomeAssistant H A)

/-- No entry that was removed and no flow that was over is back. -/
structure Fewer (h h' : H) : Prop where
  present : ∀ i, hass.present h' i = true → hass.present h i = true
  inProgress : ∀ f, hass.inProgress h' f = true → hass.inProgress h f = true

/-- One entry is made, for a flow in progress and under the unique id of that flow. -/
structure Created (h h' : H) (flowId : Nat) (data : EntryData) (i : Nat) : Prop where
  running : hass.inProgress h flowId = true
  new : hass.entry h i = none
  entry : hass.entry h' = Function.update (hass.entry h) i (some ⟨hass.uniqueId h flowId, data⟩)
  present : ∀ j, j ≠ i → hass.present h' j = true → hass.present h j = true
  inProgress : ∀ f, hass.inProgress h' f = true → hass.inProgress h f = true

/-- What the flows rely on: unique ids are guarded by `already_in_progress` and `already_configured`,
entries are made and changed only as the flows say, and what is over stays so. -/
structure Lawful : Prop where
  id_free : hass.asyncSetUniqueId h flowId uid = .ok h' →
    ∀ f, f ≠ flowId → hass.inProgress h f = true → hass.uniqueId h f ≠ some uid
  id_set : hass.asyncSetUniqueId h flowId uid = .ok h' →
    hass.uniqueId h' = Function.update (hass.uniqueId h) flowId (some uid)
  id_entry : hass.asyncSetUniqueId h flowId uid = .ok h' → hass.entry h' = hass.entry h
  id_fewer : hass.asyncSetUniqueId h flowId uid = .ok h' → hass.Fewer h h'
  configured_free : hass.abortIfUniqueIdConfigured h flowId = .ok () →
    hass.uniqueId h flowId = some uid → ∀ i e, hass.present h i = true →
      hass.entry h i = some e → e.uniqueId ≠ some uid
  configured_aborts : hass.abortIfUniqueIdConfigured h flowId = .error e →
    ∃ reason, e = .abortFlow reason
  update_id : hass.asyncUpdateReloadAndAbort h flowId i updates = .ok (reason, h') →
    hass.uniqueId h' = hass.uniqueId h
  update_entry : hass.asyncUpdateReloadAndAbort h flowId i updates = .ok (reason, h') →
    hass.entry h' = Function.update (hass.entry h) i
      ((hass.entry h i).map (fun e => { e with data := e.data.updated updates }))
  update_fewer : hass.asyncUpdateReloadAndAbort h flowId i updates = .ok (reason, h') →
    hass.Fewer h h'
  init_entry : ∀ h flowId source, hass.entry (hass.init h flowId source) = hass.entry h
  init_present : ∀ h flowId source i, hass.present (hass.init h flowId source) i = true →
    hass.present h i = true
  init_others : ∀ h flowId source f, f ≠ flowId →
    hass.uniqueId (hass.init h flowId source) f = hass.uniqueId h f ∧
      (hass.inProgress (hass.init h flowId source) f = true → hass.inProgress h f = true)
  finish_id : ∀ h flowId r, hass.uniqueId (hass.finish h flowId r) = hass.uniqueId h
  finish_entry : ∀ h flowId r,
    (hass.entry (hass.finish h flowId r) = hass.entry h ∧ hass.Fewer h (hass.finish h flowId r)) ∨
      ∃ title data i, r = .ok (.createEntry title data) ∧
        hass.Created h (hass.finish h flowId r) flowId data i
  finish_over : ∀ h flowId r, isOver r = true →
    hass.inProgress (hass.finish h flowId r) flowId = false
  act_id : ∀ h action, hass.uniqueId (hass.act h action) = hass.uniqueId h
  act_entry : ∀ h action, hass.entry (hass.act h action) = hass.entry h
  act_fewer : ∀ h action, hass.Fewer h (hass.act h action)

end HomeAssistant

/-- A Home Assistant that keeps just this: the entries that ever were with their titles, those that
are there, and the flows in progress with their unique ids and what they reconfigure. -/
structure Registry where
  entries : List (Str × Entry)
  present : List Nat
  inProgress : List Nat
  uniqueId : Nat → Option Str
  source : Nat → Option Nat

/-- What a user does outside the flows' forms. -/
inductive Action
  | dismiss (flowId : Nat)
  | remove (entryId : Nat)
  | rename (entryId : Nat) (title : Str)

namespace Registry

def empty : Registry := ⟨[], [], [], fun _ => none, fun _ => none⟩

def entry (h : Registry) (i : Nat) : Option Entry := (h.entries[i]?).map Prod.snd

def quit (h : Registry) (flowId : Nat) : Registry :=
  { h with inProgress := h.inProgress.filter (· ≠ flowId) }

def finish (h : Registry) (flowId : Nat) (r : Except FlowExn FlowResult) : Registry :=
  match r with
  | .ok (.createEntry title data) =>
    if h.inProgress.contains flowId then
      { h.quit flowId with
        entries := h.entries ++ [(title, ⟨h.uniqueId flowId, data⟩)]
        present := h.entries.length :: h.present }
    else h
  | r => if isOver r then h.quit flowId else h

end Registry

def HomeAssistant.plain : HomeAssistant Registry Action where
  entry := Registry.entry
  title h i := ((h.entries[i]?).map Prod.fst).getD []
  present h i := h.present.contains i
  inProgress h flowId := h.inProgress.contains flowId
  uniqueId := Registry.uniqueId
  asyncSetUniqueId h flowId uniqueId :=
    if h.inProgress.any (fun f => f ≠ flowId && h.uniqueId f == some uniqueId) then
      .error (.abortFlow (str "already_in_progress"))
    else .ok { h with uniqueId := Function.update h.uniqueId flowId (some uniqueId) }
  abortIfUniqueIdConfigured h flowId :=
    if (h.uniqueId flowId).isSome &&
        h.present.any (fun i => (h.entry i).any (fun e => e.uniqueId == h.uniqueId flowId)) then
      .error (.abortFlow (str "already_configured"))
    else .ok ()
  getReconfigureEntry h flowId := match h.source flowId with
    | some i => if h.present.contains i then .ok i else .error .unknown
    | none => .error .unknown
  asyncUpdateReloadAndAbort h _ i updates :=
    if h.present.contains i then
      .ok (str "reconfigure_successful", { h with
        entries := h.entries.modify i (fun p => (p.1, { p.2 with data := p.2.data.updated updates })) })
    else .error .unknown
  init h flowId source := { h with
    inProgress := flowId :: h.inProgress
    uniqueId := Function.update h.uniqueId flowId none
    source := Function.update h.source flowId source }
  finish := Registry.finish
  act h
    | .dismiss flowId => h.quit flowId
    | .remove i => { h with present := h.present.filter (· ≠ i) }
    | .rename i title => { h with entries := h.entries.modify i (fun p => (title, p.2)) }

/-! ### The steps of a flow -/

/-- A coroutine of a flow, over the flow and what Home Assistant keeps. -/
abbrev Handler (H α : Type) := EStateM FlowExn (CozyLifeConfigFlow × H) α

/-- What Home Assistant does for a flow. -/
def call (op : H → Except FlowExn (α × H)) : Handler H α := fun s =>
  match op s.2 with
  | .ok (a, h) => .ok a (s.1, h)
  | .error e => .error e s

/-- The errors `async_step_user` and `async_step_reconfigure` show for a failed fetch. -/
def fetchErrors : AccountExn → Option (Dict Str)
  | .auth _ => some [(str "base", str "invalid_auth")]
  | .cozyLife _ => some [(str "base", str "cannot_connect")]
  | _ => none

/-- `_create_entry(device, local_ip)`. -/
def createEntry (device : CozyLifeDevice) (localIp : Str) : FlowResult :=
  .createEntry device.name {
    deviceId := device.deviceId
    deviceKey := device.deviceKey
    deviceName := device.name
    relayHost := device.relayHost
    relayPort := device.relayPort
    localIp := localIp
    model := device.model }

section Handlers

variable {H A : Type} (hass : HomeAssistant H A) (flowId : Nat)

/-- `async_step_address(user_input)`. -/
def asyncStepAddress (userInput : Option Str) : Handler H Progress := do
  match (← get).1.device, userInput with
  | none, _ => throw .unknown
  | some device, some localIp => return .returns (createEntry device localIp)
  | some device, none => return .returns (.form .address [] [(str "device", device.name)] [])

/-- `_async_configure(device)` up to the search for the device. -/
def asyncConfigure (device : CozyLifeDevice) : Handler H Progress := do
  call (fun h => (hass.asyncSetUniqueId h flowId device.deviceId).map (fun h' => ((), h')))
  call (fun h => (hass.abortIfUniqueIdConfigured h flowId).map (fun _ => ((), h)))
  modify (fun s => ({ s.1 with device := some device }, s.2))
  return .awaits (.findDeviceIp none device)

/-- `_async_configure(device)` after the search. -/
def configured (device : CozyLifeDevice) : Except Exn (Option Str) → Handler H Progress
  | .error e => throw (.search e)
  | .ok none => asyncStepAddress none
  | .ok (some localIp) =>
    if localIp = [] then asyncStepAddress none
    else return .returns (createEntry device localIp)

/-- `async_step_device(user_input)`. Without a device of that id `next` raises. -/
def asyncStepDevice (userInput : Option Str) : Handler H Progress := do
  let devices := (← get).1.devices
  match userInput with
  | none =>
    let names : Dict Str := devices.map (fun device => (device.deviceId, device.name))
    return .returns (.form .device [] [] (Dict.update [] names))
  | some deviceId => match devices.find? (fun device => device.deviceId = deviceId) with
    | some chosen => asyncConfigure hass flowId chosen
    | none => throw .unknown

/-- `async_step_user(user_input)` up to the fetch. -/
def asyncStepUser : Option (Str × Str) → Handler H Progress
  | none => return .returns (.form .user [] [] [])
  | some (email, password) => return .awaits (.fetchDevices none email password)

/-- `async_step_user` once the devices are fetched. -/
def userFetched : Except AccountExn (List CozyLifeDevice) → Handler H Progress
  | .error err => match fetchErrors err with
    | some errors => return .returns (.form .user errors [] [])
    | none => throw (.account err)
  | .ok [] => return .returns (.abort (str "no_devices"))
  | .ok [device] => do
    modify (fun s => ({ s.1 with devices := [device] }, s.2))
    asyncConfigure hass flowId device
  | .ok devices => do
    modify (fun s => ({ s.1 with devices := devices }, s.2))
    asyncStepDevice hass flowId none

/-- The form of `async_step_reconfigure`. -/
def reconfigureForm (entryId : Nat) (errors : Dict Str) : Handler H Progress := do
  return .returns (.form .reconfigure errors [(str "device", hass.title (← get).2 entryId)] [])

/-- `async_step_reconfigure(user_input)` up to the fetch. -/
def asyncStepReconfigure (userInput : Option (Str × Str)) : Handler H Progress := do
  let entryId ← call (fun h => (hass.getReconfigureEntry h flowId).map (fun i => (i, h)))
  match userInput with
  | none => reconfigureForm hass entryId []
  | some (email, password) => return .awaits (.fetchDevices (some entryId) email password)

/-- `entry.data`, of an entry that the flow holds. -/
def entryData (entryId : Nat) : Handler H EntryData := do
  match hass.entry (← get).2 entryId with
  | some entry => return entry.data
  | none => throw .unknown

/-- `async_step_reconfigure` once the devices are fetched. -/
def reconfigureFetched (entryId : Nat) :
    Except AccountExn (List CozyLifeDevice) → Handler H Progress
  | .error err => match fetchErrors err with
    | some errors => reconfigureForm hass entryId errors
    | none => throw (.account err)
  | .ok devices => do
    let wanted := (← entryData hass entryId).deviceId
    match devices.find? (fun d => d.deviceId = wanted) with
    | none => return .returns (.abort (str "device_not_found"))
    | some device => return .awaits (.findDeviceIp (some entryId) device)

/-- `local_ip or entry.data[CONF_LOCAL_IP]`. -/
def orKnown (entryId : Nat) : Option Str → Handler H Str
  | some (c :: cs) => return c :: cs
  | _ => return (← entryData hass entryId).localIp

/-- `async_step_reconfigure` after the search for the device. -/
def reconfigured (entryId : Nat) (device : CozyLifeDevice) :
    Except Exn (Option Str) → Handler H Progress
  | .error e => throw (.search e)
  | .ok found => do
    let localIp ← orKnown hass entryId found
    let reason ← call (fun h => hass.asyncUpdateReloadAndAbort h flowId entryId {
      deviceKey := device.deviceKey
      deviceName := device.name
      relayHost := device.relayHost
      relayPort := device.relayPort
      model := device.model
      localIp := localIp })
    return .returns (.abort reason)

end Handlers

/-! ### Flows side by side -/

section Jobs

variable (rt : Runtime)

/-- `_fetch_devices(email, password)`; `_TIMEOUT` is 20 seconds, `imei` the `uuid4` of the login. -/
def fetchDevices (http : Http) (email password imei : Str) :
    Except AccountExn (List CozyLifeDevice) := do
  let account := Account.new API_BASE 20
  let token ← account.login rt http email password imei DEFAULT_COORDINATES
  account.devices rt http token

/-- `find_device_ip(device_id, targets=...)` in the executor. -/
def locate (deviceId : Str) (targets : List Str) (scan : ScanEnv) : Except Exn (Option Str) :=
  answer (findDeviceIp rt deviceId scan targets DISCOVERY_PORT DEFAULT_TIMEOUT) ([], World.initial)

end Jobs

/-- What a job meets. -/
inductive JobEnv
  | account (http : Http) (imei : Str)
  | scan (targets : List Str) (env : ScanEnv)

/-- A flow and what its coroutines await. -/
structure Running where
  flow : CozyLifeConfigFlow
  jobs : List Job

/-- What Home Assistant keeps, and all the flows there were, by their numbers. -/
structure Flows (H : Type) where
  home : H
  flows : List Running

/-- What happens next: a flow is begun for a new device or for an entry, a form of a flow is handed
in, a job of a flow comes back, or something else happens in Home Assistant. -/
inductive Step (A : Type)
  | begin (source : Option Nat)
  | user (flowId : Nat) (email password : Str)
  | reconfigure (flowId : Nat) (email password : Str)
  | device (flowId : Nat) (deviceId : Str)
  | address (flowId : Nat) (localIp : Str)
  | back (flowId i : Nat) (env : JobEnv)
  | other (action : A)

namespace Flows

variable {H A : Type} (hass : HomeAssistant H A) (rt : Runtime)

/-- How a flow goes on after a job. -/
def goOn (flowId : Nat) : Job → JobEnv → Option (Handler H Progress)
  | .fetchDevices none email password, .account http imei =>
    some (userFetched hass flowId (fetchDevices rt http email password imei))
  | .fetchDevices (some entryId) email password, .account http imei =>
    some (reconfigureFetched hass entryId (fetchDevices rt http email password imei))
  | .findDeviceIp none device, .scan targets env =>
    some (configured device (locate rt device.deviceId targets env))
  | .findDeviceIp (some entryId) device, .scan targets env =>
    some (reconfigured hass flowId entryId device (locate rt device.deviceId targets env))
  | _, _ => none

/-- Run a flow that waits for these jobs besides. -/
def go (flowId : Nat) (jobs : List Job) (flow : CozyLifeConfigFlow) (m : Handler H Progress)
    (s : Flows H) : Flows H :=
  match m.run (flow, s.home) with
  | .ok (.returns result) (flow, h) =>
    ⟨hass.finish h flowId (.ok result), s.flows.set flowId ⟨flow, jobs⟩⟩
  | .ok (.awaits job) (flow, h) => ⟨h, s.flows.set flowId ⟨flow, jobs ++ [job]⟩⟩
  | .error e (flow, h) => ⟨hass.finish h flowId (.error e), s.flows.set flowId ⟨flow, jobs⟩⟩

/-- A form that is handed in. -/
def submit (flowId : Nat) (m : Handler H Progress) (s : Flows H) : Flows H :=
  match s.flows[flowId]? with
  | some running => go hass flowId running.jobs running.flow m s
  | none => s

/-- The handler that a job which comes back leads to, with the flow and the jobs it waits for still. -/
def awaited (flowId i : Nat) (env : JobEnv) (s : Flows H) :
    Option (List Job × CozyLifeConfigFlow × Handler H Progress) := do
  let running ← s.flows[flowId]?
  let job ← running.jobs[i]?
  let m ← goOn hass rt flowId job env
  return (running.jobs.eraseIdx i, running.flow, m)

def perform (s : Flows H) : Step A → Flows H
  | .begin source =>
    let flowId := s.flows.length
    submit hass flowId
      (if source.isNone then asyncStepUser none else asyncStepReconfigure hass flowId none)
      ⟨hass.init s.home flowId source, s.flows ++ [⟨⟨[], none⟩, []⟩]⟩
  | .user flowId email password => submit hass flowId (asyncStepUser (some (email, password))) s
  | .reconfigure flowId email password =>
    submit hass flowId (asyncStepReconfigure hass flowId (some (email, password))) s
  | .device flowId deviceId => submit hass flowId (asyncStepDevice hass flowId (some deviceId)) s
  | .address flowId localIp => submit hass flowId (asyncStepAddress (some localIp)) s
  | .back flowId i env => match awaited hass rt flowId i env s with
    | some (jobs, flow, m) => go hass flowId jobs flow m s
    | none => s
  | .other action => ⟨hass.act s.home action, s.flows⟩

/-- The flows after some steps. -/
def run (steps : List (Step A)) (s : Flows H) : Flows H := steps.foldl (perform hass rt) s

/-- A form may be handed in to a flow that is in progress and waits for no job. -/
def takesForm (flowId : Nat) (s : Flows H) : Bool :=
  hass.inProgress s.home flowId && (s.flows[flowId]?).any (fun running => running.jobs.isEmpty)

/-- What Home Assistant lets happen: forms are handed in to flows in progress, one form of a flow at a
time, and what comes back is a job that a flow waits for. -/
def due (s : Flows H) : Step A → Bool
  | .user flowId _ _ => takesForm hass flowId s
  | .reconfigure flowId _ _ => takesForm hass flowId s
  | .device flowId _ => takesForm hass flowId s
  | .address flowId _ => takesForm hass flowId s
  | .back flowId i env => (awaited hass rt flowId i env s).isSome
  | _ => true

/-- Every step is due when it comes. -/
def Orderly : List (Step A) → Flows H → Prop
  | [], _ => True
  | step :: steps, s => due hass rt s step = true ∧ Orderly steps (perform hass rt s step)

instance decidableOrderly : (steps : List (Step A)) → (s : Flows H) →
    Decidable (Orderly hass rt steps s)
  | [], _ => isTrue trivial
  | step :: steps, s =>
    have := decidableOrderly steps (perform hass rt s step)
    inferInstanceAs (Decidable (due hass rt s step = true ∧ _))

end Flows

end CozyLife.ConfigFlow
