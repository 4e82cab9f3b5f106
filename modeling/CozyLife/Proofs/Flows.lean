import CozyLife.ConfigFlow
import CozyLife.Proofs.Destinations

/-! What the flows make of the entries: which devices they are for, and where their data is from. -/

namespace CozyLife.ConfigFlow
open Python Effects Account Discovery

/-- The data of an entry for a device at an address. -/
def dataOf (device : CozyLifeDevice) (localIp : Str) : EntryData where
  deviceId := device.deviceId
  deviceKey := device.deviceKey
  deviceName := device.name
  relayHost := device.relayHost
  relayPort := device.relayPort
  localIp := localIp
  model := device.model

def updatesOf (device : CozyLifeDevice) (localIp : Str) : DataUpdates where
  deviceKey := device.deviceKey
  deviceName := device.name
  relayHost := device.relayHost
  relayPort := device.relayPort
  model := device.model
  localIp := localIp

theorem updated_dataOf (data : EntryData) (device : CozyLifeDevice) (localIp : Str)
    (h : device.deviceId = data.deviceId) :
    data.updated (updatesOf device localIp) = dataOf device localIp := by
  simp only [EntryData.updated, updatesOf, dataOf, h]

/-! ### What is known of the entries and the flows -/

section Invariant

/-- The data of an entry: put there by a flow, of a device in a listing of that flow, at an address
that flow has of it, or put there by a flow that reconfigured it and may have kept its address. -/
inductive Accounted (listed : Nat → CozyLifeDevice → Prop) (located : Nat → Str → Str → Prop) :
    EntryData → Prop
  | added (flowId : Nat) (device : CozyLifeDevice) (localIp : Str) (hd : listed flowId device)
      (h : located flowId device.deviceId localIp) : Accounted listed located (dataOf device localIp)
  | reconfigured (data : EntryData) (hdata : Accounted listed located data) (flowId : Nat)
      (device : CozyLifeDevice) (localIp : Str) (hd : listed flowId device)
      (hid : device.deviceId = data.deviceId)
      (h : located flowId device.deviceId localIp ∨ localIp = data.localIp) :
      Accounted listed located (dataOf device localIp)

variable {H A : Type} (hass : HomeAssistant H A) (typed : Nat → Str → Str → Prop)
  (listed : Nat → CozyLifeDevice → Prop) (located : Nat → Str → Str → Prop)

def Job.Sound (home : H) (flowId : Nat) (flow : CozyLifeConfigFlow) : Job → Prop
  | .fetchDevices _ email password => typed flowId email password
  | .findDeviceIp none device => flow.device = some device
  | .findDeviceIp (some i) device => listed flowId device ∧
      ∃ e, hass.entry home i = some e ∧ e.data.deviceId = device.deviceId

/-- A flow knows of devices of its listings only, and in progress it has the unique id of the one it
is about. -/
structure Running.Sound (home : H) (flowId : Nat) (r : Running) : Prop where
  devices : ∀ device ∈ r.flow.devices, listed flowId device
  device : ∀ device ∈ r.flow.device, listed flowId device
  uniqueId : hass.inProgress home flowId = true → ∀ device ∈ r.flow.device,
    hass.uniqueId home flowId = some device.deviceId
  jobs : ∀ job ∈ r.jobs, job.Sound hass typed listed home flowId r.flow
  single : r.jobs.length ≤ 1

/-- A flow that may yet add an entry for the device of this id. -/
def Flows.Claims (s : Flows H) (flowId : Nat) (deviceId : Str) : Prop :=
  hass.inProgress s.home flowId = true ∧ ∃ r device, s.flows[flowId]? = some r ∧
    r.flow.device = some device ∧ device.deviceId = deviceId

/-- An entry that is there. -/
def HomeAssistant.Has (home : H) (i : Nat) (e : Entry) : Prop :=
  hass.present home i = true ∧ hass.entry home i = some e

structure Flows.Sound (s : Flows H) : Prop where
  flows : ∀ f r, s.flows[f]? = some r → Running.Sound hass typed listed s.home f r
  entries : ∀ i e, hass.entry s.home i = some e →
    e.uniqueId = some e.data.deviceId ∧ Accounted listed located e.data
  distinct : ∀ i j e e', hass.Has s.home i e → hass.Has s.home j e' →
    e.data.deviceId = e'.data.deviceId → i = j
  free : ∀ f deviceId, s.Claims hass f deviceId → ∀ i e, hass.Has s.home i e →
    e.data.deviceId ≠ deviceId
  alone : ∀ f g deviceId, s.Claims hass f deviceId → s.Claims hass g deviceId → f = g

/-! ### What a step of a flow does -/

/-- The ways a step of a flow ends. -/
inductive Ends (s : Flows H) (flowId : Nat) (flow : CozyLifeConfigFlow) :
    EStateM.Result FlowExn (CozyLifeConfigFlow × H) Progress → Prop
  | returns (result : FlowResult) (hresult : ∀ title data, result ≠ .createEntry title data)
      (devices : List CozyLifeDevice) (hdevices : ∀ d ∈ devices, listed flowId d) :
      Ends s flowId flow (.ok (.returns result) ({ flow with devices := devices }, s.home))
  | raises (e : FlowExn) (devices : List CozyLifeDevice) (hdevices : ∀ d ∈ devices, listed flowId d) :
      Ends s flowId flow (.error e ({ flow with devices := devices }, s.home))
  | configured (reason : Str) (devices : List CozyLifeDevice)
      (hdevices : ∀ d ∈ devices, listed flowId d) (deviceId : Str) (h : H)
      (hset : hass.asyncSetUniqueId s.home flowId deviceId = .ok h) :
      Ends s flowId flow (.error (.abortFlow reason) ({ flow with devices := devices }, h))
  | fetches (entry : Option Nat) (email password : Str) (h : typed flowId email password) :
      Ends s flowId flow (.ok (.awaits (.fetchDevices entry email password)) (flow, s.home))
  | claims (devices : List CozyLifeDevice) (hdevices : ∀ d ∈ devices, listed flowId d)
      (device : CozyLifeDevice) (hd : listed flowId device) (h : H)
      (hset : hass.asyncSetUniqueId s.home flowId device.deviceId = .ok h)
      (hfree : hass.abortIfUniqueIdConfigured h flowId = .ok ()) :
      Ends s flowId flow (.ok (.awaits (.findDeviceIp none device)) (⟨devices, some device⟩, h))
  | searches (i : Nat) (e : Entry) (he : hass.entry s.home i = some e) (device : CozyLifeDevice)
      (hd : listed flowId device) (hid : e.data.deviceId = device.deviceId) :
      Ends s flowId flow (.ok (.awaits (.findDeviceIp (some i) device)) (flow, s.home))
  | creates (device : CozyLifeDevice) (hdevice : flow.device = some device) (localIp : Str)
      (h : located flowId device.deviceId localIp) :
      Ends s flowId flow (.ok (.returns (.createEntry device.name (dataOf device localIp)))
        (flow, s.home))
  | updates (i : Nat) (e : Entry) (he : hass.entry s.home i = some e) (device : CozyLifeDevice)
      (hd : listed flowId device) (hid : e.data.deviceId = device.deviceId) (localIp : Str)
      (hip : located flowId device.deviceId localIp ∨ localIp = e.data.localIp) (reason : Str) (h : H)
      (hupdate : hass.asyncUpdateReloadAndAbort s.home flowId i (updatesOf device localIp) =
        .ok (reason, h)) :
      Ends s flowId flow (.ok (.returns (.abort reason)) (flow, h))

variable {hass typed listed located} {s : Flows H} {flowId : Nat}

@[simp] theorem call_run (op : H → Except FlowExn (α × H)) (flow : CozyLifeConfigFlow) (home : H) :
    (call op).run (flow, home) = match op home with
    | .ok (a, h) => .ok a (flow, h)
    | .error e => .error e (flow, home) := rfl

theorem asyncConfigure_run (flowId : Nat) (device : CozyLifeDevice) (flow : CozyLifeConfigFlow)
    (home : H) : (asyncConfigure hass flowId device).run (flow, home) =
      match hass.asyncSetUniqueId home flowId device.deviceId with
      | .error e => .error e (flow, home)
      | .ok h => match hass.abortIfUniqueIdConfigured h flowId with
        | .error e => .error e (flow, h)
        | .ok () => .ok (.awaits (.findDeviceIp none device)) ({ flow with device := some device }, h) := by
  simp only [asyncConfigure, EStateM.run_bind, call_run]
  cases hass.asyncSetUniqueId home flowId device.deviceId with
  | error e => rfl
  | ok h =>
    simp only [Except.map, call_run]
    cases hass.abortIfUniqueIdConfigured h flowId <;> rfl

theorem asyncConfigure_ends {flow : CozyLifeConfigFlow} (hlaws : hass.Lawful) {device : CozyLifeDevice}
    (hd : listed flowId device) {devices : List CozyLifeDevice}
    (hdevices : ∀ d ∈ devices, listed flowId d) : Ends hass typed listed located s flowId flow
      ((asyncConfigure hass flowId device).run ({ flow with devices := devices }, s.home)) := by
  rw [asyncConfigure_run]
  cases hset : hass.asyncSetUniqueId s.home flowId device.deviceId with
  | error e => exact .raises e devices hdevices
  | ok h =>
    cases hfree : hass.abortIfUniqueIdConfigured h flowId with
    | error e =>
      obtain ⟨reason, rfl⟩ := hlaws.configured_aborts hfree
      simp only [hfree]
      exact .configured reason devices hdevices device.deviceId h hset
    | ok _ =>
      simp only [hfree]
      exact .claims devices hdevices device hd h hset hfree

section Handlers

variable {r : Running} (hr : r.Sound hass typed listed s.home flowId)
include hr

theorem asyncStepAddress_ends (userInput : Option Str)
    (hlocated : ∀ localIp ∈ userInput, ∀ device ∈ r.flow.device,
      located flowId device.deviceId localIp) :
    Ends hass typed listed located s flowId r.flow
      ((asyncStepAddress userInput).run (r.flow, s.home)) := by
  simp only [asyncStepAddress, EStateM.run_bind, EStateM.run_get]
  cases hdevice : r.flow.device with
  | none => exact .raises _ _ hr.devices
  | some device =>
    cases userInput with
    | none => exact .returns _ (by simp) _ hr.devices
    | some localIp => exact .creates device hdevice localIp (hlocated localIp rfl device hdevice)

theorem configured_ends {device : CozyLifeDevice} (hdevice : r.flow.device = some device)
    {found : Except Exn (Option Str)}
    (hlocated : ∀ localIp, found = .ok (some localIp) → located flowId device.deviceId localIp) :
    Ends hass typed listed located s flowId r.flow
      ((configured device found).run (r.flow, s.home)) := by
  have hask : Ends hass typed listed located s flowId r.flow
      ((asyncStepAddress none).run (r.flow, s.home)) := asyncStepAddress_ends hr none (by simp)
  rcases found with e | _ | localIp
  · exact .raises _ _ hr.devices
  · exact hask
  · simp only [configured]
    split
    · exact hask
    · exact .creates device hdevice localIp (hlocated localIp rfl)

theorem asyncStepDevice_ends (hlaws : hass.Lawful) (userInput : Option Str) :
    Ends hass typed listed located s flowId r.flow
      ((asyncStepDevice hass flowId userInput).run (r.flow, s.home)) := by
  simp only [asyncStepDevice, EStateM.run_bind, EStateM.run_get]
  cases userInput with
  | none => exact .returns _ (by simp) _ hr.devices
  | some deviceId =>
    simp only
    cases hfind : r.flow.devices.find? (fun device => device.deviceId = deviceId) with
    | none => exact .raises _ _ hr.devices
    | some chosen =>
      have hchosen := hr.devices chosen (List.mem_of_find?_eq_some hfind)
      exact asyncConfigure_ends hlaws hchosen hr.devices

theorem asyncStepUser_ends (userInput : Option (Str × Str))
    (htyped : ∀ p ∈ userInput, typed flowId p.1 p.2) : Ends hass typed listed located s flowId r.flow
      ((asyncStepUser userInput).run (r.flow, s.home)) := by
  cases userInput with
  | none => exact .returns _ (by simp) _ hr.devices
  | some p => exact .fetches none p.1 p.2 (htyped p rfl)

theorem userFetched_ends (hlaws : hass.Lawful) {fetched : Except AccountExn (List CozyLifeDevice)}
    (hlisted : ∀ devices, fetched = .ok devices → ∀ d ∈ devices, listed flowId d) :
    Ends hass typed listed located s flowId r.flow
      ((userFetched hass flowId fetched).run (r.flow, s.home)) := by
  rcases fetched with err | _ | ⟨device, _ | ⟨other, devices⟩⟩
  · simp only [userFetched]
    cases fetchErrors err with
    | none => exact .raises _ _ hr.devices
    | some errors => exact .returns _ (by simp) _ hr.devices
  · exact .returns _ (by simp) _ hr.devices
  · have hdevices := hlisted _ rfl
    exact asyncConfigure_ends hlaws (hdevices device List.mem_cons_self) hdevices
  · exact .returns _ (by simp) _ (hlisted _ rfl)

theorem asyncStepReconfigure_ends (userInput : Option (Str × Str))
    (htyped : ∀ p ∈ userInput, typed flowId p.1 p.2) : Ends hass typed listed located s flowId r.flow
      ((asyncStepReconfigure hass flowId userInput).run (r.flow, s.home)) := by
  simp only [asyncStepReconfigure, EStateM.run_bind, call_run]
  cases hass.getReconfigureEntry s.home flowId with
  | error e => exact .raises _ _ hr.devices
  | ok i =>
    cases userInput with
    | none => exact .returns _ (by simp) _ hr.devices
    | some p => exact .fetches (some i) p.1 p.2 (htyped p rfl)

theorem reconfigureFetched_ends (i : Nat) {fetched : Except AccountExn (List CozyLifeDevice)}
    (hlisted : ∀ devices, fetched = .ok devices → ∀ d ∈ devices, listed flowId d) :
    Ends hass typed listed located s flowId r.flow
      ((reconfigureFetched hass i fetched).run (r.flow, s.home)) := by
  rcases fetched with err | devices
  · simp only [reconfigureFetched]
    cases fetchErrors err with
    | none => exact .raises _ _ hr.devices
    | some errors => exact .returns _ (by simp) _ hr.devices
  · simp only [reconfigureFetched, entryData, EStateM.run_bind, EStateM.run_get]
    cases he : hass.entry s.home i with
    | none => exact .raises _ _ hr.devices
    | some e =>
      simp only [EStateM.run_pure]
      cases hfind : devices.find? (fun d => d.deviceId = e.data.deviceId) with
      | none => exact .returns _ (by simp) _ hr.devices
      | some device =>
        have hid : device.deviceId = e.data.deviceId := by simpa using List.find?_some hfind
        exact .searches i e he device (hlisted _ rfl device (List.mem_of_find?_eq_some hfind)) hid.symm

theorem reconfigured_ends {i : Nat} {e : Entry} (he : hass.entry s.home i = some e)
    {device : CozyLifeDevice} (hd : listed flowId device) (hid : e.data.deviceId = device.deviceId)
    {found : Except Exn (Option Str)}
    (hlocated : ∀ localIp, found = .ok (some localIp) → located flowId device.deviceId localIp) :
    Ends hass typed listed located s flowId r.flow
      ((reconfigured hass flowId i device found).run (r.flow, s.home)) := by
  have hgoes (localIp : Str)
      (hip : located flowId device.deviceId localIp ∨ localIp = e.data.localIp) :
      Ends hass typed listed located s flowId r.flow
        ((do
          let reason ← call (fun h => hass.asyncUpdateReloadAndAbort h flowId i
            (updatesOf device localIp))
          return .returns (.abort reason) : Handler H Progress).run (r.flow, s.home)) := by
    simp only [EStateM.run_bind, call_run]
    cases hupdate : hass.asyncUpdateReloadAndAbort s.home flowId i (updatesOf device localIp) with
    | error x => exact .raises _ _ hr.devices
    | ok p => exact .updates i e he device hd hid localIp hip p.1 p.2 hupdate
  have hknown := hgoes e.data.localIp (.inr rfl)
  rcases found with x | _ | _ | ⟨c, cs⟩
  · exact .raises _ _ hr.devices
  all_goals
    simp [reconfigured, orKnown, entryData, he]
  · exact hknown
  · exact hknown
  · exact hgoes (c :: cs) (.inl (hlocated _ rfl))

end Handlers

/-! ### What becomes of the entries -/

theorem Running.Sound.kept {home home' : H} {r : Running} (h : r.Sound hass typed listed home flowId)
    (hids : hass.uniqueId home' flowId = hass.uniqueId home flowId)
    (hrunning : hass.inProgress home' flowId = true → hass.inProgress home flowId = true)
    (hknown : ∀ i e, hass.entry home i = some e →
      ∃ e', hass.entry home' i = some e' ∧ e'.data.deviceId = e.data.deviceId) :
    r.Sound hass typed listed home' flowId := by
  refine ⟨h.devices, h.device, ?_, ?_, h.single⟩
  · intro hprogress device hdevice
    rw [hids]
    exact h.uniqueId (hrunning hprogress) device hdevice
  · intro job hjob
    have hold := h.jobs job hjob
    match job with
    | .fetchDevices _ _ _ => exact hold
    | .findDeviceIp none _ => exact hold
    | .findDeviceIp (some i) device =>
      obtain ⟨hlisted, e, he, hid⟩ := hold
      obtain ⟨e', he', hsame⟩ := hknown i e he
      exact ⟨hlisted, e', he', hsame.trans hid⟩

/-- What one flow does, or what happens besides the flows. A claim of that flow must leave the others
and the entries alone. -/
theorem Flows.Sound.next (hs : s.Sound hass typed listed located) (f : Nat) {s' : Flows H}
    (hflows : ∀ g r, g ≠ f → s'.flows[g]? = some r → s.flows[g]? = some r)
    (hids : ∀ g, g ≠ f → hass.uniqueId s'.home g = hass.uniqueId s.home g)
    (hrunning : ∀ g, g ≠ f → hass.inProgress s'.home g = true → hass.inProgress s.home g = true)
    (hknown : ∀ i e, hass.entry s.home i = some e →
      ∃ e', hass.entry s'.home i = some e' ∧ e'.data.deviceId = e.data.deviceId)
    (hentries : ∀ i e, hass.entry s'.home i = some e →
      e.uniqueId = some e.data.deviceId ∧ Accounted listed located e.data)
    (hdistinct : ∀ i j e e', hass.Has s'.home i e → hass.Has s'.home j e' →
      e.data.deviceId = e'.data.deviceId → i = j)
    (hfree : ∀ g deviceId, g ≠ f → s.Claims hass g deviceId → ∀ i e, hass.Has s'.home i e →
      e.data.deviceId ≠ deviceId)
    (hr : ∀ r, s'.flows[f]? = some r → r.Sound hass typed listed s'.home f)
    (hclaims : ∀ deviceId, s'.Claims hass f deviceId →
      (∀ g, g ≠ f → ¬ s.Claims hass g deviceId) ∧
        ∀ i e, hass.Has s'.home i e → e.data.deviceId ≠ deviceId) :
    s'.Sound hass typed listed located := by
  have hother (g : Nat) (deviceId : Str) (hg : g ≠ f) (hc : s'.Claims hass g deviceId) :
      s.Claims hass g deviceId := by
    obtain ⟨hprogress, r, device, hget, hdevice⟩ := hc
    exact ⟨hrunning g hg hprogress, r, device, hflows g r hg hget, hdevice⟩
  refine ⟨?_, hentries, hdistinct, ?_, ?_⟩
  · intro g r hget
    by_cases hg : g = f
    · subst hg
      exact hr r hget
    · exact (hs.flows g r (hflows g r hg hget)).kept (hids g hg) (hrunning g hg) hknown
  · intro g deviceId hc
    by_cases hg : g = f
    · subst hg
      exact (hclaims deviceId hc).2
    · exact hfree g deviceId hg (hother g deviceId hg hc)
  · intro g g' deviceId hc hc'
    by_cases hg : g = f <;> by_cases hg' : g' = f
    · rw [hg, hg']
    · subst hg
      exact absurd (hother g' deviceId hg' hc') ((hclaims deviceId hc).1 g' hg')
    · subst hg'
      exact absurd (hother g deviceId hg hc) ((hclaims deviceId hc').1 g hg)
    · exact hs.alone g g' deviceId (hother g deviceId hg hc) (hother g' deviceId hg' hc')

/-- A claim of a flow that keeps the device it is about. -/
theorem Flows.Sound.claimed (hs : s.Sound hass typed listed located) {f : Nat} {deviceId : Str}
    (hc : s.Claims hass f deviceId) : (∀ g, g ≠ f → ¬ s.Claims hass g deviceId) ∧
      ∀ i e, hass.Has s.home i e → e.data.deviceId ≠ deviceId :=
  ⟨fun _ hg hc' => hg (hs.alone _ _ deviceId hc' hc), hs.free f deviceId hc⟩

variable (hass listed located) in
/-- The entries are for the devices they were for. -/
structure Retained (home home' : H) : Prop where
  known : ∀ i e, hass.entry home i = some e →
    ∃ e', hass.entry home' i = some e' ∧ e'.data.deviceId = e.data.deviceId
  sound : ∀ i e, hass.entry home' i = some e →
    e.uniqueId = some e.data.deviceId ∧ Accounted listed located e.data
  has : ∀ i e', hass.Has home' i e' → ∃ e, hass.Has home i e ∧ e.data.deviceId = e'.data.deviceId

theorem Flows.Sound.retained (hs : s.Sound hass typed listed located) {home : H}
    (hentry : hass.entry home = hass.entry s.home) (hfewer : hass.Fewer s.home home) :
    Retained hass listed located s.home home where
  known := fun _ e he => ⟨e, hentry ▸ he, rfl⟩
  sound := fun i e he => hs.entries i e (hentry ▸ he)
  has := fun i e he => ⟨e, ⟨hfewer.present i he.1, hentry ▸ he.2⟩, rfl⟩

/-- What one flow does that leaves the entries for the devices they were for. -/
theorem Flows.Sound.goesOn (hs : s.Sound hass typed listed located) (f : Nat) {s' : Flows H}
    (hkept : Retained hass listed located s.home s'.home)
    (hflows : ∀ g r, g ≠ f → s'.flows[g]? = some r → s.flows[g]? = some r)
    (hids : ∀ g, g ≠ f → hass.uniqueId s'.home g = hass.uniqueId s.home g)
    (hrunning : ∀ g, g ≠ f → hass.inProgress s'.home g = true → hass.inProgress s.home g = true)
    (hr : ∀ r, s'.flows[f]? = some r → r.Sound hass typed listed s'.home f)
    (hclaims : ∀ deviceId, s'.Claims hass f deviceId → s.Claims hass f deviceId ∨
      (∀ g, g ≠ f → ¬ s.Claims hass g deviceId) ∧
        ∀ i e, hass.Has s'.home i e → e.data.deviceId ≠ deviceId) :
    s'.Sound hass typed listed located := by
  have hfree (g : Nat) (deviceId : Str) (hc : s.Claims hass g deviceId) (i : Nat) (e : Entry)
      (he : hass.Has s'.home i e) : e.data.deviceId ≠ deviceId := by
    obtain ⟨e', he', hsame⟩ := hkept.has i e he
    rw [← hsame]
    exact hs.free g deviceId hc i e' he'
  refine hs.next f hflows hids hrunning hkept.known hkept.sound ?_
    (fun g deviceId _ hc => hfree g deviceId hc) hr ?_
  · intro i j e e' hi hj hid
    obtain ⟨d, hd, hdsame⟩ := hkept.has i e hi
    obtain ⟨d', hd', hdsame'⟩ := hkept.has j e' hj
    exact hs.distinct i j d d' hd hd' (hdsame.trans (hid.trans hdsame'.symm))
  · intro deviceId hc
    rcases hclaims deviceId hc with hold | hnew
    · exact ⟨(hs.claimed hold).1, hfree f deviceId hold⟩
    · exact hnew

/-! ### What Home Assistant makes of it -/

theorem HomeAssistant.Fewer.refl (home : H) : hass.Fewer home home := ⟨fun _ h => h, fun _ h => h⟩

theorem HomeAssistant.Fewer.trans {h h' h'' : H} (hf : hass.Fewer h h') (hf' : hass.Fewer h' h'') :
    hass.Fewer h h'' :=
  ⟨fun i hi => hf.present i (hf'.present i hi), fun f hr => hf.inProgress f (hf'.inProgress f hr)⟩

/-- A result that is no entry makes none. -/
theorem finish_quiet (hlaws : hass.Lawful) (home : H) (flowId : Nat) {x : Except FlowExn FlowResult}
    (hx : ∀ title data, x ≠ .ok (.createEntry title data)) :
    hass.entry (hass.finish home flowId x) = hass.entry home ∧
      hass.Fewer home (hass.finish home flowId x) := by
  rcases hlaws.finish_entry home flowId x with hquiet | ⟨title, data, _, hcreates, _⟩
  · exact hquiet
  · exact absurd hcreates (hx title data)

/-- A flow is left, with what it awaits then. -/
theorem Flows.Sound.left (hs : s.Sound hass typed listed located) {f : Nat} {r r' : Running}
    (hget : s.flows[f]? = some r) {home : H} (hkept : Retained hass listed located s.home home)
    (hids : ∀ g, g ≠ f → hass.uniqueId home g = hass.uniqueId s.home g)
    (hrunning : ∀ g, hass.inProgress home g = true → hass.inProgress s.home g = true)
    (hr : r'.Sound hass typed listed home f)
    (hclaims : hass.inProgress home f = true → ∀ device ∈ r'.flow.device,
      r.flow.device = some device ∨ (∀ g, g ≠ f → ¬ s.Claims hass g device.deviceId) ∧
        ∀ i e, hass.Has home i e → e.data.deviceId ≠ device.deviceId) :
    (⟨home, s.flows.set f r'⟩ : Flows H).Sound hass typed listed located := by
  have hlt : f < s.flows.length := (List.getElem?_eq_some_iff.mp hget).1
  have hself : (s.flows.set f r')[f]? = some r' := List.getElem?_set_self hlt
  refine hs.goesOn f hkept ?_ hids (fun g _ => hrunning g) ?_ ?_
  · intro g r'' hg hget'
    rwa [List.getElem?_set_ne (Ne.symm hg)] at hget'
  · intro r'' hget'
    obtain rfl := Option.some.inj (hself.symm.trans hget')
    exact hr
  · rintro deviceId ⟨hprogress, r'', device, hget', hdevice, rfl⟩
    obtain rfl := Option.some.inj (hself.symm.trans hget')
    rcases hclaims hprogress device hdevice with hold | hnew
    · exact .inl ⟨hrunning f hprogress, r, device, hget, hold, rfl⟩
    · exact .inr hnew

/-- A flow is left as it was, but for what it lists. -/
theorem Flows.Sound.leftSame (hs : s.Sound hass typed listed located) {f : Nat} {r : Running}
    (hget : s.flows[f]? = some r) {home : H} (hkept : Retained hass listed located s.home home)
    (hids : hass.uniqueId home = hass.uniqueId s.home)
    (hrunning : ∀ g, hass.inProgress home g = true → hass.inProgress s.home g = true)
    {devices : List CozyLifeDevice} (hdevices : ∀ d ∈ devices, listed f d) {jobs : List Job}
    (hjobs : ∀ job ∈ jobs, job.Sound hass typed listed home f r.flow) (hsingle : jobs.length ≤ 1) :
    (⟨home, s.flows.set f ⟨{ r.flow with devices := devices }, jobs⟩⟩ : Flows H).Sound
      hass typed listed located := by
  have hr := hs.flows f r hget
  refine hs.left hget hkept (fun g _ => congrFun hids g) hrunning ⟨hdevices, hr.device, ?_, ?_, hsingle⟩
    (fun _ device hdevice => .inl hdevice)
  · intro hprogress device hdevice
    rw [hids]
    exact hr.uniqueId (hrunning f hprogress) device hdevice
  · intro job hjob
    have hsound := hjobs job hjob
    match job with
    | .fetchDevices _ _ _ => exact hsound
    | .findDeviceIp none _ => exact hsound
    | .findDeviceIp (some _) _ => exact hsound

/-- A flow that is over claims nothing any more. -/
theorem Flows.Sound.leftOver (hs : s.Sound hass typed listed located) {f : Nat} {r : Running}
    (hget : s.flows[f]? = some r) {home : H} (hkept : Retained hass listed located s.home home)
    (hids : ∀ g, g ≠ f → hass.uniqueId home g = hass.uniqueId s.home g)
    (hrunning : ∀ g, hass.inProgress home g = true → hass.inProgress s.home g = true)
    (hover : hass.inProgress home f = false) {devices : List CozyLifeDevice}
    (hdevices : ∀ d ∈ devices, listed f d) :
    (⟨home, s.flows.set f ⟨{ r.flow with devices := devices }, []⟩⟩ : Flows H).Sound
      hass typed listed located := by
  have hnot : ¬ hass.inProgress home f = true := by simp [hover]
  exact hs.left hget hkept hids hrunning
    ⟨hdevices, (hs.flows f r hget).device, fun h => absurd h hnot, by simp, by simp⟩
    (fun h => absurd h hnot)

/-- The entry of a flow is for the device the flow claims, which nobody else is about. -/
theorem Flows.Sound.created (hs : s.Sound hass typed listed located) {f : Nat} {r : Running}
    (hget : s.flows[f]? = some r) {device : CozyLifeDevice}
    (hdevice : r.flow.device = some device) {localIp : Str}
    (hlocated : located f device.deviceId localIp) {home : H} {i : Nat}
    (hnew : hass.Created s.home home f (dataOf device localIp) i)
    (hids : hass.uniqueId home = hass.uniqueId s.home) (hover : hass.inProgress home f = false) :
    (⟨home, s.flows.set f ⟨r.flow, []⟩⟩ : Flows H).Sound hass typed listed located := by
  have hr := hs.flows f r hget
  have hlt : f < s.flows.length := (List.getElem?_eq_some_iff.mp hget).1
  have hself : (s.flows.set f ⟨r.flow, []⟩)[f]? = some ⟨r.flow, []⟩ := List.getElem?_set_self hlt
  have hclaim : s.Claims hass f device.deviceId := ⟨hnew.running, r, device, hget, hdevice, rfl⟩
  have hmade : hass.entry home i = some ⟨hass.uniqueId s.home f, dataOf device localIp⟩ := by
    rw [hnew.entry, Function.update_self]
  have hsame (j : Nat) (hj : j ≠ i) : hass.entry home j = hass.entry s.home j := by
    rw [hnew.entry, Function.update_of_ne hj]
  have hhas (j : Nat) (e : Entry) (he : hass.Has home j e) :
      hass.Has s.home j e ∨ j = i ∧ e.data.deviceId = device.deviceId := by
    by_cases hj : j = i
    · subst hj
      obtain rfl := Option.some.inj (hmade.symm.trans he.2)
      exact .inr ⟨rfl, rfl⟩
    · exact .inl ⟨hnew.present j hj he.1, (hsame j hj).symm.trans he.2⟩
  refine hs.next f ?_ (fun g _ => congrFun hids g) (fun g _ => hnew.inProgress g) ?_ ?_ ?_ ?_ ?_ ?_
  · intro g r' hg hget'
    rwa [List.getElem?_set_ne (Ne.symm hg)] at hget'
  · intro j e he
    have hj : j ≠ i := by
      rintro rfl
      rw [hnew.new] at he
      cases he
    exact ⟨e, (hsame j hj).trans he, rfl⟩
  · intro j e he
    by_cases hj : j = i
    · subst hj
      obtain rfl := Option.some.inj (hmade.symm.trans he)
      exact ⟨hr.uniqueId hnew.running device hdevice,
        .added f device localIp (hr.device device hdevice) hlocated⟩
    · exact hs.entries j e ((hsame j hj).symm.trans he)
  · intro j k e e' hj hk hid
    rcases hhas j e hj with hj | ⟨rfl, hdj⟩ <;> rcases hhas k e' hk with hk | ⟨rfl, hdk⟩
    · exact hs.distinct j k e e' hj hk hid
    · exact absurd (hid.trans hdk) (hs.free f _ hclaim j e hj)
    · exact absurd (hid.symm.trans hdj) (hs.free f _ hclaim k e' hk)
    · rfl
  · intro g deviceId hg hc j e he
    rcases hhas j e he with he | ⟨_, hid⟩
    · exact hs.free g deviceId hc j e he
    · rintro rfl
      rw [hid] at hc
      exact hg (hs.alone g f _ hc hclaim)
  · intro r' hget'
    obtain rfl := Option.some.inj (hself.symm.trans hget')
    exact ⟨hr.devices, hr.device, fun h => by simp [hover] at h, by simp, by simp⟩
  · rintro deviceId ⟨hprogress, _⟩
    rw [hover] at hprogress
    cases hprogress

/-- An entry stays for its device, and has what the new listing says of it. -/
theorem Flows.Sound.updated (hlaws : hass.Lawful) (hs : s.Sound hass typed listed located) {f i : Nat}
    {e : Entry} (he : hass.entry s.home i = some e) {device : CozyLifeDevice}
    (hd : listed f device) (hid : e.data.deviceId = device.deviceId) {localIp : Str}
    (hip : located f device.deviceId localIp ∨ localIp = e.data.localIp) {reason : Str} {home : H}
    (hupdate : hass.asyncUpdateReloadAndAbort s.home f i (updatesOf device localIp) =
      .ok (reason, home)) : Retained hass listed located s.home home := by
  have hentry := hlaws.update_entry hupdate
  rw [he, Option.map_some, updated_dataOf e.data device localIp hid.symm] at hentry
  have hmade : hass.entry home i = some { e with data := dataOf device localIp } := by
    rw [hentry, Function.update_self]
  have hsame (j : Nat) (hj : j ≠ i) : hass.entry home j = hass.entry s.home j := by
    rw [hentry, Function.update_of_ne hj]
  obtain ⟨hunique, haccounted⟩ := hs.entries i e he
  refine ⟨?_, ?_, ?_⟩
  · intro j d hd
    by_cases hj : j = i
    · subst hj
      obtain rfl := Option.some.inj (he.symm.trans hd)
      exact ⟨_, hmade, hid.symm⟩
    · exact ⟨d, (hsame j hj).trans hd, rfl⟩
  · intro j d hget
    by_cases hj : j = i
    · subst hj
      obtain rfl := Option.some.inj (hmade.symm.trans hget)
      exact ⟨hunique.trans (congrArg some hid),
        .reconfigured e.data haccounted f device localIp hd hid.symm hip⟩
    · exact hs.entries j d ((hsame j hj).symm.trans hget)
  · intro j d hhas
    have hpresent := (hlaws.update_fewer hupdate).present j hhas.1
    by_cases hj : j = i
    · subst hj
      obtain rfl := Option.some.inj (hmade.symm.trans hhas.2)
      exact ⟨e, ⟨hpresent, he⟩, hid⟩
    · exact ⟨d, ⟨hpresent, (hsame j hj).symm.trans hhas.2⟩, rfl⟩

/-! ### Entries over time -/

variable (hass) in
/-- Every entry there was is for the device it was for. -/
def Stays (home home' : H) : Prop := ∀ i e, hass.entry home i = some e → ∃ e',
  hass.entry home' i = some e' ∧ e'.uniqueId = e.uniqueId ∧ e'.data.deviceId = e.data.deviceId

theorem Stays.of_eq {home home' : H} (h : hass.entry home' = hass.entry home) :
    Stays hass home home' :=
  fun _ e he => ⟨e, h ▸ he, rfl, rfl⟩

theorem Stays.trans {h h' h'' : H} (hs : Stays hass h h') (hs' : Stays hass h' h'') :
    Stays hass h h'' := by
  intro i e he
  obtain ⟨e', he', hunique', hid'⟩ := hs i e he
  obtain ⟨e'', he'', hunique, hid⟩ := hs' i e' he'
  exact ⟨e'', he'', hunique.trans hunique', hid.trans hid'⟩

theorem update_stays (hlaws : hass.Lawful) {home home' : H} {flowId i : Nat} {updates : DataUpdates}
    {reason : Str}
    (h : hass.asyncUpdateReloadAndAbort home flowId i updates = .ok (reason, home')) :
    Stays hass home home' := by
  intro j e he
  rw [hlaws.update_entry h]
  by_cases hj : j = i
  · subst hj
    rw [Function.update_self, he]
    exact ⟨_, rfl, rfl, rfl⟩
  · rw [Function.update_of_ne hj]
    exact ⟨e, he, rfl, rfl⟩

theorem finish_stays (hlaws : hass.Lawful) (home : H) (flowId : Nat)
    (x : Except FlowExn FlowResult) : Stays hass home (hass.finish home flowId x) := by
  rcases hlaws.finish_entry home flowId x with ⟨hentry, _⟩ | ⟨title, data, i, _, hnew⟩
  · exact .of_eq hentry
  · intro j e he
    have hj : j ≠ i := by
      rintro rfl
      rw [hnew.new] at he
      cases he
    exact ⟨e, by rw [hnew.entry, Function.update_of_ne hj, he], rfl, rfl⟩

theorem go_stays (hlaws : hass.Lawful) {flow : CozyLifeConfigFlow} {jobs : List Job}
    {m : Handler H Progress}
    (hends : Ends hass typed listed located s flowId flow (m.run (flow, s.home))) :
    Stays hass s.home (Flows.go hass flowId jobs flow m s).home := by
  unfold Flows.go
  generalize m.run (flow, s.home) = x at hends ⊢
  cases hends with
  | returns result _ devices _ => exact finish_stays hlaws s.home flowId (.ok result)
  | raises e devices _ => exact finish_stays hlaws s.home flowId (.error e)
  | configured reason devices _ deviceId h hset =>
    exact (Stays.of_eq (hlaws.id_entry hset)).trans (finish_stays hlaws h flowId _)
  | fetches _ _ _ _ => exact .of_eq rfl
  | claims devices _ device _ h hset _ => exact .of_eq (hlaws.id_entry hset)
  | searches _ _ _ _ _ _ => exact .of_eq rfl
  | creates device _ localIp _ => exact finish_stays hlaws s.home flowId _
  | updates i e _ device _ _ localIp _ reason h hupdate =>
    exact (update_stays hlaws hupdate).trans (finish_stays hlaws h flowId _)

/-! ### Steps -/

variable (hass typed listed located) in
/-- From one state to another that is sound, with the entries for the devices they were for. -/
structure Flows.Goes (s s' : Flows H) : Prop where
  sound : s'.Sound hass typed listed located
  stays : Stays hass s.home s'.home

/-- What a flow does at one go, when it awaits nothing else. -/
theorem Flows.Sound.go (hlaws : hass.Lawful) (hs : s.Sound hass typed listed located) {f : Nat}
    {r : Running} (hget : s.flows[f]? = some r) {m : Handler H Progress}
    (hends : Ends hass typed listed located s f r.flow (m.run (r.flow, s.home))) :
    (Flows.go hass f [] r.flow m s).Sound hass typed listed located := by
  have hr := hs.flows f r hget
  have hquiet {h : H} {x : Except FlowExn FlowResult}
      (hx : ∀ title data, x ≠ .ok (.createEntry title data)) (hentry : hass.entry h = hass.entry s.home)
      (hfewer : hass.Fewer s.home h) :
      Retained hass listed located s.home (hass.finish h f x) ∧
        hass.Fewer s.home (hass.finish h f x) := by
    obtain ⟨hsame, hless⟩ := finish_quiet hlaws h f hx
    exact ⟨hs.retained (hsame.trans hentry) (hfewer.trans hless), hfewer.trans hless⟩
  have hsame : Retained hass listed located s.home s.home := hs.retained rfl (.refl _)
  unfold Flows.go
  generalize m.run (r.flow, s.home) = x at hends ⊢
  cases hends with
  | returns result hresult devices hdevices =>
    obtain ⟨hkept, hfewer⟩ := hquiet (x := .ok result)
      (fun title data hx => hresult title data (Except.ok.inj hx)) rfl (.refl _)
    exact hs.leftSame hget hkept (hlaws.finish_id _ _ _) hfewer.inProgress hdevices (by simp) (by simp)
  | raises e devices hdevices =>
    obtain ⟨hkept, hfewer⟩ := hquiet (x := .error e) (by simp) rfl (.refl _)
    exact hs.leftSame hget hkept (hlaws.finish_id _ _ _) hfewer.inProgress hdevices (by simp) (by simp)
  | configured reason devices hdevices deviceId h hset =>
    obtain ⟨hkept, hfewer⟩ := hquiet (x := .error (.abortFlow reason)) (by simp)
      (hlaws.id_entry hset) (hlaws.id_fewer hset)
    refine hs.leftOver hget hkept ?_ hfewer.inProgress (hlaws.finish_over _ _ _ rfl) hdevices
    intro g hg
    rw [hlaws.finish_id, hlaws.id_set hset, Function.update_of_ne hg]
  | fetches entry email password htyped =>
    exact hs.leftSame hget hsame rfl (fun _ h => h) hr.devices (by simpa [Job.Sound] using htyped)
      (by simp)
  | searches i e he device hd hid =>
    exact hs.leftSame hget hsame rfl (fun _ h => h) hr.devices
      (by simpa [Job.Sound] using ⟨hd, e, he, hid⟩) (by simp)
  | claims devices hdevices device hd h hset hfree =>
    have hids := hlaws.id_set hset
    have hself : hass.uniqueId h f = some device.deviceId := by
      rw [hids, Function.update_self]
    refine hs.left hget (hs.retained (hlaws.id_entry hset) (hlaws.id_fewer hset)) ?_
      (hlaws.id_fewer hset).inProgress ⟨hdevices, ?_, ?_, by simp [Job.Sound], by simp⟩ ?_
    · intro g hg
      rw [hids, Function.update_of_ne hg]
    · rintro _ ⟨⟩
      exact hd
    · rintro _ _ ⟨⟩
      exact hself
    · rintro _ _ ⟨⟩
      refine .inr ⟨?_, ?_⟩
      · rintro g hg ⟨hprogress, r', device', hget', hdevice', hid⟩
        have hother := (hs.flows g r' hget').uniqueId hprogress device' hdevice'
        rw [hid] at hother
        exact hlaws.id_free hset g hg hprogress hother
      · intro i e he hid
        have hunique := (hs.entries i e (hlaws.id_entry hset ▸ he.2)).1
        rw [hid] at hunique
        exact hlaws.configured_free hfree hself i e he.1 he.2 hunique
  | creates device hdevice localIp hlocated =>
    rcases hlaws.finish_entry s.home f (.ok (.createEntry device.name (dataOf device localIp))) with
      ⟨hentry, hfewer⟩ | ⟨title, data, i, hdata, hnew⟩
    · exact hs.leftOver hget (hs.retained hentry hfewer)
        (fun g _ => congrFun (hlaws.finish_id _ _ _) g) hfewer.inProgress
        (hlaws.finish_over _ _ _ rfl) hr.devices
    · cases hdata
      exact hs.created hget hdevice hlocated hnew (hlaws.finish_id _ _ _) (hlaws.finish_over _ _ _ rfl)
  | updates i e he device hd hid localIp hip reason h hupdate =>
    have hkept := hs.updated hlaws he hd hid hip hupdate
    obtain ⟨hentry, hfewer⟩ := finish_quiet hlaws h f (x := .ok (.abort reason)) (by simp)
    have hless := (hlaws.update_fewer hupdate).trans hfewer
    refine hs.leftOver hget ⟨?_, ?_, ?_⟩ ?_ hless.inProgress (hlaws.finish_over _ _ _ rfl) hr.devices
    · rw [hentry]
      exact hkept.known
    · rw [hentry]
      exact hkept.sound
    · intro j e' he'
      exact hkept.has j e' ⟨hfewer.present j he'.1, hentry ▸ he'.2⟩
    · intro g _
      rw [hlaws.finish_id, hlaws.update_id hupdate]

/-- What happens besides the flows. -/
theorem Flows.Sound.acted (hlaws : hass.Lawful) (hs : s.Sound hass typed listed located) (action : A) :
    (⟨hass.act s.home action, s.flows⟩ : Flows H).Sound hass typed listed located := by
  have hfewer := hlaws.act_fewer s.home action
  have hnone : s.flows[s.flows.length]? = none := List.getElem?_eq_none le_rfl
  refine hs.goesOn s.flows.length (hs.retained (hlaws.act_entry _ _) hfewer) (fun _ _ _ h => h)
    (fun g _ => congrFun (hlaws.act_id _ _) g) (fun g _ => hfewer.inProgress g) ?_ ?_
  · intro r hget
    rw [hnone] at hget
    cases hget
  · rintro deviceId ⟨_, r, _, hget, _⟩
    rw [hnone] at hget
    cases hget

/-- A flow that begins knows nothing. -/
theorem Flows.Sound.begun (hlaws : hass.Lawful) (hs : s.Sound hass typed listed located)
    (source : Option Nat) :
    (⟨hass.init s.home s.flows.length source, s.flows ++ [⟨⟨[], none⟩, []⟩]⟩ : Flows H).Sound
      hass typed listed located := by
  have hothers := hlaws.init_others s.home s.flows.length source
  have hentry := hlaws.init_entry s.home s.flows.length source
  have hnew : (s.flows ++ [(⟨⟨[], none⟩, []⟩ : Running)])[s.flows.length]? = some ⟨⟨[], none⟩, []⟩ := by
    simp
  have hkept : Retained hass listed located s.home (hass.init s.home s.flows.length source) := by
    refine ⟨fun i e he => ⟨e, hentry ▸ he, rfl⟩, fun i e he => hs.entries i e (hentry ▸ he), ?_⟩
    intro i e he
    exact ⟨e, ⟨hlaws.init_present _ _ _ i he.1, hentry ▸ he.2⟩, rfl⟩
  refine hs.goesOn s.flows.length hkept ?_ (fun g hg => (hothers g hg).1)
    (fun g hg => (hothers g hg).2) ?_ ?_
  · intro g r hg hget
    by_cases hlt : g < s.flows.length
    · rwa [List.getElem?_append_left hlt] at hget
    · have hend : (s.flows ++ [(⟨⟨[], none⟩, []⟩ : Running)]).length ≤ g := by
        rw [List.length_append, List.length_singleton]
        omega
      rw [List.getElem?_eq_none hend] at hget
      cases hget
  · intro r hget
    obtain rfl := Option.some.inj (hnew.symm.trans hget)
    exact ⟨by simp, by simp, by simp, by simp, by simp⟩
  · rintro deviceId ⟨_, r, device, hget, hdevice, _⟩
    obtain rfl := Option.some.inj (hnew.symm.trans hget)
    cases hdevice

/-! ### Runs -/

section Runs

variable {rt : Runtime}

variable (rt typed listed located) in
/-- What a step lets the flows know of: what a user types, what a listing has, what a scan hears. -/
structure Step.Known (step : Step A) : Prop where
  user : ∀ f email password, step = .user f email password → typed f email password
  reconfigure : ∀ f email password, step = .reconfigure f email password → typed f email password
  fetched : ∀ f i http imei, step = .back f i (.account http imei) → ∀ email password devices,
    typed f email password → fetchDevices rt http email password imei = .ok devices →
      ∀ d ∈ devices, listed f d
  found : ∀ f i targets env, step = .back f i (.scan targets env) → ∀ deviceId ip,
    HeardAt rt targets deviceId env ip → located f deviceId ip
  address : ∀ f ip, step = .address f ip → ∀ deviceId, located f deviceId ip

theorem locate_heard {deviceId ip : Str} {targets : List Str} {scan : ScanEnv}
    (h : locate rt deviceId targets scan = .ok (some ip)) :
    HeardAt rt targets deviceId scan ip :=
  search_heard 0 h

/-- A form is handed in to a flow that awaits nothing. -/
theorem Flows.Sound.submit (hlaws : hass.Lawful) (hs : s.Sound hass typed listed located) {f : Nat}
    (hfree : (s.flows[f]?).any (fun running => running.jobs.isEmpty) = true) {m : Handler H Progress}
    (hends : ∀ r, Running.Sound hass typed listed s.home f r →
      Ends hass typed listed located s f r.flow (m.run (r.flow, s.home))) :
    s.Goes hass typed listed located (Flows.submit hass f m s) := by
  unfold Flows.submit
  cases hget : s.flows[f]? with
  | none => exact ⟨hs, .of_eq rfl⟩
  | some r =>
    have hnone : r.jobs = [] := by simpa [hget] using hfree
    have hr := hends r (hs.flows f r hget)
    simp only [hnone]
    exact ⟨hs.go hlaws hget hr, go_stays hlaws hr⟩

theorem goOn_ends (hlaws : hass.Lawful) {f i : Nat} {env : JobEnv}
    (hknown : Step.Known typed listed located rt (.back f i env : Step A)) {r : Running}
    (hr : r.Sound hass typed listed s.home f) {job : Job}
    (hjob : job.Sound hass typed listed s.home f r.flow) {m : Handler H Progress}
    (hm : Flows.goOn hass rt f job env = some m) :
    Ends hass typed listed located s f r.flow (m.run (r.flow, s.home)) := by
  cases env with
  | account http imei =>
    match job with
    | .fetchDevices none email password =>
      cases hm
      exact userFetched_ends hr hlaws
        (fun devices => hknown.fetched f i http imei rfl email password devices hjob)
    | .fetchDevices (some entryId) email password =>
      cases hm
      exact reconfigureFetched_ends hr entryId
        (fun devices => hknown.fetched f i http imei rfl email password devices hjob)
    | .findDeviceIp none device => cases hm
    | .findDeviceIp (some entryId) device => cases hm
  | scan targets scan =>
    match job with
    | .findDeviceIp none device =>
      cases hm
      exact configured_ends hr hjob
        (fun ip hip => hknown.found f i targets scan rfl device.deviceId ip (locate_heard hip))
    | .findDeviceIp (some entryId) device =>
      cases hm
      obtain ⟨hd, e, he, hid⟩ := hjob
      exact reconfigured_ends hr he hd hid
        (fun ip hip => hknown.found f i targets scan rfl device.deviceId ip (locate_heard hip))
    | .fetchDevices none email password => cases hm
    | .fetchDevices (some entryId) email password => cases hm

theorem Flows.Sound.perform (hlaws : hass.Lawful) (hs : s.Sound hass typed listed located)
    {step : Step A} (hknown : step.Known typed listed located rt)
    (hdue : Flows.due hass rt s step = true) :
    s.Goes hass typed listed located (Flows.perform hass rt s step) := by
  have hform {f : Nat} (h : Flows.takesForm hass f s = true) :
      (s.flows[f]?).any (fun running => running.jobs.isEmpty) = true := (Bool.and_eq_true_iff.mp h).2
  cases step with
  | begin source =>
    have hbegun := hs.begun hlaws source
    have hgoes := hbegun.submit hlaws (f := s.flows.length)
      (m := if source.isNone then asyncStepUser none else
        asyncStepReconfigure hass s.flows.length none) (by simp) (by
      intro r hr
      cases source with
      | none => exact asyncStepUser_ends hr none (by simp)
      | some i => exact asyncStepReconfigure_ends hr none (by simp))
    exact ⟨hgoes.sound, (Stays.of_eq (hlaws.init_entry _ _ _)).trans hgoes.stays⟩
  | user f email password =>
    refine hs.submit hlaws (hform hdue) (fun r hr => asyncStepUser_ends hr (some (email, password)) ?_)
    rintro _ ⟨⟩
    exact hknown.user f email password rfl
  | reconfigure f email password =>
    refine hs.submit hlaws (hform hdue)
      (fun r hr => asyncStepReconfigure_ends hr (some (email, password)) ?_)
    rintro _ ⟨⟩
    exact hknown.reconfigure f email password rfl
  | device f deviceId =>
    exact hs.submit hlaws (hform hdue) (fun r hr => asyncStepDevice_ends hr hlaws _)
  | address f ip =>
    refine hs.submit hlaws (hform hdue) (fun r hr => asyncStepAddress_ends hr (some ip) ?_)
    rintro _ ⟨⟩ device _
    exact hknown.address f ip rfl device.deviceId
  | back f i env =>
    simp only [Flows.perform, Flows.awaited, Option.bind_eq_bind]
    have hsame : s.Goes hass typed listed located s := ⟨hs, .of_eq rfl⟩
    cases hget : s.flows[f]? with
    | none => exact hsame
    | some r =>
      have hr := hs.flows f r hget
      cases hjob : r.jobs[i]? with
      | none => simpa [hjob] using hsame
      | some job =>
        cases hm : Flows.goOn hass rt f job env with
        | none => simpa [hjob, hm] using hsame
        | some m =>
          obtain ⟨hlt, hat⟩ := List.getElem?_eq_some_iff.mp hjob
          have hrest : r.jobs.eraseIdx i = [] := by
            rw [← List.length_eq_zero_iff, List.length_eraseIdx_of_lt hlt]
            have := hr.single
            omega
          have hends := goOn_ends hlaws hknown hr (hr.jobs job (hat ▸ List.getElem_mem hlt)) hm
          simp only [Option.bind_some, hjob, hm, hrest, Option.pure_def]
          exact ⟨hs.go hlaws hget hends, go_stays hlaws hends⟩
  | other action => exact ⟨hs.acted hlaws action, .of_eq (hlaws.act_entry _ _)⟩

theorem Flows.Sound.run (hlaws : hass.Lawful) (hs : s.Sound hass typed listed located)
    (steps : List (Step A)) (hsteps : ∀ step ∈ steps, step.Known typed listed located rt)
    (hdue : Flows.Orderly hass rt steps s) :
    s.Goes hass typed listed located (Flows.run hass rt steps s) := by
  induction steps generalizing s with
  | nil => exact ⟨hs, .of_eq rfl⟩
  | cons step steps ih =>
    have hstep := hs.perform hlaws (hsteps step List.mem_cons_self) hdue.1
    have hrest := ih hstep.sound (fun step hmem => hsteps step (List.mem_cons_of_mem _ hmem)) hdue.2
    exact ⟨hrest.sound, hstep.stays.trans hrest.stays⟩

end Runs

end Invariant

/-! ### A Home Assistant that keeps the entries and the flows -/

theorem Registry.quit_fewer (h : Registry) (flowId : Nat) :
    HomeAssistant.plain.Fewer h (h.quit flowId) := by
  refine ⟨fun _ hi => hi, fun f hf => ?_⟩
  simp only [HomeAssistant.plain, Registry.quit, List.contains_iff_mem, List.mem_filter] at hf ⊢
  exact hf.1

theorem Registry.entry_modify (h : Registry) (i : Nat) (f : Str × Entry → Str × Entry) (j : Nat) :
    Registry.entry { h with entries := h.entries.modify i f } j =
      if j = i then (h.entries[i]?).map (fun p => (f p).2) else h.entry j := by
  simp only [Registry.entry, List.getElem?_modify]
  split
  · rename_i hj
    simp [hj.symm, Option.map_map, Function.comp_def]
  · rename_i hj
    simp [Ne.symm hj]

theorem Registry.finish_created (h : Registry) {flowId : Nat}
    (hrunning : h.inProgress.contains flowId = true) (title : Str) (data : EntryData) :
    HomeAssistant.plain.Created h (h.finish flowId (.ok (.createEntry title data))) flowId data
      h.entries.length := by
  have hmade : h.finish flowId (.ok (.createEntry title data)) = { h.quit flowId with
      entries := h.entries ++ [(title, ⟨h.uniqueId flowId, data⟩)]
      present := h.entries.length :: h.present } := by
    simp only [Registry.finish, hrunning, ↓reduceIte]
  have hnone : h.entry h.entries.length = none := by simp [Registry.entry]
  rw [hmade]
  refine ⟨hrunning, hnone, ?_, ?_, (h.quit_fewer flowId).inProgress⟩
  · funext j
    simp only [HomeAssistant.plain, Registry.entry, Function.update_apply]
    split
    · rename_i hj
      simp [hj]
    · rename_i hj
      by_cases hlt : j < h.entries.length
      · rw [List.getElem?_append_left hlt]
      · have hge : h.entries.length + 1 ≤ j := by omega
        rw [List.getElem?_eq_none (by simpa using hge), List.getElem?_eq_none (by omega)]
  · intro j hj hpresent
    simpa [HomeAssistant.plain, hj] using hpresent

theorem plain_lawful : HomeAssistant.plain.Lawful where
  id_free := by
    intro h flowId uid h' hset f hf hprogress hid
    simp only [HomeAssistant.plain] at hset hprogress hid
    split at hset
    · cases hset
    · rename_i hnone
      apply hnone
      exact List.any_eq_true.mpr ⟨f, by simpa using hprogress, by simp [hf, hid]⟩
  id_set := by
    intro h flowId uid h' hset
    simp only [HomeAssistant.plain] at hset
    split at hset <;> cases hset
    rfl
  id_entry := by
    intro h flowId uid h' hset
    simp only [HomeAssistant.plain] at hset
    split at hset <;> cases hset
    rfl
  id_fewer := by
    intro h flowId uid h' hset
    simp only [HomeAssistant.plain] at hset
    split at hset <;> cases hset
    exact ⟨fun _ h => h, fun _ h => h⟩
  configured_free := by
    intro h flowId uid hfree hid i e hpresent he hunique
    simp only [HomeAssistant.plain] at hfree hid hpresent he
    split at hfree
    · cases hfree
    · rename_i hnone
      apply hnone
      simp only [hid, Option.isSome_some, Bool.true_and]
      exact List.any_eq_true.mpr ⟨i, by simpa using hpresent, by simp [he, hunique]⟩
  configured_aborts := by
    intro h flowId e hfree
    simp only [HomeAssistant.plain] at hfree
    split at hfree <;> cases hfree
    exact ⟨_, rfl⟩
  update_id := by
    intro h flowId i updates reason h' hupdate
    simp only [HomeAssistant.plain] at hupdate
    split at hupdate <;> cases hupdate
    rfl
  update_entry := by
    intro h flowId i updates reason h' hupdate
    simp only [HomeAssistant.plain] at hupdate
    split at hupdate <;> cases hupdate
    funext j
    simp only [HomeAssistant.plain, Registry.entry_modify, Function.update_apply]
    split
    · simp [Registry.entry, Option.map_map, Function.comp_def]
    · rfl
  update_fewer := by
    intro h flowId i updates reason h' hupdate
    simp only [HomeAssistant.plain] at hupdate
    split at hupdate <;> cases hupdate
    exact ⟨fun _ h => h, fun _ h => h⟩
  init_entry _ _ _ := rfl
  init_present _ _ _ _ h := h
  init_others h flowId source f hf := by
    refine ⟨Function.update_of_ne hf _ _, ?_⟩
    simp [HomeAssistant.plain, hf]
  finish_id h flowId r := by
    simp only [HomeAssistant.plain, Registry.finish]
    split <;> split <;> rfl
  finish_entry h flowId r := by
    match r with
    | .ok (.createEntry title data) =>
      by_cases hrunning : h.inProgress.contains flowId = true
      · exact .inr ⟨title, data, h.entries.length, rfl, h.finish_created hrunning title data⟩
      · simp only [HomeAssistant.plain, Registry.finish, hrunning]
        exact .inl ⟨rfl, .refl h⟩
    | .ok (.form _ _ _ _) => exact .inl ⟨rfl, .refl h⟩
    | .ok (.abort _) => exact .inl ⟨rfl, h.quit_fewer flowId⟩
    | .error (.abortFlow _) => exact .inl ⟨rfl, h.quit_fewer flowId⟩
    | .error (.account _) => exact .inl ⟨rfl, .refl h⟩
    | .error (.search _) => exact .inl ⟨rfl, .refl h⟩
    | .error .unknown => exact .inl ⟨rfl, .refl h⟩
  finish_over h flowId r hr := by
    have hquit : HomeAssistant.plain.inProgress (h.quit flowId) flowId = false := by
      simp [HomeAssistant.plain, Registry.quit]
    match r with
    | .ok (.createEntry title data) =>
      by_cases hrunning : h.inProgress.contains flowId = true
      · simpa only [HomeAssistant.plain, Registry.finish, hrunning, ↓reduceIte] using hquit
      · have hnot : h.inProgress.contains flowId = false := Bool.eq_false_iff.mpr hrunning
        simp only [HomeAssistant.plain, Registry.finish, hnot, Bool.false_eq_true, ↓reduceIte]
    | .ok (.abort _) => exact hquit
    | .error (.abortFlow _) => exact hquit
  act_id h action := by cases action <;> rfl
  act_entry h action := by
    cases action with
    | dismiss flowId => rfl
    | remove i => rfl
    | rename i title =>
      funext j
      simp only [HomeAssistant.plain, Registry.entry_modify, ite_eq_right_iff]
      rintro rfl
      rfl
  act_fewer h action := by
    cases action with
    | dismiss flowId => exact h.quit_fewer flowId
    | rename i title => exact ⟨fun _ h => h, fun _ h => h⟩
    | remove i =>
      refine ⟨fun j hj => ?_, fun _ h => h⟩
      simp only [HomeAssistant.plain, List.contains_iff_mem, List.mem_filter] at hj ⊢
      exact hj.1


/-! ### What there is to an entry -/

/-- A device of a listing that a flow fetched with credentials typed into a form of it. -/
def Listed (rt : Runtime) (steps : List (Step A)) (flowId : Nat) (device : CozyLifeDevice) : Prop :=
  ∃ email password i http imei devices,
    (.user flowId email password ∈ steps ∨ .reconfigure flowId email password ∈ steps) ∧
      .back flowId i (.account http imei) ∈ steps ∧
      fetchDevices rt http email password imei = .ok devices ∧ device ∈ devices

/-- An address at which a search of a flow heard of the device, or one typed into a form of it. -/
def Located (rt : Runtime) (steps : List (Step A)) (flowId : Nat) (deviceId localIp : Str) : Prop :=
  (∃ i targets env, .back flowId i (.scan targets env) ∈ steps ∧
      HeardAt rt targets deviceId env localIp) ∨
    .address flowId localIp ∈ steps

/-- What a step lets a flow know of comes from the steps. -/
theorem step_known (rt : Runtime) {steps : List (Step A)} {step : Step A} (hstep : step ∈ steps) :
    step.Known (fun f email password =>
        .user f email password ∈ steps ∨ .reconfigure f email password ∈ steps)
      (Listed rt steps) (Located rt steps) rt := by
  refine ⟨?_, ?_, ?_, ?_, ?_⟩
  · rintro f email password rfl
    exact .inl hstep
  · rintro f email password rfl
    exact .inr hstep
  · rintro f i http imei rfl email password devices htyped hfetched d hd
    exact ⟨email, password, i, http, imei, devices, htyped, hstep, hfetched, hd⟩
  · rintro f i targets env rfl deviceId ip hheard
    exact .inl ⟨i, targets, env, hstep, hheard⟩
  · rintro f ip rfl deviceId
    exact .inr hstep

/-- What the client of an entry for `device` may be. -/
structure Serves (client : Client) (device : CozyLifeDevice) (localIp : Str) : Prop where
  deviceId : client.local'.deviceId = device.deviceId
  host : client.local'.transport.host = localIp
  relay : ∀ c ∈ client.cloud, c.deviceId = device.deviceId ∧ c.deviceKey = device.deviceKey ∧
    c.host = device.relayHost ∧ c.port = device.relayPort

theorem dataOf_serves (device : CozyLifeDevice) (localIp : Str)
    (localTimeout cloudTimeout : Option ℚ) :
    Serves (buildClient ((dataOf device localIp).config localTimeout cloudTimeout)) device localIp := by
  refine ⟨rfl, rfl, ?_⟩
  intro c hc
  simp only [buildClient, FallbackClient.initial, EntryData.config, dataOf] at hc
  split at hc
  · cases hc
    exact ⟨rfl, rfl, rfl, rfl⟩
  · cases hc

theorem Accounted.listed {listed : Nat → CozyLifeDevice → Prop} {located : Nat → Str → Str → Prop}
    {data : EntryData} (h : Accounted listed located data) :
    ∃ flowId device, listed flowId device ∧ data = dataOf device data.localIp := by
  cases h with
  | added flowId device localIp hd _ => exact ⟨flowId, device, hd, rfl⟩
  | reconfigured _ _ flowId device localIp hd _ _ => exact ⟨flowId, device, hd, rfl⟩

theorem empty_sound {H A : Type} {hass : HomeAssistant H A} {typed : Nat → Str → Str → Prop}
    {listed : Nat → CozyLifeDevice → Prop} {located : Nat → Str → Str → Prop} {home : H}
    (h : ∀ i, hass.entry home i = none) :
    (⟨home, []⟩ : Flows H).Sound hass typed listed located := by
  have hclaims (f : Nat) (deviceId : Str) : ¬ (⟨home, []⟩ : Flows H).Claims hass f deviceId := by
    rintro ⟨_, r, _, hget, _⟩
    cases hget
  refine ⟨?_, ?_, ?_, fun f deviceId hc => absurd hc (hclaims f deviceId),
    fun f _ deviceId hc => absurd hc (hclaims f deviceId)⟩
  · rintro f r ⟨⟩
  · intro i e he
    rw [h i] at he
    cases he
  · intro i j e e' he
    have hnone := (h i).symm.trans he.2
    cases hnone

theorem orderly_append {H A : Type} {hass : HomeAssistant H A} {rt : Runtime}
    {steps later : List (Step A)} {s : Flows H} (h : Flows.Orderly hass rt (steps ++ later) s) :
    Flows.Orderly hass rt steps s ∧ Flows.Orderly hass rt later (Flows.run hass rt steps s) := by
  induction steps generalizing s with
  | nil => exact ⟨trivial, h⟩
  | cons step steps ih =>
    obtain ⟨hsteps, hlater⟩ := ih h.2
    exact ⟨⟨h.1, hsteps⟩, hlater⟩

/-- However the flows, their jobs and what else happens in Home Assistant interleave: no two entries
are for one device, each has what one flow was told of its device, at an address of it, and its client
is built to reach that device and authenticate as it. An entry stays for its device. -/
theorem entries_accounted {H A : Type} (hass : HomeAssistant H A) (hlaws : hass.Lawful) (rt : Runtime)
    (home : H) (hempty : ∀ i, hass.entry home i = none) (steps later : List (Step A))
    (horderly : Flows.Orderly hass rt (steps ++ later) ⟨home, []⟩) :
    let s := Flows.run hass rt steps ⟨home, []⟩
    (∀ i j e e', hass.Has s.home i e → hass.Has s.home j e' → e.data.deviceId = e'.data.deviceId →
        i = j) ∧
      (∀ i e, hass.entry s.home i = some e → e.uniqueId = some e.data.deviceId ∧
        Accounted (Listed rt steps) (Located rt steps) e.data ∧
        ∃ flowId device, Listed rt steps flowId device ∧ e.data = dataOf device e.data.localIp ∧
          ∀ localTimeout cloudTimeout,
            Serves (buildClient (e.data.config localTimeout cloudTimeout)) device e.data.localIp) ∧
      Stays hass s.home (Flows.run hass rt later s).home := by
  obtain ⟨hsteps, hlater⟩ := orderly_append horderly
  have hnow := (empty_sound hempty).run hlaws steps (fun _ hstep => step_known rt hstep) hsteps
  have hthen := (empty_sound hempty).run hlaws steps
    (fun _ hstep => step_known rt (List.mem_append_left later hstep)) hsteps
  have hrest := hthen.sound.run hlaws later
    (fun _ hstep => step_known rt (List.mem_append_right steps hstep)) hlater
  refine ⟨hnow.sound.distinct, ?_, hrest.stays⟩
  intro i e he
  obtain ⟨hunique, haccounted⟩ := hnow.sound.entries i e he
  obtain ⟨flowId, device, hlisted, hdata⟩ := haccounted.listed
  refine ⟨hunique, haccounted, flowId, device, hlisted, hdata, fun localTimeout cloudTimeout => ?_⟩
  rw [hdata]
  exact dataOf_serves device e.data.localIp localTimeout cloudTimeout

/-- A server that takes any login and lists one plug. -/
def onePlug : Http := fun request _ =>
  if request.data.isSome then
    .body (ascii "\x7b\"ret\":\"1\",\"info\":\x7b\"token\":\"t\"\x7d\x7d")
  else
    .body (ascii ("\x7b\"ret\":\"1\",\"info\":\x7b\"device_bind\":\x7b\"list\":[\x7b" ++
      "\"device_id\":\"plug\",\"device_key\":\"key\"\x7d]\x7d\x7d\x7d"))

/-- A scan that hears nothing. -/
def silence : JobEnv := .scan [] ⟨none, 0, fun _ => false, 0, []⟩

/-- The plug is added at an address that is typed, as no scan hears it. A second flow for it has to
leave it to the first. -/
def adds (email password : Str) : List (Step Action) :=
  [.begin none, .user 0 email password, .back 0 0 (.account onePlug (str "imei")),
    .begin none, .user 1 email password, .back 1 0 (.account onePlug (str "imei")),
    .back 0 0 silence, .address 0 (str "10.0.0.7")]

/-- The plug is reconfigured, and its entry is removed while that goes on. -/
def reconfigures (email password : Str) : List (Step Action) :=
  [.begin (some 0), .reconfigure 2 email password, .back 2 0 (.account onePlug (str "imei")),
    .other (.remove 0), .back 2 0 silence]

theorem entries_accounted_plug :
    let s := Flows.run .plain .plain (adds (str "a@home") (str "secret")) ⟨.empty, []⟩
    s.home.entries.map (fun p => p.2.data.localIp) = [str "10.0.0.7"] ∧
      (∀ i j e e', HomeAssistant.plain.Has s.home i e → HomeAssistant.plain.Has s.home j e' →
        e.data.deviceId = e'.data.deviceId → i = j) ∧
      Stays .plain s.home
        (Flows.run .plain .plain (reconfigures (str "a@home") (str "secret")) s).home := by
  have horderly : Flows.Orderly .plain .plain
      (adds (str "a@home") (str "secret") ++ reconfigures (str "a@home") (str "secret"))
      ⟨.empty, []⟩ := by
    decide +kernel
  obtain ⟨hdistinct, _, hstays⟩ := entries_accounted .plain plain_lawful .plain .empty
    (fun _ => rfl) _ _ horderly
  exact ⟨by decide +kernel, hdistinct, hstays⟩

end CozyLife.ConfigFlow
