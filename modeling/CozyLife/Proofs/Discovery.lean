import CozyLife.Api.Discovery
import CozyLife.Lib.Firsts
import CozyLife.Proofs.Loads

namespace CozyLife.Discovery
open Python Effects Firsts

/-! ### Datagrams -/

section Datagrams

variable (rt : Runtime)

/-- The datagram is one that `recvfrom` can hand over, and `json.loads` raises nothing on it but what
`decode` catches. -/
structure Decodes (d : Datagram) : Prop where
  short : d.data.length ≤ 2048
  loads : ∃ r, decode rt.toInterpreter d.data = .ok r

/-- The datagram is a well-formed reply, and this is the device it tells of. -/
def Announces (d : Datagram) (device : DiscoveredDevice) : Prop :=
  ∃ frame message deviceId, decode rt.toInterpreter d.data = .ok (some frame) ∧
    frame.get (str "msg") = some (.obj message) ∧
    Dict.getTruthy message (str "did") = some deviceId ∧
    rt.text deviceId = some device.deviceId ∧
    rt.text ((Dict.getTruthy message (str "ip")).getD (.str d.sender)) = some device.ip ∧
    device.mac = Dict.getTruthy message (str "mac") ∧
    device.productId = Dict.getTruthy message (str "pid") ∧
    device.softwareVersion = Dict.getTruthy message (str "sv") ∧
    device.hardwareVersion = Dict.getTruthy message (str "hv")

/-- A datagram that tells of `id` comes before any that tells of `id'`. -/
def ArrivesBefore (data : List Datagram) (id id' : Str) : Prop :=
  ∃ before d after device, data = before ++ d :: after ∧ Announces rt d device ∧
    device.deviceId = id ∧ ∀ e ∈ before ++ [d], ∀ other, Announces rt e other → other.deviceId ≠ id'

/-- A sequence of datagrams with more of them put in: malformed ones, which tell of no device, and
repeats of a device told of before. -/
inductive Noisy (data : List Datagram) : List Datagram → Prop
  | same : Noisy data data
  | insert {before after : List Datagram} {d : Datagram} (h : Noisy data (before ++ after))
      (decodes : Decodes rt d) (noise : ∀ device, Announces rt d device →
        ∃ e ∈ before, ∃ other, Announces rt e other ∧ other.deviceId = device.deviceId) :
      Noisy data (before ++ d :: after)

/-- The device a datagram tells of, if any. -/
def announced (d : Datagram) : Option DiscoveredDevice :=
  match parse rt d.data d.sender with
  | .ok device => device
  | .error _ => none

variable {rt} {d : Datagram} {device : DiscoveredDevice}

theorem decode_depth {py : Interpreter} {raw : Bytes} {frame : Dict Json}
    (h : decode py raw = .ok (some frame)) : (Json.obj frame).depth ≤ raw.length := by
  unfold decode at h
  cases htext : decodeUtf8 raw with
  | none =>
    rw [htext] at h
    cases h
  | some text =>
    simp only [htext, decodeText] at h
    have hstrip := (strip_length text).trans (decodeUtf8_length htext)
    cases hloads : loads py (strip text) with
    | error e =>
      rw [hloads] at h
      cases e <;> cases h
    | ok value =>
      rw [hloads] at h
      cases value with
      | obj d =>
        cases h
        exact (loads_depth hloads).trans hstrip
      | _ => cases h

/-- What is read from a datagram is not nested too deep to print. -/
theorem Decodes.prints (h : Decodes rt d) {frame message : Dict Json}
    (hframe : decode rt.toInterpreter d.data = .ok (some frame))
    (hmsg : frame.get (str "msg") = some (.obj message)) {key : Str} {value : Json}
    (hvalue : Dict.getTruthy message key = some value) : ∃ text, rt.text value = some text := by
  have hdeep : (Json.obj frame).depth ≤ d.data.length := decode_depth hframe
  have hmessage := depth_of_get hmsg
  have hinner := depth_of_getTruthy hvalue
  have hshort := h.short
  simp only [Json.depth] at hdeep hmessage
  exact Option.isSome_iff_exists.mp (rt.text_shallow (by omega))

theorem parse_announced (h : Decodes rt d) : parse rt d.data d.sender = .ok (announced rt d) := by
  obtain ⟨r, hr⟩ := h.loads
  have hparse : ∃ device, parse rt d.data d.sender = .ok device := by
    unfold parse
    rw [hr]
    cases r with
    | none => exact ⟨_, rfl⟩
    | some frame =>
      simp only
      split
      · rename_i message hmsg
        split
        · rename_i deviceId hid
          obtain ⟨id, ht⟩ := h.prints hr hmsg hid
          have hip : ∃ ip, rt.text ((Dict.getTruthy message (str "ip")).getD (.str d.sender)) =
              some ip := by
            cases hip : Dict.getTruthy message (str "ip") with
            | none => exact ⟨d.sender, rfl⟩
            | some ip => exact h.prints hr hmsg hip
          obtain ⟨ip, ha⟩ := hip
          exact ⟨_, by simp only [ht, ha]; rfl⟩
        · exact ⟨_, rfl⟩
      · exact ⟨_, rfl⟩
  obtain ⟨device, hd⟩ := hparse
  rw [announced, hd]

theorem announced_iff : announced rt d = some device ↔ Announces rt d device := by
  unfold announced parse Announces
  constructor
  · intro h
    rcases hr : decode rt.toInterpreter d.data with e | _ | frame
    · simp only [hr] at h
      cases h
    · simp only [hr] at h
      cases h
    · simp only [hr] at h
      rcases hm : frame.get (str "msg") with _ | (_ | _ | _ | _ | _ | _ | message) <;>
        simp only [hm] at h <;> try cases h
      rcases hid : Dict.getTruthy message (str "did") with _ | deviceId <;> simp only [hid] at h
      · cases h
      · refine ⟨frame, message, deviceId, rfl, hm, hid, ?_⟩
        rcases ht : rt.text deviceId with _ | id <;>
          rcases ha : rt.text ((Dict.getTruthy message (str "ip")).getD (.str d.sender)) with _ | ip <;>
          simp only [ht, ha] at h <;> cases h
        simp
  · rintro ⟨frame, message, deviceId, hr, hm, hid, ht, ha, hmac, hpid, hsv, hhv⟩
    simp only [hr, hm, hid, ht, ha, ← hmac, ← hpid, ← hsv, ← hhv]

/-- Noise leaves the devices as they were, in the same order. -/
theorem firsts_noisy {data data' : List Datagram} (h : Noisy rt data data') :
    firstsBy DiscoveredDevice.deviceId [] (data'.filterMap (announced rt)) =
      firstsBy DiscoveredDevice.deviceId [] (data.filterMap (announced rt)) := by
  induction h with
  | same => rfl
  | @insert before after d _ _ noise ih =>
    rw [← ih, List.filterMap_append, List.filterMap_append, List.filterMap_cons]
    cases hd : announced rt d with
    | none => rfl
    | some device =>
      apply firstsBy_insert
      right
      obtain ⟨e, he, other, hother, hid⟩ := noise device (announced_iff.mp hd)
      exact ⟨other, List.mem_filterMap.mpr ⟨e, he, announced_iff.mpr hother⟩, hid⟩

theorem noisy_decodes {data data' : List Datagram} (h : Noisy rt data data')
    (hdata : ∀ d ∈ data, Decodes rt d) : ∀ d ∈ data', Decodes rt d := by
  induction h with
  | same => exact hdata
  | insert _ decodes _ ih =>
    intro e he
    rcases List.mem_append.mp he with he | he
    · exact ih e (List.mem_append_left _ he)
    · rcases List.mem_cons.mp he with rfl | he
      · exact decodes
      · exact ih e (List.mem_append_right _ he)

/-- What the datagrams before a device's first one tell of, as devices and as datagrams. -/
theorem earliest_iff {data : List Datagram} :
    Earliest DiscoveredDevice.deviceId (data.filterMap (announced rt)) device ↔
      ∃ before d after, data = before ++ d :: after ∧ Announces rt d device ∧
        ∀ e ∈ before, ∀ other, Announces rt e other → other.deviceId ≠ device.deviceId := by
  constructor
  · rintro ⟨devices, later, he, hne⟩
    obtain ⟨before, rest, rfl, rfl, hrest⟩ := List.filterMap_eq_append_iff.mp he
    obtain ⟨silent, d, after, rfl, hsilent, hd, -⟩ := List.filterMap_eq_cons_iff.mp hrest
    refine ⟨before ++ silent, d, after, by simp, announced_iff.mp hd, ?_⟩
    intro e he other hother
    rcases List.mem_append.mp he with he | he
    · exact hne other (List.mem_filterMap.mpr ⟨e, he, announced_iff.mpr hother⟩)
    · rw [← announced_iff, hsilent e he] at hother
      cases hother
  · rintro ⟨before, d, after, rfl, hd, hne⟩
    refine ⟨before.filterMap (announced rt), after.filterMap (announced rt), ?_, ?_⟩
    · rw [List.filterMap_append, List.filterMap_cons, announced_iff.mpr hd]
    · intro other hother
      obtain ⟨e, he, h⟩ := List.mem_filterMap.mp hother
      exact hne e he other (announced_iff.mp h)

theorem arrivesBefore_of_precedes {data : List Datagram} {device' : DiscoveredDevice}
    (h : Precedes DiscoveredDevice.deviceId (data.filterMap (announced rt)) device device') :
    ArrivesBefore rt data device.deviceId device'.deviceId := by
  obtain ⟨devices, later, he, hne⟩ := h
  obtain ⟨before, rest, rfl, rfl, hrest⟩ := List.filterMap_eq_append_iff.mp he
  obtain ⟨silent, d, after, rfl, hsilent, hd, -⟩ := List.filterMap_eq_cons_iff.mp hrest
  refine ⟨before ++ silent, d, after, device, by simp, announced_iff.mp hd, rfl, ?_⟩
  intro e he other hother
  rw [← announced_iff] at hother
  simp only [List.mem_append, List.mem_singleton] at he
  obtain (he | he) | rfl := he
  · apply hne
    exact List.mem_append_left _ (List.mem_filterMap.mpr ⟨e, he, hother⟩)
  · rw [hsilent e he] at hother
    cases hother
  · rw [hd] at hother
    obtain rfl := Option.some.inj hother
    apply hne
    simp

end Datagrams

/-! ### The receive loop -/

section Loop

/-- The datagrams that arrive before the window ends, and the exception that ends it early. -/
def arrivals (deadline : ℚ) : List UdpTurn → List Datagram × Option Exn
  | [] => ([], none)
  | turn :: turns =>
    if deadline - turn.now ≤ 0 then ([], none)
    else match turn.read with
      | .settimeoutFailed text => ([], some (.os text))
      | .timedOut => ([], none)
      | .failed _ => ([], none)
      | .arrived packet sender =>
        let later := arrivals deadline turns
        (⟨packet.take RECV_SIZE, sender⟩ :: later.1, later.2)

/-- A loop body over a list of devices. -/
def feed (body : β → DiscoveredDevice → Verdict β α) : β → List DiscoveredDevice → Exit β α
  | b, [] => .ended b
  | b, device :: devices => match body b device with
    | .next b => feed body b devices
    | .leave a => .left a
    | .raise e => .raised e

variable (rt : Runtime) {data : List Datagram} {deadline : ℚ}

/-- The loop gives its body each device once, as its first datagram tells of it. -/
theorem receive_eq (body : β → DiscoveredDevice → Verdict β α) (turns : List UdpTurn)
    (seen : List Str) (b : β) (h : arrivals deadline turns = (data, none))
    (hdata : ∀ d ∈ data, Decodes rt d) : receive rt body deadline turns seen b =
      feed body b (firstsBy DiscoveredDevice.deviceId seen (data.filterMap (announced rt))) := by
  induction turns generalizing data seen b with
  | nil =>
    obtain rfl : [] = data := congrArg Prod.fst h
    rfl
  | cons turn turns ih =>
    simp only [arrivals] at h
    simp only [receive]
    split at h
    · rename_i hlate
      obtain rfl : [] = data := congrArg Prod.fst h
      rw [if_pos hlate]
      rfl
    · rename_i hopen
      rw [if_neg hopen]
      cases hread : turn.read with
      | settimeoutFailed text =>
        simp only [hread] at h
        cases congrArg Prod.snd h
      | timedOut =>
        simp only [hread] at h
        obtain rfl : [] = data := congrArg Prod.fst h
        rfl
      | failed text =>
        simp only [hread] at h
        obtain rfl : [] = data := congrArg Prod.fst h
        rfl
      | arrived packet sender =>
        simp only [hread, Prod.mk.injEq] at h
        obtain ⟨rfl, hlater⟩ := h
        obtain ⟨hd, hdata⟩ := List.forall_mem_cons.mp hdata
        have hrest : arrivals deadline turns = ((arrivals deadline turns).1, none) :=
          Prod.ext rfl hlater
        simp only
        rw [parse_announced hd, List.filterMap_cons]
        cases announced rt ⟨packet.take RECV_SIZE, sender⟩ with
        | none => exact ih seen b hrest hdata
        | some device =>
          simp only [firstsBy]
          split
          · exact ih seen b hrest hdata
          · simp only [feed]
            cases body b device with
            | next b => exact ih _ b hrest hdata
            | leave a => rfl
            | raise e => rfl

theorem feed_collect (found devices : List DiscoveredDevice) :
    feed (α := Empty) (fun found device => .next (found ++ [device])) found devices =
      .ended (found ++ devices) := by
  induction devices generalizing found with
  | nil => rw [List.append_nil, feed]
  | cons device devices ih =>
    simp only [feed]
    rw [ih, List.append_assoc, List.singleton_append]

theorem feed_ip (deviceId : Str) (devices : List DiscoveredDevice) :
    feed (ipVerdict deviceId) () devices =
      match devices.find? (fun device => device.deviceId = deviceId) with
      | some device => .left device.ip
      | none => .ended () := by
  induction devices with
  | nil => rfl
  | cons device devices ih =>
    rw [feed, List.find?_cons]
    by_cases h : device.deviceId = deviceId
    · simp only [ipVerdict, h, ↓reduceIte, decide_true]
    · simp only [ipVerdict, h, ↓reduceIte, decide_false]
      exact ih

end Loop

/-! ### Scans -/

section Scans

variable {rt : Runtime} {env : ScanEnv} {targets : List Str} {port : Int} {timeout : ℚ}

/-- The probes that leave, one for each target the host does not refuse. -/
def sends (payload : Bytes) (port : Int) (refused : Nat → Bool) (targets : List (Str × Nat)) :
    List UdpEvent :=
  (targets.filter (fun t => !refused t.2)).map (fun t => .sent payload t.1 port)

theorem broadcast_run (port : Int) (payload : Bytes) (refused : Nat → Bool) (targets : List (Str × Nat))
    (h : ∀ t ∈ targets, sendable rt t.1 = true) (s : List UdpEvent × World) :
    (broadcast rt payload port refused targets).run s =
      .ok () (s.1 ++ sends payload port refused targets, s.2) := by
  induction targets generalizing s with
  | nil => simp [broadcast, sends]
  | cons t targets ih =>
    obtain ⟨target, i⟩ := t
    obtain ⟨ht, htargets⟩ := List.forall_mem_cons.mp h
    simp only [broadcast, ht, ↓reduceIte]
    cases hr : refused i with
    | true =>
      simp [ih htargets, sends, hr]
    | false =>
      simp [ih htargets, sends, hr]

/-- The scan gets as far as listening. -/
def Listens (rt : Runtime) (env : ScanEnv) (targets : List Str) : Prop :=
  env.setup = none ∧ ∀ target ∈ targets, sendable rt target = true

/-- A target that is no host ends the scan before it listens. -/
theorem broadcast_raises (port : Int) (payload : Bytes) (refused : Nat → Bool)
    (targets : List (Str × Nat))
    (h : ¬ ∀ t ∈ targets, sendable rt t.1 = true) : ∃ evs, ∀ s,
      (broadcast rt payload port refused targets).run s = .error .type (s.1 ++ evs, s.2) := by
  induction targets with
  | nil => exact absurd (List.forall_mem_nil _) h
  | cons t targets ih =>
    obtain ⟨target, i⟩ := t
    cases ht : sendable rt target with
    | false =>
      refine ⟨[], ?_⟩
      intro s
      simp [broadcast, ht]
    | true =>
      obtain ⟨evs, hevs⟩ := ih (fun hall => h (List.forall_mem_cons.mpr ⟨ht, hall⟩))
      cases hr : refused i with
      | true =>
        refine ⟨evs, ?_⟩
        intro s
        simp only [broadcast, ht, hr, ↓reduceIte, Bool.not_true, Bool.false_eq_true, hevs]
      | false =>
        refine ⟨.sent payload target port :: evs, ?_⟩
        intro s
        simp [broadcast, ht, hr, hevs]

section Listen

variable (env targets port timeout) (body : β → DiscoveredDevice → Verdict β α) (b : β)
  (s : List UdpEvent × World)

/-- A scan that listens takes one sequence number, and it closes its socket. -/
theorem listen_run (h : Listens rt env targets) :
    (listen rt body env targets port timeout b).run s =
      .ok (receive rt body (env.started + timeout) env.turns [] b)
        (s.1 ++ .opened :: sends (probeOf rt (intText (nextSn s.2.lastSn env.time))) port env.refused
            targets.zipIdx ++ [.closed],
          { s.2 with lastSn := nextSn s.2.lastSn env.time }) := by
  obtain ⟨hsetup, htargets⟩ := h
  have hzip : ∀ t ∈ targets.zipIdx, sendable rt t.1 = true := by
    intro t ht
    exact htargets t.1 (List.fst_mem_of_mem_zipIdx ht)
  have hsend := broadcast_run port (probeOf rt (intText (nextSn s.2.lastSn env.time)))
    env.refused _ hzip
  simp [-bind_pure_comp, listen, hsetup, ensuring, probePayload, hsend]

end Listen

/-- These datagrams arrive at the scan before its window ends. -/
structure Delivers (rt : Runtime) (env : ScanEnv) (targets : List Str) (timeout : ℚ)
    (data : List Datagram) : Prop where
  listens : Listens rt env targets
  arrived : arrivals (env.started + timeout) env.turns = (data, none)

variable {data : List Datagram} (s : List UdpEvent × World)

theorem discover_answer (h : Delivers rt env targets timeout data)
    (hdata : ∀ d ∈ data, Decodes rt d) : answer (discover rt env targets port timeout) s =
      .ok (firstsBy DiscoveredDevice.deviceId [] (data.filterMap (announced rt))) := by
  have hrun := listen_run env targets port timeout
    (fun found device => (.next (found ++ [device]) : Verdict _ Empty)) [] s h.listens
  simp [answer, discover, hrun, receive_eq rt _ _ _ _ h.arrived hdata, feed_collect]

theorem findDeviceIp_answer (deviceId : Str) (h : Delivers rt env targets timeout data)
    (hdata : ∀ d ∈ data, Decodes rt d) :
    answer (findDeviceIp rt deviceId env targets port timeout) s =
      .ok (((firstsBy DiscoveredDevice.deviceId [] (data.filterMap (announced rt))).find?
        (fun device => device.deviceId = deviceId)).map DiscoveredDevice.ip) := by
  have hrun := listen_run env targets port timeout (ipVerdict deviceId) () s h.listens
  simp only [answer, findDeviceIp, EStateM.run_bind, hrun, receive_eq rt _ _ _ _ h.arrived hdata,
    feed_ip]
  cases (firstsBy DiscoveredDevice.deviceId [] (data.filterMap (announced rt))).find?
    (fun device => device.deviceId = deviceId) <;> rfl

/-- Both readers of a scan report these devices of these datagrams. -/
def Reports (rt : Runtime) (found : List DiscoveredDevice) (data : List Datagram) : Prop :=
  ∀ env targets port timeout s, Delivers rt env targets timeout data →
    answer (discover rt env targets port timeout) s = .ok found ∧
    ∀ deviceId, answer (findDeviceIp rt deviceId env targets port timeout) s =
      .ok ((found.find? (fun device => device.deviceId = deviceId)).map DiscoveredDevice.ip)

/-- Whoever drains the scan and whoever leaves it early see the same devices, once each and in the
order of their first replies, and noise changes nothing for either. -/
theorem discovery_agrees (rt : Runtime) (data : List Datagram) (hdata : ∀ d ∈ data, Decodes rt d) :
    ∃ found : List DiscoveredDevice, Reports rt found data ∧
      (∀ data', Noisy rt data data' → Reports rt found data') ∧
      (found.map DiscoveredDevice.deviceId).Nodup ∧
      (∀ device, device ∈ found ↔ ∃ before d after, data = before ++ d :: after ∧
        Announces rt d device ∧
        ∀ e ∈ before, ∀ other, Announces rt e other → other.deviceId ≠ device.deviceId) ∧
      found.Pairwise (fun a b => ArrivesBefore rt data a.deviceId b.deviceId) := by
  have hnoisy : ∀ data', Noisy rt data data' → Reports rt
      (firstsBy DiscoveredDevice.deviceId [] (data.filterMap (announced rt))) data' := by
    intro data' hnoise env targets port timeout s h
    have hdata' := noisy_decodes hnoise hdata
    rw [← firsts_noisy hnoise]
    constructor
    · exact discover_answer s h hdata'
    · intro deviceId
      exact findDeviceIp_answer s deviceId h hdata'
  refine ⟨_, hnoisy data .same, hnoisy, firstsBy_nodup _, ?_, ?_⟩
  · intro device
    rw [mem_firstsBy, earliest_iff]
    simp only [List.not_mem_nil, not_false_eq_true, true_and]
  · apply (firstsBy_order DiscoveredDevice.deviceId).imp
    intro a b h
    exact arrivesBefore_of_precedes h

/-- A reply on the LAN and a datagram that is none. -/
def replies : List Datagram :=
  [⟨ascii "\x7b\"msg\":\x7b\"did\":\"plug\"\x7d\x7d", str "10.0.0.7"⟩, ⟨ascii "?", str "10.0.0.8"⟩]

/-- A scan they arrive at. -/
def replyScan : ScanEnv :=
  ⟨none, 0, fun _ => false, 0, replies.map (fun d => ⟨1, .arrived d.data d.sender⟩)⟩

theorem discovery_agrees_replies : ∃ found : List DiscoveredDevice,
    answer (discover .plain replyScan BROADCAST_TARGETS DISCOVERY_PORT DEFAULT_TIMEOUT)
      ([], World.initial) = .ok found ∧
      (found.map DiscoveredDevice.deviceId).Nodup ∧
      ∀ data, Noisy .plain replies data → Reports .plain found data := by
  have hdecodes : ∀ d : Datagram, d.data.length ≤ 2048 →
      (decode Runtime.plain.toInterpreter d.data).isOk = true → Decodes .plain d := by
    intro d hshort h
    refine ⟨hshort, ?_⟩
    cases hd : decode Runtime.plain.toInterpreter d.data with
    | ok r => exact ⟨r, rfl⟩
    | error e =>
      rw [hd] at h
      cases h
  have hdata : ∀ d ∈ replies, Decodes .plain d := by
    intro d hd
    rcases List.mem_cons.mp hd with rfl | hd
    · exact hdecodes _ (by decide) (by decide +kernel)
    · rw [List.mem_singleton.mp hd]
      exact hdecodes _ (by decide) (by decide +kernel)
  have hdelivers : Delivers .plain replyScan BROADCAST_TARGETS DEFAULT_TIMEOUT replies := by
    refine ⟨⟨rfl, ?_⟩, ?_⟩
    · decide
    · norm_num [arrivals, replyScan, replies, DEFAULT_TIMEOUT]
      constructor <;> decide +kernel
  obtain ⟨found, hfound, hnoisy, hnodup, -⟩ := discovery_agrees .plain replies hdata
  exact ⟨found, (hfound _ _ _ _ _ hdelivers).1, hnodup, hnoisy⟩

/-- What a search of the rediscovering transport comes to, when it is a scan. -/
def lookup : Exit Unit Str → Except Exn (Option Str)
  | .left ip => .ok (some ip)
  | .ended _ => .ok none
  | .raised e => .error e

/-- A scan for one device is a search as the rediscovering transport knows it. -/
theorem findDeviceIp_refines (deviceId : Str) (env : ScanEnv) (targets : List Str) (port : Int)
    (timeout now : ℚ) : ∃ search : SearchEnv, search.now = now ∧ ∀ s,
      answer (findDeviceIp rt deviceId env targets port timeout) s =
        answer (RediscoveringLocalTransport.rediscover search) s.2 ∧
      (after (findDeviceIp rt deviceId env targets port timeout) s).2 =
        after (RediscoveringLocalTransport.rediscover search) s.2 := by
  by_cases hlistens : Listens rt env targets
  · -- the loop does not depend on where the scan starts, nor on the number its probe takes
    refine ⟨⟨now, some env.time,
      lookup (receive rt (ipVerdict deviceId) (env.started + timeout) env.turns [] ())⟩, rfl, ?_⟩
    intro s
    have hrun := listen_run env targets port timeout (ipVerdict deviceId) () s hlistens
    simp only [answer, after, findDeviceIp, RediscoveringLocalTransport.rediscover,
      EStateM.run_bind, hrun, run_newSn]
    cases receive rt (ipVerdict deviceId) (env.started + timeout) env.turns [] () <;>
      exact ⟨rfl, rfl⟩
  · cases hsetup : env.setup with
    | some text =>
      refine ⟨⟨now, none, .error (.os text)⟩, rfl, ?_⟩
      intro s
      simp [answer, after, findDeviceIp, listen, hsetup, RediscoveringLocalTransport.rediscover]
    | none =>
      have hraises : ¬ ∀ t ∈ targets.zipIdx, sendable rt t.1 = true := by
        intro hall
        apply hlistens
        refine ⟨hsetup, ?_⟩
        intro target htarget
        obtain ⟨i, hi, rfl⟩ := List.mem_iff_getElem.mp htarget
        exact hall (targets[i], i) (List.mk_mem_zipIdx_iff_getElem?.mpr (by simp [hi]))
      refine ⟨⟨now, some env.time, .error .type⟩, rfl, ?_⟩
      intro s
      obtain ⟨evs, hevs⟩ := broadcast_raises port
        (probeOf rt (intText (nextSn s.2.lastSn env.time))) env.refused targets.zipIdx hraises
      simp [-bind_pure_comp, answer, after, findDeviceIp, listen, hsetup, ensuring, probePayload,
        hevs, RediscoveringLocalTransport.rediscover]

end Scans

end CozyLife.Discovery
