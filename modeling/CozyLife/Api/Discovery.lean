import CozyLife.Api.Rediscovering
import CozyLife.Python.Values

/-! `discovery.py`: finding a device's current address by a broadcast. -/

namespace CozyLife
open Python Effects

namespace Discovery

def DISCOVERY_PORT : Int := 6095
def BROADCAST_TARGETS : List Str := [str "255.255.255.255"]
def DEFAULT_TIMEOUT : ℚ := 3

/-- `sock.recvfrom` returns at most this much of a datagram. -/
def RECV_SIZE : Nat := 2048

structure DiscoveredDevice where
  deviceId : Str
  ip : Str
  mac : Option Json
  productId : Option Json
  softwareVersion : Option Json
  hardwareVersion : Option Json

/-- What `recvfrom` hands over: the bytes and the address they come from. -/
structure Datagram where
  data : Bytes
  sender : Str

inductive UdpRead
  | settimeoutFailed (text : Str)
  | timedOut
  | failed (text : Str)
  | arrived (packet : Bytes) (sender : Str)

/-- One turn of the receive loop: what the clock reads and how the socket then behaves. -/
structure UdpTurn where
  now : ℚ
  read : UdpRead

/-- What happens on the broadcast sockets. -/
inductive UdpEvent
  | opened
  | sent (payload : Bytes) (target : Str) (port : Int)
  | closed

/-- What a scan meets: whether its socket can be set up, `time.time()` as the probe is built, which
of the sends the host refuses, the clock as listening starts and the turns of the loop. -/
structure ScanEnv where
  setup : Option Str
  time : ℚ
  refused : Nat → Bool
  started : ℚ
  turns : List UdpTurn

variable (rt : Runtime)

/-- The probe, which unlike a frame of the transports has no terminator. -/
def probeOf (sn : Str) : Bytes :=
  let frame : Dict Json := [(str "cmd", .int CMD_INFO), (str "pv", .int PROTOCOL_VERSION),
    (str "sn", .str sn), (str "msg", .obj [])]
  (dumps rt.toInterpreter (.obj frame)).flatMap utf8Char

/-- `_probe_payload()`. -/
def probePayload (time : ℚ) : EStateM Exn World Bytes := do return probeOf rt (← newSn time)

/-- `_parse(data, sender_ip=...)`. -/
def parse (data : Bytes) (senderIp : Str) : Except Exn (Option DiscoveredDevice) :=
  match decode rt.toInterpreter data with
  | .error e => .error e
  | .ok none => .ok none
  | .ok (some frame) =>
    match frame.get (str "msg") with
    | some (.obj message) =>
      match Dict.getTruthy message (str "did") with
      | some deviceId =>
        let ip := (Dict.getTruthy message (str "ip")).getD (.str senderIp)
        match rt.text deviceId, rt.text ip with
        | some deviceId, some ip =>
          .ok (some ⟨deviceId, ip, Dict.getTruthy message (str "mac"),
            Dict.getTruthy message (str "pid"), Dict.getTruthy message (str "sv"),
            Dict.getTruthy message (str "hv")⟩)
        | _, _ => .error .recursion
      | none => .ok none
    | _ => .ok none

/-- The `while` of `_listen` under `for device in _listen(...): body`. After the last turn the
deadline has passed. -/
def receive (body : β → DiscoveredDevice → Verdict β α) (deadline : ℚ) :
    List UdpTurn → List Str → β → Exit β α
  | [], _, b => .ended b
  | turn :: turns, seen, b =>
    if deadline - turn.now ≤ 0 then .ended b
    else match turn.read with
      -- `settimeout` stands outside the `try`
      | .settimeoutFailed text => .raised (.os text)
      | .timedOut => .ended b
      | .failed _ => .ended b
      | .arrived packet sender =>
        match parse rt (packet.take RECV_SIZE) sender with
        | .error e => .raised e
        | .ok none => receive body deadline turns seen b
        | .ok (some device) =>
          if device.deviceId ∈ seen then receive body deadline turns seen b
          else match body b device with
            | .next b => receive body deadline turns (device.deviceId :: seen) b
            | .leave a => .left a
            | .raise e => .raised e

/-- Whether `sendto` takes the host of an address. Unlike `create_connection` it encodes no ASCII
host, and leaves it to the host to look it up. -/
def sendable (target : Str) : Bool :=
  if target.all (fun c => c.val < 0x80) then target.all (fun c => c.val ≠ 0)
  else rt.otherHost target

/-- The sends of a probe. A refused one, as of a target nobody knows, is only logged. -/
def broadcast (payload : Bytes) (port : Int) (refused : Nat → Bool) :
    List (Str × Nat) → Method (List UdpEvent) Unit
  | [] => pure ()
  | (target, i) :: targets => do
    if sendable rt target then
      if !refused i then modifySelf (fun evs => evs ++ [.sent payload target port])
      broadcast payload port refused targets
    else throw .type

/-- `for device in _listen(targets, port, timeout): body`. -/
def listen (body : β → DiscoveredDevice → Verdict β α) (env : ScanEnv) (targets : List Str)
    (port : Int) (timeout : ℚ) (b : β) : Method (List UdpEvent) (Exit β α) := do
  match env.setup with
  | some text => throw (.os text)
  | none =>
    modifySelf (fun evs => evs ++ [.opened])
    ensuring
      (do
        let payload ← onWorld (probePayload rt env.time)
        broadcast rt payload port env.refused targets.zipIdx
        return receive rt body (env.started + timeout) env.turns [] b)
      (modifySelf (fun evs => evs ++ [.closed]))

/-- `discover(targets=..., port=..., timeout=...)`. -/
def discover (env : ScanEnv) (targets : List Str) (port : Int) (timeout : ℚ) :
    Method (List UdpEvent) (List DiscoveredDevice) := do
  let body (found : List DiscoveredDevice) (device : DiscoveredDevice) : Verdict _ Empty :=
    .next (found ++ [device])
  match ← listen rt body env targets port timeout [] with
  | .ended found => return found
  | .raised e => throw e

/-- The body of the loop in `find_device_ip`. -/
def ipVerdict (deviceId : Str) (_ : Unit) (device : DiscoveredDevice) : Verdict Unit Str :=
  if device.deviceId = deviceId then .leave device.ip else .next ()

/-- `find_device_ip(device_id, targets=..., port=..., timeout=...)`. -/
def findDeviceIp (deviceId : Str) (env : ScanEnv) (targets : List Str) (port : Int)
    (timeout : ℚ) : Method (List UdpEvent) (Option Str) := do
  match ← listen rt (ipVerdict deviceId) env targets port timeout () with
  | .left ip => return some ip
  | .ended _ => return none
  | .raised e => throw e

end Discovery

end CozyLife
