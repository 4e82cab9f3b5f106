import CozyLife.Api.Client
import CozyLife.Lib.Threads

/-! Requests to one client that overlap. Home Assistant runs each on a thread of its executor: a look
at what they share is a step, and so is a change of it. Only the connection of a `LocalTransport` has
a lock. -/

namespace CozyLife
open Python Effects Threads

/-- What a request raises: what the transports raise, or the error of an operation on `None`. -/
inductive Raised
  | exn (e : Exn)
  | onNone
  deriving DecidableEq

/-- What a request does to a `LocalTransport`. -/
inductive Deed
  | acquired
  | did (e : Event)
  | released

/-- A `LocalTransport` with its lock, the request that holds the lock and what has been done to it. -/
structure SharedTransport where
  self : LocalTransport
  lock : Option Nat
  journal : List (Nat × Deed)

/-- What a request did on the sockets, or found as it took a step: a transport as it took its lock,
which one was current, and whether the circuit was open. -/
inductive Moment
  | did (e : Event)
  | took (r : Nat) (t : LocalTransport)
  | chose (r : Nat)
  | saw (openedAt : Option ℚ)

/-- A client that requests share. Its local transports are numbered as they are built, and the others
stay where they are when one of them takes their place. `own` is the relay connection a request has
for itself, `history` what each did and found. -/
structure SharedClient where
  client : FallbackClient (RediscoveringLocalTransport Nat) CloudRelayTransport
  transports : Nat → SharedTransport
  built : Nat
  own : Nat → Option Nat
  history : Nat → List Moment
  world : World

/-- A request under way, or a part of one. -/
abbrev Call (α : Type) := Thread Raised SharedClient α

namespace SharedClient

def put (s : SharedClient) (r : Nat) (t : SharedTransport) : SharedClient :=
  { s with transports := Function.update s.transports r t }

/-- Request `me` has done or found that. -/
def adding (s : SharedClient) (me : Nat) (ms : List Moment) : SharedClient :=
  { s with history := Function.update s.history me (s.history me ++ ms) }

/-- What has happened from one world to a later one. -/
def news (before after : World) : List Event := after.trace.drop before.trace.length

/-- Request `me` has left transport `r` and the world like this. -/
def wrote (s : SharedClient) (me r : Nat) (self : LocalTransport) (w : World) : SharedClient :=
  let evs := news s.world w
  { s.adding me (evs.map .did) with
    transports := Function.update s.transports r { s.transports r with
      self := self, journal := (s.transports r).journal ++ evs.map (fun e => (me, .did e)) }
    world := w }

/-- Request `me` has left the world like this, and owns that connection. -/
def talked (s : SharedClient) (me : Nat) (own : Option Nat) (w : World) : SharedClient :=
  { s.adding me ((news s.world w).map .did) with
    own := Function.update s.own me own
    world := w }

end SharedClient

namespace Overlap

/-- Errors of the transports as a request raises them. -/
def raising (m : EStateM Exn σ α) : EStateM Raised σ α := fun s =>
  match m.run s with
  | .ok a t => .ok a t
  | .error e t => .error (.exn e) t

@[simp] theorem run_raising (m : EStateM Exn σ α) (s : σ) : (raising m).run s =
    match m.run s with
    | .ok a t => .ok a t
    | .error e t => .error (.exn e) t := rfl

def look (f : SharedClient → α) : Call α := .act (fun s => .ok (f s) s)

/-- A look that request `me` keeps in its history. -/
def find (me : Nat) (f : SharedClient → α) (m : α → Moment) : Call α :=
  .act (fun s => .ok (f s) (s.adding me [m (f s)]))

def change (f : SharedClient → SharedClient) : Call Unit := .act (modify f)

def changeClient (f : FallbackClient (RediscoveringLocalTransport Nat) CloudRelayTransport →
    FallbackClient (RediscoveringLocalTransport Nat) CloudRelayTransport) : Call Unit :=
  change (fun s => { s with client := f s.client })

def info (line : LogLine) : Call Unit :=
  change (fun s => { s with world := { s.world with log := s.world.log ++ [line] } })

/-- `new_sn()`: it looks at the last number again when the clock is not beyond it. -/
def newSn (time : ℚ) : Call Str := do
  let now := (time * 1000).num.tdiv (time * 1000).den
  let behind ← look (fun s => decide (now ≤ s.world.lastSn))
  let candidate ← if behind then look (fun s => s.world.lastSn + 1) else pure now
  change (fun s => { s with world := { s.world with lastSn := candidate } })
  return intText candidate

variable (py : Interpreter)

/-! ### `local.py` -/

namespace Local

/-- What request `me` does on transport `r`, and writes down. -/
def onTransport (me r : Nat) (m : EStateM Raised (LocalTransport × World) α) :
    EStateM Raised SharedClient α := fun s =>
  match m.run ((s.transports r).self, s.world) with
  | .ok a t => .ok a (s.wrote me r t.1 t.2)
  | .error e t => .error e (s.wrote me r t.1 t.2)

def step (me r : Nat) (m : EStateM Raised (LocalTransport × World) α) : Call α :=
  .act (onTransport me r m)

def acquired (s : SharedClient) (me r : Nat) : SharedClient :=
  (s.adding me [.took r (s.transports r).self]).put r { s.transports r with
    lock := some me, journal := (s.transports r).journal ++ [(me, .acquired)] }

def released (s : SharedClient) (me r : Nat) : SharedClient :=
  s.put r { s.transports r with
    lock := none, journal := (s.transports r).journal ++ [(me, .released)] }

/-- `self._lock.acquire()`, which waits for the lock. -/
def acquire (me r : Nat) : Call Unit :=
  .await (fun s => (s.transports r).lock.isNone) (modify (fun s => acquired s me r))

def release (me r : Nat) : Call Unit := change (fun s => released s me r)

/-- `with self._lock`. -/
def locked (me r : Nat) (t : Call α) : Call α := do
  acquire me r
  .ensuring t (release me r)

/-- A method of `self._conn`. -/
def onConn (m : LineSocket → EStateM Raised (LocalTransport × World) α) :
    EStateM Raised (LocalTransport × World) α := do
  match (← get).1.conn with
  | some conn => m conn
  | none => throw .onNone

def setConn (conn : LineSocket) : EStateM Raised (LocalTransport × World) Unit :=
  raising (modifySelf (fun t => { t with conn := some conn }))

@[simp] theorem run_setConn (conn : LineSocket) (s : LocalTransport × World) :
    (setConn conn).run s = .ok () ({ s.1 with conn := some conn }, s.2) := rfl

theorem run_onConn {m : LineSocket → EStateM Raised (LocalTransport × World) α}
    {t : LocalTransport} {w : World} {conn : LineSocket} (h : t.conn = some conn) :
    (onConn m).run (t, w) = (m conn).run (t, w) := by
  simp [onConn, h]

/-- `self._conn.peer_has_closed()`. -/
def peerHasClosed (o : PeekOutcome) : EStateM Raised (LocalTransport × World) Bool :=
  onConn (fun conn => do
    setConn (conn.peerHasClosed o).2
    return (conn.peerHasClosed o).1)

/-- `self._conn.send_line(packet)`. -/
def sendLine (packet : Bytes) (o : SendOutcome) : EStateM Raised (LocalTransport × World) Unit :=
  onConn (fun conn => raising (onWorld (conn.sendLine packet o)))

/-- `self._conn = wire.connect(self._host, self._port, self._timeout)`. -/
def dial (o : ConnectOutcome) : EStateM Raised (LocalTransport × World) Unit := do
  let t := (← get).1
  let conn ← raising (onWorld (connect py t.host t.port t.timeout o))
  setConn conn

/-- The inner `while` of `lines`, up to the line at which the body does not ask for more. -/
def drained (body : β → Bytes → Verdict β α) (b : β) :
    EStateM Raised (LocalTransport × World) (Verdict β α) :=
  onConn (fun conn => do
    setConn { conn with buffer := (drain body b conn.buffer).2.1 }
    return (drain body b conn.buffer).2.2)

/-- The rest of a pass of `lines`. -/
def pulled (deadline : ℚ) (turn : Turn) : EStateM Raised (LocalTransport × World) Pull :=
  onConn (fun conn => do
    raising (onWorld (record (conn.pull deadline turn).1))
    setConn (conn.pull deadline turn).2.1
    return (conn.pull deadline turn).2.2)

/-- `for line in self._conn.lines(deadline): body`. -/
def lines (me r : Nat) (body : β → Bytes → Verdict β α) (deadline : ℚ) :
    List Turn → β → Call (Exit β α)
  | [], b => do
    match ← step me r (drained body b) with
    | .leave a => return .left a
    | .raise e => return .raised e
    | .next b => return .ended b
  | turn :: turns, b => do
    match ← step me r (drained body b) with
    | .leave a => return .left a
    | .raise e => return .raised e
    | .next b => match ← step me r (pulled deadline turn) with
      | .ended => return .ended b
      | .raised e => return .raised e
      | .more => lines me r body deadline turns b

/-- `_await_reply(frame)`. -/
def awaitReply (me r : Nat) (c : Conversation) (frame : Frame) : Call (Dict Json) := do
  if ← look (fun s => (s.transports r).self.conn.isNone) then .raise (.exn .assertion)
  let t ← look (fun s => (s.transports r).self)
  match ← lines me r (LocalTransport.replyVerdict py frame) (c.started + t.timeout) c.turns () with
  | .left reply => return reply
  | .raised e => .raise (.exn e)
  | .ended _ =>
    step me r (raising LocalTransport.disconnect)
    .raise (.exn (.transport ⟨t.repr ++ str " did not answer within " ++ py.durationText t.timeout ++
      str "s (listener may have stopped responding)"⟩))

def exchangeFresh (me r : Nat) (env : ExchangeEnv) (frame : Frame) : Call (Dict Json) := do
  step me r (dial py env.connect)
  match ← .caught (step me r (sendLine (encode py frame) env.fresh.send)) with
  | .ok () => awaitReply py me r env.fresh frame
  | .error (.exn (.transport e)) =>
    step me r (raising LocalTransport.disconnect)
    .raise (.exn (.transport e))
  | .error e => .raise e

/-- The part of `_exchange` under the lock. -/
def exchangeHeld (me r : Nat) (env : ExchangeEnv) (frame : Frame) : Call (Dict Json) := do
  if ← look (fun s => (s.transports r).self.conn.isNone) then exchangeFresh py me r env frame
  else if ← step me r (peerHasClosed env.peek) then
    step me r (raising LocalTransport.disconnect)
    exchangeFresh py me r env frame
  else
    match ← .caught (step me r (sendLine (encode py frame) env.held.send)) with
    | .ok () => awaitReply py me r env.held frame
    | .error (.exn (.transport _)) =>
      step me r (raising LocalTransport.disconnect)
      exchangeFresh py me r env frame
    | .error e => .raise e

/-- `_exchange(frame)`. -/
def exchange (me r : Nat) (env : ExchangeEnv) (frame : Frame) : Call (Dict Json) :=
  locked me r (exchangeHeld py me r env frame)

/-- `close()`. -/
def close (me r : Nat) : Call Unit := locked me r (step me r (raising LocalTransport.disconnect))

def query (me r : Nat) (env : LocalEnv) (attrs : Option (List Int)) : Call (Dict Json) := do
  let sn ← newSn env.time
  let reply ← exchange py me r env.exchange (queryFrameOf attrs sn)
  match LocalTransport.dataMap reply with
  | some data => return data
  | none =>
    let t ← look (fun s => (s.transports r).self)
    .raise (.exn (LocalTransport.noDataMap py (t.repr ++ str " answered without a data map: ") reply))

def control (me r : Nat) (env : LocalEnv) (payload : Payload) : Call Bool := do
  let sn ← newSn env.time
  let reply ← exchange py me r env.exchange (setFrameOf payload sn)
  return LocalTransport.accepted reply

end Local

/-! ### `cloud.py` -/

namespace Relay

/-- What request `me` does on a connection of its own; `owns` is what it owns once it returns. -/
def onOwn (me : Nat) (owns : α → Option Nat → Option Nat) (m : EStateM Exn World α) :
    EStateM Raised SharedClient α := fun s =>
  match m.run s.world with
  | .ok a w => .ok a (s.talked me (owns a (s.own me)) w)
  | .error e w => .error (.exn e) (s.talked me (s.own me) w)

def step (me : Nat) (m : EStateM Exn World α) : Call α := .act (onOwn me (fun _ own => own) m)

/-- `with wire.connect(self._host, self._port, self._timeout) as conn`. -/
def dial (me : Nat) (self : CloudRelayTransport) (o : ConnectOutcome) : Call LineSocket :=
  .act (onOwn me (fun conn _ => some conn.sock) (connect py self.host self.port self.timeout o))

/-- The end of the `with`. -/
def hangUp (me : Nat) (conn : LineSocket) : Call Unit :=
  .act (onOwn me (fun _ _ => none) conn.close)

variable (self : CloudRelayTransport)

/-- The body of the `with`. The lines of a connection that no other request can reach are read in one
step. -/
def converse (me : Nat) (env : RelayEnv) (frame : Frame) (conn : LineSocket) :
    Call (Option (Dict Json)) := do
  let subscribe ← .done (self.subscribeLine.mapError .exn)
  step me (conn.sendLine subscribe env.subscribe)
  let publish ← .done ((self.publishLine py frame).mapError .exn)
  step me (conn.sendLine publish env.publish)
  let r := conn.lines (self.relayVerdict py frame) (env.started + self.timeout) env.turns ()
  step me (record r.events)
  match r.exit with
  | .left reply => return some reply
  | .raised e => .raise (.exn e)
  | .ended _ => return none

/-- `_exchange(frame)`. -/
def exchange (me : Nat) (env : RelayEnv) (frame : Frame) : Call (Dict Json) := do
  let conn ← dial py me self env.connect
  match ← .ensuring (converse py self me env frame conn) (hangUp me conn) with
  | some reply => return reply
  | none => .raise (.exn (.transport
      ⟨self.repr ++ str " did not report back within " ++ py.durationText self.timeout ++ str "s"⟩))

def query (me : Nat) (env : RelayEnv) (attrs : Option (List Int)) : Call (Dict Json) := do
  let sn ← newSn env.time
  let reply ← exchange py self me env (queryFrameOf attrs sn)
  match LocalTransport.dataMap reply with
  | some data => return data
  | none => .raise (.exn (LocalTransport.noDataMap py
      (self.repr ++ str " reported without a data map: ") reply))

def control (me : Nat) (env : RelayEnv) (payload : Payload) : Call Bool := do
  let sn ← newSn env.time
  let reply ← exchange py self me env (setFrameOf payload sn)
  return LocalTransport.accepted reply

end Relay

/-! ### `rediscovering.py` -/

namespace Rediscovering

/-- `self._transport`. -/
def transport (me : Nat) : Call Nat := find me (fun s => s.client.local'.transport) .chose

/-- `_rediscover(device_id)`. -/
def rediscover (env : SearchEnv) : Call (Option Str) := do
  match env.probe with
  | some time => let _ ← newSn time
  | none => pure ()
  .done (env.found.mapError .exn)

/-- Whether the last search is too recent for another one. -/
def tooRecent (now : ℚ) : Call Bool := do
  match ← look (fun s => s.client.local'.lastSearch) with
  | none => return false
  | some _ => match ← look (fun s => (s.client.local'.lastSearch, s.client.local'.minInterval)) with
    | (none, _) => .raise .onNone
    | (some last, interval) => return decide (now - last < interval)

def installed (s : SharedClient) (t : LocalTransport) : SharedClient :=
  { s.put s.built ⟨t, none, []⟩ with
    built := s.built + 1
    client := { s.client with local' := { s.client.local' with transport := s.built } } }

/-- `self._transport = self._factory(found)`. -/
def install (t : LocalTransport) : Call Unit := change (fun s => installed s t)

variable (factory : Factory)

/-- `_relocate()`. -/
def relocate (me : Nat) (env : SearchEnv) : Call Bool := do
  if ← tooRecent env.now then return false
  changeClient (fun c => { c with local' := { c.local' with lastSearch := some env.now } })
  match ← .caught (rediscover env) with
  | .error (.exn (.os _)) => return false
  | .error e => .raise e
  | .ok none => return false
  | .ok (some found) =>
    let host ← look (fun s => s.client.local'.host)
    if found = [] ∨ found = host then return false
    Local.close me (← transport me)
    changeClient (fun c => { c with local' := { c.local' with host := found } })
    install (factory.build found)
    return true

def query (me : Nat) (env : RediscoverEnv LocalEnv) (attrs : Option (List Int)) :
    Call (Dict Json) := do
  match ← .caught (do Local.query py me (← transport me) env.first attrs) with
  | .ok data => return data
  | .error (.exn (.transport e)) =>
    if ← relocate factory me env.search then
      let l ← look (fun s => s.client.local')
      info (.moved l.deviceId l.host)
      Local.query py me (← transport me) env.retry attrs
    else .raise (.exn (.transport e))
  | .error e => .raise e

def control (me : Nat) (env : RediscoverEnv LocalEnv) (payload : Payload) : Call Bool := do
  match ← .caught (do Local.control py me (← transport me) env.first payload) with
  | .ok accepted => return accepted
  | .error (.exn (.transport e)) =>
    let _ ← relocate factory me env.search
    .raise (.exn (.transport e))
  | .error e => .raise e

/-- `close()`. -/
def close (me : Nat) : Call Unit := do Local.close me (← transport me)

end Rediscovering

/-! ### `fallback.py` -/

/-- `self._cloud`. -/
def cloud : Call (Option CloudRelayTransport) := look (fun s => s.client.cloud)

def openedAt : Call (Option ℚ) := look (fun s => s.client.circuitOpenedAt)

def activePath : Call (Option Str) := look (fun s => s.client.activePath)

/-- `_note_path(path)`. -/
def notePath (path : Str) : Call Unit := do
  if (← activePath) = some path then return ()
  match ← activePath with
  | none => info (.servedOver path)
  | some _ => info (.switched ((← activePath).getD (str "None")) path)
  changeClient (fun c => { c with activePath := some path })

/-- `self._circuit_opened_at` where `_should_try_local` looks at it. -/
def circuit (me : Nat) : Call (Option ℚ) := find me (fun s => s.client.circuitOpenedAt) .saw

/-- `_should_try_local()`. -/
def shouldTryLocal (me : Nat) (r : Readings) : Call Bool := do
  if (← cloud).isNone then return true
  if (← circuit me).isNone then return true
  match ← circuit me with
  | none => .raise .onNone
  | some opened =>
    if r.check - opened < (← look (fun s => s.client.recoveryInterval)) then return false
    changeClient (fun c => { c with circuitOpenedAt := some r.probe })
    return true

/-- `_record_local_failure()`. -/
def recordLocalFailure (r : Readings) : Call Unit := do
  let failures ← look (fun s => s.client.consecutiveFailures)
  changeClient (fun c => { c with consecutiveFailures := failures + 1 })
  if (← openedAt).isSome then return ()
  if (← cloud).isNone then return ()
  let c ← look (fun s => s.client)
  if c.failureThreshold ≤ c.consecutiveFailures then
    changeClient (fun c => { c with circuitOpenedAt := some r.trip })
    let c ← look (fun s => s.client)
    info (.localFailing c.consecutiveFailures c.recoveryInterval)

/-- `_record_local_success()`. -/
def recordLocalSuccess : Call Unit := do
  changeClient (fun c => { c with consecutiveFailures := 0 })
  if (← openedAt).isSome then
    changeClient (fun c => { c with circuitOpenedAt := none })
    info .localAnswering

/-- `_via_cloud(call, local_error=...)`. -/
def viaCloud (callCloud : CloudRelayTransport → Call α) (localError : Option TransportError) :
    Call α := do
  match ← cloud with
  | none => .raise (.exn .assertion)
  | some c =>
    match ← .caught (callCloud c) with
    | .error (.exn (.transport cloudError)) =>
      changeClient (fun c => { c with activePath := none })
      match localError with
      | none => .raise (.exn (.transport cloudError))
      | some localError => .raise (.exn (.transport
          ⟨str "both paths failed -- local: " ++ localError.message ++ str "; cloud: " ++
            cloudError.message⟩))
    | .error e => .raise e
    | .ok result =>
      notePath CloudRelayTransport.name
      return result

/-- `_attempt(call)`. -/
def attempt (me : Nat) (r : Readings) (callLocal : Call α)
    (callCloud : CloudRelayTransport → Call α) : Call α := do
  if ← shouldTryLocal me r then
    match ← .caught callLocal with
    | .error (.exn (.transport localError)) =>
      recordLocalFailure r
      if (← cloud).isNone then
        changeClient (fun c => { c with activePath := none })
        .raise (.exn (.transport localError))
      else viaCloud callCloud (some localError)
    | .error e => .raise e
    | .ok result =>
      recordLocalSuccess
      notePath RediscoveringLocalTransport.name
      return result
  else viaCloud callCloud none

variable (factory : Factory)

def query (me : Nat) (env : ClientEnv) (attrs : Option (List Int)) : Call (Dict Json) :=
  attempt me env.readings (Rediscovering.query py factory me env.local' attrs)
    (fun c => Relay.query py c me env.cloud attrs)

def control (me : Nat) (env : ClientEnv) (payload : Payload) : Call Bool :=
  attempt me env.readings (Rediscovering.control py factory me env.local' payload)
    (fun c => Relay.control py c me env.cloud payload)

/-- `close()`. -/
def close (me : Nat) : Call Unit := Rediscovering.close me

/-! ### Requests -/

/-- What the integration asks of a client. -/
inductive Request
  | query (env : ClientEnv) (attrs : Option (List Int))
  | control (env : ClientEnv) (payload : Payload)
  | close

inductive Reply
  | data (data : Dict Json)
  | accepted (accepted : Bool)
  | closed

/-- A request as the thread that runs it. -/
def Request.thread (me : Nat) : Request → Call Reply
  | .query env attrs => do return .data (← Overlap.query py factory me env attrs)
  | .control env payload => do return .accepted (← Overlap.control py factory me env payload)
  | .close => do
    Overlap.close me
    return .closed

/-- A new client that nothing has been asked of. -/
def shared (entry : ConfigEntry) : SharedClient :=
  let c := buildClient entry
  { client := { c.toBreaker with
      cloud := c.cloud
      activePath := c.activePath
      local' := { c.local' with transport := 0 } }
    transports := fun r => ⟨if r = 0 then c.local'.transport else
      (Factory.standard (entry.localTimeout.getD DEFAULT_LOCAL_TIMEOUT)).build [], none, []⟩
    built := 1
    own := fun _ => none
    history := fun _ => []
    world := World.initial }

/-- The client after its requests have taken their steps in this order. -/
def run (entry : ConfigEntry) (requests : Nat → Request) (schedule : List Nat) :
    Parallel Raised SharedClient Reply :=
  let factory := Factory.standard (entry.localTimeout.getD DEFAULT_LOCAL_TIMEOUT)
  Parallel.run schedule ⟨shared entry, fun me => (requests me).thread py factory me⟩

end Overlap

end CozyLife
