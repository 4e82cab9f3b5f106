import CozyLife.Api.Wire

/-! `local.py`: the device's own listener, over one connection that is held open between calls. -/

namespace CozyLife
open Python Effects

/-- A class of transports, seen from outside: its methods on objects `T`, each under what the outside
world does during the call. `close` is `getattr(transport, "close", None)`. -/
structure Transport (ω T : Type) where
  name : Str
  query : ω → Option (List Int) → Method T (Dict Json)
  control : ω → Payload → Method T Bool
  close : Option (Method T Unit)

/-- What sending one frame and waiting for its reply meets on a connection. -/
structure Conversation where
  send : SendOutcome
  started : ℚ
  turns : List Turn

/-- What one exchange meets: on the held connection, should it be tried, and on a fresh one. -/
structure ExchangeEnv where
  peek : PeekOutcome
  held : Conversation
  connect : ConnectOutcome
  fresh : Conversation

/-- An exchange and the reading of `time.time()` its frame is built at. -/
structure LocalEnv where
  time : ℚ
  exchange : ExchangeEnv

structure LocalTransport where
  host : Str
  port : Int
  timeout : ℚ
  conn : Option LineSocket

namespace LocalTransport

def DEFAULT_PORT : Int := 5555

def name : Str := str "local"

def repr (t : LocalTransport) : Str :=
  str "LocalTransport(" ++ t.host ++ str ":" ++ intText t.port ++ str ")"

/-- `_disconnect()`, which is all that `close()` does under its lock. -/
def disconnect : Method LocalTransport Unit := do
  match (← getSelf).conn with
  | some conn =>
    onWorld conn.close
    modifySelf (fun t => { t with conn := none })
  | none => pure ()

variable (py : Interpreter)

/-- The body of the loop in `_await_reply`. -/
def replyVerdict (frame : Frame) (_ : Unit) (line : Bytes) : Verdict Unit (Dict Json) :=
  match decode py line with
  | .error e => .raise e
  | .ok none => .next ()
  | .ok (some reply) => if answers frame reply then .leave reply else .next ()

/-- `_await_reply(frame)`. Only the loop that runs dry drops the connection; an exception out of the
loop passes through. -/
def awaitReply (c : Conversation) (frame : Frame) : Method LocalTransport (Dict Json) := do
  let t ← getSelf
  match t.conn with
  | none => throw .assertion
  | some conn =>
    let r := conn.lines (replyVerdict py frame) (c.started + t.timeout) c.turns ()
    onWorld (record r.events)
    modifySelf (fun t => { t with conn := some r.conn })
    match r.exit with
    | .left reply => return reply
    | .raised e => throw e
    | .ended _ =>
      disconnect
      raiseTransport (t.repr ++ str " did not answer within " ++ py.durationText t.timeout ++
        str "s (listener may have stopped responding)")

/-- The part of `_exchange` that opens a connection of its own. -/
def exchangeFresh (env : ExchangeEnv) (frame : Frame) : Method LocalTransport (Dict Json) := do
  let t ← getSelf
  let conn ← onWorld (connect py t.host t.port t.timeout env.connect)
  modifySelf (fun t => { t with conn := some conn })
  match ← caught (onWorld (conn.sendLine (encode py frame) env.fresh.send)) with
  | .ok () => awaitReply py env.fresh frame
  | .error (.transport e) =>
    disconnect
    throw (.transport e)
  | .error e => throw e

/-- `_exchange(frame)`. -/
def exchange (env : ExchangeEnv) (frame : Frame) : Method LocalTransport (Dict Json) := do
  match (← getSelf).conn with
  | none => exchangeFresh py env frame
  | some conn =>
    let (closed, conn) := conn.peerHasClosed env.peek
    modifySelf (fun t => { t with conn := some conn })
    if closed then
      disconnect
      exchangeFresh py env frame
    else
      match ← caught (onWorld (conn.sendLine (encode py frame) env.held.send)) with
      | .ok () => awaitReply py env.held frame
      | .error (.transport _) =>
        disconnect
        exchangeFresh py env frame
      | .error e => throw e

/-- `message.get("data")` of a reply, when it is a map. -/
def dataMap (reply : Dict Json) : Option (Dict Json) :=
  match reply.get (str "msg") with
  | some (.obj message) => match Dict.get message (str "data") with
    | some (.obj data) => some data
    | _ => none
  | _ => none

/-- `reply.get("res") == 0`. -/
def accepted (reply : Dict Json) : Bool :=
  match reply.get (str "res") with
  | some res => res.eqZero
  | none => false

/-- The error of a reply without a data map, whose text ends with the reply as it prints. -/
def noDataMap (lead : Str) (reply : Dict Json) : Exn :=
  match py.dictText reply with
  | some text => .transport ⟨lead ++ text⟩
  | none => .recursion

def query (env : LocalEnv) (attrs : Option (List Int)) : Method LocalTransport (Dict Json) := do
  let frame ← onWorld (queryFrame attrs none env.time)
  let reply ← exchange py env.exchange frame
  match dataMap reply with
  | some data => return data
  | none =>
    throw (noDataMap py ((← getSelf).repr ++ str " answered without a data map: ") reply)

def control (env : LocalEnv) (payload : Payload) : Method LocalTransport Bool := do
  let frame ← onWorld (setFrame payload none env.time)
  let reply ← exchange py env.exchange frame
  return accepted reply

def asTransport : Transport LocalEnv LocalTransport where
  name := name
  query := query py
  control := control py
  close := some disconnect

end LocalTransport

end CozyLife
