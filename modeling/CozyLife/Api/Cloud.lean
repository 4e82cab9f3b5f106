import CozyLife.Api.Local

/-! `cloud.py`: the relay, over one connection per exchange. -/

namespace CozyLife
open Python Effects

/-- What one exchange with the relay meets. -/
structure RelayEnv where
  time : ℚ
  started : ℚ
  connect : ConnectOutcome
  subscribe : SendOutcome
  publish : SendOutcome
  turns : List Turn

/-- `_parse_line(line)`: a later field of the same name wins, a part without `=` is dropped. -/
def parseLine (line : Bytes) : Dict Str :=
  (splitOn (ofChar '&') (decodeReplace line)).foldl (fun fields part =>
    match partition (ofChar '=') part with
    | some (key, value) => Dict.set fields key value
    | none => fields) []

structure CloudRelayTransport where
  deviceId : Str
  deviceKey : Str
  host : Str
  port : Int
  timeout : ℚ

namespace CloudRelayTransport

def DEFAULT_PORT : Int := 8898

def name : Str := str "cloud"

variable (self : CloudRelayTransport)

/-- The device key is not in it. -/
def repr : Str :=
  str "CloudRelayTransport(" ++ self.deviceId ++ str " via " ++ self.host ++ str ":" ++
    intText self.port ++ str ")"

def reportTopic : Str := str "device_" ++ self.deviceId

def controlTopic : Str := str "control_" ++ self.deviceId

/-- `_compose(**fields)`; a lone surrogate in the line is a `UnicodeEncodeError`. -/
def compose (fields : Dict Str) : Except Exn Bytes :=
  let setdefault (fields : Dict Str) (key value : Str) : Dict Str :=
    if fields.any (fun p => p.1 == key) then fields else fields ++ [(key, value)]
  let fields := setdefault fields (str "device_id") self.deviceId
  let fields := setdefault fields (str "device_key") self.deviceKey
  let line := (str "&").intercalate (fields.map (fun p => p.1 ++ str "=" ++ p.2))
  match encodeUtf8 line with
  | some raw => .ok (raw ++ TERMINATOR)
  | none => .error .unicode

/-- `_is_undelivered_ack(fields)`. -/
def isUndeliveredAck (fields : Dict Str) : Bool :=
  fields.get (str "cmd") == some (str "publish") && fields.get (str "num") == some (str "0")

section Exchange

variable (py : Interpreter)

/-- `_extract_report(fields)`. -/
def extractReport (fields : Dict Str) : Except Exn (Option (Dict Json)) :=
  if fields.get (str "topic") ≠ some self.reportTopic then .ok none
  else match fields.get (str "message") with
    | none => .ok none
    | some raw => decodeText py (unquote raw)

/-- The body of the loop in `_exchange`. -/
def relayVerdict (frame : Frame) (_ : Unit) (line : Bytes) : Verdict Unit (Dict Json) :=
  let fields := parseLine line
  if isUndeliveredAck fields then
    .raise (.transport ⟨self.repr ++ str " accepted the command but reached no subscriber " ++
      str "(device offline, or registered on a different relay port)"⟩)
  else match self.extractReport py fields with
    | .error e => .raise e
    | .ok none => .next ()
    | .ok (some reply) => if answers frame reply then .leave reply else .next ()

def subscribeLine : Except Exn Bytes :=
  self.compose [(str "cmd", str "subscribe"), (str "topic", self.reportTopic)]

/-- The line that carries the frame: its text, percent-encoded. -/
def publishLine (frame : Frame) : Except Exn Bytes :=
  self.compose [(str "cmd", str "publish"), (str "topic", self.controlTopic),
    (str "message", quote ((encode py frame).dropLast.dropLast))]

/-- The body of the `with` in `_exchange`: none when the lines end without an answer. -/
def converse (env : RelayEnv) (frame : Frame) (conn : LineSocket) :
    EStateM Exn World (Option (Dict Json)) := do
  conn.sendLine (← rethrow self.subscribeLine) env.subscribe
  conn.sendLine (← rethrow (self.publishLine py frame)) env.publish
  let r := conn.lines (self.relayVerdict py frame) (env.started + self.timeout) env.turns ()
  record r.events
  match r.exit with
  | .left reply => return some reply
  | .raised e => throw e
  | .ended _ => return none

/-- `_exchange(frame)`. -/
def exchange (env : RelayEnv) (frame : Frame) : EStateM Exn World (Dict Json) := do
  let conn ← connect py self.host self.port self.timeout env.connect
  match ← ensuring (self.converse py env frame conn) conn.close with
  | some reply => return reply
  | none =>
    raiseTransport
      (self.repr ++ str " did not report back within " ++ py.durationText self.timeout ++ str "s")

def query (env : RelayEnv) (attrs : Option (List Int)) : EStateM Exn World (Dict Json) := do
  let frame ← queryFrame attrs none env.time
  let reply ← self.exchange py env frame
  match LocalTransport.dataMap reply with
  | some data => return data
  | none =>
    throw (LocalTransport.noDataMap py (self.repr ++ str " reported without a data map: ") reply)

def control (env : RelayEnv) (payload : Payload) : EStateM Exn World Bool := do
  let frame ← setFrame payload none env.time
  let reply ← self.exchange py env frame
  return LocalTransport.accepted reply

end Exchange

/-- The relay holds nothing between calls and has no `close`. -/
def asTransport (py : Interpreter) : Transport RelayEnv CloudRelayTransport where
  name := name
  query env attrs := do onWorld ((← getSelf).query py env attrs)
  control env payload := do onWorld ((← getSelf).control py env payload)
  close := none

end CloudRelayTransport

end CozyLife
