import CozyLife.Api.Protocol
import CozyLife.Lib.Delimited
import Mathlib.Algebra.Order.Ring.Rat

/-! `wire.py`: CRLF lines over a plain TCP socket. How the socket behaves is an argument of each
function: one outcome for each call the function makes on it. Clocks, timeouts and deadlines are
exact: neither their sums nor their differences are rounded to a float. -/

namespace CozyLife
open Python Effects

/-- `socket.recv` takes at most this much at once. -/
def CHUNK : Nat := 4096

/-! ### Sockets -/

/-- An `OSError`: its text, and what `getpeername` answers at that moment. -/
structure Fault where
  text : Str
  peername : Option (Str × Int)

/-- `_peer()`. -/
def Fault.peer (f : Fault) : Str :=
  match f.peername with
  | some (host, port) => host ++ str ":" ++ intText port
  | none => str "peer"

/-- `sendall` takes every byte, or raises with only a proper prefix taken. -/
inductive SendOutcome
  | accepted
  | failed (taken : Nat) (fault : Fault)

/-- The bytes of `raw` that leave. -/
def SendOutcome.taken (o : SendOutcome) (raw : Bytes) : Bytes :=
  match o with
  | .accepted => raw
  | .failed n _ => raw.take (min n (raw.length - 1))

def SendOutcome.isAccepted : SendOutcome → Bool
  | .accepted => true
  | .failed _ _ => false

inductive ConnectOutcome
  | opened
  | refused (text : Str)

inductive ReadOutcome
  | settimeoutFailed (text : Str)
  | timedOut
  | failed (fault : Fault)
  | received (chunk : Bytes)

/-- One turn of the read loop: what the clock reads and how the socket then behaves. -/
structure Turn where
  now : ℚ
  read : ReadOutcome

inductive PeekResult
  | setblockingFailed
  | wouldBlock
  | interrupted
  | failed
  | data (bytes : Bytes)

/-- What a look at an idle socket meets, and whether it can be switched back to blocking. -/
structure PeekOutcome where
  look : PeekResult
  restored : Bool

/-! ### `LineSocket` -/

structure LineSocket where
  sock : Nat
  buffer : Bytes
  timeout : Option ℚ

/-- Labels of an ASCII host as IDNA takes them: only the last may be empty, none over 63. -/
def asciiLabels (host : Str) : Bool :=
  let labels := splitOn (ofChar '.') host
  labels.dropLast.all (fun l => l ≠ []) && labels.all (fun l => l.length < 64)

/-- Whether `socket.create_connection` can encode the host. -/
def idnaEncodable (py : Interpreter) (host : Str) : Bool :=
  if host.all (fun c => c.val < 0x80) then host = [] || asciiLabels host else py.otherHost host

/-- The ports `getaddrinfo` takes are those that fit a C `long`. -/
def fitsLong (port : Int) : Bool := -2 ^ 63 ≤ port && port < 2 ^ 63

/-- Whether `socket.create_connection` gets as far as looking the address up. -/
def addressable (py : Interpreter) (host : Str) (port : Int) : Bool :=
  idnaEncodable py host && fitsLong port

/-- What it raises else. The host is encoded before the port is looked at. -/
def addressError (py : Interpreter) (host : Str) : Exn :=
  if idnaEncodable py host then .overflow else .unicode

/-- The `TransportError` of a connection that cannot be opened. -/
def connectError (host : Str) (port : Int) (text : Str) : Exn :=
  .transport ⟨str "cannot connect to " ++ host ++ str ":" ++ intText port ++ str ": " ++ text⟩

/-- `wire.connect`. It catches `OSError`, which is not what an address that is none raises. -/
def connect (py : Interpreter) (host : Str) (port : Int) (timeout : ℚ) (o : ConnectOutcome) :
    EStateM Exn World LineSocket := do
  record [.connecting host port timeout]
  if addressable py host port then
    match o with
    | .opened =>
      let w ← get
      modify (fun w => { w with sockets := w.sockets + 1 })
      record [.opened w.sockets]
      return ⟨w.sockets, [], some timeout⟩
    | .refused text => throw (connectError host port text)
  else throw (addressError py host)

/-- The `TransportError` of a write that fails. -/
def sendError (fault : Fault) : Exn :=
  .transport ⟨str "failed sending to " ++ fault.peer ++ str ": " ++ fault.text⟩

/-- `send_line(raw)`. -/
def LineSocket.sendLine (conn : LineSocket) (raw : Bytes) (o : SendOutcome) :
    EStateM Exn World Unit := do
  record [.sent conn.sock conn.timeout raw (o.taken raw)]
  match o with
  | .accepted => pure ()
  | .failed _ fault => throw (sendError fault)

def LineSocket.close (conn : LineSocket) : EStateM Exn World Unit := record [.closed conn.sock]

/-- `peer_has_closed()`: the verdict, and the socket in the mode the look leaves it in. -/
def LineSocket.peerHasClosed (conn : LineSocket) (o : PeekOutcome) : Bool × LineSocket :=
  if conn.buffer ≠ [] then (false, conn)
  else
    let verdict := match o.look with
      | .setblockingFailed => true
      | .wouldBlock => false
      | .interrupted => false
      | .failed => true
      | .data bytes => bytes = []
    let mode := if o.restored then none else match o.look with
      | .setblockingFailed => conn.timeout
      | _ => some 0
    (verdict, { conn with timeout := mode })

section Runs

variable (py : Interpreter) (w : World)

theorem connect_refused (host : Str) (port : Int) (timeout : ℚ) (text : Str)
    (h : addressable py host port = true) : (connect py host port timeout (.refused text)).run w =
      .error (connectError host port text)
        { w with trace := w.trace ++ [.connecting host port timeout] } := by
  simp [connect, h]

theorem connect_opened (host : Str) (port : Int) (timeout : ℚ)
    (h : addressable py host port = true) : (connect py host port timeout .opened).run w =
      .ok ⟨w.sockets, [], some timeout⟩
        { w with sockets := w.sockets + 1,
                 trace := w.trace ++ [.connecting host port timeout, .opened w.sockets] } := by
  simp [-bind_pure_comp, connect, h]

theorem connect_unaddressable (host : Str) (port : Int) (timeout : ℚ) (o : ConnectOutcome)
    (h : addressable py host port = false) : (connect py host port timeout o).run w =
      .error (addressError py host)
        { w with trace := w.trace ++ [.connecting host port timeout] } := by
  simp [connect, h]

@[simp] theorem sendLine_accepted (conn : LineSocket) (raw : Bytes) :
    (conn.sendLine raw .accepted).run w =
      .ok () { w with trace := w.trace ++ [.sent conn.sock conn.timeout raw raw] } := by
  simp [LineSocket.sendLine, SendOutcome.taken]

@[simp] theorem sendLine_failed (conn : LineSocket) (raw : Bytes) (k : Nat) (fault : Fault) :
    (conn.sendLine raw (.failed k fault)).run w =
      .error (sendError fault) { w with trace := w.trace ++
        [.sent conn.sock conn.timeout raw ((SendOutcome.failed k fault).taken raw)] } := by
  simp [LineSocket.sendLine]

end Runs

/-! ### `lines` -/

/-- What the body of `for line in conn.lines(deadline)` does with a line: ask for the next one, leave
the loop with a value, or raise. `β` is what the body remembers from line to line. -/
inductive Verdict (β α : Type)
  | next (b : β)
  | leave (a : α)
  | raise (e : Exn)

/-- How the loop over the lines ends: the generator is exhausted, the body leaves, or one raises. -/
inductive Exit (β α : Type)
  | ended (b : β)
  | left (a : α)
  | raised (e : Exn)

/-- What a loop over the lines does: the lines its body was given, what happened on the socket, the
socket it leaves and how it ends. -/
structure Reading (β α : Type) where
  given : List Bytes
  events : List Event
  conn : LineSocket
  exit : Exit β α

def partitionLine : Bytes → Option (Bytes × Bytes) := Delimited.cut 0x0D 0x0A

/-- `while TERMINATOR in self._buffer`, up to the line at which the body does not ask for more: the
lines given, what is left of the buffer and the last verdict. -/
def drain (body : β → Bytes → Verdict β α) (b : β) (buffer : Bytes) :
    List Bytes × Bytes × Verdict β α :=
  match _h : partitionLine buffer with
  | none => ([], buffer, .next b)
  | some (line, rest) =>
    if line = [] then drain body b rest
    else match body b line with
      | .next b' =>
        let d := drain body b' rest
        (line :: d.1, d.2)
      | verdict => ([line], rest, verdict)
termination_by buffer.length
decreasing_by all_goals exact Delimited.cut_length _h

/-- How the part of the loop below the inner `while` ends. -/
inductive Pull
  | more
  | ended
  | raised (e : Exn)

/-- One pass of `lines` from its look at the clock to the bytes it adds to the buffer. -/
def LineSocket.pull (conn : LineSocket) (deadline : ℚ) (turn : Turn) :
    List Event × LineSocket × Pull :=
  let remaining := deadline - turn.now
  if remaining ≤ 0 then ([], conn, .ended)
  else match turn.read with
    -- `settimeout` stands outside the `try`
    | .settimeoutFailed text => ([], conn, .raised (.os text))
    | .timedOut =>
      ([.read conn.sock (some remaining) []], { conn with timeout := some remaining }, .ended)
    | .failed fault =>
      ([.read conn.sock (some remaining) []], { conn with timeout := some remaining },
        .raised (.transport ⟨str "failed reading from " ++ fault.peer ++ str ": " ++ fault.text⟩))
    | .received chunk =>
      ([.read conn.sock (some remaining) chunk],
        { conn with timeout := some remaining, buffer := conn.buffer ++ chunk },
        if chunk = [] then .ended else .more)

/-- `for line in conn.lines(deadline): body`. After the last turn the deadline has passed. -/
def LineSocket.lines (body : β → Bytes → Verdict β α) (deadline : ℚ) (turns : List Turn) (b : β)
    (conn : LineSocket) : Reading β α :=
  let d := drain body b conn.buffer
  let conn := { conn with buffer := d.2.1 }
  match d.2.2 with
  | .leave a => ⟨d.1, [], conn, .left a⟩
  | .raise e => ⟨d.1, [], conn, .raised e⟩
  | .next b => match turns with
    | [] => ⟨d.1, [], conn, .ended b⟩
    | turn :: turns => match conn.pull deadline turn with
      | (evs, conn, .ended) => ⟨d.1, evs, conn, .ended b⟩
      | (evs, conn, .raised e) => ⟨d.1, evs, conn, .raised e⟩
      | (evs, conn, .more) =>
        let r := lines body deadline turns b conn
        { r with given := d.1 ++ r.given, events := evs ++ r.events }

end CozyLife
