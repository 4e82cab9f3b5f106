import CozyLife.Api.Errors

/-! `protocol.py`: the device frame, shared by the local and the cloud transport. -/

namespace CozyLife
open Python Effects

def TERMINATOR : Bytes := [0x0D, 0x0A]

def CMD_INFO : Int := 0
def CMD_QUERY : Int := 2
def CMD_SET : Int := 3
def PROTOCOL_VERSION : Int := 0
def ATTR_ALL : Int := 0

/-- The number `new_sn` gives out when `time.time()` reads `time`. `int` truncates towards zero. -/
def nextSn (last : Int) (time : ℚ) : Int :=
  let now := (time * 1000).num.tdiv (time * 1000).den
  if now ≤ last then last + 1 else now

theorem lt_nextSn (last : Int) (time : ℚ) : last < nextSn last time := by
  simp only [nextSn]
  split <;> omega

/-- `new_sn()`. -/
def newSn (time : ℚ) : EStateM Exn World Str := do
  let w ← get
  let candidate := nextSn w.lastSn time
  modify (fun w => { w with lastSn := candidate })
  return intText candidate

/-- `sn or new_sn()`: an empty `sn` is as good as none. -/
def snOr (sn : Option Str) (time : ℚ) : EStateM Exn World Str :=
  match sn with
  | some s => if s = [] then newSn time else pure s
  | none => newSn time

/-- A frame as `query_frame` and `set_frame` build it. -/
structure Frame where
  pv : Int
  cmd : Int
  sn : Str
  msg : Dict Json

def Frame.toDict (f : Frame) : Dict Json :=
  [(str "pv", .int f.pv), (str "cmd", .int f.cmd), (str "sn", .str f.sn), (str "msg", .obj f.msg)]

def queryFrameOf (attrs : Option (List Int)) (sn : Str) : Frame :=
  let wanted := match attrs with
    | some (a :: as) => a :: as
    | _ => [ATTR_ALL]
  ⟨PROTOCOL_VERSION, CMD_QUERY, sn, [(str "attr", .arr (wanted.map .int))]⟩

def queryFrame (attrs : Option (List Int)) (sn : Option Str) (time : ℚ) : EStateM Exn World Frame :=
  do return queryFrameOf attrs (← snOr sn time)

/-- A datapoint id as callers give it: a number, or the decimal text of one. -/
inductive Dpid
  | int (n : Int)
  | text (negative : Bool) (digits : Str) (decimal : digits ≠ [] ∧ digits.all isDigit)

/-- `str(dpid)`. -/
def Dpid.toText : Dpid → Str
  | .int n => intText n
  | .text negative digits _ => if negative then ofChar '-' :: digits else digits

/-- `int(text)` of a decimal text. -/
def decimalValue : Str → Int
  | [] => 0
  | c :: ds => if c = ofChar '-' then -(digitsValue ds : Int) else digitsValue (c :: ds)

abbrev Payload := List (Dpid × Int)

/-- `{str(dpid): value for dpid, value in payload.items()}`. -/
def payloadData (payload : Payload) : Dict Int :=
  payload.foldl (fun data p => data.set p.1.toText p.2) []

def setFrameOf (payload : Payload) (sn : Str) : Frame :=
  let data := payloadData payload
  ⟨PROTOCOL_VERSION, CMD_SET, sn,
    [(str "attr", .arr (data.map (fun p => .int (decimalValue p.1)))),
      (str "data", .obj (data.map (fun p => (p.1, .int p.2))))]⟩

def setFrame (payload : Payload) (sn : Option Str) (time : ℚ) : EStateM Exn World Frame :=
  do return setFrameOf payload (← snOr sn time)

section Runs

variable (w : World) (time : ℚ)

@[simp] theorem run_newSn : (newSn time).run w =
    .ok (intText (nextSn w.lastSn time)) { w with lastSn := nextSn w.lastSn time } := rfl

@[simp] theorem run_queryFrame (attrs : Option (List Int)) : (queryFrame attrs none time).run w =
    .ok (queryFrameOf attrs (intText (nextSn w.lastSn time)))
      { w with lastSn := nextSn w.lastSn time } := rfl

@[simp] theorem run_setFrame (payload : Payload) : (setFrame payload none time).run w =
    .ok (setFrameOf payload (intText (nextSn w.lastSn time)))
      { w with lastSn := nextSn w.lastSn time } := rfl

end Runs

section Codec

variable (py : Interpreter)

/-- The text of a frame without its terminator. `json.dumps` escapes everything beyond ASCII, so
each character is one byte of the encoding. -/
def frameText (f : Frame) : Str := dumps py (.obj f.toDict)

def encode (f : Frame) : Bytes := (frameText py f).flatMap utf8Char ++ TERMINATOR

/-- `decode(raw)` for text; the two errors of `json.loads` it does not catch go through. -/
def decodeText (text : Str) : Except Exn (Option (Dict Json)) :=
  match loads py (strip text) with
  | .error .decode => .ok none
  | .error .digits => .error .value
  | .error .recursion => .error .recursion
  | .ok (.obj d) => .ok (some d)
  | .ok _ => .ok none

/-- `decode(raw)` for bytes. -/
def decode (raw : Bytes) : Except Exn (Option (Dict Json)) :=
  match decodeUtf8 raw with
  | none => .ok none
  | some text => decodeText py text

end Codec

/-- `reply.get("sn") == frame["sn"]`. -/
def answers (f : Frame) (reply : Dict Json) : Bool :=
  match reply.get (str "sn") with
  | some sn => sn.eqStr f.sn
  | none => false

end CozyLife
