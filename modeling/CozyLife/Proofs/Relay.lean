import CozyLife.Api.Cloud
import CozyLife.Proofs.Exchange

/-! An exchange with the relay, over a connection that is opened for it and closed after it. -/

namespace CozyLife
open Python Effects Lines

namespace CloudRelayTransport

variable (py : Interpreter) (self : CloudRelayTransport)

/-! ### The lines to the relay -/

/-- Whether the identity of the device can be encoded into a line. -/
def encodable : Bool := !(self.deviceId.any isSurrogate || self.deviceKey.any isSurrogate)

def subscribeText : Str :=
  str "cmd=subscribe&topic=device_" ++ self.deviceId ++ str "&device_id=" ++ self.deviceId ++
    str "&device_key=" ++ self.deviceKey

def publishText (frame : Frame) : Str :=
  str "cmd=publish&topic=control_" ++ self.deviceId ++ str "&message=" ++
    quote ((encode py frame).dropLast.dropLast) ++ str "&device_id=" ++ self.deviceId ++
    str "&device_key=" ++ self.deviceKey

def lineOf (text : Str) : Except Exn Bytes :=
  match encodeUtf8 text with
  | some raw => .ok (raw ++ TERMINATOR)
  | none => .error .unicode

theorem subscribeLine_eq : self.subscribeLine = lineOf self.subscribeText := by
  have h : (str "&").intercalate ([(str "cmd", str "subscribe"), (str "topic", self.reportTopic),
      (str "device_id", self.deviceId), (str "device_key", self.deviceKey)].map
        (fun p => p.1 ++ str "=" ++ p.2)) = self.subscribeText := by
    simp only [List.intercalate, List.map, List.intersperse, List.flatten, reportTopic,
      subscribeText, List.append_eq, List.append_assoc, List.append_nil]
    rfl
  rw [← h]
  rfl

theorem publishLine_eq (frame : Frame) :
    self.publishLine py frame = lineOf (self.publishText py frame) := by
  have h : (str "&").intercalate ([(str "cmd", str "publish"), (str "topic", self.controlTopic),
      (str "message", quote ((encode py frame).dropLast.dropLast)),
      (str "device_id", self.deviceId), (str "device_key", self.deviceKey)].map
        (fun p => p.1 ++ str "=" ++ p.2)) = self.publishText py frame := by
    simp only [List.intercalate, List.map, List.intersperse, List.flatten, controlTopic,
      publishText, List.append_eq, List.append_assoc, List.append_nil]
    rfl
  rw [← h]
  rfl

theorem isSurrogate_of_lt {c : CodePoint} (h : c.val < 0xD800) : isSurrogate c = false := by
  simp only [isSurrogate, Bool.and_eq_false_iff, decide_eq_false_iff_not]
  omega

theorem quote_plain (raw : Bytes) : (quote raw).any isSurrogate = false := by
  rw [List.any_eq_false]
  intro c hc
  obtain ⟨b, _, hb⟩ := List.mem_flatMap.mp hc
  have hn := b.toNat_lt
  have hlt : c.val < 0xD800 := by
    unfold quoteByte at hb
    split at hb
    · rw [List.mem_singleton.mp hb]
      simp only [Fin.ofNat]
      omega
    · simp only [List.mem_cons, List.not_mem_nil, or_false] at hb
      rcases hb with rfl | rfl | rfl
      · decide
      · simp only [hexDigit, Fin.ofNat]
        split <;> omega
      · simp only [hexDigit, Fin.ofNat]
        split <;> omega
  simp [isSurrogate_of_lt hlt]

theorem subscribeText_plain : self.subscribeText.any isSurrogate = !self.encodable := by
  have h₁ : (str "cmd=subscribe&topic=device_").any isSurrogate = false := by decide
  have h₂ : (str "&device_id=").any isSurrogate = false := by decide
  have h₃ : (str "&device_key=").any isSurrogate = false := by decide
  simp only [subscribeText, List.any_append, h₁, h₂, h₃, encodable, Bool.not_not]
  cases self.deviceId.any isSurrogate <;> rfl

theorem publishText_plain (frame : Frame) :
    (self.publishText py frame).any isSurrogate = !self.encodable := by
  have h₁ : (str "cmd=publish&topic=control_").any isSurrogate = false := by decide
  have h₂ : (str "&message=").any isSurrogate = false := by decide
  have h₃ : (str "&device_id=").any isSurrogate = false := by decide
  have h₄ : (str "&device_key=").any isSurrogate = false := by decide
  simp only [publishText, List.any_append, h₁, h₂, h₃, h₄, quote_plain, encodable, Bool.not_not]
  cases self.deviceId.any isSurrogate <;> rfl

theorem lineOf_plain (text : Str) : lineOf text =
    if text.any isSurrogate then .error .unicode
    else .ok (text.flatMap utf8Char ++ TERMINATOR) := by
  unfold lineOf encodeUtf8
  split <;> simp_all

/-- Both lines can be put together, or neither. -/
theorem subscribeLine_cases : self.subscribeLine =
    if self.encodable then .ok (self.subscribeText.flatMap utf8Char ++ TERMINATOR)
    else .error .unicode := by
  rw [subscribeLine_eq, lineOf_plain, subscribeText_plain]
  cases self.encodable <;> rfl

theorem publishLine_cases (frame : Frame) : self.publishLine py frame =
    if self.encodable then .ok ((self.publishText py frame).flatMap utf8Char ++ TERMINATOR)
    else .error .unicode := by
  rw [publishLine_eq, lineOf_plain, publishText_plain]
  cases self.encodable <;> rfl

/-- How the lines to a device and to the relay start tells them apart. -/
theorem encode_starts (f : Frame) : (encode py f).take 1 = [0x7B] := rfl

theorem subscribeLine_starts (h : self.subscribeLine = .ok raw) :
    raw.take 5 = [0x63, 0x6D, 0x64, 0x3D, 0x73] := by
  rw [self.subscribeLine_cases] at h
  split at h
  · cases h
    rfl
  · cases h

theorem publishLine_starts {frame : Frame} (h : self.publishLine py frame = .ok raw) :
    raw.take 5 = [0x63, 0x6D, 0x64, 0x3D, 0x70] := by
  rw [self.publishLine_cases] at h
  split at h
  · cases h
    rfl
  · cases h

/-- No line to the relay is a frame. -/
theorem encode_ne_line {raw line : Bytes} (f : Frame) (h : raw.take 5 = 0x63 :: line) :
    raw ≠ encode py f := by
  rintro rfl
  have htake := congrArg (List.take 1) h
  rw [List.take_take, Nat.min_eq_left (by decide), encode_starts] at htake
  exact absurd (List.cons.inj htake).1 (by decide)

/-! ### The exchange -/

/-- The loop over the lines of the relay. -/
def hear (env : RelayEnv) (frame : Frame) (n : Nat) : Reading Unit (Dict Json) :=
  LineSocket.lines (self.relayVerdict py frame) (env.started + self.timeout) env.turns ()
    ⟨n, [], some self.timeout⟩

/-- What is said on relay connection `n`, and what comes of it: no reply when the lines run dry. -/
def talk (env : RelayEnv) (frame : Frame) (n : Nat) :
    List Event × Except Exn (Option (Dict Json)) :=
  let sent (raw taken : Bytes) : Event := .sent n (some self.timeout) raw taken
  match self.subscribeLine with
  | .error e => ([], .error e)
  | .ok sub => match env.subscribe with
    | .failed k fault =>
      ([sent sub ((SendOutcome.failed k fault).taken sub)], .error (sendError fault))
    | .accepted => match self.publishLine py frame with
      | .error e => ([sent sub sub], .error e)
      | .ok pub => match env.publish with
        | .failed k fault =>
          ([sent sub sub, sent pub ((SendOutcome.failed k fault).taken pub)],
            .error (sendError fault))
        | .accepted =>
          let r := self.hear py env frame n
          (sent sub sub :: sent pub pub :: r.events, match r.exit with
            | .left reply => .ok (some reply)
            | .raised e => .error e
            | .ended _ => .ok none)

/-- What `_exchange` comes to when `n` sockets have been opened so far. -/
def outcome (env : RelayEnv) (frame : Frame) (n : Nat) : Outcome :=
  let connecting := Event.connecting self.host self.port self.timeout
  if addressable py self.host self.port then
    match env.connect with
    | .refused text => ⟨[connecting], 0, none, .error (connectError self.host self.port text)⟩
    | .opened =>
      let (evs, answer) := self.talk py env frame n
      ⟨connecting :: .opened n :: evs ++ [.closed n], 1, none, match answer with
        | .ok (some reply) => .ok reply
        | .ok none => .error (.transport ⟨self.repr ++ str " did not report back within " ++
            py.durationText self.timeout ++ str "s"⟩)
        | .error e => .error e⟩
  else ⟨[connecting], 0, none, .error (addressError py self.host)⟩

theorem converse_run (env : RelayEnv) (frame : Frame) (w : World) (n : Nat) :
    (self.converse py env frame ⟨n, [], some self.timeout⟩).run w =
      let w := { w with trace := w.trace ++ (self.talk py env frame n).1 }
      match (self.talk py env frame n).2 with
      | .ok reply => .ok reply w
      | .error e => .error e w := by
  cases hsub : self.subscribeLine with
  | error e => simp [converse, talk, hsub]
  | ok sub =>
    cases hs : env.subscribe with
    | failed k fault => simp [converse, talk, hsub, hs]
    | accepted =>
      cases hpub : self.publishLine py frame with
      | error e =>
        simp [converse, talk, hsub, hs, hpub]
      | ok pub =>
        cases hp : env.publish with
        | failed k fault =>
          simp [converse, talk, hsub, hs, hpub, hp]
        | accepted =>
          simp only [converse, talk, EStateM.run_bind, rethrow_ok, sendLine_accepted, hsub, hs,
            hpub, hp, run_record, hear]
          cases (LineSocket.lines (self.relayVerdict py frame) (env.started + self.timeout)
            env.turns () ⟨n, [], some self.timeout⟩).exit <;> simp

theorem exchange_run (env : RelayEnv) (frame : Frame) (w : World) :
    (self.exchange py env frame).run w =
      let o := self.outcome py env frame w.sockets
      match o.answer with
      | .ok reply => .ok reply (o.world w)
      | .error e => .error e (o.world w) := by
  cases hi : addressable py self.host self.port with
  | false => simp [exchange, outcome, Outcome.world, connect_unaddressable, hi]
  | true =>
    cases hc : env.connect with
    | refused text => simp [exchange, outcome, Outcome.world, connect_refused, hi, hc]
    | opened =>
      have hrun := self.converse_run py env frame { w with
        sockets := w.sockets + 1,
        trace := w.trace ++ [.connecting self.host self.port self.timeout, .opened w.sockets] }
        w.sockets
      simp only [exchange, outcome, EStateM.run_bind, connect_opened, ensuring, run_caught, hi, hc,
        hrun, ↓reduceIte]
      rcases self.talk py env frame w.sockets with ⟨evs, e | _ | reply⟩ <;>
        simp [LineSocket.close, Outcome.world]

/-- `query`, once its exchange has answered. -/
def readData (reply : Dict Json) : Except Exn (Dict Json) :=
  match LocalTransport.dataMap reply with
  | some data => .ok data
  | none => .error (LocalTransport.noDataMap py
      (self.repr ++ str " reported without a data map: ") reply)

theorem query_answer (env : RelayEnv) (attrs : Option (List Int)) (w : World) :
    answer (self.query py env attrs) w =
      (self.outcome py env (queryFrameOf attrs (intText (nextSn w.lastSn env.time)))
        w.sockets).answer.bind (self.readData py) := by
  simp only [answer, query, EStateM.run_bind, run_queryFrame, exchange_run]
  cases (self.outcome py env _ w.sockets).answer with
  | error e => rfl
  | ok reply =>
    simp only [Except.bind, readData]
    cases LocalTransport.dataMap reply <;> rfl

theorem query_after (env : RelayEnv) (attrs : Option (List Int)) (w : World) :
    after (self.query py env attrs) w =
      (self.outcome py env (queryFrameOf attrs (intText (nextSn w.lastSn env.time)))
        w.sockets).world { w with lastSn := nextSn w.lastSn env.time } := by
  simp only [after, query, EStateM.run_bind, run_queryFrame, exchange_run]
  cases (self.outcome py env _ w.sockets).answer with
  | error e => rfl
  | ok reply =>
    dsimp only
    cases LocalTransport.dataMap reply <;> rfl

theorem control_answer (env : RelayEnv) (payload : Payload) (w : World) :
    answer (self.control py env payload) w =
      (self.outcome py env (setFrameOf payload (intText (nextSn w.lastSn env.time)))
        w.sockets).answer.map LocalTransport.accepted := by
  simp only [answer, control, EStateM.run_bind, run_setFrame, exchange_run]
  cases (self.outcome py env _ w.sockets).answer <;> rfl

theorem control_after (env : RelayEnv) (payload : Payload) (w : World) :
    after (self.control py env payload) w =
      (self.outcome py env (setFrameOf payload (intText (nextSn w.lastSn env.time)))
        w.sockets).world { w with lastSn := nextSn w.lastSn env.time } := by
  simp only [after, control, EStateM.run_bind, run_setFrame, exchange_run]
  cases (self.outcome py env _ w.sockets).answer <;> rfl

/-- A call that has the relay pass on a frame, under the next number, and reads the reply. -/
structure Asks (env : RelayEnv) (ask : Str → Frame)
    (reads : CloudRelayTransport → Dict Json → Except Exn α)
    (m : CloudRelayTransport → EStateM Exn World α) : Prop where
  answers : ∀ self w, answer (m self) w =
    (self.outcome py env (ask (intText (nextSn w.lastSn env.time))) w.sockets).answer.bind (reads self)
  leaves : ∀ self w, after (m self) w =
    (self.outcome py env (ask (intText (nextSn w.lastSn env.time))) w.sockets).world
      { w with lastSn := nextSn w.lastSn env.time }

theorem query_asks (env : RelayEnv) (attrs : Option (List Int)) :
    Asks py env (queryFrameOf attrs) (readData py) (fun self => self.query py env attrs) :=
  ⟨fun self => query_answer py self env attrs, fun self => query_after py self env attrs⟩

theorem control_asks (env : RelayEnv) (payload : Payload) :
    Asks py env (setFrameOf payload) (fun _ reply => .ok (LocalTransport.accepted reply))
      (fun self => self.control py env payload) := by
  refine ⟨?_, fun self => control_after py self env payload⟩
  intro self w
  rw [control_answer]
  cases (self.outcome py env _ w.sockets).answer <;> rfl

end CloudRelayTransport

end CozyLife
