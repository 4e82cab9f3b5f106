import CozyLife.Api.Local
import CozyLife.Proofs.Lines

/-! An exchange has two halves: handing the frame over and awaiting the reply. Which connection takes
the frame, if one does, is decided before anything is read. -/

namespace CozyLife
open Python Effects Lines

def Event.isOpened : Event → Bool
  | .opened _ => true
  | _ => false

def Event.isSent : Event → Bool
  | .sent _ _ _ _ => true
  | _ => false

/-- A socket takes all it is given to send. -/
def Event.isWhole : Event → Bool
  | .sent _ _ raw taken => taken = raw
  | _ => false

/-- A socket takes `packet`, and all of it. -/
def Event.hands (packet : Bytes) : Event → Bool
  | .sent _ _ raw taken => raw = packet ∧ taken = packet
  | _ => false

theorem Event.hands_whole {e : Event} {packet : Bytes} (h : e.isWhole = false) :
    e.hands packet = false := by
  cases e with
  | sent s mode raw taken =>
    simp only [Event.isWhole, Event.hands, decide_eq_false_iff_not] at h ⊢
    intro hall
    obtain ⟨rfl, rfl⟩ := hall
    exact h rfl
  | _ => rfl

/-- How a frame gets out. `lead` is what happens before a connection takes all of it, `opened` how
many sockets that opens, `line` the connection that takes it with the conversation that follows. -/
structure Delivery where
  lead : List Event
  opened : Nat
  line : Except Exn (LineSocket × Conversation)

/-- What giving up the held connection adds in front of a delivery. -/
def Delivery.after (evs : List Event) (d : Delivery) : Delivery := { d with lead := evs ++ d.lead }

/-- What an exchange comes to: what happens, how many sockets it opens, the connection it holds on to
and what it returns or raises. -/
structure Outcome where
  events : List Event
  opened : Nat
  conn : Option LineSocket
  answer : Except Exn (Dict Json)

namespace LocalTransport

variable (py : Interpreter)

/-- Handing the frame over on a connection of its own, which would be socket number `n`. -/
def deliverFresh (t : LocalTransport) (env : ExchangeEnv) (packet : Bytes) (n : Nat) : Delivery :=
  let connecting := Event.connecting t.host t.port t.timeout
  if addressable py t.host t.port then
    match env.connect with
    | .refused text => ⟨[connecting], 0, .error (connectError t.host t.port text)⟩
    | .opened => match env.fresh.send with
      | .accepted => ⟨[connecting, .opened n], 1, .ok (⟨n, [], some t.timeout⟩, env.fresh)⟩
      | .failed k fault =>
        ⟨[connecting, .opened n,
            .sent n (some t.timeout) packet ((SendOutcome.failed k fault).taken packet), .closed n],
          1, .error (sendError fault)⟩
  else ⟨[connecting], 0, .error (addressError py t.host)⟩

def deliver (t : LocalTransport) (env : ExchangeEnv) (packet : Bytes) (n : Nat) : Delivery :=
  match t.conn with
  | none => deliverFresh py t env packet n
  | some conn =>
    let (closed, held) := conn.peerHasClosed env.peek
    if closed then Delivery.after [.closed held.sock] (deliverFresh py t env packet n)
    else match env.held.send with
      | .accepted => ⟨[], 0, .ok (held, env.held)⟩
      | .failed k fault =>
        Delivery.after
          [.sent held.sock held.timeout packet ((SendOutcome.failed k fault).taken packet),
            .closed held.sock] (deliverFresh py t env packet n)

/-- The loop over the lines in `_await_reply`. -/
def listenFor (t : LocalTransport) (frame : Frame) (conn : LineSocket) (c : Conversation) :
    Reading Unit (Dict Json) :=
  conn.lines (replyVerdict py frame) (c.started + t.timeout) c.turns ()

/-- What awaiting the reply comes to, once a connection has taken the frame. -/
def conclude (t : LocalTransport) (r : Reading Unit (Dict Json)) : Outcome :=
  match r.exit with
  | .left reply => ⟨r.events, 0, some r.conn, .ok reply⟩
  | .raised e => ⟨r.events, 0, some r.conn, .error e⟩
  | .ended _ => ⟨r.events ++ [.closed r.conn.sock], 0, none, .error (.transport
      ⟨t.repr ++ str " did not answer within " ++ py.durationText t.timeout ++
        str "s (listener may have stopped responding)"⟩)⟩

/-- What an exchange comes to that hands its frame over as `d` says. -/
def settle (t : LocalTransport) (frame : Frame) (d : Delivery) : Outcome :=
  match d.line with
  | .error e => ⟨d.lead, d.opened, none, .error e⟩
  | .ok (conn, c) =>
    let o := conclude py t (listenFor py t frame conn c)
    let packet := encode py frame
    ⟨d.lead ++ .sent conn.sock conn.timeout packet packet :: o.events, d.opened, o.conn, o.answer⟩

/-- What `_exchange` comes to when `n` sockets have been opened so far. -/
def outcome (t : LocalTransport) (env : ExchangeEnv) (frame : Frame) (n : Nat) : Outcome :=
  settle py t frame (deliver py t env (encode py frame) n)

end LocalTransport

/-- What an exchange with this outcome leaves of the world. -/
def Outcome.world (o : Outcome) (w : World) : World :=
  { w with trace := w.trace ++ o.events, sockets := w.sockets + o.opened }

def Outcome.state (o : Outcome) (t : LocalTransport) (w : World) : LocalTransport × World :=
  ({ t with conn := o.conn }, o.world w)

/-- The end of an exchange with this outcome. -/
def Outcome.result (o : Outcome) (t : LocalTransport) (w : World) :
    EStateM.Result Exn (LocalTransport × World) (Dict Json) :=
  match o.answer with
  | .ok reply => .ok reply (o.state t w)
  | .error e => .error e (o.state t w)

namespace LocalTransport

variable (py : Interpreter)

@[simp] theorem disconnect_run (t : LocalTransport) (w : World) : disconnect.run (t, w) =
    .ok () ({ t with conn := none },
      { w with trace := w.trace ++ t.conn.toList.map (fun c => .closed c.sock) }) := by
  obtain ⟨host, port, timeout, conn⟩ := t
  cases conn with
  | none => simp [disconnect]
  | some conn => rfl

theorem awaitReply_run (c : Conversation) (frame : Frame) {t : LocalTransport} (w : World)
    {conn : LineSocket} (h : t.conn = some conn) : (awaitReply py c frame).run (t, w) =
      (conclude py t (listenFor py t frame conn c)).result t w := by
  simp only [awaitReply, conclude, listenFor, EStateM.run_bind, run_getSelf, h, run_onWorld,
    run_record, run_modifySelf]
  cases (conn.lines (replyVerdict py frame) (c.started + t.timeout) c.turns ()).exit <;>
    simp [Outcome.result, Outcome.state, Outcome.world]

theorem conclude_opened (t : LocalTransport) (r : Reading Unit (Dict Json)) :
    (conclude py t r).opened = 0 := by
  unfold conclude
  cases r.exit <;> rfl

/-- An outcome seen from before the events `lead` and the `n` sockets they open. -/
theorem result_lead (t : LocalTransport) (w : World) (o : Outcome) (lead : List Event) (n : Nat)
    (conn : Option LineSocket) (h : o.opened = 0) :
    o.result { t with conn := conn }
        { w with trace := w.trace ++ lead, sockets := w.sockets + n } =
      Outcome.result ⟨lead ++ o.events, n, o.conn, o.answer⟩ t w := by
  unfold Outcome.result Outcome.state Outcome.world
  cases o.answer <;> simp [h]

theorem exchangeFresh_run (env : ExchangeEnv) (frame : Frame) {t : LocalTransport} (w : World)
    (h : t.conn = none) : (exchangeFresh py env frame).run (t, w) =
      (settle py t frame (deliverFresh py t env (encode py frame) w.sockets)).result t w := by
  obtain ⟨host, port, timeout, conn⟩ := t
  obtain rfl : conn = none := h
  cases hi : addressable py host port with
  | false =>
    simp [exchangeFresh, deliverFresh, settle, Outcome.result, Outcome.state, Outcome.world,
      connect_unaddressable, hi]
  | true =>
    cases hc : env.connect with
    | refused text =>
      simp [exchangeFresh, deliverFresh, settle, Outcome.result, Outcome.state, Outcome.world,
        connect_refused, hi, hc]
    | opened =>
      cases hs : env.fresh.send with
      | accepted =>
        simp only [exchangeFresh, deliverFresh, settle, EStateM.run_bind, run_getSelf, run_onWorld,
          run_modifySelf, run_caught, connect_opened, sendLine_accepted, hi, hc, hs, ↓reduceIte]
        rw [awaitReply_run py _ _ _ rfl, List.append_assoc]
        exact result_lead ⟨host, port, timeout, none⟩ w _ _ _ _ (conclude_opened py _ _)
      | failed k fault =>
        simp [exchangeFresh, deliverFresh, settle, Outcome.result, Outcome.state, Outcome.world,
          connect_opened, sendError, hi, hc, hs]

theorem settle_after (t : LocalTransport) (w : World) (frame : Frame) (evs : List Event)
    (d : Delivery) : (settle py t frame (d.after evs)).result t w =
      (settle py { t with conn := none } frame d).result { t with conn := none }
        { w with trace := w.trace ++ evs } := by
  obtain ⟨lead, opened, line⟩ := d
  cases line with
  | error e => simp [settle, Delivery.after, Outcome.result, Outcome.state, Outcome.world]
  | ok p =>
    simp only [settle, Delivery.after, Outcome.result, Outcome.state, Outcome.world,
      List.append_assoc]
    rfl

theorem exchange_run (env : ExchangeEnv) (frame : Frame) (t : LocalTransport) (w : World) :
    (exchange py env frame).run (t, w) = (outcome py t env frame w.sockets).result t w := by
  unfold outcome
  obtain ⟨host, port, timeout, conn⟩ := t
  cases conn with
  | none =>
    simp only [exchange, EStateM.run_bind, run_getSelf]
    exact exchangeFresh_run py env frame w rfl
  | some conn =>
    rcases hp : conn.peerHasClosed env.peek with ⟨closed, held⟩
    cases closed with
    | true =>
      simp [exchange, deliver, hp]
      rw [settle_after]
      exact exchangeFresh_run py env frame _ rfl
    | false =>
      cases hs : env.held.send with
      | accepted =>
        simp only [exchange, deliver, settle, EStateM.run_bind, run_getSelf, run_modifySelf,
          run_onWorld, run_caught, sendLine_accepted, hp, hs, Bool.false_eq_true, ↓reduceIte]
        rw [awaitReply_run py _ _ _ rfl]
        exact result_lead ⟨host, port, timeout, some conn⟩ w _ _ 0 _ (conclude_opened py _ _)
      | failed k fault =>
        simp [exchange, deliver, sendError, hp, hs]
        rw [settle_after]
        exact exchangeFresh_run py env frame _ rfl

theorem exchange_answer (env : ExchangeEnv) (frame : Frame) (t : LocalTransport) (w : World) :
    answer (exchange py env frame) (t, w) = (outcome py t env frame w.sockets).answer := by
  simp only [answer, exchange_run, Outcome.result]
  cases (outcome py t env frame w.sockets).answer <;> rfl

theorem exchange_after (env : ExchangeEnv) (frame : Frame) (t : LocalTransport) (w : World) :
    after (exchange py env frame) (t, w) =
      (outcome py t env frame w.sockets).state t w := by
  simp only [after, exchange_run, Outcome.result]
  cases (outcome py t env frame w.sockets).answer <;> rfl

/-- `query`, once its exchange has answered. -/
def readData (t : LocalTransport) (reply : Dict Json) : Except Exn (Dict Json) :=
  match dataMap reply with
  | some data => .ok data
  | none => .error (noDataMap py (t.repr ++ str " answered without a data map: ") reply)

theorem query_answer (env : LocalEnv) (attrs : Option (List Int)) (t : LocalTransport)
    (w : World) : answer (query py env attrs) (t, w) =
      (outcome py t env.exchange (queryFrameOf attrs (intText (nextSn w.lastSn env.time)))
        w.sockets).answer.bind (readData py t) := by
  simp only [answer, query, EStateM.run_bind, run_onWorld, run_queryFrame, exchange_run,
    Outcome.result]
  cases (outcome py t env.exchange _ w.sockets).answer with
  | error e => rfl
  | ok reply =>
    simp only [Except.bind, readData]
    cases dataMap reply <;> rfl

theorem query_after (env : LocalEnv) (attrs : Option (List Int)) (t : LocalTransport)
    (w : World) : after (query py env attrs) (t, w) =
      (outcome py t env.exchange (queryFrameOf attrs (intText (nextSn w.lastSn env.time)))
        w.sockets).state t { w with lastSn := nextSn w.lastSn env.time } := by
  simp only [after, query, EStateM.run_bind, run_onWorld, run_queryFrame, exchange_run,
    Outcome.result]
  cases (outcome py t env.exchange _ w.sockets).answer with
  | error e => rfl
  | ok reply =>
    dsimp only
    cases dataMap reply <;> rfl

theorem control_answer (env : LocalEnv) (payload : Payload) (t : LocalTransport) (w : World) :
    answer (control py env payload) (t, w) =
      (outcome py t env.exchange (setFrameOf payload (intText (nextSn w.lastSn env.time)))
        w.sockets).answer.map accepted := by
  simp only [answer, control, EStateM.run_bind, run_onWorld, run_setFrame, exchange_run,
    Outcome.result]
  cases (outcome py t env.exchange _ w.sockets).answer <;> rfl

theorem control_after (env : LocalEnv) (payload : Payload) (t : LocalTransport) (w : World) :
    after (control py env payload) (t, w) =
      (outcome py t env.exchange (setFrameOf payload (intText (nextSn w.lastSn env.time)))
        w.sockets).state t { w with lastSn := nextSn w.lastSn env.time } := by
  simp only [after, control, EStateM.run_bind, run_onWorld, run_setFrame, exchange_run,
    Outcome.result]
  cases (outcome py t env.exchange _ w.sockets).answer <;> rfl

/-- A call that asks the device a frame, under the next number, and reads the reply. -/
structure Asks (env : LocalEnv) (ask : Str → Frame)
    (reads : LocalTransport → Dict Json → Except Exn α) (m : Method LocalTransport α) : Prop where
  answers : ∀ t w, answer m (t, w) =
    (outcome py t env.exchange (ask (intText (nextSn w.lastSn env.time)))
      w.sockets).answer.bind (reads t)
  leaves : ∀ t w, after m (t, w) =
    (outcome py t env.exchange (ask (intText (nextSn w.lastSn env.time)))
      w.sockets).state t { w with lastSn := nextSn w.lastSn env.time }

theorem query_asks (env : LocalEnv) (attrs : Option (List Int)) :
    Asks py env (queryFrameOf attrs) (readData py) (query py env attrs) :=
  ⟨query_answer py env attrs, query_after py env attrs⟩

theorem control_asks (env : LocalEnv) (payload : Payload) :
    Asks py env (setFrameOf payload) (fun _ reply => .ok (accepted reply))
      (control py env payload) := by
  refine ⟨?_, control_after py env payload⟩
  intro t w
  rw [control_answer]
  cases (outcome py t env.exchange _ w.sockets).answer <;> rfl

/-! ### The ways a frame gets out -/

/-- The ways to be without a connection to hand the frame to, and what happens on the way there. -/
inductive GivesUp (t : LocalTransport) (env : ExchangeEnv) (packet : Bytes) : List Event → Prop
  | idle (h : t.conn = none) : GivesUp t env packet []
  | hungUp (conn) (h : t.conn = some conn) (hc : (conn.peerHasClosed env.peek).1 = true) :
      GivesUp t env packet [.closed conn.sock]
  | broken (conn k fault) (h : t.conn = some conn) (hc : (conn.peerHasClosed env.peek).1 = false)
      (hs : env.held.send = .failed k fault) : GivesUp t env packet
        [.sent conn.sock (conn.peerHasClosed env.peek).2.timeout packet
            ((SendOutcome.failed k fault).taken packet), .closed conn.sock]

/-- What can come of a connection of its own. -/
inductive Dials (t : LocalTransport) (env : ExchangeEnv) (packet : Bytes) (n : Nat) :
    Delivery → Prop
  | refused (text) (hi : addressable py t.host t.port = true) (hc : env.connect = .refused text) :
      Dials t env packet n
        ⟨[.connecting t.host t.port t.timeout], 0, .error (connectError t.host t.port text)⟩
  | unaddressable (hi : addressable py t.host t.port = false) :
      Dials t env packet n ⟨[.connecting t.host t.port t.timeout], 0, .error (addressError py t.host)⟩
  | broken (k fault) (hi : addressable py t.host t.port = true) (hc : env.connect = .opened)
      (hs : env.fresh.send = .failed k fault) :
      Dials t env packet n ⟨[.connecting t.host t.port t.timeout, .opened n,
        .sent n (some t.timeout) packet ((SendOutcome.failed k fault).taken packet), .closed n],
        1, .error (sendError fault)⟩
  | taken (hi : addressable py t.host t.port = true) (hc : env.connect = .opened)
      (hs : env.fresh.send = .accepted) :
      Dials t env packet n ⟨[.connecting t.host t.port t.timeout, .opened n], 1,
        .ok (⟨n, [], some t.timeout⟩, env.fresh)⟩

/-- The ways a frame gets out: over the held connection, or over one of its own once the held one is
given up. -/
inductive Delivers (t : LocalTransport) (env : ExchangeEnv) (packet : Bytes) (n : Nat) :
    Delivery → Prop
  | held (conn) (h : t.conn = some conn) (hc : (conn.peerHasClosed env.peek).1 = false)
      (hs : env.held.send = .accepted) :
      Delivers t env packet n ⟨[], 0, .ok ((conn.peerHasClosed env.peek).2, env.held)⟩
  | fresh (evs d) (hg : GivesUp t env packet evs) (hd : Dials py t env packet n d) :
      Delivers t env packet n (d.after evs)

theorem peerHasClosed_sock (conn : LineSocket) (o : PeekOutcome) :
    (conn.peerHasClosed o).2.sock = conn.sock := by
  unfold LineSocket.peerHasClosed
  split <;> rfl

theorem peerHasClosed_buffer (conn : LineSocket) (o : PeekOutcome) :
    (conn.peerHasClosed o).2.buffer = conn.buffer := by
  unfold LineSocket.peerHasClosed
  split <;> rfl

theorem deliverFresh_dials (t : LocalTransport) (env : ExchangeEnv) (packet : Bytes) (n : Nat) :
    Dials py t env packet n (deliverFresh py t env packet n) := by
  unfold deliverFresh
  cases hi : addressable py t.host t.port with
  | false => exact .unaddressable hi
  | true =>
    cases hc : env.connect with
    | refused text => exact .refused text hi hc
    | opened =>
      cases hs : env.fresh.send with
      | accepted => exact .taken hi hc hs
      | failed k fault => exact .broken k fault hi hc hs

theorem deliver_cases (t : LocalTransport) (env : ExchangeEnv) (packet : Bytes) (n : Nat) :
    (∃ conn, t.conn = some conn ∧ (conn.peerHasClosed env.peek).1 = false ∧
      env.held.send = .accepted ∧
      deliver py t env packet n = ⟨[], 0, .ok ((conn.peerHasClosed env.peek).2, env.held)⟩) ∨
    ∃ evs, GivesUp t env packet evs ∧
      deliver py t env packet n = (deliverFresh py t env packet n).after evs := by
  cases h : t.conn with
  | none => exact .inr ⟨[], .idle h, by simp only [deliver, h, Delivery.after, List.nil_append]⟩
  | some conn =>
    have hsock := peerHasClosed_sock conn env.peek
    cases hc : (conn.peerHasClosed env.peek).1 with
    | true =>
      refine .inr ⟨_, .hungUp conn h hc, ?_⟩
      simp only [deliver, h, hc, hsock, ↓reduceIte]
    | false =>
      cases hs : env.held.send with
      | accepted =>
        refine .inl ⟨conn, rfl, hc, rfl, ?_⟩
        simp only [deliver, h, hc, hs, Bool.false_eq_true, ↓reduceIte]
      | failed k fault =>
        refine .inr ⟨_, .broken conn k fault h hc hs, ?_⟩
        simp only [deliver, h, hc, hs, hsock, Bool.false_eq_true, ↓reduceIte]

theorem deliver_delivers (t : LocalTransport) (env : ExchangeEnv) (packet : Bytes) (n : Nat) :
    Delivers py t env packet n (deliver py t env packet n) := by
  rcases deliver_cases py t env packet n with ⟨conn, h, hc, hs, hd⟩ | ⟨evs, hg, hd⟩
  · exact hd ▸ .held conn h hc hs
  · exact hd ▸ .fresh evs _ hg (deliverFresh_dials py t env packet n)

theorem settle_lead (t : LocalTransport) (frame : Frame) (evs : List Event) (d : Delivery) :
    (settle py t frame (d.after evs)).events = evs ++ (settle py t frame d).events ∧
      (settle py t frame (d.after evs)).answer = (settle py t frame d).answer := by
  rcases hl : d.line with e | ⟨conn, c⟩ <;>
    simp only [settle, Delivery.after, hl, List.append_assoc, and_self]

/-! ### What is sent, and how often -/

theorem encode_ne_nil (f : Frame) : encode py f ≠ [] := by
  simp [encode, TERMINATOR]

/-- A failed write leaves the end of its packet behind. -/
theorem taken_ne {packet : Bytes} (h : packet ≠ []) (k : Nat) (fault : Fault) :
    (SendOutcome.failed k fault).taken packet ≠ packet := by
  intro he
  have := congrArg List.length he
  have := List.length_pos_iff.mpr h
  simp only [SendOutcome.taken, List.length_take] at *
  omega

section Lead

variable {py} {t : LocalTransport} {env : ExchangeEnv} {packet : Bytes} {n : Nat}

theorem GivesUp.quiet (hp : packet ≠ []) (h : GivesUp t env packet evs) :
    ∀ e ∈ evs, e.isOpened = false ∧ e.isWhole = false := by
  cases h <;> simp [Event.isOpened, Event.isWhole, taken_ne hp]

theorem Dials.unhanded (hp : packet ≠ []) (h : Dials py t env packet n d) :
    ∀ e ∈ d.lead, e.isWhole = false := by
  cases h <;> simp [Event.isWhole, taken_ne hp]

theorem Dials.opened (h : Dials py t env packet n d) :
    d.lead.countP Event.isOpened = d.opened ∧ d.opened ≤ 1 := by
  cases h <;> exact ⟨rfl, by simp⟩

/-- What leads up to a delivery is giving up the held connection and dialling another. -/
theorem Delivers.lead_all {P : Event → Prop} (h : Delivers py t env packet n d)
    (hgives : ∀ evs, GivesUp t env packet evs → ∀ e ∈ evs, P e)
    (hdials : ∀ d, Dials py t env packet n d → ∀ e ∈ d.lead, P e) : ∀ e ∈ d.lead, P e := by
  cases h with
  | held => simp
  | fresh evs d hg hd =>
    intro e he
    rcases List.mem_append.mp he with he | he
    · exact hgives evs hg e he
    · exact hdials d hd e he

/-- Until a connection takes all of the frame, no write is whole. -/
theorem Delivers.unhanded (hp : packet ≠ []) (h : Delivers py t env packet n d) :
    ∀ e ∈ d.lead, e.isWhole = false := by
  refine h.lead_all (P := fun e => e.isWhole = false) ?_ ?_
  · intro evs hg e he
    exact (hg.quiet hp e he).2
  · intro d hd
    exact hd.unhanded hp

theorem Delivers.opened (hp : packet ≠ []) (h : Delivers py t env packet n d) :
    d.lead.countP Event.isOpened = d.opened ∧ d.opened ≤ 1 := by
  cases h with
  | held => exact ⟨rfl, by simp⟩
  | fresh evs d hg hd =>
    have hz : evs.countP Event.isOpened = 0 := by
      apply List.countP_eq_zero.mpr
      intro e he
      simp [(hg.quiet hp e he).1]
    simpa [Delivery.after, List.countP_append, hz] using hd.opened

/-- A held connection is given up only once it is known not to have taken the frame. -/
theorem Delivers.reason {conn : LineSocket} (h : Delivers py t env packet n d)
    (hconn : t.conn = some conn) (ho : d.opened ≠ 0) :
    (conn.peerHasClosed env.peek).1 = true ∨ ∃ k fault mode, env.held.send = .failed k fault ∧
      .sent conn.sock mode packet ((SendOutcome.failed k fault).taken packet) ∈ d.lead := by
  cases h with
  | held => exact absurd rfl ho
  | fresh evs d hg hd =>
    cases hg with
    | idle h => rw [h] at hconn; cases hconn
    | hungUp conn' h hc =>
      obtain rfl := Option.some.inj (h.symm.trans hconn)
      exact .inl hc
    | broken conn' k fault h hc hs =>
      obtain rfl := Option.some.inj (h.symm.trans hconn)
      exact .inr ⟨k, fault, _, hs, List.mem_append_left _ List.mem_cons_self⟩

theorem Delivers.line {conn : LineSocket} (h : Delivers py t env packet n d)
    (hl : d.line = .ok (conn, c)) :
    (∃ held, t.conn = some held ∧ conn.sock = held.sock ∧ conn.buffer = held.buffer) ∨
      conn.sock = n ∧ d.opened = 1 ∧ conn.buffer = [] := by
  cases h with
  | held held h hc hs =>
    cases hl
    exact .inl ⟨held, h, peerHasClosed_sock held env.peek, peerHasClosed_buffer held env.peek⟩
  | fresh evs d hg hd =>
    cases hd with
    | refused | unaddressable | broken => cases hl
    | taken =>
      cases hl
      exact .inr ⟨rfl, rfl, rfl⟩

end Lead

/-- After it has gone out, a frame is only waited for. -/
theorem conclude_events (t : LocalTransport) (frame : Frame) (conn : LineSocket)
    (c : Conversation) : ∀ e ∈ (conclude py t (listenFor py t frame conn c)).events,
      (∃ mode chunk, e = .read conn.sock mode chunk) ∨ e = .closed conn.sock := by
  have hr := lines_reads (replyVerdict py frame) (c.started + t.timeout) c.turns () conn
  intro e he
  unfold conclude listenFor at he
  split at he
  · exact .inl (hr.events e he)
  · exact .inl (hr.events e he)
  · rcases List.mem_append.mp he with he | he
    · exact .inl (hr.events e he)
    · rw [List.mem_singleton.mp he, hr.sock]
      exact .inr rfl

theorem replyVerdict_leave (frame : Frame) (line : Bytes) (reply : Dict Json) :
    replyVerdict py frame () line = .leave reply ↔
      decode py line = .ok (some reply) ∧ answers frame reply = true := by
  unfold replyVerdict
  rcases hd : decode py line with e | _ | got
  · simp
  · simp
  · by_cases ha : answers frame got = true
    · simp only [if_pos ha, Verdict.leave.injEq, Except.ok.injEq, Option.some.injEq]
      constructor
      · intro h
        exact ⟨h, h ▸ ha⟩
      · intro h
        exact h.1
    · simp only [if_neg ha, reduceCtorEq, Except.ok.injEq, Option.some.injEq, false_iff, not_and]
      intro h
      exact h ▸ ha

/-- A loop that ends with a reply was given it last, after nothing but lines it passed over. -/
theorem listenFor_reply (t : LocalTransport) (frame : Frame) (conn : LineSocket)
    (c : Conversation) (h : (listenFor py t frame conn c).exit = .left reply) :
    ∃ pre line, (listenFor py t frame conn c).given = pre ++ [line] ∧
      (∀ l ∈ pre, replyVerdict py frame () l = .next ()) ∧
      replyVerdict py frame () line = .leave reply := by
  have hd := lines_decision (replyVerdict py frame) conn (c.started + t.timeout) c.turns
  unfold listenFor at h ⊢
  cases hd with
  | undecided hall hgiven hexit =>
    rw [h] at hexit
    split at hexit <;> cases hexit
  | decided pre l post hheard hpre hgiven hexit =>
    refine ⟨pre, l, hgiven, hpre, ?_⟩
    rcases hexit with ⟨a, ha, he⟩ | ⟨e, he, hx⟩
    · rw [h] at he
      cases he
      exact ha
    · rw [h] at hx
      cases hx

theorem conclude_ok (t : LocalTransport) (r : Reading Unit (Dict Json))
    (h : (conclude py t r).answer = .ok reply) :
    r.exit = .left reply ∧ conclude py t r = ⟨r.events, 0, some r.conn, .ok reply⟩ := by
  unfold conclude at h ⊢
  split at h <;> simp_all

/-- What a line of the connection says is its reply did come over it. -/
theorem conclude_replied (t : LocalTransport) (frame : Frame) (conn : LineSocket)
    (c : Conversation) (reply : Dict Json)
    (h : (conclude py t (listenFor py t frame conn c)).answer = .ok reply) :
    (∀ e ∈ (conclude py t (listenFor py t frame conn c)).events,
      ∃ mode chunk, e = .read conn.sock mode chunk) ∧
    ∃ line ∈ completeLines (conn.buffer ++
        received (conclude py t (listenFor py t frame conn c)).events),
      decode py line = .ok (some reply) ∧ answers frame reply = true := by
  obtain ⟨hexit, ho⟩ := conclude_ok py t _ h
  obtain ⟨pre, line, hgiven, _, hv⟩ := listenFor_reply py t frame conn c hexit
  have hr := lines_reads (replyVerdict py frame) (c.started + t.timeout) c.turns () conn
  have hstream := hr.stream.1
  rw [ho]
  refine ⟨hr.events, line, ?_, (replyVerdict_leave py frame line reply).mp hv⟩
  simp only [listenFor] at hgiven ⊢
  rw [hstream, hgiven]
  simp

/-- What an exchange may do on the sockets: it opens one only once the held connection is known not
to have taken the frame, it sends the frame at most once and nothing after that, and what it returns
is a line of the connection the frame went out on. -/
structure SentOnce (t : LocalTransport) (env : ExchangeEnv) (frame : Frame) (n : Nat)
    (evs : List Event) (answer : Except Exn (Dict Json)) : Prop where
  opened : evs.countP Event.isOpened ≤ 1
  reason : ∀ conn, t.conn = some conn → (∃ e ∈ evs, e.isOpened = true) →
    (conn.peerHasClosed env.peek).1 = true ∨ ∃ k fault mode, env.held.send = .failed k fault ∧
      .sent conn.sock mode (encode py frame)
        ((SendOutcome.failed k fault).taken (encode py frame)) ∈ evs
  once : evs.countP (Event.hands (encode py frame)) ≤ 1
  last : evs.Pairwise (fun e later => e.hands (encode py frame) = true → later.isSent = false)
  replied : ∀ reply, answer = .ok reply → evs.countP (Event.hands (encode py frame)) = 1 ∧
    ∃ (conn : LineSocket) (pre post : List Event),
      evs = pre ++ .sent conn.sock conn.timeout (encode py frame) (encode py frame) :: post ∧
      (∀ e ∈ post, ∃ mode chunk, e = .read conn.sock mode chunk) ∧
      ((∃ held, t.conn = some held ∧ conn.sock = held.sock ∧ conn.buffer = held.buffer) ∨
        conn.sock = n ∧ conn.buffer = []) ∧
      ∃ line ∈ completeLines (conn.buffer ++ received post),
        decode py line = .ok (some reply) ∧ answers frame reply = true

theorem last_of_unhanded {packet : Bytes} {evs : List Event}
    (h : ∀ e ∈ evs, e.hands packet = false) :
    evs.Pairwise (fun e later => e.hands packet = true → later.isSent = false) := by
  induction evs with
  | nil => exact .nil
  | cons e evs ih =>
    obtain ⟨he, h⟩ := List.forall_mem_cons.mp h
    refine .cons ?_ (ih h)
    intro later _ hh
    simp [he] at hh

theorem count_unhanded {packet : Bytes} {evs : List Event}
    (h : ∀ e ∈ evs, e.hands packet = false) : evs.countP (Event.hands packet) = 0 := by
  apply List.countP_eq_zero.mpr
  intro e he
  simp [h e he]

/-- Once the frame has gone out, no socket is opened and nothing is sent. -/
theorem conclude_quiet (t : LocalTransport) (frame : Frame) (conn : LineSocket)
    (c : Conversation) (packet : Bytes) :
    ∀ e ∈ (conclude py t (listenFor py t frame conn c)).events,
      e.isOpened = false ∧ e.isSent = false ∧ e.hands packet = false := by
  intro e he
  rcases conclude_events py t frame conn c e he with ⟨_, _, rfl⟩ | rfl <;> exact ⟨rfl, rfl, rfl⟩

section Once

variable {py} {t : LocalTransport} {env : ExchangeEnv} {packet : Bytes} {n : Nat}

theorem Delivers.unhands (hp : packet ≠ []) (h : Delivers py t env packet n d) :
    ∀ e ∈ d.lead, e.hands packet = false := by
  intro e he
  exact Event.hands_whole (h.unhanded hp e he)

theorem Delivers.excuse (hp : packet ≠ []) (h : Delivers py t env packet n d) :
    ∀ conn, t.conn = some conn → (∃ e ∈ d.lead, e.isOpened = true) →
      (conn.peerHasClosed env.peek).1 = true ∨ ∃ k fault mode, env.held.send = .failed k fault ∧
        .sent conn.sock mode packet ((SendOutcome.failed k fault).taken packet) ∈ d.lead := by
  intro conn hconn ho
  apply h.reason hconn
  rw [← (h.opened hp).1]
  exact Nat.ne_of_gt (List.countP_pos_iff.mpr ho)

end Once

/-- A frame no connection took has not been sent. -/
theorem lost_once (t : LocalTransport) (env : ExchangeEnv) (frame : Frame) (n : Nat)
    (h : Delivers py t env (encode py frame) n d) (e : Exn) :
    SentOnce py t env frame n d.lead (.error e) := by
  have hp := encode_ne_nil py frame
  have hlead := h.unhands hp
  obtain ⟨hcount, hone⟩ := h.opened hp
  refine ⟨by omega, h.excuse hp, (count_unhanded hlead).le.trans (by omega),
    last_of_unhanded hlead, ?_⟩
  intro reply hr
  cases hr

/-- A frame a connection took is the last thing sent, and its reply is read there. -/
theorem taken_once (t : LocalTransport) (env : ExchangeEnv) (frame : Frame) (n : Nat)
    {conn : LineSocket} (h : Delivers py t env (encode py frame) n d)
    (hl : d.line = .ok (conn, c)) :
    SentOnce py t env frame n (d.lead ++ .sent conn.sock conn.timeout (encode py frame)
      (encode py frame) :: (conclude py t (listenFor py t frame conn c)).events)
      (conclude py t (listenFor py t frame conn c)).answer := by
  have hp := encode_ne_nil py frame
  have hlead := h.unhands hp
  obtain ⟨hcount, hone⟩ := h.opened hp
  have hquiet := conclude_quiet py t frame conn c (encode py frame)
  have hreplied := conclude_replied py t frame conn c
  generalize conclude py t (listenFor py t frame conn c) = o at hquiet hreplied
  have hthis : Event.hands (encode py frame)
      (.sent conn.sock conn.timeout (encode py frame) (encode py frame)) = true := by
    simp [Event.hands]
  have htail : ∀ e ∈ o.events, e.hands (encode py frame) = false := by
    intro e he
    exact (hquiet e he).2.2
  have hexact : (d.lead ++ .sent conn.sock conn.timeout (encode py frame) (encode py frame) ::
      o.events).countP (Event.hands (encode py frame)) = 1 := by
    rw [List.countP_append, List.countP_cons_of_pos hthis, count_unhanded hlead,
      count_unhanded htail]
  refine ⟨?_, ?_, hexact.le, ?_, ?_⟩
  · have hnone : o.events.countP Event.isOpened = 0 := by
      apply List.countP_eq_zero.mpr
      intro e he
      simp [(hquiet e he).1]
    rw [List.countP_append, List.countP_cons_of_neg (by simp [Event.isOpened]), hnone]
    omega
  · intro held hheld hopened
    obtain ⟨e, he, ho⟩ := hopened
    rcases List.mem_append.mp he with he | he
    · rcases h.excuse hp held hheld ⟨e, he, ho⟩ with hc | ⟨k, fault, mode, hs, hm⟩
      · exact .inl hc
      · exact .inr ⟨k, fault, mode, hs, List.mem_append_left _ hm⟩
    · rcases List.mem_cons.mp he with rfl | he
      · simp [Event.isOpened] at ho
      · simp [(hquiet e he).1] at ho
  · refine List.pairwise_append.mpr ⟨last_of_unhanded hlead, .cons ?_ ?_, ?_⟩
    · intro e he _
      exact (hquiet e he).2.1
    · exact last_of_unhanded htail
    · intro e he _ _ hh
      simp [hlead e he] at hh
  · intro reply ha
    obtain ⟨hread, hline⟩ := hreplied reply ha
    have hfrom := (h.line hl).imp_right (fun hn => And.intro hn.1 hn.2.2)
    exact ⟨hexact, conn, d.lead, o.events, rfl, hread, hfrom, hline⟩

theorem settle_once (t : LocalTransport) (env : ExchangeEnv) (frame : Frame) (n : Nat)
    (h : Delivers py t env (encode py frame) n d) :
    SentOnce py t env frame n (settle py t frame d).events (settle py t frame d).answer := by
  rcases hl : d.line with e | ⟨conn, c⟩
  · simp only [settle, hl]
    exact lost_once py t env frame n h e
  · simp only [settle, hl]
    exact taken_once py t env frame n h hl

/-- One exchange sends its frame at most once, and exactly once if it returns a reply. -/
theorem exchange_once (t : LocalTransport) (env : ExchangeEnv) (frame : Frame) (w : World) :
    ∃ evs, (after (exchange py env frame) (t, w)).2.trace = w.trace ++ evs ∧
      SentOnce py t env frame w.sockets evs (answer (exchange py env frame) (t, w)) := by
  rw [exchange_after, exchange_answer]
  exact ⟨_, rfl, settle_once py t env frame _ (deliver_delivers py t env _ _)⟩

end LocalTransport

end CozyLife
