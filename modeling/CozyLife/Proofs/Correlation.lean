import CozyLife.Proofs.Relay
import Mathlib.Data.List.Nodup

/-! A reply is matched with its request by the sequence number alone, over connections that outlive
an exchange together with what is left in their buffers. -/

namespace CozyLife
open Python Effects Lines

/-! ### What a socket has brought -/

/-- The bytes an event takes off socket `s`. -/
def Event.chunkOn (s : Nat) : Event → Bytes
  | .read s' _ chunk => if s' = s then chunk else []
  | _ => []

/-- Everything read off socket `s`. -/
def stream (s : Nat) (evs : List Event) : Bytes := evs.flatMap (Event.chunkOn s)

theorem stream_append (s : Nat) (evs evs' : List Event) :
    stream s (evs ++ evs') = stream s evs ++ stream s evs' := List.flatMap_append

theorem stream_cons (s : Nat) (e : Event) (evs : List Event) :
    stream s (e :: evs) = e.chunkOn s ++ stream s evs := List.flatMap_cons

theorem stream_silent {evs : List Event} (h : ∀ e ∈ evs, e.chunk = []) (s : Nat) :
    stream s evs = [] := by
  apply List.flatMap_eq_nil_iff.mpr
  intro e he
  have := h e he
  cases e with
  | read s' mode chunk =>
    simp only [Event.chunk] at this
    simp [Event.chunkOn, this]
  | _ => rfl

theorem stream_reads {evs : List Event} (h : ∀ e ∈ evs, ∃ mode chunk, e = .read k mode chunk) :
    stream k evs = received evs ∧ ∀ s, s ≠ k → stream s evs = [] := by
  induction evs with
  | nil => exact ⟨rfl, fun _ _ => rfl⟩
  | cons e evs ih =>
    obtain ⟨⟨mode, chunk, rfl⟩, hevs⟩ := List.forall_mem_cons.mp h
    obtain ⟨hk, hother⟩ := ih hevs
    refine ⟨?_, ?_⟩
    · rw [stream_cons, hk]
      simp [Event.chunkOn, received, Event.chunk]
    · intro s hs
      rw [stream_cons, hother s hs]
      simp [Event.chunkOn, hs.symm]

/-! ### Which line is a reply -/

/-- Who is at the other end of an exchange. -/
inductive Channel
  | device
  | relay (self : CloudRelayTransport)

/-- The frame a line carries; on the relay, only a line on the device's own report topic carries
one. -/
def Channel.frameIn (py : Interpreter) (channel : Channel) (line : Bytes) : Option (Dict Json) :=
  let frame := match channel with
    | .device => decode py line
    | .relay self => self.extractReport py (parseLine line)
  match frame with
  | .ok reply => reply
  | .error _ => none

/-- The line carries a frame with the sequence number of `frame`. -/
def Channel.Answers (py : Interpreter) (channel : Channel) (frame : Frame) (line : Bytes)
    (reply : Dict Json) : Prop :=
  channel.frameIn py line = some reply ∧ answers frame reply = true

/-- The first line of `bytes` that carries the number of `frame`: `passed` are the lines in front of
it and `left` is all that is behind it. -/
structure First (py : Interpreter) (channel : Channel) (frame : Frame)
    (bytes passed line left : Bytes) (reply : Dict Json) : Prop where
  split : bytes = passed ++ (line ++ 0x0D :: 0x0A :: left)
  whole : unterminated passed = []
  cut : partitionLine (line ++ 0x0D :: 0x0A :: left) = some (line, left)
  others : ∀ p ∈ completeLines passed, ∀ other, ¬ channel.Answers py frame p other
  own : channel.Answers py frame line reply

/-- A loop over the lines that is left with a reply is left at the first line with the number. -/
theorem first_of_lines {channel : Channel} {v : Unit → Bytes → Verdict Unit (Dict Json)}
    {conn : LineSocket} {deadline : ℚ} {turns : List Turn} {reply : Dict Json}
    (hnext : ∀ line other, v () line = .next () → ¬ channel.Answers py frame line other)
    (hleave : ∀ line reply, v () line = .leave reply → channel.Answers py frame line reply)
    (h : (conn.lines v deadline turns ()).exit = .left reply) :
    ∃ passed line, First py channel frame
      (conn.buffer ++ received (conn.lines v deadline turns ()).events) passed line
      (conn.lines v deadline turns ()).conn.buffer reply := by
  obtain ⟨passed, rest, line, hs, hcut, _, hwhole, hpassed, hline⟩ := lines_left h
  have hrest := Delimited.cut_eq hcut
  refine ⟨passed, line, hrest ▸ hs, hwhole, hrest ▸ hcut, ?_, hleave line reply hline⟩
  intro p hp other
  exact hnext p other (hpassed p hp)

theorem device_answers (py : Interpreter) (frame : Frame) (line : Bytes) (reply : Dict Json) :
    Channel.device.Answers py frame line reply ↔
      LocalTransport.replyVerdict py frame () line = .leave reply := by
  rw [LocalTransport.replyVerdict_leave]
  simp only [Channel.Answers, Channel.frameIn]
  rcases decode py line with e | _ | got <;> simp

theorem relay_leave (py : Interpreter) (self : CloudRelayTransport) (frame : Frame) (line : Bytes)
    (reply : Dict Json) (h : self.relayVerdict py frame () line = .leave reply) :
    (Channel.relay self).Answers py frame line reply := by
  simp only [CloudRelayTransport.relayVerdict] at h
  simp only [Channel.Answers, Channel.frameIn]
  split at h
  · cases h
  · rcases hx : self.extractReport py (parseLine line) with e | _ | got
    · simp [hx] at h
    · simp [hx] at h
    · simp only [hx] at h
      split at h
      · cases h
        exact ⟨rfl, ‹_›⟩
      · cases h

theorem relay_next (py : Interpreter) (self : CloudRelayTransport) (frame : Frame) (line : Bytes)
    (other : Dict Json) (h : self.relayVerdict py frame () line = .next ()) :
    ¬ (Channel.relay self).Answers py frame line other := by
  intro hown
  obtain ⟨hframe, hanswers⟩ := hown
  simp only [CloudRelayTransport.relayVerdict] at h
  simp only [Channel.frameIn] at hframe
  split at h
  · cases h
  · rcases hx : self.extractReport py (parseLine line) with e | _ | got
    · simp [hx] at hframe
    · simp [hx] at hframe
    · simp only [hx, Option.some.injEq] at h hframe
      subst hframe
      rw [if_pos hanswers] at h
      cases h

/-! ### What an exchange does to the streams -/

/-- What an exchange reads, when it started from the connection `held` and `n` sockets: nothing, or
one connection, which was held or is new. Whole lines are taken off its front. A reply is the first
line with the number, and the connection that is held on to still has all that is behind. -/
inductive Hears (py : Interpreter) (channel : Channel) (frame : Frame) (held : Option LineSocket)
    (n : Nat) (o : Outcome) : Prop
  | nothing (hs : ∀ s, stream s o.events = []) (hc : o.conn = none)
      (ha : ∀ reply, o.answer ≠ .ok reply)
  | via (k : Nat) (buffer passed left : Bytes)
      (hfrom : (∃ conn, held = some conn ∧ k = conn.sock ∧ buffer = conn.buffer) ∨
        k = n ∧ o.opened = 1 ∧ buffer = [])
      (hother : ∀ s, s ≠ k → stream s o.events = [])
      (hpassed : buffer ++ stream k o.events = passed ++ left) (hwhole : unterminated passed = [])
      (hconn : ∀ conn, o.conn = some conn → conn.sock = k ∧ conn.buffer = left)
      (hreply : ∀ reply, o.answer = .ok reply → (∃ before line,
          First py channel frame (buffer ++ stream k o.events) before line left reply) ∧
        (channel = .device → o.conn.isSome = true))

namespace LocalTransport

variable (py : Interpreter) {t : LocalTransport} {env : ExchangeEnv} {packet : Bytes} {n : Nat}

theorem GivesUp.silent (h : GivesUp t env packet evs) : ∀ e ∈ evs, e.chunk = [] := by
  cases h <;> simp [Event.chunk]

theorem Dials.silent (h : Dials py t env packet n d) : ∀ e ∈ d.lead, e.chunk = [] := by
  cases h <;> simp [Event.chunk]

/-- Nothing is read before the frame has gone out. -/
theorem Delivers.silent (h : Delivers py t env packet n d) : ∀ e ∈ d.lead, e.chunk = [] := by
  refine h.lead_all (P := fun e => e.chunk = []) ?_ ?_
  · intro evs hg
    exact hg.silent
  · intro d hd
    exact hd.silent py

/-- The connection awaits the reply, and is held on to unless the lines run dry. -/
theorem conclude_stream (t : LocalTransport) (r : Reading Unit (Dict Json)) (s : Nat) :
    stream s (conclude py t r).events = stream s r.events ∧
      ∀ conn, (conclude py t r).conn = some conn → conn = r.conn := by
  unfold conclude
  cases r.exit with
  | ended b => exact ⟨by simp [stream, Event.chunkOn], fun _ h => by cases h⟩
  | left reply | raised e => exact ⟨rfl, fun _ h => (Option.some.inj h).symm⟩

theorem outcome_hears (t : LocalTransport) (env : ExchangeEnv) (frame : Frame) (n : Nat) :
    Hears py .device frame t.conn n (outcome py t env frame n) := by
  have hd := deliver_delivers py t env (encode py frame) n
  unfold outcome
  generalize deliver py t env (encode py frame) n = d at hd
  have hlead := stream_silent (hd.silent py)
  rcases hl : d.line with e | ⟨conn, c⟩
  · have hset : settle py t frame d = ⟨d.lead, d.opened, none, .error e⟩ := by
      simp only [settle, hl]
    rw [hset]
    exact .nothing hlead rfl (fun _ h => by cases h)
  · have hr : Reads (replyVerdict py frame) _ _ () conn (listenFor py t frame conn c) :=
      lines_reads _ (c.started + t.timeout) c.turns () conn
    obtain ⟨hread, hother⟩ := stream_reads hr.events
    obtain ⟨passed, hpassed, _, hwhole⟩ := hr.passed
    have hconcl := conclude_stream py t (listenFor py t frame conn c)
    have hs : ∀ s, stream s (settle py t frame d).events =
        stream s (listenFor py t frame conn c).events := by
      intro s
      simp only [settle, hl, stream_append, stream_cons, hlead, (hconcl s).1]
      rfl
    have hkept : (settle py t frame d).conn = (conclude py t (listenFor py t frame conn c)).conn := by
      simp only [settle, hl]
    refine .via conn.sock conn.buffer passed (listenFor py t frame conn c).conn.buffer ?_ ?_ ?_
      hwhole ?_ ?_
    · simpa only [settle, hl] using hd.line hl
    · intro s hne
      exact (hs s).trans (hother s hne)
    · rw [hs, hread, hpassed]
    · intro conn' hconn
      rw [hkept] at hconn
      rw [(hconcl 0).2 conn' hconn]
      exact ⟨hr.sock, rfl⟩
    · intro reply hans
      have hans' : (conclude py t (listenFor py t frame conn c)).answer = .ok reply := by
        simpa only [settle, hl] using hans
      obtain ⟨hexit, hok⟩ := conclude_ok py t _ hans'
      rw [hs, hread, hkept, hok]
      refine ⟨first_of_lines ?_ (fun line reply => (device_answers py frame line reply).mpr) hexit,
        fun _ => rfl⟩
      intro line other hnext hanswers
      rw [(device_answers py frame line other).mp hanswers] at hnext
      cases hnext

end LocalTransport

namespace CloudRelayTransport

variable (py : Interpreter) (self : CloudRelayTransport)

/-- The relay's answer is the one its lines give. -/
theorem talk_hears (env : RelayEnv) (frame : Frame) (n : Nat) :
    (∀ s, stream s (self.talk py env frame n).1 = []) ∧
        (∀ reply, (self.talk py env frame n).2 ≠ .ok (some reply)) ∨
      (∀ s, stream s (self.talk py env frame n).1 = stream s (self.hear py env frame n).events) ∧
        ∀ reply, (self.talk py env frame n).2 = .ok (some reply) →
          (self.hear py env frame n).exit = .left reply := by
  unfold talk
  split
  · exact .inl ⟨fun s => rfl, fun _ h => by cases h⟩
  · split
    · exact .inl ⟨fun s => rfl, fun _ h => by cases h⟩
    · split
      · exact .inl ⟨fun s => rfl, fun _ h => by cases h⟩
      · split
        · exact .inl ⟨fun s => rfl, fun _ h => by cases h⟩
        · refine .inr ⟨fun s => rfl, ?_⟩
          intro reply h
          dsimp only at h
          split at h <;> cases h
          assumption

theorem outcome_hears (env : RelayEnv) (frame : Frame) (n : Nat) :
    Hears py (.relay self) frame none n (self.outcome py env frame n) ∧
      (self.outcome py env frame n).conn = none := by
  unfold outcome
  split
  · split
    · exact ⟨.nothing (fun s => rfl) rfl (fun _ h => by cases h), rfl⟩
    · refine ⟨?_, rfl⟩
      have hr : Reads (self.relayVerdict py frame) _ _ () ⟨n, [], some self.timeout⟩
          (self.hear py env frame n) :=
        lines_reads _ (env.started + self.timeout) env.turns () ⟨n, [], some self.timeout⟩
      obtain ⟨hread, hother⟩ := stream_reads hr.events
      obtain ⟨passed, hpassed, _, hwhole⟩ := hr.passed
      have hs : ∀ evs, ∀ s, stream s (Event.connecting self.host self.port self.timeout ::
          .opened n :: evs ++ [.closed n]) = stream s evs := by
        intro evs s
        simp [stream, Event.chunkOn]
      rcases self.talk_hears py env frame n with ⟨hnone, hans⟩ | ⟨hsame, hans⟩
      · refine .nothing (fun s => (hs _ s).trans (hnone s)) rfl ?_
        intro reply h
        dsimp only at h
        split at h <;> cases h
        exact hans _ ‹_›
      · refine .via n [] passed (self.hear py env frame n).conn.buffer (.inr ⟨rfl, rfl, rfl⟩)
          (fun s hne => (hs _ s).trans ((hsame s).trans (hother s hne))) ?_ hwhole
          (fun _ h => by cases h) ?_
        · rw [hs, hsame, hread]
          exact hpassed
        · intro reply h
          dsimp only at h
          split at h <;> cases h
          rw [hs, hsame, hread]
          exact ⟨first_of_lines (relay_next py self frame) (relay_leave py self frame)
            (hans _ ‹_›), fun h => by cases h⟩
  · exact ⟨.nothing (fun s => rfl) rfl (fun _ h => by cases h), rfl⟩

end CloudRelayTransport

/-! ### Every connection is behind on its own stream only -/

/-- A connection has whole lines behind it and all that came after them in its buffer. -/
def Behind (conn : LineSocket) (w : World) : Prop :=
  ∃ consumed, stream conn.sock w.trace = consumed ++ conn.buffer ∧ unterminated consumed = []

/-- No socket has brought anything before it is opened, and no two transports share one. -/
structure Streams (locals : Nat → LocalTransport) (w : World) : Prop where
  unread : ∀ s, w.sockets ≤ s → stream s w.trace = []
  known : ∀ i conn, (locals i).conn = some conn → conn.sock < w.sockets
  behind : ∀ i conn, (locals i).conn = some conn → Behind conn w
  apart : ∀ i j conn conn', i ≠ j → (locals i).conn = some conn → (locals j).conn = some conn' →
    conn.sock ≠ conn'.sock

theorem Streams.quiet (h : Streams locals w) (hstream : ∀ s, stream s w'.trace = stream s w.trace)
    (hsockets : w.sockets ≤ w'.sockets)
    (hlocals : ∀ i conn, (locals' i).conn = some conn → (locals i).conn = some conn) :
    Streams locals' w' where
  unread s hs := (hstream s).trans (h.unread s (hsockets.trans hs))
  known i conn hc := (h.known i conn (hlocals i conn hc)).trans_le hsockets
  behind i conn hc := by
    obtain ⟨consumed, hs, hwhole⟩ := h.behind i conn (hlocals i conn hc)
    exact ⟨consumed, (hstream _).trans hs, hwhole⟩
  apart i j conn conn' hij hc hc' := h.apart i j conn conn' hij (hlocals i conn hc)
    (hlocals j conn' hc')

/-- The connection an exchange takes over, if it does: whose it is. -/
structure TakesOver (owner : Option Nat) (locals locals' : Nat → LocalTransport)
    (held kept : Option LineSocket) : Prop where
  held : ∀ conn, held = some conn → ∃ i, owner = some i ∧ (locals i).conn = some conn
  kept : ∀ i conn, (locals' i).conn = some conn →
    owner = some i ∧ kept = some conn ∨ owner ≠ some i ∧ (locals i).conn = some conn

/-- What a connection has brought when an exchange takes it over. -/
theorem Streams.taken (h : Streams locals w) (ht : TakesOver owner locals locals' held kept)
    (hfrom : (∃ conn, held = some conn ∧ k = conn.sock ∧ buffer = conn.buffer) ∨
      k = w.sockets ∧ opened = 1 ∧ buffer = []) :
    k < w.sockets + opened ∧
      (∃ consumed, stream k w.trace = consumed ++ buffer ∧ unterminated consumed = []) ∧
      ∀ i conn, owner ≠ some i → (locals i).conn = some conn → conn.sock ≠ k := by
  rcases hfrom with ⟨conn, hheld, rfl, rfl⟩ | ⟨rfl, rfl, rfl⟩
  · obtain ⟨i, rfl, hi⟩ := ht.held conn hheld
    refine ⟨Nat.lt_add_right _ (h.known i conn hi), h.behind i conn hi, ?_⟩
    intro j conn' hj hc
    exact h.apart j i conn' conn (fun he => hj (he ▸ rfl)) hc hi
  · refine ⟨Nat.lt_succ_self _, ⟨[], by simp [h.unread], completeLines_nil.2⟩, ?_⟩
    intro i conn _ hc
    exact Nat.ne_of_lt (h.known i conn hc)

theorem Streams.exchange {o : Outcome} (h : Streams locals w)
    (ht : TakesOver owner locals locals' held o.conn)
    (hears : Hears py channel frame held w.sockets o) (sn : Int) :
    Streams locals' (o.world { w with lastSn := sn }) := by
  have htrace : ∀ s, stream s (o.world { w with lastSn := sn }).trace =
      stream s w.trace ++ stream s o.events := fun s => stream_append s _ _
  have hsockets : (o.world { w with lastSn := sn }).sockets = w.sockets + o.opened := rfl
  cases hears with
  | nothing hs hc _ =>
    apply h.quiet
    · intro s
      rw [htrace, hs, List.append_nil]
    · exact Nat.le_add_right _ _
    · intro i conn hi
      rcases ht.kept i conn hi with ⟨_, hk⟩ | ⟨_, hi⟩
      · rw [hc] at hk
        cases hk
      · exact hi
  | via k buffer passed left hfrom hother hpassed hwhole hconn _ =>
    obtain ⟨hlt, ⟨consumed, hk, hopen⟩, hdistinct⟩ := h.taken ht hfrom
    have hsame : ∀ s, s ≠ k → stream s (o.world { w with lastSn := sn }).trace =
        stream s w.trace := by
      intro s hs
      rw [htrace, hother s hs, List.append_nil]
    refine ⟨?_, ?_, ?_, ?_⟩
    · intro s hs
      rw [hsockets] at hs
      rw [hsame s (by omega)]
      exact h.unread s (by omega)
    · intro i conn hi
      rw [hsockets]
      rcases ht.kept i conn hi with ⟨_, hkept⟩ | ⟨_, hi⟩
      · rw [(hconn conn hkept).1]
        exact hlt
      · exact Nat.lt_add_right _ (h.known i conn hi)
    · intro i conn hi
      rcases ht.kept i conn hi with ⟨_, hkept⟩ | ⟨hne, hi⟩
      · obtain ⟨rfl, rfl⟩ := hconn conn hkept
        refine ⟨consumed ++ passed, ?_, ?_⟩
        · rw [htrace, hk, List.append_assoc, hpassed, List.append_assoc]
        · rw [unterminated_append, hopen, List.nil_append, hwhole]
      · obtain ⟨consumed, hs, hopen⟩ := h.behind i conn hi
        exact ⟨consumed, (hsame _ (hdistinct i conn hne hi)).trans hs, hopen⟩
    · intro i j conn conn' hij hi hj
      rcases ht.kept i conn hi with ⟨hown, hkept⟩ | ⟨hne, hi⟩
      · rcases ht.kept j conn' hj with ⟨hown', _⟩ | ⟨hne', hj⟩
        · exact absurd (Option.some.inj (hown.symm.trans hown')) hij
        · rw [(hconn conn hkept).1]
          exact (hdistinct j conn' hne' hj).symm
      · rcases ht.kept j conn' hj with ⟨_, hkept'⟩ | ⟨hne', hj⟩
        · rw [(hconn conn' hkept').1]
          exact hdistinct i conn hne hi
        · exact h.apart i j conn conn' hij hi hj

/-! ### The exchanges of a process -/

/-- What is asked of a device. -/
inductive Ask
  | query (attrs : Option (List Int))
  | control (payload : Payload)

/-- The frame `query` and `control` begin with. -/
def Ask.build (ask : Ask) (time : ℚ) : EStateM Exn World Frame :=
  match ask with
  | .query attrs => queryFrame attrs none time
  | .control payload => setFrame payload none time

def Ask.frameOf (ask : Ask) (sn : Str) : Frame :=
  match ask with
  | .query attrs => queryFrameOf attrs sn
  | .control payload => setFrameOf payload sn

@[simp] theorem Ask.build_run (ask : Ask) (time : ℚ) (w : World) : (ask.build time).run w =
    .ok (ask.frameOf (intText (nextSn w.lastSn time))) { w with lastSn := nextSn w.lastSn time } := by
  cases ask <;> rfl

theorem Ask.frameOf_sn (ask : Ask) (sn : Str) : (ask.frameOf sn).sn = sn := by cases ask <;> rfl

/-- An exchange of the past: with whom, under which number, for which frame, from which connection
and to which, after what and with what happening, and what it returned or raised. -/
structure Exchanged where
  channel : Channel
  sn : Int
  frame : Frame
  held : Option LineSocket
  kept : Option LineSocket
  before : List Event
  events : List Event
  answer : Except Exn (Dict Json)

/-- A process with any number of local transports, and its exchanges so far, latest first. -/
structure Process where
  locals : Nat → LocalTransport
  world : World
  past : List Exchanged

/-- What a process does with its transports and its sequence numbers. Discovery takes a number for
each of its probes. -/
inductive Action
  | device (i : Nat) (env : LocalEnv) (ask : Ask)
  | relay (self : CloudRelayTransport) (env : RelayEnv) (ask : Ask)
  | close (i : Nat)
  | probe (time : ℚ)

namespace Process

variable (py : Interpreter)

def replace (locals : Nat → LocalTransport) (i : Nat) (t : LocalTransport) :
    Nat → LocalTransport := fun j => if j = i then t else locals j

def step (p : Process) : Action → Process
  | .device i env ask =>
    let exchanged : Method LocalTransport (Frame × Except Exn (Dict Json)) := do
      let frame ← onWorld (ask.build env.time)
      return (frame, ← caught (LocalTransport.exchange py env.exchange frame))
    match exchanged.run (p.locals i, p.world) with
    | .ok (frame, answer) (t, w) => ⟨replace p.locals i t, w,
        ⟨.device, w.lastSn, frame, (p.locals i).conn, t.conn, p.world.trace,
          w.trace.drop p.world.trace.length, answer⟩ :: p.past⟩
    | .error _ (t, w) => ⟨replace p.locals i t, w, p.past⟩
  | .relay self env ask =>
    let exchanged : EStateM Exn World (Frame × Except Exn (Dict Json)) := do
      let frame ← ask.build env.time
      return (frame, ← caught (self.exchange py env frame))
    match exchanged.run p.world with
    | .ok (frame, answer) w => { p with
        world := w,
        past := ⟨.relay self, w.lastSn, frame, none, none, p.world.trace,
          w.trace.drop p.world.trace.length, answer⟩ :: p.past }
    | .error _ w => { p with world := w }
  | .close i =>
    let (t, w) := after LocalTransport.disconnect (p.locals i, p.world)
    { p with locals := replace p.locals i t, world := w }
  | .probe time => { p with world := after (newSn time) p.world }

/-- A process at its start: none of its transports holds a connection. -/
def start (locals : Nat → LocalTransport) : Process :=
  ⟨fun i => { locals i with conn := none }, .initial, []⟩

/-- What an exchange with outcome `o` makes of the process. -/
def exchanged (p : Process) (channel : Channel) (sn : Int) (frame : Frame)
    (held : Option LineSocket) (o : Outcome) (locals : Nat → LocalTransport) : Process :=
  ⟨locals, o.world { p.world with lastSn := sn },
    ⟨channel, sn, frame, held, o.conn, p.world.trace, o.events, o.answer⟩ :: p.past⟩

theorem step_device (p : Process) (i : Nat) (env : LocalEnv) (ask : Ask) :
    let sn := nextSn p.world.lastSn env.time
    let frame := ask.frameOf (intText sn)
    let o := LocalTransport.outcome py (p.locals i) env.exchange frame p.world.sockets
    p.step py (.device i env ask) = p.exchanged .device sn frame (p.locals i).conn o
      (replace p.locals i { p.locals i with conn := o.conn }) := by
  simp only [step, exchanged, EStateM.run_bind, run_onWorld, Ask.build_run, run_caught,
    EStateM.run_pure, LocalTransport.exchange_run, Outcome.result]
  cases (LocalTransport.outcome py (p.locals i) env.exchange _ p.world.sockets).answer <;>
    simp [Outcome.state, Outcome.world]

theorem step_relay (p : Process) (self : CloudRelayTransport) (env : RelayEnv) (ask : Ask) :
    let sn := nextSn p.world.lastSn env.time
    let frame := ask.frameOf (intText sn)
    let o := self.outcome py env frame p.world.sockets
    p.step py (.relay self env ask) = p.exchanged (.relay self) sn frame none o p.locals := by
  have hconn := fun frame => (self.outcome_hears py env frame p.world.sockets).2
  simp only [step, exchanged, EStateM.run_bind, Ask.build_run, run_caught,
    CloudRelayTransport.exchange_run, hconn]
  cases (self.outcome py env _ p.world.sockets).answer <;> simp [Outcome.world]

/-! ### The history -/

theorem takesOver_device (locals : Nat → LocalTransport) (i : Nat) (conn : Option LineSocket) :
    TakesOver (some i) locals (replace locals i { locals i with conn := conn }) (locals i).conn
      conn where
  held conn h := ⟨i, rfl, h⟩
  kept j conn h := by
    by_cases hj : j = i
    · subst hj
      simp only [replace, ↓reduceIte] at h
      exact .inl ⟨rfl, h⟩
    · simp only [replace, hj, ↓reduceIte] at h
      exact .inr ⟨fun he => hj (Option.some.inj he).symm, h⟩

theorem takesOver_relay (locals : Nat → LocalTransport) (kept : Option LineSocket) :
    TakesOver none locals locals none kept where
  held conn h := by cases h
  kept i conn h := .inr ⟨by simp, h⟩

/-- An exchange came to its reply over socket `s`: earlier exchanges took `consumed` off it, and the
reply is the first line behind that with the number of this one. -/
structure Served (py : Interpreter) (x : Exchanged) (s : Nat) (consumed passed line left : Bytes)
    (reply : Dict Json) : Prop where
  before : (∃ conn, x.held = some conn ∧ s = conn.sock ∧
      stream s x.before = consumed ++ conn.buffer) ∨ stream s x.before = [] ∧ consumed = []
  whole : unterminated consumed = []
  first : ∃ bytes, stream s (x.before ++ x.events) = consumed ++ bytes ∧
    First py x.channel x.frame bytes passed line left reply
  kept : x.channel = .device → ∃ conn, x.kept = some conn ∧ conn.sock = s ∧ conn.buffer = left

structure History (py : Interpreter) (p : Process) : Prop where
  ordered : p.past.Pairwise (fun later earlier => earlier.sn < later.sn)
  numbered : ∀ x ∈ p.past, x.sn ≤ p.world.lastSn ∧ x.frame.sn = intText x.sn
  seen : ∀ x ∈ p.past, x.before ++ x.events <+: p.world.trace
  served : ∀ x ∈ p.past, ∀ reply, x.answer = .ok reply →
    ∃ s consumed passed line left, Served py x s consumed passed line left reply

variable {py}

theorem History.quiet {p p' : Process} (h : History py p) (hpast : p'.past = p.past)
    (hsn : p.world.lastSn ≤ p'.world.lastSn) (htrace : p.world.trace <+: p'.world.trace) :
    History py p' where
  ordered := by rw [hpast]; exact h.ordered
  numbered x hx := by
    obtain ⟨hle, htext⟩ := h.numbered x (hpast ▸ hx)
    exact ⟨hle.trans hsn, htext⟩
  seen x hx := (h.seen x (hpast ▸ hx)).trans htrace
  served x hx := h.served x (hpast ▸ hx)

/-- What an exchange hears is served in the sense above. -/
theorem served_of_hears {p : Process} {o : Outcome} (h : Streams p.locals p.world)
    (ht : TakesOver owner p.locals locals' held o.conn)
    (hears : Hears py channel frame held p.world.sockets o) (ha : o.answer = .ok reply) :
    ∃ s consumed passed line left, Served py
      ⟨channel, sn, frame, held, o.conn, p.world.trace, o.events, o.answer⟩ s consumed passed line
      left reply := by
  cases hears with
  | nothing _ _ hnone => exact absurd ha (hnone reply)
  | via k buffer passed left hfrom _ _ _ hconn hreply =>
    obtain ⟨_, ⟨consumed, hk, hopen⟩, _⟩ := h.taken ht hfrom
    obtain ⟨⟨before, line, hfirst⟩, hkept⟩ := hreply reply ha
    refine ⟨k, consumed, before, line, left, ?_, hopen, ?_, ?_⟩
    · rcases hfrom with ⟨conn, hheld, hsock, hbuffer⟩ | ⟨hnew, _, _⟩
      · exact .inl ⟨conn, hheld, hsock, hbuffer ▸ hk⟩
      · have hnil := h.unread k hnew.ge
        exact .inr ⟨hnil, (List.append_eq_nil_iff.mp (hk.symm.trans hnil)).1⟩
    · exact ⟨_, by rw [stream_append, hk, List.append_assoc], hfirst⟩
    · intro hdevice
      obtain ⟨conn, hc⟩ := Option.isSome_iff_exists.mp (hkept hdevice)
      exact ⟨conn, hc, hconn conn hc⟩

/-- An exchange under the next number keeps both invariants. -/
theorem exchanged_keeps {p : Process} {o : Outcome} (hs : Streams p.locals p.world)
    (hh : History py p) (time : ℚ) (ask : Ask)
    (ht : TakesOver owner p.locals locals' held o.conn)
    (hears : Hears py channel (ask.frameOf (intText (nextSn p.world.lastSn time))) held
      p.world.sockets o) :
    let p' := p.exchanged channel (nextSn p.world.lastSn time)
      (ask.frameOf (intText (nextSn p.world.lastSn time))) held o locals'
    Streams p'.locals p'.world ∧ History py p' := by
  have hlt := lt_nextSn p.world.lastSn time
  refine ⟨hs.exchange ht hears _, ?_, ?_, ?_, ?_⟩
  · refine .cons ?_ hh.ordered
    intro x hx
    exact (hh.numbered x hx).1.trans_lt hlt
  · intro x hx
    rcases List.mem_cons.mp hx with rfl | hx
    · exact ⟨le_rfl, ask.frameOf_sn _⟩
    · exact ⟨(hh.numbered x hx).1.trans hlt.le, (hh.numbered x hx).2⟩
  · intro x hx
    rcases List.mem_cons.mp hx with rfl | hx
    · exact List.prefix_rfl
    · exact (hh.seen x hx).trans (List.prefix_append _ _)
  · intro x hx
    rcases List.mem_cons.mp hx with rfl | hx
    · intro reply ha
      exact served_of_hears hs ht hears ha
    · exact hh.served x hx

theorem step_keeps {p : Process} (hs : Streams p.locals p.world) (hh : History py p)
    (action : Action) :
    Streams (p.step py action).locals (p.step py action).world ∧ History py (p.step py action) := by
  cases action with
  | device i env ask =>
    rw [step_device]
    exact exchanged_keeps hs hh env.time ask (takesOver_device p.locals i _)
      (LocalTransport.outcome_hears py (p.locals i) env.exchange _ p.world.sockets)
  | relay self env ask =>
    rw [step_relay]
    exact exchanged_keeps hs hh env.time ask (takesOver_relay p.locals _)
      (self.outcome_hears py env _ p.world.sockets).1
  | close i =>
    simp only [step, after, LocalTransport.disconnect_run]
    refine ⟨hs.quiet ?_ le_rfl ?_, hh.quiet rfl le_rfl ?_⟩
    · intro s
      have hclosed : ∀ e ∈ (p.locals i).conn.toList.map (fun c => Event.closed c.sock),
          e.chunk = [] := by
        intro e he
        obtain ⟨c, _, rfl⟩ := List.mem_map.mp he
        rfl
      rw [stream_append, stream_silent hclosed, List.append_nil]
    · intro j conn hj
      by_cases hji : j = i
      · simp [replace, hji] at hj
      · simpa [replace, hji] using hj
    · exact List.prefix_append _ _
  | probe time =>
    exact ⟨hs.quiet (fun s => rfl) le_rfl (fun _ _ h => h),
      hh.quiet rfl (lt_nextSn p.world.lastSn time).le List.prefix_rfl⟩

variable (py) in
theorem run_keeps (actions : List Action) {p : Process} (hs : Streams p.locals p.world)
    (hh : History py p) :
    Streams (actions.foldl (step py) p).locals (actions.foldl (step py) p).world ∧
      History py (actions.foldl (step py) p) := by
  induction actions generalizing p with
  | nil => exact ⟨hs, hh⟩
  | cons action actions ih =>
    obtain ⟨hs', hh'⟩ := step_keeps hs hh action
    exact ih hs' hh'

variable (py) in
theorem start_keeps (locals : Nat → LocalTransport) :
    Streams (start locals).locals (start locals).world ∧ History py (start locals) := by
  refine ⟨⟨fun _ _ => rfl, ?_, ?_, ?_⟩, .nil, ?_, ?_, ?_⟩
  · intro i conn h
    cases h
  · intro i conn h
    cases h
  · intro i j conn conn' _ h
    cases h
  · intro x hx
    cases hx
  · intro x hx
    cases hx
  · intro x hx
    cases hx

/-! ### Replies and their requests -/

/-- A reply carries one number. -/
theorem answers_sn {f g : Frame} (hf : answers f reply = true) (hg : answers g reply = true) :
    f.sn = g.sn := by
  unfold answers at hf hg
  split at hf
  · rename_i sn hsn
    simp only [hsn] at hg
    cases sn with
    | str s =>
      simp only [Json.eqStr, beq_iff_eq] at hf hg
      exact hf.symm.trans hg
    | _ => cases hf
  · cases hf

/-- Two exchanges under one number are one exchange. -/
theorem History.same (h : History py p) (hx : x ∈ p.past) (hy : y ∈ p.past)
    (hsn : y.frame.sn = x.frame.sn) : y = x := by
  have hno : x.sn = y.sn := by
    rw [(h.numbered x hx).2, (h.numbered y hy).2] at hsn
    exact (intText_injective hsn).symm
  have hnodup : (p.past.map Exchanged.sn).Nodup := by
    apply List.pairwise_map.mpr
    apply h.ordered.imp
    intro later earlier hlt
    exact (ne_of_lt hlt).symm
  exact (List.inj_on_of_nodup_map hnodup hx hy hno).symm

/-- Line `line` of socket `s`, with `start` bytes of the socket in front of it. -/
def LineAt (s start : Nat) (line : Bytes) (evs : List Event) : Prop :=
  ∃ front left, stream s evs = front ++ (line ++ 0x0D :: 0x0A :: left) ∧ front.length = start ∧
    unterminated front = [] ∧ partitionLine (line ++ 0x0D :: 0x0A :: left) = some (line, left)

/-- The peers send a frame with the number of a request only after the request: whatever line carries
the number of an exchange, an exchange under this number had begun before any of the line arrived. -/
def Causal (py : Interpreter) (p : Process) : Prop :=
  ∀ x ∈ p.past, ∀ s start line reply, LineAt s start line p.world.trace →
    x.channel.Answers py x.frame line reply →
    ∃ y ∈ p.past, y.frame.sn = x.frame.sn ∧ (stream s y.before).length ≤ start

theorem Served.lineAt {x : Exchanged} (h : Served py x s consumed passed line left reply)
    (hseen : x.before ++ x.events <+: trace) :
    LineAt s (consumed ++ passed).length line trace := by
  obtain ⟨more, rfl⟩ := hseen
  obtain ⟨bytes, hstream, hfirst⟩ := h.first
  refine ⟨consumed ++ passed, left ++ stream s more, ?_, rfl, ?_, ?_⟩
  · rw [stream_append, hstream, hfirst.split]
    simp
  · rw [unterminated_append, h.whole, List.nil_append, hfirst.whole]
  · have hcut : partitionLine ((line ++ 0x0D :: 0x0A :: left) ++ stream s more) = _ :=
      Delimited.cut_append hfirst.cut (stream s more)
    simpa using hcut

variable (py) in
/-- In every run of exchanges the numbers increase, and an exchange that returns a reply returns the
first frame with its own number that its connection still has to bring. No reply answers two
exchanges, and if peers wait for a request before they use its number, every byte of a reply has
arrived after the request it is the answer to. -/
theorem replies_correlated (locals : Nat → LocalTransport) (actions : List Action) :
    let p := actions.foldl (step py) (start locals)
    p.past.Pairwise (fun later earlier => earlier.sn < later.sn) ∧
      (∀ x ∈ p.past, x.frame.sn = intText x.sn) ∧
      p.past.Pairwise (fun later earlier => earlier.frame.sn ≠ later.frame.sn) ∧
      ∀ x ∈ p.past, ∀ reply, x.answer = .ok reply →
        (∀ y ∈ p.past, answers y.frame reply = true → y = x) ∧
          ∃ s consumed passed line left, Served py x s consumed passed line left reply ∧
            (Causal py p → (stream s x.before).length ≤ (consumed ++ passed).length) := by
  obtain ⟨hs, hh⟩ := start_keeps py locals
  obtain ⟨_, h⟩ := run_keeps py actions hs hh
  refine ⟨h.ordered, fun x hx => (h.numbered x hx).2, ?_, ?_⟩
  · apply h.ordered.imp_of_mem
    intro later earlier hl he hlt hsn
    rw [h.same he hl hsn.symm] at hlt
    exact lt_irrefl _ hlt
  · intro x hx reply ha
    obtain ⟨s, consumed, passed, line, left, hserved⟩ := h.served x hx reply ha
    obtain ⟨_, _, hfirst⟩ := hserved.first
    refine ⟨?_, s, consumed, passed, line, left, hserved, ?_⟩
    · intro y hy hans
      exact h.same hx hy (answers_sn hans hfirst.own.2)
    · intro hcausal
      have hat := hserved.lineAt (h.seen x hx)
      obtain ⟨y, hy, hsn, hle⟩ := hcausal x hx s _ line reply hat hfirst.own
      rwa [h.same hx hy hsn] at hle

end Process

end CozyLife
