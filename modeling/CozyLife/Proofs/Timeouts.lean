import CozyLife.Proofs.Exchange

/-! Which calls on the sockets of an exchange run under a timeout. -/

namespace CozyLife
open Python Effects Lines

/-- A socket in this mode waits, and for `limit` at most. -/
def Bounded (limit : ℚ) (mode : Option ℚ) : Prop := ∃ r, mode = some r ∧ 0 < r ∧ r ≤ limit

/-- What can wait waits for `limit` at most. -/
def Event.Within (limit : ℚ) : Event → Prop
  | .connecting _ _ timeout => 0 < timeout ∧ timeout ≤ limit
  | .sent _ mode _ _ => Bounded limit mode
  | .read _ mode _ => Bounded limit mode
  | _ => True

/-- A write on a socket that blocks for ever. -/
def Event.blocks : Event → Bool
  | .sent _ none _ _ => true
  | _ => false

theorem Event.blocks_unbounded {e : Event} (h : e.blocks = true) : ¬ e.Within limit := by
  cases e with
  | sent s mode raw taken =>
    cases mode with
    | none => simp [Event.Within, Bounded]
    | some r => cases h
  | _ => cases h

/-- No read of a conversation looks at the clock before its start. -/
def Conversation.Forward (c : Conversation) : Prop := ∀ turn ∈ c.turns, c.started ≤ turn.now

def ExchangeEnv.Forward (env : ExchangeEnv) : Prop := env.held.Forward ∧ env.fresh.Forward

/-- What a look meets on a connection that is not closed: nothing to read, or something. -/
def PeekResult.alive : PeekResult → Bool
  | .wouldBlock => true
  | .interrupted => true
  | .data bytes => bytes ≠ []
  | _ => false

/-! ### A connection between two calls -/

/-- A write on the connection is bounded, unless a look comes first. -/
def LineSocket.Ready (limit : ℚ) (conn : LineSocket) : Prop :=
  conn.buffer = [] ∨ Bounded limit conn.timeout

/-- A look at the socket takes its timeout away. -/
theorem look_unbounded (limit : ℚ) {conn : LineSocket} {o : PeekOutcome}
    (h : conn.buffer = []) (hc : (conn.peerHasClosed o).1 = false) :
    ¬ Bounded limit (conn.peerHasClosed o).2.timeout ∧ o.look.alive = true := by
  obtain ⟨look, restored⟩ := o
  cases look <;> cases restored <;>
    simp_all [LineSocket.peerHasClosed, PeekResult.alive, Bounded]

theorem look_closes {conn : LineSocket} {o : PeekOutcome}
    (hc : (conn.peerHasClosed o).1 = true) : o.look.alive = false := by
  obtain ⟨look, restored⟩ := o
  by_cases h : conn.buffer = []
  · cases look <;> simp_all [LineSocket.peerHasClosed, PeekResult.alive]
  · simp [LineSocket.peerHasClosed, h] at hc

/-- With bytes in the buffer there is no look. -/
theorem look_skipped {conn : LineSocket} (h : conn.buffer ≠ []) (o : PeekOutcome) :
    conn.peerHasClosed o = (false, conn) := by
  simp only [LineSocket.peerHasClosed, if_pos h]

theorem look_ready {conn : LineSocket} (h : conn.Ready limit) (o : PeekOutcome) :
    (conn.peerHasClosed o).2.Ready limit := by
  by_cases hb : conn.buffer = []
  · left
    rw [LocalTransport.peerHasClosed_buffer, hb]
  · rw [look_skipped hb]
    exact h

/-! ### Reading -/

/-- A pass never waits longer than it still has, and that is at most `limit`. -/
theorem pull_within {conn : LineSocket} {deadline : ℚ} {turn : Turn}
    (hlate : deadline ≤ turn.now + limit) (h : conn.Ready limit) :
    (∀ e ∈ (conn.pull deadline turn).1, e.Within limit) ∧
      (conn.pull deadline turn).2.1.Ready limit := by
  by_cases hd : deadline - turn.now ≤ 0
  · simpa [LineSocket.pull, hd] using h
  · have hbounded : Bounded limit (some (deadline - turn.now)) :=
      ⟨_, rfl, not_le.mp hd, by linarith⟩
    cases hr : turn.read with
    | settimeoutFailed text => simpa [LineSocket.pull, hd, hr] using h
    | timedOut | failed | received =>
      simp only [LineSocket.pull, hd, hr, ↓reduceIte, List.mem_singleton, forall_eq]
      exact ⟨hbounded, .inr hbounded⟩

theorem drained_ready (body : β → Bytes → Verdict β α) (b : β) {conn : LineSocket}
    (h : conn.Ready limit) : (drained body b conn).Ready limit := by
  rcases h with h | h
  · left
    have hnone : partitionLine [] = none := rfl
    simp only [drained, h, drain_none hnone]
  · exact .inr h

theorem reads_within {body : β → Bytes → Verdict β α} {deadline : ℚ} {r : Reading β α}
    (hreads : Reads body deadline turns b conn r)
    (hlate : ∀ turn ∈ turns, deadline ≤ turn.now + limit) (h : conn.Ready limit) :
    (∀ e ∈ r.events, e.Within limit) ∧ r.conn.Ready limit := by
  induction hreads with
  | left _ b conn | threw _ b conn | timeUp b conn =>
    exact ⟨by simp, drained_ready body b h⟩
  | ended turn turns b conn | raised turn turns b conn =>
    exact pull_within (hlate turn List.mem_cons_self) (drained_ready body b h)
  | more turn turns b conn b' r hd hp hr ih =>
    obtain ⟨hnow, hlater⟩ := List.forall_mem_cons.mp hlate
    obtain ⟨hevents, hready⟩ := pull_within hnow (drained_ready body b h)
    obtain ⟨hevents', hready'⟩ := ih hlater hready
    exact ⟨List.forall_mem_append.mpr ⟨hevents, hevents'⟩, hready'⟩

namespace LocalTransport

variable (py : Interpreter)

/-- Awaiting a reply waits for the timeout of the transport at most. -/
theorem conclude_within (t : LocalTransport) (frame : Frame) (conn : LineSocket)
    {c : Conversation} (hclock : c.Forward) (h : conn.Ready t.timeout) :
    (∀ e ∈ (conclude py t (listenFor py t frame conn c)).events, e.Within t.timeout) ∧
      ∀ kept ∈ (conclude py t (listenFor py t frame conn c)).conn, kept.Ready t.timeout := by
  have hreads : Reads _ _ _ _ conn (listenFor py t frame conn c) :=
    lines_reads (replyVerdict py frame) (c.started + t.timeout) c.turns () conn
  have hlate : ∀ turn ∈ c.turns, c.started + t.timeout ≤ turn.now + t.timeout := by
    intro turn hturn
    have := hclock turn hturn
    linarith
  obtain ⟨hevents, hready⟩ := reads_within hreads hlate h
  unfold conclude
  split
  · simpa using ⟨hevents, hready⟩
  · simpa using ⟨hevents, hready⟩
  · refine ⟨List.forall_mem_append.mpr ⟨hevents, ?_⟩, by simp⟩
    simp [Event.Within]

/-- A call that writes on the held connection after a look at it: nothing is left in its buffer, and
the look does not find it closed. -/
def WritesAfterLook (t : LocalTransport) (env : ExchangeEnv) : Prop :=
  ∃ conn ∈ t.conn, conn.buffer = [] ∧ env.peek.look.alive = true

instance (t : LocalTransport) (env : ExchangeEnv) : Decidable (WritesAfterLook t env) :=
  inferInstanceAs (Decidable (∃ conn ∈ t.conn, _ ∧ _))

/-- What a transport holds on to is ready for the next call. -/
def Ready (t : LocalTransport) : Prop := 0 < t.timeout ∧ ∀ conn ∈ t.conn, conn.Ready t.timeout

section Exchange

variable {py} {t : LocalTransport} {env : ExchangeEnv} {packet : Bytes} {n : Nat}

/-- A held connection that takes a write has a timeout exactly if there was no look at it. -/
theorem kept_bounded {conn : LineSocket} (h : t.Ready) (hconn : t.conn = some conn)
    (hc : (conn.peerHasClosed env.peek).1 = false) :
    Bounded t.timeout (conn.peerHasClosed env.peek).2.timeout ↔ ¬ t.WritesAfterLook env := by
  have hwrites : t.WritesAfterLook env ↔ conn.buffer = [] ∧ env.peek.look.alive = true := by
    simp [WritesAfterLook, hconn]
  rw [hwrites]
  by_cases hb : conn.buffer = []
  · obtain ⟨hunbounded, halive⟩ := look_unbounded t.timeout hb hc
    exact iff_of_false hunbounded (fun hnot => hnot ⟨hb, halive⟩)
  · refine iff_of_true ?_ (fun hboth => hb hboth.1)
    rw [look_skipped hb]
    exact (h.2 conn hconn).resolve_left hb

theorem GivesUp.within (h : t.Ready) (hg : GivesUp t env packet evs) :
    (∀ e ∈ evs, e.Within t.timeout) ↔ ¬ t.WritesAfterLook env := by
  cases hg with
  | idle hconn => simp [WritesAfterLook, hconn]
  | hungUp conn hconn hc => simp [WritesAfterLook, hconn, Event.Within, look_closes hc]
  | broken conn k fault hconn hc hs =>
    rw [← kept_bounded h hconn hc]
    simp [Event.Within]

theorem settle_lead_conn (frame : Frame) (evs : List Event) (d : Delivery) :
    (settle py t frame (d.after evs)).conn = (settle py t frame d).conn := by
  rcases hl : d.line with e | ⟨conn, c⟩ <;> simp only [settle, Delivery.after, hl]

/-- On a connection of its own a call never waits without a timeout. -/
theorem Dials.within (h : 0 < t.timeout) (hclock : env.Forward) (frame : Frame)
    (hd : Dials py t env (encode py frame) n d) :
    (∀ e ∈ (settle py t frame d).events, e.Within t.timeout) ∧
      ∀ conn ∈ (settle py t frame d).conn, conn.Ready t.timeout := by
  have hbounded : Bounded t.timeout (some t.timeout) := ⟨_, rfl, h, le_rfl⟩
  cases hd with
  | refused | unaddressable | broken => simp [settle, Event.Within, h, hbounded]
  | taken =>
    obtain ⟨hevents, hready⟩ := conclude_within py t frame ⟨n, [], some t.timeout⟩ hclock.2
      (.inl rfl)
    refine ⟨?_, hready⟩
    simpa [settle, Event.Within, h, hbounded] using hevents

variable (py) in
/-- What happens in an exchange happens within the timeout exactly unless it writes on the held
connection after a look at it. -/
theorem outcome_within (h : t.Ready) (hclock : env.Forward) (frame : Frame) (n : Nat) :
    ((∀ e ∈ (outcome py t env frame n).events, e.Within t.timeout) ↔ ¬ t.WritesAfterLook env) ∧
      ∀ conn ∈ (outcome py t env frame n).conn, conn.Ready t.timeout := by
  unfold outcome
  rcases deliver_cases py t env (encode py frame) n with ⟨conn, hconn, hc, hs, hd⟩ | ⟨evs, hg, hd⟩
  · have hready := look_ready (h.2 conn hconn) env.peek
    obtain ⟨hevents, hkept⟩ := conclude_within py t frame _ hclock.1 hready
    rw [hd, ← kept_bounded h hconn hc]
    simp only [settle, List.nil_append, List.forall_mem_cons, Event.Within]
    exact ⟨and_iff_left hevents, hkept⟩
  · obtain ⟨hevents, hkept⟩ :=
      (deliverFresh_dials py t env (encode py frame) n).within h.1 hclock frame
    rw [hd, ← hg.within h]
    refine ⟨?_, ?_⟩
    · rw [(settle_lead py t frame evs _).1, List.forall_mem_append]
      exact and_iff_left hevents
    · rw [settle_lead_conn]
      exact hkept

end Exchange

/-! ### Runs -/

/-- A call on the transport and what it meets. -/
inductive Call
  | query (env : LocalEnv) (attrs : Option (List Int))
  | control (env : LocalEnv) (payload : Payload)

def Call.env : Call → ExchangeEnv
  | .query env _ => env.exchange
  | .control env _ => env.exchange

def Call.leaves (s : LocalTransport × World) : Call → LocalTransport × World
  | .query env attrs => after (LocalTransport.query py env attrs) s
  | .control env payload => after (LocalTransport.control py env payload) s

/-- The calls of a run, each with the state it starts from. -/
def steps : List Call → LocalTransport × World → List ((LocalTransport × World) × Call)
  | [], _ => []
  | call :: calls, s => (s, call) :: steps calls (call.leaves py s)

/-- The state a run of calls leaves. -/
def left (calls : List Call) (s : LocalTransport × World) : LocalTransport × World :=
  calls.foldl (Call.leaves py) s

variable {py}

/-- One call: what it adds to the trace is within the timeout exactly unless it writes after a look,
and the transport is ready for the next. -/
theorem call_within (call : Call) (hclock : call.env.Forward) {s : LocalTransport × World}
    (h : s.1.Ready) : (call.leaves py s).1.Ready ∧ (call.leaves py s).1.timeout = s.1.timeout ∧
      ∃ evs, (call.leaves py s).2.trace = s.2.trace ++ evs ∧
        ((∀ e ∈ evs, e.Within s.1.timeout) ↔ ¬ s.1.WritesAfterLook call.env) := by
  obtain ⟨t, w⟩ := s
  cases call with
  | query env attrs =>
    obtain ⟨hevents, hready⟩ := outcome_within py h hclock
      (queryFrameOf attrs (intText (nextSn w.lastSn env.time))) w.sockets
    rw [Call.leaves, query_after]
    exact ⟨⟨h.1, hready⟩, rfl, _, rfl, hevents⟩
  | control env payload =>
    obtain ⟨hevents, hready⟩ := outcome_within py h hclock
      (setFrameOf payload (intText (nextSn w.lastSn env.time))) w.sockets
    rw [Call.leaves, control_after]
    exact ⟨⟨h.1, hready⟩, rfl, _, rfl, hevents⟩

theorem run_within (calls : List Call) (hclock : ∀ call ∈ calls, call.env.Forward)
    {s : LocalTransport × World} (h : s.1.Ready) :
    ∃ evs, (left py calls s).2.trace = s.2.trace ++ evs ∧
      ((∀ e ∈ evs, e.Within s.1.timeout) ↔
        ∀ st ∈ steps py calls s, ¬ st.1.1.WritesAfterLook st.2.env) := by
  induction calls generalizing s with
  | nil => exact ⟨[], (List.append_nil _).symm, by simp [steps]⟩
  | cons call calls ih =>
    obtain ⟨hnow, hlater⟩ := List.forall_mem_cons.mp hclock
    obtain ⟨hready, htimeout, evs, htrace, hwithin⟩ := call_within call hnow h
    obtain ⟨evs', htrace', hwithin'⟩ := ih hlater hready
    rw [htrace, List.append_assoc] at htrace'
    rw [htimeout] at hwithin'
    refine ⟨evs ++ evs', htrace', ?_⟩
    rw [List.forall_mem_append, hwithin, hwithin', steps, List.forall_mem_cons]

/-- In every run of calls on a new transport, everything that can wait does so under a timeout, and for
no longer than the transport is set to wait, exactly if no call of the run writes on a connection it
has looked at. -/
theorem within_timeout_iff (py : Interpreter) (host : Str) (port : Int) (timeout : ℚ)
    (htimeout : 0 < timeout) (w : World) (calls : List Call)
    (hclock : ∀ call ∈ calls, call.env.Forward) :
    ∃ evs, (left py calls (⟨host, port, timeout, none⟩, w)).2.trace = w.trace ++ evs ∧
      ((∀ e ∈ evs, e.Within timeout) ↔
        ∀ st ∈ steps py calls (⟨host, port, timeout, none⟩, w), ¬ st.1.1.WritesAfterLook st.2.env) :=
  run_within calls hclock ⟨htimeout, by simp⟩

/-- A listener that answers a query with number `sn`, on whatever connection, when a look at the held
one meets `look`. -/
def answering (sn : String) (look : PeekResult) : LocalEnv :=
  let reply := ascii "\x7b\"sn\":\"" ++ ascii sn ++
    ascii "\",\"msg\":\x7b\"data\":\x7b\x7d\x7d\x7d"
  let conversation := ⟨.accepted, 0, [⟨1, .received (reply ++ TERMINATOR)⟩]⟩
  ⟨9 / 1000, ⟨look, true⟩, conversation, .opened, conversation⟩

/-- Two queries; in between a look at the connection meets `look`. -/
def twoQueries (look : PeekResult) : List Call :=
  [.query (answering "9" look) none, .query (answering "10" look) none]

theorem twoQueries_forward (look : PeekResult) : ∀ call ∈ twoQueries look, call.env.Forward := by
  simp [twoQueries, answering, Call.env, ExchangeEnv.Forward, Conversation.Forward]

theorem hungUp_within : ∃ evs,
    (left .plain (twoQueries (.data [])) (⟨str "10.0.0.7", 5555, 5, none⟩, World.initial)).2.trace =
      World.initial.trace ++ evs ∧ ∀ e ∈ evs, e.Within 5 := by
  obtain ⟨evs, htrace, hiff⟩ := within_timeout_iff .plain (str "10.0.0.7") 5555 5 (by norm_num)
    World.initial (twoQueries (.data [])) (twoQueries_forward _)
  exact ⟨evs, htrace, hiff.mpr (by decide +kernel)⟩

/-- On a connection that is still open the second query is written without a timeout. -/
theorem second_unbounded : ¬ ∀ e ∈
    (left .plain (twoQueries .wouldBlock) (⟨str "10.0.0.7", 5555, 5, none⟩, World.initial)).2.trace,
    e.Within 5 := by
  intro h
  have hsent : ∃ e ∈ (left .plain (twoQueries .wouldBlock)
      (⟨str "10.0.0.7", 5555, 5, none⟩, World.initial)).2.trace, e.blocks = true := by
    decide +kernel
  obtain ⟨e, he, hblocks⟩ := hsent
  exact Event.blocks_unbounded hblocks (h e he)

end LocalTransport

end CozyLife
