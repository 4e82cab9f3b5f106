import CozyLife.Proofs.Exchange

/-! What becomes of a held connection that the device closed while it was idle. -/

namespace CozyLife
open Python Effects Lines

/-- How the far end of a connection was closed. -/
inductive HangUp
  | fin
  | reset

/-- What a look shows of a closed connection: first the bytes that are still unread. -/
def HangUp.look (how : HangUp) (unread : Bytes) : PeekResult :=
  if unread ≠ [] then .data (unread.take CHUNK)
  else match how with
    | .fin => .data []
    | .reset => .failed

/-- Every byte goes out on a socket that was opened before it, here or among `opened`. -/
def WritesFresh (opened : List Nat) : List Event → Prop
  | [] => True
  | .opened s :: evs => WritesFresh (s :: opened) evs
  | .sent s _ _ taken :: evs => (taken = [] ∨ s ∈ opened) ∧ WritesFresh opened evs
  | .connecting _ _ _ :: evs => WritesFresh opened evs
  | .read _ _ _ :: evs => WritesFresh opened evs
  | .closed _ :: evs => WritesFresh opened evs

namespace LocalTransport

variable (py : Interpreter)

/-- Holding a connection makes no difference to the call: its frame goes out on a new connection
only, and a reply that a transport without a connection would get is what it returns. -/
def OnlyOptimisation (t : LocalTransport) (env : ExchangeEnv) (frame : Frame) (w : World) : Prop :=
  (∃ evs, (after (exchange py env frame) (t, w)).2.trace = w.trace ++ evs ∧ WritesFresh [] evs) ∧
    ∀ reply, answer (exchange py env frame) ({ t with conn := none }, w) = .ok reply →
      answer (exchange py env frame) (t, w) = .ok reply

theorem writesFresh_quiet (h : ∀ e ∈ evs, e.isSent = false) (opened : List Nat) :
    WritesFresh opened evs := by
  induction evs generalizing opened with
  | nil => trivial
  | cons e evs ih =>
    obtain ⟨he, hevs⟩ := List.forall_mem_cons.mp h
    cases e with
    | sent => simp [Event.isSent] at he
    | _ => exact ih hevs _

/-- A connection of one's own is all a fresh exchange writes on. -/
theorem settle_dials_fresh (t : LocalTransport) (env : ExchangeEnv) (frame : Frame) (n : Nat)
    (h : Dials py t env (encode py frame) n d) : WritesFresh [] (settle py t frame d).events := by
  cases h with
  | refused => trivial
  | unaddressable => trivial
  | broken => simp [settle, WritesFresh]
  | taken =>
    simp only [settle, List.cons_append, List.nil_append, WritesFresh, List.mem_singleton, or_true,
      true_and]
    refine writesFresh_quiet ?_ _
    intro e he
    rcases conclude_events py t frame _ _ e he with ⟨_, _, rfl⟩ | rfl <;> rfl

/-- The look notices the hang-up only when nothing at all is left to read. -/
theorem look_closed (conn : LineSocket) (how : HangUp) (unread : Bytes) (restored : Bool) :
    (conn.peerHasClosed ⟨how.look unread, restored⟩).1 = true ↔
      conn.buffer = [] ∧ unread = [] := by
  by_cases hb : conn.buffer = []
  · by_cases hu : unread = []
    · cases how <;> simp [LineSocket.peerHasClosed, HangUp.look, hb, hu]
    · simp [LineSocket.peerHasClosed, HangUp.look, hb, hu, CHUNK]
  · simp [LineSocket.peerHasClosed, hb]

/-- Without a held connection, what is called for is a fresh one. -/
theorem deliver_idle (t : LocalTransport) (env : ExchangeEnv) (packet : Bytes) (n : Nat) :
    deliver py { t with conn := none } env packet n = deliverFresh py t env packet n := rfl

theorem settle_conn (t : LocalTransport) (conn : Option LineSocket) (frame : Frame)
    (d : Delivery) : settle py { t with conn := conn } frame d = settle py t frame d := rfl

/-- A held connection makes no difference exactly when it is found closed or does not take a single
byte. -/
theorem optimisation_of_held {t : LocalTransport} {conn : LineSocket} (h : t.conn = some conn)
    (env : ExchangeEnv) (frame : Frame) (w : World) : OnlyOptimisation py t env frame w ↔
      (conn.peerHasClosed env.peek).1 = true ∨ env.held.send.taken (encode py frame) = [] := by
  have hpacket := encode_ne_nil py frame
  have hfresh := settle_dials_fresh py t env frame _
    (deliverFresh_dials py t env (encode py frame) w.sockets)
  unfold OnlyOptimisation
  rw [exchange_after, exchange_answer, exchange_answer]
  simp only [Outcome.state, Outcome.world, List.append_cancel_left_eq, exists_eq_left']
  unfold outcome
  rw [deliver_idle, settle_conn py t none]
  rcases deliver_cases py t env (encode py frame) w.sockets with
    ⟨held, hh, hc, hs, hd⟩ | ⟨evs, hg, hd⟩
  · -- the frame goes out on the held connection
    obtain rfl := Option.some.inj (h.symm.trans hh)
    simp only [hc, hs, SendOutcome.taken, hpacket, hd, settle, List.nil_append, WritesFresh,
      List.not_mem_nil, or_self, false_and, Bool.false_eq_true]
  · obtain ⟨hevents, hanswer⟩ := settle_lead py t frame evs
      (deliverFresh py t env (encode py frame) w.sockets)
    rw [hd, hevents, hanswer]
    cases hg with
    | idle hh => rw [h] at hh; cases hh
    | hungUp held hh hc =>
      obtain rfl := Option.some.inj (h.symm.trans hh)
      simpa [hc, WritesFresh] using hfresh
    | broken held k fault hh hc hs =>
      obtain rfl := Option.some.inj (h.symm.trans hh)
      simp only [hc, hs, Bool.false_eq_true, false_or, List.cons_append, List.nil_append,
        WritesFresh, List.not_mem_nil, or_false, imp_self, implies_true, and_true]
      exact and_iff_left hfresh

/-- On a connection the device had closed before the call, holding it open makes no difference exactly
when nothing was left to read, or when the write onto it fails before its first byte. -/
theorem optimisation_iff (t : LocalTransport) (conn : LineSocket) (how : HangUp) (unread : Bytes)
    (restored : Bool) (env : ExchangeEnv) (frame : Frame) (w : World) :
    OnlyOptimisation py { t with conn := some conn }
        { env with peek := ⟨how.look unread, restored⟩ } frame w ↔
      conn.buffer = [] ∧ unread = [] ∨ env.held.send.taken (encode py frame) = [] := by
  rw [optimisation_of_held py rfl, look_closed]

/-- A connection held to a device, with an empty buffer. -/
def holding : LocalTransport := ⟨str "10.0.0.7", 5555, 5, some ⟨0, [], some 5⟩⟩

def report : Bytes := ascii "\x7b\"cmd\":10\x7d" ++ TERMINATOR

/-- The device reports something and hangs up. On a new connection it would answer. -/
def reportThenFin : ExchangeEnv where
  peek := ⟨HangUp.fin.look report, true⟩
  held := ⟨.accepted, 0, [⟨1, .received report⟩, ⟨2, .received []⟩]⟩
  connect := .opened
  fresh := ⟨.accepted, 2, [⟨3, .received (ascii "\x7b\"sn\":\"9\"\x7d" ++ TERMINATOR)⟩]⟩

/-- The unread report hides the hang-up from the look: the query goes out on the dead connection and
is not answered, though it would have been on a new one. -/
theorem report_hides_hangup : ¬ OnlyOptimisation .plain holding reportThenFin
    (queryFrameOf none (str "9")) ⟨9, 1, [], []⟩ := by
  intro hoptimal
  obtain ⟨-, h⟩ := hoptimal
  have hfresh : (answer (exchange .plain reportThenFin (queryFrameOf none (str "9")))
      ({ holding with conn := none }, ⟨9, 1, [], []⟩)).isOk = true := by decide +kernel
  have hheld : (answer (exchange .plain reportThenFin (queryFrameOf none (str "9")))
      (holding, ⟨9, 1, [], []⟩)).isOk = false := by decide +kernel
  cases hr : answer (exchange .plain reportThenFin (queryFrameOf none (str "9")))
      ({ holding with conn := none }, ⟨9, 1, [], []⟩) with
  | error e => simp [hr, Except.isOk, Except.toBool] at hfresh
  | ok reply => simp [h reply hr, Except.isOk, Except.toBool] at hheld

end LocalTransport

end CozyLife
