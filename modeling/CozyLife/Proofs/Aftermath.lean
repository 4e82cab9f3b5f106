import CozyLife.Proofs.Hangup
import CozyLife.Proofs.WriteOnce

/-! What a local exchange leaves behind, however it ends. -/

namespace CozyLife
open Python Effects Lines

/-- The socket an event is on. -/
def Event.socket : Event → Option Nat
  | .connecting _ _ _ => none
  | .opened s => some s
  | .sent s _ _ _ => some s
  | .read s _ _ => some s
  | .closed s => some s

/-- Every socket is closed after its last use. -/
def AllClosed : List Event → Prop
  | [] => True
  | e :: evs => (∀ s, e.socket = some s → .closed s ∈ e :: evs) ∧ AllClosed evs

theorem AllClosed.append (h : AllClosed evs) (h' : AllClosed evs') : AllClosed (evs ++ evs') := by
  induction evs with
  | nil => exact h'
  | cons e evs ih =>
    obtain ⟨he, hevs⟩ := h
    refine ⟨?_, ih hevs⟩
    intro s hs
    exact List.mem_append_left evs' (he s hs)

/-- What happens on one socket only is all closed once that socket is. -/
theorem allClosed_until (h : ∀ e ∈ evs, e.socket = none ∨ e.socket = some s) :
    AllClosed (evs ++ [.closed s]) := by
  induction evs with
  | nil => simp [AllClosed, Event.socket]
  | cons e evs ih =>
    obtain ⟨he, hevs⟩ := List.forall_mem_cons.mp h
    refine ⟨?_, ih hevs⟩
    intro s' hs'
    have hsame : s' = s := by
      rcases he with he | he
      · rw [he] at hs'
        cases hs'
      · exact Option.some.inj (hs'.symm.trans he)
    simp [hsame]

namespace LocalTransport

variable (py : Interpreter)

/-- What an exchange may leave behind. A failed one leaves no connection: every socket it used is
closed and the next exchange writes on a connection of its own. A reply leaves the connection it was
read from, which is open since the frame went out on it. -/
structure LeavesClean (t : LocalTransport) (env : ExchangeEnv) (frame : Frame) (w : World) :
    Prop where
  failed : ∀ e, answer (exchange py env frame) (t, w) = .error (.transport e) →
    (after (exchange py env frame) (t, w)).1.conn = none ∧
    (∃ evs, (after (exchange py env frame) (t, w)).2.trace = w.trace ++ evs ∧ AllClosed evs) ∧
    ∀ env' frame', ∃ evs,
      (after (exchange py env' frame') (after (exchange py env frame) (t, w))).2.trace =
        (after (exchange py env frame) (t, w)).2.trace ++ evs ∧ WritesFresh [] evs
  replied : ∀ reply, answer (exchange py env frame) (t, w) = .ok reply →
    ∃ (kept conn : LineSocket) (pre post : List Event),
      (after (exchange py env frame) (t, w)).1.conn = some kept ∧ kept.sock = conn.sock ∧
      (after (exchange py env frame) (t, w)).2.trace = w.trace ++ (pre ++
        .sent conn.sock conn.timeout (encode py frame) (encode py frame) :: post) ∧
      (∀ e ∈ post, ∃ mode chunk, e = .read conn.sock mode chunk) ∧
      ∃ line ∈ completeLines (conn.buffer ++ received post), decode py line = .ok (some reply)

/-- A connection takes the frame, the lines over it decide nothing, and then it breaks while it is
being read. -/
def BreaksOff (t : LocalTransport) (env : ExchangeEnv) (frame : Frame) (n : Nat) : Prop :=
  ∃ conn c, t.takes py env n = some (conn, c) ∧
    (∀ line ∈ heard conn (c.started + t.timeout) c.turns,
      ¬ OverLimitLine py line ∧ ¬ IsAnswer py frame line) ∧
    ∃ e, silence conn (c.started + t.timeout) c.turns = some (.transport e)

/-! ### The ways an exchange ends -/

theorem GivesUp.closed (h : GivesUp t env packet evs) : AllClosed evs := by
  cases h <;> simp [AllClosed, Event.socket]

/-- A connection that is not kept is closed, and one that is kept is all that is used. -/
theorem Dials.closed (h : Dials py t env packet n d) :
    match d.line with
    | .error _ => AllClosed d.lead
    | .ok (conn, _) => ∀ e ∈ d.lead, e.socket = none ∨ e.socket = some conn.sock := by
  cases h <;> simp [AllClosed, Event.socket]

/-- An exchange whose frame did not get out leaves nothing. -/
theorem lost_closed (h : Delivers py t env packet n d) (hl : d.line = .error e) :
    AllClosed d.lead := by
  cases h with
  | held => cases hl
  | fresh evs d hg hd =>
    have hd := hd.closed py
    rw [show d.line = .error e from hl] at hd
    exact hg.closed.append hd

/-- An exchange that closes the connection its frame went out on leaves nothing. -/
theorem taken_closed {conn : LineSocket} (h : Delivers py t env packet n d)
    (hl : d.line = .ok (conn, c)) (hquiet : ∀ e ∈ evs, e.socket = some conn.sock) :
    AllClosed (d.lead ++ (evs ++ [.closed conn.sock])) := by
  cases h with
  | held => exact allClosed_until (fun e he => .inr (hquiet e he))
  | fresh evs' d hg hd =>
    have hd := hd.closed py
    rw [show d.line = .ok (conn, c) from hl] at hd
    rw [Delivery.after, List.append_assoc, ← List.append_assoc d.lead]
    apply hg.closed.append
    apply allClosed_until
    intro e he
    rcases List.mem_append.mp he with he | he
    · exact hd e he
    · exact .inr (hquiet e he)

/-- Waiting for a reply that does not come ends with the connection dropped, or with the exception of
a read behind lines that decide nothing. -/
theorem conclude_failed (t : LocalTransport) (frame : Frame) (conn : LineSocket)
    (c : Conversation) (h : (conclude py t (listenFor py t frame conn c)).answer =
      .error (.transport e)) :
    ((conclude py t (listenFor py t frame conn c)).conn = none ∧
      (conclude py t (listenFor py t frame conn c)).events =
        (listenFor py t frame conn c).events ++ [.closed conn.sock]) ∨
    (conclude py t (listenFor py t frame conn c)).conn.isSome = true ∧
      ∃ e, silence conn (c.started + t.timeout) c.turns = some (.transport e) := by
  have hunanswered := (conclude_unanswered py t frame conn c).mp ⟨e, h⟩
  have hsock := (lines_reads (replyVerdict py frame) (c.started + t.timeout) c.turns () conn).sock
  have hdec := lines_decision (replyVerdict py frame) conn (c.started + t.timeout) c.turns
  unfold conclude listenFor at h ⊢
  cases hdec with
  | undecided hall hgiven hexit =>
    rw [hexit] at h ⊢
    cases hs : silence conn (c.started + t.timeout) c.turns with
    | none => simp [hsock]
    | some e' =>
      simp only [hs, Except.error.injEq] at h
      simp [h]
  | decided pre l post hheard hpre hgiven hexit =>
    have hl : l ∈ heard conn (c.started + t.timeout) c.turns := by simp [hheard]
    have hv := (replyVerdict_next py frame l).mpr (hunanswered.1 l hl)
    rcases hexit with ⟨_, ha, _⟩ | ⟨_, he, _⟩
    · rw [hv] at ha
      cases ha
    · rw [hv] at he
      cases he

/-- A connection that breaks off is not dropped. -/
theorem conclude_breaks (t : LocalTransport) (frame : Frame) (conn : LineSocket)
    (c : Conversation) (hall : ∀ line ∈ heard conn (c.started + t.timeout) c.turns,
      ¬ OverLimitLine py line ∧ ¬ IsAnswer py frame line)
    (hs : silence conn (c.started + t.timeout) c.turns = some (.transport e)) :
    (conclude py t (listenFor py t frame conn c)).answer = .error (.transport e) ∧
      (conclude py t (listenFor py t frame conn c)).conn.isSome = true := by
  have hdec := lines_decision (replyVerdict py frame) conn (c.started + t.timeout) c.turns
  unfold conclude listenFor
  cases hdec with
  | undecided _ hgiven hexit =>
    rw [hexit, hs]
    exact ⟨rfl, rfl⟩
  | decided pre l post hheard hpre hgiven hexit =>
    have hl : l ∈ heard conn (c.started + t.timeout) c.turns := by simp [hheard]
    have hv := (replyVerdict_next py frame l).mpr (hall l hl)
    rcases hexit with ⟨_, ha, _⟩ | ⟨_, he, _⟩
    · rw [hv] at ha
      cases ha
    · rw [hv] at he
      cases he

theorem listenFor_quiet (t : LocalTransport) (frame : Frame) (conn : LineSocket)
    (c : Conversation) :
    ∀ e ∈ (listenFor py t frame conn c).events, e.socket = some conn.sock := by
  intro e he
  obtain ⟨_, _, rfl⟩ := (lines_reads (replyVerdict py frame) (c.started + t.timeout) c.turns ()
    conn).events e he
  rfl

/-- An exchange that fails leaves no connection and nothing open, unless its connection broke off. -/
theorem outcome_failed (t : LocalTransport) (env : ExchangeEnv) (frame : Frame) (n : Nat)
    (h : (outcome py t env frame n).answer = .error (.transport e)) :
    ((outcome py t env frame n).conn = none ∧ AllClosed (outcome py t env frame n).events) ∨
      BreaksOff py t env frame n := by
  have hd := deliver_delivers py t env (encode py frame) n
  have htakes := deliver_takes py t env (encode py frame) n
  unfold outcome at h ⊢
  unfold BreaksOff
  generalize deliver py t env (encode py frame) n = d at h hd htakes
  rcases hl : d.line with e' | ⟨conn, c⟩
  · left
    simp only [settle, hl, true_and]
    exact lost_closed py hd hl
  · have htake : t.takes py env n = some (conn, c) := by
      cases htake : t.takes py env n with
      | none => simp [htake, hl] at htakes
      | some p => simpa [htake, hl, eq_comm] using htakes
    simp only [settle, hl] at h ⊢
    rcases conclude_failed py t frame conn c h with ⟨hnone, hevents⟩ | ⟨_, hsilence⟩
    · refine .inl ⟨hnone, ?_⟩
      rw [hevents, ← List.cons_append]
      apply taken_closed py hd hl
      intro e he
      rcases List.mem_cons.mp he with rfl | he
      · rfl
      · exact listenFor_quiet py t frame conn c e he
    · exact .inr ⟨conn, c, htake, ((conclude_unanswered py t frame conn c).mp ⟨e, h⟩).1, hsilence⟩

/-- An exchange that breaks off fails with the broken connection held. -/
theorem outcome_breaks {t : LocalTransport} {env : ExchangeEnv} {frame : Frame} {n : Nat}
    (h : BreaksOff py t env frame n) :
    (∃ e, (outcome py t env frame n).answer = .error (.transport e)) ∧
      (outcome py t env frame n).conn ≠ none := by
  obtain ⟨conn, c, htake, hall, e, hs⟩ := h
  have hl : (deliver py t env (encode py frame) n).line = .ok (conn, c) := by
    simpa [htake] using deliver_takes py t env (encode py frame) n
  obtain ⟨ha, hconn⟩ := conclude_breaks py t frame conn c hall hs
  simp only [outcome, settle, hl]
  exact ⟨⟨e, ha⟩, Option.isSome_iff_ne_none.mp hconn⟩

/-- A reply leaves the connection held that it was read from. -/
theorem outcome_replied (t : LocalTransport) (env : ExchangeEnv) (frame : Frame) (n : Nat)
    (h : (outcome py t env frame n).answer = .ok reply) :
    ∃ (kept conn : LineSocket) (pre post : List Event),
      (outcome py t env frame n).conn = some kept ∧ kept.sock = conn.sock ∧
      (outcome py t env frame n).events = pre ++
        .sent conn.sock conn.timeout (encode py frame) (encode py frame) :: post ∧
      (∀ e ∈ post, ∃ mode chunk, e = .read conn.sock mode chunk) ∧
      ∃ line ∈ completeLines (conn.buffer ++ received post), decode py line = .ok (some reply) := by
  unfold outcome at h ⊢
  generalize deliver py t env (encode py frame) n = d at h ⊢
  rcases hl : d.line with e | ⟨conn, c⟩
  · simp [settle, hl] at h
  · simp only [settle, hl] at h ⊢
    obtain ⟨hread, line, hline, hdecode, _⟩ := conclude_replied py t frame conn c reply h
    have hsock :=
      (lines_reads (replyVerdict py frame) (c.started + t.timeout) c.turns () conn).sock
    refine ⟨(listenFor py t frame conn c).conn, conn, d.lead, _, ?_, hsock, rfl, hread, line, hline,
      hdecode⟩
    rw [(conclude_ok py t _ h).2]

/-- A transport that holds no connection writes on one of its own. -/
theorem idle_fresh {t : LocalTransport} (h : t.conn = none) (env : ExchangeEnv) (frame : Frame)
    (w : World) : ∃ evs, (after (exchange py env frame) (t, w)).2.trace = w.trace ++ evs ∧
      WritesFresh [] evs := by
  have hd := deliverFresh_dials py t env (encode py frame) w.sockets
  have hidle : deliver py t env (encode py frame) w.sockets =
      deliverFresh py t env (encode py frame) w.sockets := by
    simp only [deliver, h]
  rw [exchange_after]
  refine ⟨_, rfl, ?_⟩
  rw [outcome, hidle]
  exact settle_dials_fresh py t env frame w.sockets hd

/-- An exchange leaves nothing half-dead behind, except exactly when a connection that has taken the
frame breaks while its reply is awaited. -/
theorem leavesClean_iff (t : LocalTransport) (env : ExchangeEnv) (frame : Frame) (w : World) :
    LeavesClean py t env frame w ↔ ¬ BreaksOff py t env frame w.sockets := by
  constructor
  · intro hclean hbreaks
    obtain ⟨⟨e, he⟩, hconn⟩ := outcome_breaks py hbreaks
    have hfailed := (hclean.failed e (by rw [exchange_answer, he])).1
    rw [exchange_after] at hfailed
    exact hconn hfailed
  · intro h
    refine ⟨?_, ?_⟩
    · intro e he
      rw [exchange_answer] at he
      rcases outcome_failed py t env frame w.sockets he with ⟨hnone, hclosed⟩ | hbreaks
      · rw [exchange_after]
        refine ⟨hnone, ⟨_, rfl, hclosed⟩, ?_⟩
        intro env' frame'
        exact idle_fresh py hnone env' frame' _
      · exact absurd hbreaks h
    · intro reply hr
      rw [exchange_answer] at hr
      obtain ⟨kept, conn, pre, post, hkept, hsock, hevents, hread, hline⟩ :=
        outcome_replied py t env frame w.sockets hr
      rw [exchange_after]
      refine ⟨kept, conn, pre, post, hkept, hsock, ?_, hread, hline⟩
      simp only [Outcome.state, Outcome.world, hevents]

/-- The device takes the query and resets the connection. -/
def resetMidway : ExchangeEnv where
  peek := ⟨.wouldBlock, true⟩
  held := ⟨.accepted, 0, []⟩
  connect := .opened
  fresh := ⟨.accepted, 0, [⟨1, .failed ⟨str "[Errno 104] Connection reset by peer", none⟩⟩]⟩

/-- The call fails, and the transport goes on holding the connection that was reset. -/
theorem reset_stays_held : ¬ LeavesClean .plain ⟨str "10.0.0.7", 5555, 5, none⟩ resetMidway
    (queryFrameOf none (str "1")) World.initial := by
  intro hclean
  have hfails : (answer (exchange .plain resetMidway (queryFrameOf none (str "1")))
      (⟨str "10.0.0.7", 5555, 5, none⟩, World.initial)).map (fun _ => ()) = .error (.transport
        ⟨str "failed reading from peer: [Errno 104] Connection reset by peer"⟩) := by
    decide +kernel
  have hheld : (after (exchange .plain resetMidway (queryFrameOf none (str "1")))
      (⟨str "10.0.0.7", 5555, 5, none⟩, World.initial)).1.conn.isSome = true := by
    decide +kernel
  cases hr : answer (exchange .plain resetMidway (queryFrameOf none (str "1")))
      (⟨str "10.0.0.7", 5555, 5, none⟩, World.initial) with
  | ok reply => simp [hr, Except.map] at hfails
  | error e =>
    simp only [hr, Except.map, Except.error.injEq] at hfails
    rw [(hclean.failed _ (hfails ▸ hr)).1] at hheld
    cases hheld

end LocalTransport

end CozyLife
