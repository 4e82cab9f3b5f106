import CozyLife.Proofs.Keeping

/-! Which sockets are open between the calls of a client. -/

namespace CozyLife
open Python Effects

/-- The open sockets after an event. -/
def Event.track (opened : List Nat) : Event → List Nat
  | .opened s => s :: opened
  | .closed s => opened.filter (· ≠ s)
  | _ => opened

/-- The sockets that were opened and not closed since. -/
def openSockets (evs : List Event) : List Nat := evs.foldl Event.track []

/-- Exactly the sockets in `held` are open, and they are among those opened so far. -/
structure Owns (held : List Nat) (w : World) : Prop where
  exact : openSockets w.trace = held
  known : ∀ s ∈ held, s < w.sockets

theorem Owns.of_eq (h : Owns held w) (ht : w'.trace = w.trace) (hs : w'.sockets = w.sockets) :
    Owns held w' :=
  ⟨by rw [ht]; exact h.exact, by rw [hs]; exact h.known⟩

theorem Owns.world {o : Outcome} (h : Owns held w) (ht : o.events.foldl Event.track held = held')
    (hs : ∀ s ∈ held', s < w.sockets + o.opened) : Owns held' (o.world w) := by
  refine ⟨?_, hs⟩
  simp only [Outcome.world, openSockets, List.foldl_append]
  rw [show w.trace.foldl Event.track [] = held from h.exact, ht]

/-- Writing and reading open and close nothing. -/
theorem track_still {evs : List Event} (h : ∀ e ∈ evs, ∀ held, e.track held = held)
    (held : List Nat) : evs.foldl Event.track held = held := by
  induction evs with
  | nil => rfl
  | cons e evs ih =>
    obtain ⟨he, hevs⟩ := List.forall_mem_cons.mp h
    rw [List.foldl_cons, he]
    exact ih hevs

theorem track_reads {evs : List Event} (h : ∀ e ∈ evs, ∃ mode chunk, e = .read s mode chunk) :
    ∀ e ∈ evs, ∀ held, e.track held = held := by
  intro e he held
  obtain ⟨_, _, rfl⟩ := h e he
  rfl

namespace LocalTransport

variable (py : Interpreter)

/-- The sockets a transport holds on to. -/
def held (t : LocalTransport) : List Nat := t.conn.toList.map (·.sock)

/-- Getting the frame out leaves open just the connection that took it, if one did. -/
theorem deliver_track (t : LocalTransport) (env : ExchangeEnv) (packet : Bytes) (n : Nat)
    (hn : ∀ s ∈ t.held, s < n) :
    match (deliver py t env packet n).line with
    | .error _ => (deliver py t env packet n).lead.foldl Event.track t.held = []
    | .ok (conn, _) => (deliver py t env packet n).lead.foldl Event.track t.held = [conn.sock] ∧
        conn.sock < n + (deliver py t env packet n).opened := by
  rcases deliver_cases py t env packet n with ⟨conn, h, hc, hs, hd⟩ | ⟨evs, hg, hd⟩
  · have hheld : t.held = [conn.sock] := by simp [held, h]
    have hsock := peerHasClosed_sock conn env.peek
    rw [hd]
    simp only [List.foldl_nil, hheld, hsock, Nat.add_zero, true_and]
    exact hn _ (by simp [hheld])
  · have hempty : evs.foldl Event.track t.held = [] := by
      cases hg with
      | idle h => simp [held, h]
      | hungUp conn h hc => simp [held, h, Event.track]
      | broken conn k fault h hc hs => simp [held, h, Event.track]
    have hf := deliverFresh_dials py t env packet n
    rw [hd]
    simp only [Delivery.after, List.foldl_append, hempty]
    generalize deliverFresh py t env packet n = d at hf
    cases hf <;> simp [Event.track]

/-- Awaiting the reply closes the connection or holds on to it. -/
theorem conclude_track (t : LocalTransport) (frame : Frame) (conn : LineSocket)
    (c : Conversation) :
    (conclude py t (listenFor py t frame conn c)).events.foldl Event.track [conn.sock] =
        (conclude py t (listenFor py t frame conn c)).conn.toList.map (·.sock) ∧
      ∀ s ∈ (conclude py t (listenFor py t frame conn c)).conn.toList.map (·.sock),
        s = conn.sock := by
  have hr : Lines.Reads _ _ _ _ conn (listenFor py t frame conn c) :=
    Lines.lines_reads (replyVerdict py frame) (c.started + t.timeout) c.turns () conn
  have hreads := track_still (track_reads hr.events) [conn.sock]
  have hsock := hr.sock
  unfold conclude
  split
  · simp [hreads, hsock]
  · simp [hreads, hsock]
  · simp [hreads, hsock, Event.track]

/-- After an exchange, the sockets open are those the transport holds on to. -/
theorem outcome_owns (t : LocalTransport) (env : ExchangeEnv) (frame : Frame) {w : World}
    (h : Owns t.held w) : Owns ((outcome py t env frame w.sockets).conn.toList.map (·.sock))
      ((outcome py t env frame w.sockets).world w) := by
  have hd := deliver_track py t env (encode py frame) w.sockets h.known
  have hset : outcome py t env frame w.sockets =
    settle py t frame (deliver py t env (encode py frame) w.sockets) := rfl
  rcases hl : (deliver py t env (encode py frame) w.sockets).line with e | ⟨conn, c⟩
  · simp only [hl] at hd
    refine h.world ?_ ?_ <;> simp [hset, settle, hl, hd]
  · obtain ⟨hlead, hlt⟩ : _ ∧ _ := by simpa only [hl] using hd
    obtain ⟨hend, hkept⟩ := conclude_track py t frame conn c
    refine h.world ?_ ?_
    · simp only [hset, settle, hl, List.foldl_append, List.foldl_cons, hlead]
      exact hend
    · intro s hs
      simp only [hset, settle, hl] at hs ⊢
      rw [hkept s hs]
      exact hlt

end LocalTransport

namespace CloudRelayTransport

variable (py : Interpreter) (self : CloudRelayTransport)

theorem talk_still (env : RelayEnv) (frame : Frame) (n : Nat) :
    ∀ e ∈ (self.talk py env frame n).1, ∀ held, e.track held = held := by
  have hreads : ∀ e ∈ (self.hear py env frame n).events, ∀ held, e.track held = held :=
    track_reads (Lines.lines_reads (self.relayVerdict py frame) (env.started + self.timeout)
      env.turns () ⟨n, [], some self.timeout⟩).events
  unfold talk
  split
  · simp
  · split
    · simp [Event.track]
    · split
      · simp [Event.track]
      · split
        · simp [Event.track]
        · intro e he
          rcases List.mem_cons.mp he with rfl | he
          · exact fun _ => rfl
          · rcases List.mem_cons.mp he with rfl | he
            · exact fun _ => rfl
            · exact hreads e he

/-- An exchange with the relay closes the connection it opens. -/
theorem outcome_owns (env : RelayEnv) (frame : Frame) {w : World} (h : Owns held w) :
    Owns held ((self.outcome py env frame w.sockets).world w) := by
  have htalk := track_still (self.talk_still py env frame w.sockets)
  have hknown : ∀ n, ∀ s ∈ held, s < w.sockets + n := fun n s hs =>
    Nat.lt_add_right n (h.known s hs)
  have hfilter : held.filter (fun s => decide (s ≠ w.sockets)) = held := by
    apply List.filter_eq_self.mpr
    intro s hs
    simpa using Nat.ne_of_lt (h.known s hs)
  refine h.world ?_ (hknown _)
  unfold outcome
  split
  · split
    · rfl
    · simp only [List.cons_append, List.foldl_cons, List.foldl_append, List.foldl_nil, Event.track]
      rw [htalk]
      simpa using hfilter
  · rfl

end CloudRelayTransport

/-- Releasing the connection leaves nothing open. -/
theorem RediscoveringLocalTransport.released_owns {l : RediscoveringLocalTransport LocalTransport}
    {w : World} (h : Owns l.transport.held w) :
    Owns [] { w with trace := w.trace ++ l.closing } := by
  refine ⟨?_, by simp⟩
  rw [openSockets, List.foldl_append, show w.trace.foldl Event.track [] = _ from h.exact]
  cases hc : l.transport.conn <;> simp [closing, LocalTransport.held, hc, Event.track]

namespace Client

variable (py : Interpreter) (factory : Factory)

/-- One call of the client, and what it meets. -/
inductive Call
  | query (env : ClientEnv) (attrs : Option (List Int))
  | control (env : ClientEnv) (payload : Payload)
  | close

/-- The client and the world after one call, whether it returned or raised. -/
def step (s : Client × World) : Call → Client × World
  | .query env attrs => after (Client.query py factory env attrs) s
  | .control env payload => after (Client.control py factory env payload) s
  | .close => after (Client.close py factory) s

/-- A client and the world at the start of a process. -/
def start (deviceId host : Str) (minInterval : ℚ) (cloud : Option CloudRelayTransport)
    (threshold : Int) (interval : ℚ) : Client × World :=
  (.initial (.new factory deviceId host minInterval) cloud threshold interval, .initial)

/-- Exactly what the local transport holds on to is open. -/
def Owning : Client × World → Prop := FallbackClient.Serving (fun l _ w => Owns l.transport.held w)

theorem owning_kept : Kept py factory (fun _ => True) (fun _ => True)
    (fun l _ w => Owns l.transport.held w) where
  logged l c w log h := h.of_eq rfl rfl
  exchanged l c w env f sn _ h :=
    LocalTransport.outcome_owns py l.transport env f (w := { w with lastSn := sn }) (h.of_eq rfl rfl)
  relayed l c w env f sn _ h :=
    CloudRelayTransport.outcome_owns py c env f (w := { w with lastSn := sn }) (h.of_eq rfl rfl)
  searched l c w env h := h.of_eq (RediscoveringLocalTransport.probed_trace env w)
    (RediscoveringLocalTransport.probed_sockets env w)
  released l c w h := RediscoveringLocalTransport.released_owns h
  moved l c w host _ h := by
    have hheld : (factory.build host).held = [] := by
      simp [LocalTransport.held, factory.idle host]
    rw [hheld]
    exact h

theorem step_owning (s : Client × World) (call : Call) (h : Owning s) :
    Owning (step py factory s call) := by
  have hkept := owning_kept py factory
  cases call with
  | query env attrs => exact hkept.always_query env attrs s h
  | control env payload => exact hkept.always_control env payload s h
  | close => exact hkept.close h

/-- Closing releases the one connection that can be open. -/
theorem close_owns (h : Owning s) : Owns [] (after (Client.close py factory) s).2 := by
  rw [after, close_run]
  exact RediscoveringLocalTransport.released_owns h

theorem run_owning (calls : List Call) (h : Owning s) :
    Owning (calls.foldl (step py factory) s) := by
  induction calls generalizing s with
  | nil => exact h
  | cons call calls ih => exact ih (step_owning py factory s call h)

/-- Between the calls of a client the only socket open is the one its current local transport holds
on to, and after `close` there is none. -/
theorem no_leak (deviceId host : Str) (minInterval : ℚ) (cloud : Option CloudRelayTransport)
    (threshold : Int) (interval : ℚ) (calls : List Call) :
    let s := calls.foldl (step py factory)
      (start factory deviceId host minInterval cloud threshold interval)
    openSockets s.2.trace = (s.1.local'.transport.conn.map (·.sock)).toList ∧
      openSockets (step py factory s .close).2.trace = [] := by
  have hstart : Owning (start factory deviceId host minInterval cloud threshold interval) := by
    have hheld : (factory.build host).held = [] := by
      simp [LocalTransport.held, factory.idle host]
    refine ⟨hheld.symm, ?_⟩
    intro s hs
    change s ∈ (factory.build host).held at hs
    simp [hheld] at hs
  have h := run_owning py factory calls hstart
  refine ⟨?_, (close_owns py factory h).exact⟩
  rw [h.exact, Option.toList_map]
  rfl

end Client

end CozyLife
