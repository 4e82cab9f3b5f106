import CozyLife.Proofs.Calls
import CozyLife.Proofs.Destinations

/-! What a request does at a transport and over the relay with no other request beside it. -/

namespace CozyLife
open Python Effects Threads

/-! ### The number of a socket -/

theorem World.past_nil (w : World) : w.past [] = w := by
  rw [World.past_still rfl, List.append_nil]

theorem World.past_past (w : World) (evs evs' : List Event) :
    (w.past evs).past evs' = w.past (evs ++ evs') := by
  simp only [World.past, newSockets_append, List.append_assoc, List.length_append, Nat.add_assoc]

/-- The sockets that the events open are the next ones. -/
def Numbered (w : World) (evs : List Event) : Prop :=
  newSockets evs = List.range' w.sockets (newSockets evs).length

theorem Numbered.append {w : World} {evs evs' : List Event} (h : Numbered w evs)
    (h' : newSockets evs' = [] ∨ newSockets evs' = [(w.past evs).sockets]) :
    Numbered w (evs ++ evs') := by
  rcases h' with h' | h'
  · simpa only [Numbered, newSockets_append, h', List.append_nil] using h
  · rw [Numbered, newSockets_append, h', List.length_append, List.length_singleton,
      List.range'_concat, ← h]
    simp only [World.past, Nat.one_mul]

theorem Numbered.eq {w : World} {evs : List Event} {n : Nat} (h : Numbered w evs)
    (hn : newSockets evs = [n]) : n = w.sockets := by
  rw [Numbered, hn] at h
  exact (List.cons.inj h).1

theorem newSockets_length (evs : List Event) : (newSockets evs).length = evs.countP Event.isOpened := by
  rw [newSockets, List.length_filterMap_eq_countP]
  congr 1
  funext e
  cases e <;> rfl

namespace LocalTransport

variable (py : Interpreter)

theorem GivesUp.deliver {t : LocalTransport} {env : ExchangeEnv} {packet : Bytes} {evs : List Event}
    (h : GivesUp t env packet evs) (n : Nat) :
    LocalTransport.deliver py t env packet n = (deliverFresh py t env packet n).after evs := by
  cases h with
  | idle h => simp only [LocalTransport.deliver, h, Delivery.after, List.nil_append]
  | hungUp conn h hc =>
    simp only [LocalTransport.deliver, h, hc, peerHasClosed_sock, ↓reduceIte]
  | broken conn k fault h hc hs =>
    simp only [LocalTransport.deliver, h, hc, hs, peerHasClosed_sock, Bool.false_eq_true,
      ↓reduceIte]

theorem conclude_numbers (t : LocalTransport) (frame : Frame) (conn : LineSocket) (c : Conversation) :
    newSockets (conclude py t (listenFor py t frame conn c)).events = [] := by
  refine newSockets_none (fun e he => ?_)
  rcases conclude_events py t _ _ _ e he with ⟨_, _, rfl⟩ | rfl <;> rfl

/-- The number of the next socket only matters to an exchange that opens one. -/
theorem outcome_number (t : LocalTransport) (env : ExchangeEnv) (frame : Frame) (n k : Nat) :
    newSockets (outcome py t env frame n).events = [n] ∨
      outcome py t env frame k = outcome py t env frame n := by
  rcases deliver_cases py t env (encode py frame) n with ⟨conn, h, hc, hs, hd⟩ | ⟨evs, hg, hd⟩
  · right
    have hk : deliver py t env (encode py frame) k = deliver py t env (encode py frame) n := by
      rw [hd]
      simp only [deliver, h, hc, hs, Bool.false_eq_true, ↓reduceIte]
    rw [outcome, outcome, hk]
  · have hquiet : newSockets evs = [] := by cases hg <;> rfl
    have hdials := deliverFresh_dials py t env (encode py frame) n
    rw [outcome, outcome, hd, hg.deliver py k]
    generalize deliverFresh py t env (encode py frame) n = d at hdials
    cases hdials with
    | refused text hi hc => exact .inr (by simp only [deliverFresh, hi, hc, ↓reduceIte])
    | unaddressable hi => exact .inr (by simp only [deliverFresh, hi]; rfl)
    | broken k fault hi hc hs =>
      left
      simp only [settle, Delivery.after, newSockets_append, hquiet]
      rfl
    | taken hi hc hs =>
      left
      have hrest : newSockets (.sent n (some t.timeout) (encode py frame) (encode py frame) ::
          (conclude py t (listenFor py t frame ⟨n, [], some t.timeout⟩ env.fresh)).events) = [] :=
        conclude_numbers py t frame _ env.fresh
      simp only [settle, Delivery.after, newSockets_append, hquiet, hrest]
      rfl

theorem outcome_past (t : LocalTransport) (env : ExchangeEnv) (frame : Frame) (n : Nat) (w : World) :
    w.past (outcome py t env frame n).events = (outcome py t env frame n).world w := by
  have hopened : (newSockets (outcome py t env frame n).events).length =
      (outcome py t env frame n).opened := by
    have hd := ((deliver_delivers py t env (encode py frame) n).opened (encode_ne_nil py _)).1
    rw [← newSockets_length] at hd
    unfold outcome
    generalize deliver py t env (encode py frame) n = d at hd
    rcases hl : d.line with e | ⟨conn, c⟩
    · simpa only [settle, hl] using hd
    · have hrest : newSockets (.sent conn.sock conn.timeout (encode py frame) (encode py frame) ::
          (conclude py t (listenFor py t frame conn c)).events) = [] :=
        conclude_numbers py t frame conn c
      simp only [settle, hl, newSockets_append, hrest, List.append_nil]
      exact hd
  simp only [World.past, Outcome.world, hopened]

end LocalTransport

namespace CloudRelayTransport

variable (py : Interpreter) (self : CloudRelayTransport)

theorem talk_numbers (env : RelayEnv) (frame : Frame) (n : Nat) :
    newSockets (self.talk py env frame n).1 = [] := by
  refine newSockets_none (fun e he => ?_)
  rcases self.talk_events py env frame n e he with ⟨_, _, _, rfl, _⟩ | ⟨_, _, rfl⟩ <;> rfl

theorem outcome_number (env : RelayEnv) (frame : Frame) (n k : Nat) :
    newSockets (self.outcome py env frame n).events = [n] ∨
      self.outcome py env frame k = self.outcome py env frame n := by
  cases hi : addressable py self.host self.port with
  | false => exact .inr (by simp only [outcome, hi]; rfl)
  | true =>
    cases hc : env.connect with
    | refused text => exact .inr (by simp only [outcome, hi, hc])
    | opened =>
      left
      have htalk : newSockets ((self.talk py env frame n).1 ++ [.closed n]) = [] := by
        rw [newSockets_append, talk_numbers]
        rfl
      simp only [outcome, hi, hc, ↓reduceIte]
      exact congrArg (n :: ·) htalk

theorem outcome_past (env : RelayEnv) (frame : Frame) (n : Nat) (w : World) :
    w.past (self.outcome py env frame n).events = (self.outcome py env frame n).world w := by
  have hopened : (newSockets (self.outcome py env frame n).events).length =
      (self.outcome py env frame n).opened := by
    unfold outcome
    cases hi : addressable py self.host self.port with
    | false => rfl
    | true =>
      cases hc : env.connect with
      | refused text => rfl
      | opened =>
        have htalk : newSockets ((self.talk py env frame n).1 ++ [.closed n]) = [] := by
          rw [newSockets_append, talk_numbers]
          rfl
        exact congrArg (fun l => (n :: l).length) htalk
  simp only [World.past, Outcome.world, hopened]

end CloudRelayTransport

namespace Overlap
open Thread

variable (py : Interpreter) {me r : Nat}

/-! ### A turn alone -/

/-- Request `me` has its turn at transport `r`, with no other request beside it since `s₀`. -/
structure Alone (me r : Nat) (s₀ : SharedClient) (now : LocalTransport) (evs : List Event)
    (s : SharedClient) : Prop where
  client : s.client = s₀.client
  own : s.own = s₀.own
  self : (s.transports r).self = now
  lock : (s.transports r).lock = some me
  world : s.world = s₀.world.past evs
  numbered : Numbered s₀.world evs

theorem alone_tenure (s₀ : SharedClient) : Tenure (Rules.solo me) me r (Alone me r s₀) where
  refl _ := rfl
  stable := Rules.solo_stable
  self h := h.self
  step := by
    intro α m now evs s x now' evs' _ hin he
    have hafter := onTransport_after me r m s
    rw [hin.self, he.leaves] at hafter
    rw [hafter]
    have hopens := he.opens
    rw [hin.world] at hopens
    have hput : (s.wrote me r now' (s.world.past evs')).transports r = ⟨now', (s.transports r).lock,
        (s.transports r).journal ++ evs'.map (fun e => (me, .did e))⟩ := wrote_transport rfl
    refine ⟨trivial, rfl, hin.client, hin.own, ?_, ?_, ?_, hin.numbered.append hopens⟩
    · rw [hput]
    · rw [hput]
      exact hin.lock
    · rw [← World.past_past, ← hin.world]
      rfl

theorem Alone.start {s : SharedClient} (hlock : (s.transports r).lock = some me) :
    Alone me r s (s.transports r).self [] s :=
  ⟨rfl, rfl, rfl, hlock, (World.past_nil s.world).symm, rfl⟩

/-- An exchange under the lock, with no other request beside it. -/
theorem exchangeHeld_alone (env : ExchangeEnv) (frame : Frame) {s : SharedClient}
    (hlock : (s.transports r).lock = some me) :
    let o := LocalTransport.outcome py (s.transports r).self env frame s.world.sockets
    ∃ s', Thread.alone (Local.exchangeHeld py me r env frame) s =
        some (o.answer.mapError .exn, s') ∧
      Alone me r s { (s.transports r).self with conn := o.conn } o.events s' := by
  obtain ⟨x, s', halone, n, hx, hend⟩ :=
    (exchangeHeld_sound (alone_tenure s) (s.transports r).self env frame).alone (Alone.start hlock)
  have hsame : LocalTransport.outcome py (s.transports r).self env frame n =
      LocalTransport.outcome py (s.transports r).self env frame s.world.sockets := by
    rcases LocalTransport.outcome_number py (s.transports r).self env frame n s.world.sockets with
      hn | hn
    · rw [hend.numbered.eq hn]
    · exact hn.symm
  rw [hsame] at hx hend
  exact ⟨s', by rw [halone, hx], hend⟩

theorem alone_locked {body : Call α} {s s' : SharedClient} {x : Except Raised α}
    (hfree : (s.transports r).lock = none)
    (hbody : alone body (Local.acquired s me r) = some (x, s')) :
    alone (Local.locked me r body) s = some (x, Local.released s' me r) := by
  have hacquire : alone (Local.acquire me r) s = some (.ok (), Local.acquired s me r) :=
    alone_await _ _ (by rw [hfree]; rfl)
  have hrelease : alone (Local.release me r) s' = some (.ok (), Local.released s' me r) := rfl
  simp only [Local.locked, Thread.ensuring, alone_bind, alone_caught, hacquire, hbody, hrelease,
    Option.map_some]
  rfl

/-- What a request finds at transport `r` after it has been there alone. -/
structure Left (s s' : SharedClient) (r : Nat) (now : LocalTransport) (w : World) : Prop where
  client : s'.client = s.client
  own : s'.own = s.own
  transport : (s'.transports r).self = now ∧ (s'.transports r).lock = none
  world : s'.world = w

section Turn

variable {s : SharedClient} (hfree : (s.transports r).lock = none)

theorem acquired_at (s : SharedClient) (me r : Nat) :
    ((Local.acquired s me r).transports r).self = (s.transports r).self ∧
      ((Local.acquired s me r).transports r).lock = some me := by
  simp only [Local.acquired, SharedClient.put, Function.update_self, and_self]

theorem Alone.left {s' : SharedClient} {now : LocalTransport} {evs : List Event}
    (h : Alone me r (Local.acquired s me r) now evs s') :
    Left s (Local.released s' me r) r now (s.world.past evs) := by
  refine ⟨h.client, h.own, ?_, h.world⟩
  simp only [Local.released, SharedClient.put, Function.update_self, and_true]
  exact h.self

variable (me)

include hfree

theorem exchange_alone (env : ExchangeEnv) (frame : Frame) :
    let o := LocalTransport.outcome py (s.transports r).self env frame s.world.sockets
    ∃ s', alone (Local.exchange py me r env frame) s = some (o.answer.mapError .exn, s') ∧
      Left s s' r { (s.transports r).self with conn := o.conn } (o.world s.world) := by
  obtain ⟨hself, hlock⟩ := acquired_at s me r
  obtain ⟨s', hbody, hend⟩ := exchangeHeld_alone py env frame hlock
  rw [hself] at hbody hend
  refine ⟨_, alone_locked hfree hbody, ?_⟩
  rw [← LocalTransport.outcome_past]
  exact hend.left

theorem close_alone : ∃ s', alone (Local.close me r) s = some (.ok (), s') ∧
    Left s s' r (s.transports r).self.bare
      { s.world with trace := s.world.trace ++ (s.transports r).self.held.map .closed } := by
  obtain ⟨hself, hlock⟩ := acquired_at s me r
  obtain ⟨x, s', hbody, hx, hend⟩ := ((alone_tenure (Local.acquired s me r)).sound_known
    (fun w => disconnect_effect w)).alone (Alone.start hlock)
  rw [hself, List.nil_append] at hend
  have hquiet : newSockets ((s.transports r).self.held.map .closed) = [] := by
    refine newSockets_none (fun e he => ?_)
    obtain ⟨n, _, rfl⟩ := List.mem_map.mp he
    rfl
  refine ⟨_, alone_locked hfree (hbody.trans (by rw [hx])), ?_⟩
  rw [← World.past_still hquiet]
  exact hend.left

end Turn

/-! ### A talk alone -/

/-- Request `me` talks on a connection of its own, with no other request beside it since `s₀`. -/
structure Talking (me : Nat) (s₀ : SharedClient) (evs : List Event) (own : Option Nat)
    (s : SharedClient) : Prop where
  client : s.client = s₀.client
  transports : s.transports = s₀.transports
  own : s.own = Function.update s₀.own me own
  world : s.world = s₀.world.past evs
  numbered : Numbered s₀.world evs

theorem talking_dialogue (s₀ : SharedClient) : Dialogue (Rules.solo me) me (Talking me s₀) where
  stable := Rules.solo_stable
  own h := by rw [h.own, Function.update_self]
  step := by
    intro α m own evs s x own' evs' _ hon he
    have hopens := he.opens
    rw [hon.world] at hopens
    refine ⟨trivial, rfl, hon.client, hon.transports, ?_, ?_, hon.numbered.append hopens⟩
    · simp only [SharedClient.talked, hon.own, Function.update_idem]
    · rw [← World.past_past, ← hon.world]
      rfl

/-- An exchange with the relay, with no other request beside it. -/
theorem relayExchange_alone (c : CloudRelayTransport) (env : RelayEnv) (frame : Frame)
    {s : SharedClient} (hown : s.own me = none) :
    let o := c.outcome py env frame s.world.sockets
    ∃ s', alone (Relay.exchange py c me env frame) s = some (o.answer.mapError .exn, s') ∧
      Talking me s o.events none s' := by
  have hstart : Talking me s [] none s := by
    refine ⟨rfl, rfl, ?_, (World.past_nil s.world).symm, rfl⟩
    rw [← hown, Function.update_eq_self]
  have hsound : Sound (Rules.solo me) me _ (Relay.exchange py c me env frame)
      (Talking me s [] none) :=
    relayExchange_sound (talking_dialogue s) c env frame
  obtain ⟨x, s', halone, n, hx, hend⟩ := hsound.alone hstart
  have hsame : c.outcome py env frame n = c.outcome py env frame s.world.sockets := by
    rcases c.outcome_number py env frame n s.world.sockets with hn | hn
    · rw [List.nil_append] at hend
      rw [hend.numbered.eq hn]
    · exact hn.symm
  rw [hsame, List.nil_append] at hend
  rw [hsame] at hx
  exact ⟨s', by rw [halone, hx], hend⟩

end Overlap

end CozyLife
