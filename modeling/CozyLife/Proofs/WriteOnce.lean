import CozyLife.Proofs.Containment
import CozyLife.Proofs.Fallback
import CozyLife.Proofs.Rediscover

/-! How often one call of `FallbackClient.control` hands its command over. -/

namespace CozyLife
open Python Effects Lines

/-- A line that carries the whole command: the device's own frame, or the relay's line around it. -/
def IsCommand (py : Interpreter) (payload : Payload) (relay : Option CloudRelayTransport)
    (raw : Bytes) : Prop :=
  ∃ sn, raw = encode py (setFrameOf payload sn) ∨
    ∃ c, relay = some c ∧ c.publishLine py (setFrameOf payload sn) = .ok raw

/-- A connection takes the whole command. -/
def Event.Commands (py : Interpreter) (payload : Payload) (relay : Option CloudRelayTransport) :
    Event → Prop
  | .sent _ _ raw taken => taken = raw ∧ IsCommand py payload relay raw
  | _ => False

/-- No two events hand the command over. -/
def WrittenOnce (py : Interpreter) (payload : Payload) (relay : Option CloudRelayTransport)
    (evs : List Event) : Prop :=
  evs.Pairwise (fun e later => ¬ (e.Commands py payload relay ∧ later.Commands py payload relay))

theorem pairwise_not_both {p : α → Prop} (l₁ l₂ : List α) :
    (l₁ ++ l₂).Pairwise (fun a b => ¬ (p a ∧ p b)) ↔
      l₁.Pairwise (fun a b => ¬ (p a ∧ p b)) ∧ l₂.Pairwise (fun a b => ¬ (p a ∧ p b)) ∧
        ¬ ((∃ a ∈ l₁, p a) ∧ ∃ b ∈ l₂, p b) := by
  rw [List.pairwise_append]
  refine and_congr_right (fun _ => and_congr_right (fun _ => ?_))
  constructor
  · intro h hboth
    obtain ⟨⟨a, ha, pa⟩, b, hb, pb⟩ := hboth
    exact h a ha b hb ⟨pa, pb⟩
  · intro h a ha b hb hboth
    exact h ⟨⟨a, ha, hboth.1⟩, b, hb, hboth.2⟩

theorem pairwise_of_none {p : α → Prop} {l : List α} (h : ∀ a ∈ l, ¬ p a) :
    l.Pairwise (fun a b => ¬ (p a ∧ p b)) := by
  apply List.Pairwise.imp_of_mem (R := fun _ _ => True)
  · intro a b ha _ _ hboth
    exact h a ha hboth.1
  · exact List.pairwise_of_forall (fun _ _ => trivial)

/-- A connection takes a whole line of a kind. -/
def Event.Hands (kind : Bytes → Prop) : Event → Prop
  | .sent _ _ raw taken => taken = raw ∧ kind raw
  | _ => False

/-- No two events hand over a line of the kind. -/
def HandedOnce (kind : Bytes → Prop) (evs : List Event) : Prop :=
  evs.Pairwise (fun e later => ¬ (e.Hands kind ∧ later.Hands kind))

theorem Event.Hands.whole {e : Event} (h : e.Hands kind) : e.isWhole = true := by
  cases e with
  | sent s mode raw taken => simpa [Event.isWhole] using h.1
  | _ => exact h.elim

/-- How far `evs` hand lines of a kind over: at most once exactly if `once`, and at all exactly if
`any`. -/
structure Tally (kind : Bytes → Prop) (evs : List Event) (once any : Prop) : Prop where
  once : HandedOnce kind evs ↔ once
  any : (∃ e ∈ evs, e.Hands kind) ↔ any

namespace Tally

variable {kind : Bytes → Prop} {evs evs' : List Event} {once any once' any' : Prop}

theorem quiet (h : ∀ e ∈ evs, ¬ e.Hands kind) : Tally kind evs True False := by
  refine ⟨iff_of_true (pairwise_of_none h) trivial, iff_of_false ?_ id⟩
  intro hany
  obtain ⟨e, he, hk⟩ := hany
  exact h e he hk

/-- One line that is taken whole. -/
theorem sent {s : Nat} {m : Option ℚ} (h : kind raw ↔ marked) :
    Tally kind [.sent s m raw raw] True marked := by
  refine ⟨iff_of_true (List.pairwise_singleton _ _) trivial, ?_⟩
  simp only [List.mem_singleton, exists_eq_left]
  exact (and_iff_right rfl).trans h

theorem append (h : Tally kind evs once any) (h' : Tally kind evs' once' any') :
    Tally kind (evs ++ evs') (once ∧ once' ∧ ¬ (any ∧ any')) (any ∨ any') := by
  refine ⟨?_, ?_⟩
  · rw [HandedOnce, pairwise_not_both, h.any, h'.any]
    exact and_congr h.once (and_congr h'.once Iff.rfl)
  · simp only [List.mem_append, or_and_right, exists_or, h.any, h'.any]

theorem congr (h : Tally kind evs once any) (honce : once ↔ once') (hany : any ↔ any') :
    Tally kind evs once' any' := ⟨h.once.trans honce, h.any.trans hany⟩

end Tally

section Commands

variable {py : Interpreter} {payload : Payload} {relay : Option CloudRelayTransport}

/-- A subscription is no command: `cmd=s` starts neither a frame nor a publication. -/
theorem subscribe_no_command {self : CloudRelayTransport} (h : self.subscribeLine = .ok raw) :
    ¬ IsCommand py payload relay raw := by
  have hsub := self.subscribeLine_starts h
  intro hcommand
  rcases hcommand with ⟨sn, hframe | ⟨c, _, hpub⟩⟩
  · exact CloudRelayTransport.encode_ne_line py _ hsub hframe
  · have hpublish := c.publishLine_starts py hpub
    rw [hsub] at hpublish
    exact absurd hpublish (by decide)

/-- Commanding is handing over a command. -/
theorem writtenOnce_iff : WrittenOnce py payload relay evs ↔
    HandedOnce (IsCommand py payload relay) evs := by
  have hsame : Event.Commands py payload relay = Event.Hands (IsCommand py payload relay) := by
    funext e
    cases e <;> rfl
  rw [WrittenOnce, HandedOnce, hsame]

end Commands

namespace LocalTransport

variable (py : Interpreter) (payload : Payload) (relay : Option CloudRelayTransport)

/-- No line that comes over the connection is the answer or over a limit, and the socket can be
waited on. -/
def Unanswered (t : LocalTransport) (frame : Frame) (conn : LineSocket) (c : Conversation) : Prop :=
  (∀ line ∈ heard conn (c.started + t.timeout) c.turns,
      ¬ OverLimitLine py line ∧ ¬ IsAnswer py frame line) ∧
    ∀ text, silence conn (c.started + t.timeout) c.turns ≠ some (.os text)

/-- An exchange whose frame got out fails with a transport error exactly when it stays unanswered. -/
theorem conclude_unanswered (t : LocalTransport) (frame : Frame) (conn : LineSocket)
    (c : Conversation) :
    (∃ e, (conclude py t (listenFor py t frame conn c)).answer = .error (.transport e)) ↔
      Unanswered py t frame conn c := by
  have hdec := lines_decision (replyVerdict py frame) conn (c.started + t.timeout) c.turns
  unfold conclude listenFor Unanswered
  cases hdec with
  | undecided hall hgiven hexit =>
    have hlines := fun line hl => (replyVerdict_next py frame line).mp (hall line hl)
    rw [hexit]
    cases hs : silence conn (c.started + t.timeout) c.turns with
    | none => simpa using hlines
    | some e =>
      rcases silence_error hs with ht | ⟨text, rfl⟩
      · cases e <;> simp_all [Exn.isTransport]
      · simp
  | decided pre l post hheard hpre hgiven hexit =>
    have hl : l ∈ heard conn (c.started + t.timeout) c.turns := by simp [hheard]
    have hnext : ∀ {v}, replyVerdict py frame () l = v → v ≠ .next () →
        ¬ (¬ OverLimitLine py l ∧ ¬ IsAnswer py frame l) :=
      fun hv hne h => hne (hv.symm.trans ((replyVerdict_next py frame l).mpr h))
    rcases hexit with ⟨reply, hv, hx⟩ | ⟨e, hv, hx⟩
    · rw [hx]
      exact iff_of_false (by simp) (fun h => hnext hv (by simp) (h.1 l hl))
    · have hforeign := decode_foreign py ((replyVerdict_raise py frame l e).mp hv)
      rw [hx]
      refine iff_of_false ?_ (fun h => hnext hv (by simp) (h.1 l hl))
      intro herror
      obtain ⟨e', he⟩ := herror
      cases he
      simp [Exn.isTransport] at hforeign

/-- The frame got out whole, and the exchange fails all the same with a transport error. -/
def Unserved (t : LocalTransport) (env : ExchangeEnv) (frame : Frame) (n : Nat) : Prop :=
  ∃ conn c, t.takes py env n = some (conn, c) ∧ Unanswered py t frame conn c

/-- One exchange hands a line of a kind over at most once, and does so exactly when its frame is of
that kind and a connection takes it. -/
theorem outcome_hands (t : LocalTransport) (env : ExchangeEnv) (frame : Frame) (n : Nat)
    (hkind : kind (encode py frame) ↔ q) :
    Tally kind (outcome py t env frame n).events True
      (q ∧ (t.takes py env n).isSome = true) := by
  have hd := deliver_delivers py t env (encode py frame) n
  have htakes := deliver_takes py t env (encode py frame) n
  unfold outcome
  generalize deliver py t env (encode py frame) n = d at hd htakes
  have hlead : ∀ e ∈ d.lead, ¬ e.Hands kind := by
    intro e he hc
    simpa [hd.unhanded (encode_ne_nil py _) e he] using hc.whole
  cases htake : t.takes py env n with
  | none =>
    obtain ⟨e, hl⟩ : ∃ e, d.line = .error e := by simpa [htake] using htakes
    simp only [settle, hl, Option.isSome_none, Bool.false_eq_true, and_false]
    exact Tally.quiet hlead
  | some p =>
    have hl : d.line = .ok p := by simpa [htake] using htakes
    have hquiet : ∀ e ∈ (conclude py t (listenFor py t frame p.1 p.2)).events,
        ¬ e.Hands kind := by
      intro e he hc
      rcases conclude_events py t _ _ _ e he with ⟨_, _, rfl⟩ | rfl <;> exact hc
    simp only [settle, hl, Option.isSome_some, and_true]
    have hsent := Tally.sent (s := p.1.sock) (m := p.1.timeout) hkind
    refine ((Tally.quiet hlead).append (hsent.append (Tally.quiet hquiet))).congr ?_ ?_
    · simp
    · simp

/-- One exchange fails with a transport error after a connection took the frame exactly when it stays
unanswered there. -/
theorem outcome_unserved (t : LocalTransport) (env : ExchangeEnv) (frame : Frame) (n : Nat) :
    ((t.takes py env n).isSome = true ∧
      ∃ e, (outcome py t env frame n).answer = .error (.transport e)) ↔
      Unserved py t env frame n := by
  have htakes := deliver_takes py t env (encode py frame) n
  unfold Unserved outcome
  cases htake : t.takes py env n with
  | none => simp
  | some p =>
    have hl : (deliver py t env (encode py frame) n).line = .ok p := by simpa [htake] using htakes
    simp only [settle, hl, Option.isSome_some, true_and, Option.some.injEq]
    rw [conclude_unanswered]
    constructor
    · intro h
      exact ⟨p.1, p.2, rfl, h⟩
    · intro hsome
      obtain ⟨conn, c, hp, h⟩ := hsome
      cases hp
      exact h

end LocalTransport

namespace CloudRelayTransport

variable (py : Interpreter) (self : CloudRelayTransport)

theorem hear_events (env : RelayEnv) (frame : Frame) (n : Nat) :
    ∀ e ∈ (self.hear py env frame n).events, ∃ mode chunk, e = .read n mode chunk :=
  (lines_reads (self.relayVerdict py frame) (env.started + self.timeout) env.turns ()
    ⟨n, [], some self.timeout⟩).events

/-- One exchange with the relay hands a line of a kind over at most once, and does so exactly when the
line with its frame is of that kind and the relay takes it. Subscriptions are of no such kind. -/
theorem outcome_hands (env : RelayEnv) (frame : Frame) (n : Nat)
    (hsubscribe : ∀ raw, self.subscribeLine = .ok raw → ¬ kind raw)
    (hkind : ∀ raw, self.publishLine py frame = .ok raw → (kind raw ↔ q)) :
    Tally kind (self.outcome py env frame n).events True (q ∧ self.Takes py env) := by
  have hnone : ∀ {evs : List Event}, (∀ e ∈ evs, ¬ e.Hands kind) → ¬ self.Takes py env →
      Tally kind evs True (q ∧ self.Takes py env) := by
    intro evs h ht
    exact (Tally.quiet h).congr Iff.rfl (by simp [ht])
  unfold outcome
  cases hi : addressable py self.host self.port with
  | false => exact hnone (by simp [Event.Hands]) (by simp [Takes, hi])
  | true =>
    cases hc : env.connect with
    | refused text => exact hnone (by simp [Event.Hands]) (by simp [Takes, hc])
    | opened =>
      cases henc : self.encodable with
      | false =>
        refine hnone ?_ (by simp [Takes, henc])
        simp [talk, subscribeLine_cases, henc, Event.Hands]
      | true =>
        obtain ⟨sub, hsub⟩ : ∃ sub, self.subscribeLine = .ok sub :=
          ⟨_, by rw [subscribeLine_cases, henc]; rfl⟩
        have hno := hsubscribe sub hsub
        have hpub : self.publishLine py frame = .ok
            ((self.publishText py frame).flatMap utf8Char ++ TERMINATOR) := by
          simp [publishLine_cases, henc]
        cases hs : env.subscribe with
        | failed k fault =>
          refine hnone ?_ (by simp [Takes, hs, SendOutcome.isAccepted])
          simp [talk, hsub, hs, Event.Hands, hno]
        | accepted =>
          cases hp : env.publish with
          | failed k fault =>
            refine hnone ?_ (by simp [Takes, hp, SendOutcome.isAccepted])
            have hline : (self.publishText py frame).flatMap utf8Char ++ TERMINATOR ≠ [] := by
              simp [TERMINATOR]
            have hcut := LocalTransport.taken_ne hline k fault
            simp [talk, hsub, hpub, hs, hp, Event.Hands, hno, hcut]
          | accepted =>
            have hread := self.hear_events py env frame n
            have hquiet : ∀ e ∈ (self.hear py env frame n).events ++ [.closed n],
                ¬ e.Hands kind := by
              intro e he hc
              rcases List.mem_append.mp he with he | he
              · obtain ⟨_, _, rfl⟩ := hread e he
                exact hc
              · rw [List.mem_singleton.mp he] at hc
                exact hc
            have htakes : self.Takes py env := by
              simp [Takes, hi, hc, henc, hs, hp, SendOutcome.isAccepted]
            have hlead : ∀ e ∈ [Event.connecting self.host self.port self.timeout, .opened n,
                .sent n (some self.timeout) sub sub], ¬ e.Hands kind := by
              simp [Event.Hands, hno]
            simp only [talk, hsub, hpub, hs, hp, ↓reduceIte, List.cons_append]
            refine ((Tally.quiet hlead).append ((Tally.sent (hkind _ hpub)).append
              (Tally.quiet hquiet))).congr ?_ ?_
            · simp
            · simp [htakes]

end CloudRelayTransport

namespace RediscoveringLocalTransport

variable (py : Interpreter) (factory : Factory)

/-- The search after a failed call, if one is due, raises nothing but what is expected of it. -/
def SearchesQuietly (l : RediscoveringLocalTransport LocalTransport) (env : SearchEnv) : Prop :=
  l.searchDue env.now = true →
    ∀ e, env.found = .error e → e.isTransport = true ∨ ∃ text, e = .os text

theorem relocate_trace (env : SearchEnv) (s : RediscoveringLocalTransport LocalTransport × World) :
    ∃ quiet : List Event, (∀ e ∈ quiet, ∃ n, e = .closed n) ∧
      (after (relocate (LocalTransport.asTransport py) factory.build env) s).2.trace =
        s.2.trace ++ quiet := by
  have hstay : (searched env s).2.trace = s.2.trace ++ [] := by
    rw [List.append_nil]
    exact probed_trace env s.2
  simp only [after, relocate_run]
  cases s.1.searchDue env.now with
  | false => exact ⟨[], by simp, (List.append_nil _).symm⟩
  | true =>
    rcases env.found with (_ | _ | _ | _ | _ | _) | _ | found
    case ok.some =>
      by_cases hf : found = [] ∨ found = s.1.host
      · simp only [hf, ↓reduceIte]
        exact ⟨[], by simp, hstay⟩
      · simp only [hf, ↓reduceIte]
        refine ⟨s.1.transport.conn.toList.map (fun c => .closed c.sock), ?_, ?_⟩
        · intro e he
          obtain ⟨c, _, rfl⟩ := List.mem_map.mp he
          exact ⟨c.sock, rfl⟩
        · simp only [moved, searched, probed_trace]
    all_goals exact ⟨[], by simp, hstay⟩

theorem relocate_quiet (env : SearchEnv) (s : RediscoveringLocalTransport LocalTransport × World) :
    s.1.SearchesQuietly env ↔ ∀ e,
      answer (relocate (LocalTransport.asTransport py) factory.build env) s = .error e →
        e.isTransport = true := by
  simp only [answer, relocate_run, SearchesQuietly]
  cases s.1.searchDue env.now with
  | false => simp
  | true =>
    rcases env.found with (_ | _ | _ | _ | _ | _) | _ | found
    case ok.some =>
      by_cases hf : found = [] ∨ found = s.1.host <;> simp [hf]
    all_goals simp [Exn.isTransport]

/-- The exchange a local `control` call makes. -/
def commandOutcome (l : RediscoveringLocalTransport LocalTransport) (env : RediscoverEnv LocalEnv)
    (payload : Payload) (w : World) : Outcome :=
  l.transport.outcome py env.first.exchange
    (setFrameOf payload (intText (nextSn w.lastSn env.first.time))) w.sockets

/-- The state that exchange leaves. -/
def commandState (l : RediscoveringLocalTransport LocalTransport) (env : RediscoverEnv LocalEnv)
    (payload : Payload) (w : World) : RediscoveringLocalTransport LocalTransport × World :=
  let o := l.commandOutcome py env payload w
  ({ l with transport := { l.transport with conn := o.conn } },
    o.world { w with lastSn := nextSn w.lastSn env.first.time })

theorem inner_control_run (env : RediscoverEnv LocalEnv) (payload : Payload)
    (l : RediscoveringLocalTransport LocalTransport) (w : World) :
    (zoom (inner LocalTransport) (LocalTransport.control py env.first payload)).run (l, w) =
      match (l.commandOutcome py env payload w).answer with
      | .ok reply => .ok (LocalTransport.accepted reply) (l.commandState py env payload w)
      | .error e => .error e (l.commandState py env payload w) := by
  have ha := LocalTransport.control_answer py env.first payload l.transport w
  have hs := LocalTransport.control_after py env.first payload l.transport w
  simp only [run_zoom, inner, run_eq (LocalTransport.control py env.first payload), ha, hs]
  simp only [commandState, commandOutcome, Outcome.state]
  cases (l.transport.outcome py env.first.exchange
    (setFrameOf payload (intText (nextSn w.lastSn env.first.time))) w.sockets).answer <;> rfl

/-- What a local `control` call puts on the sockets is its one exchange, and then at most a close. It
raises a transport error exactly when the exchange does and the search after it stays quiet. -/
theorem control_effect (env : RediscoverEnv LocalEnv) (payload : Payload)
    (l : RediscoveringLocalTransport LocalTransport) (w : World) :
    (∃ quiet : List Event, (∀ e ∈ quiet, ∃ n, e = .closed n) ∧
      (after (control (LocalTransport.asTransport py) factory.build env payload) (l, w)).2.trace =
        w.trace ++ ((l.commandOutcome py env payload w).events ++ quiet)) ∧
    ((∃ e, answer (control (LocalTransport.asTransport py) factory.build env payload) (l, w) =
        .error (.transport e)) ↔
      (∃ e, (l.commandOutcome py env payload w).answer = .error (.transport e)) ∧
        l.SearchesQuietly env.search) := by
  have hleft : (l.commandState py env payload w).2.trace =
      w.trace ++ (l.commandOutcome py env payload w).events := rfl
  obtain ⟨quiet, hq, htrace⟩ :=
    relocate_trace py factory env.search (l.commandState py env payload w)
  have hquiet : l.SearchesQuietly env.search ↔ _ :=
    relocate_quiet py factory env.search (l.commandState py env payload w)
  have hstay : ∃ quiet : List Event, (∀ e ∈ quiet, ∃ n, e = .closed n) ∧
      (l.commandState py env payload w).2.trace =
        w.trace ++ ((l.commandOutcome py env payload w).events ++ quiet) :=
    ⟨[], by simp, by rw [hleft, List.append_nil]⟩
  rw [hleft, List.append_assoc] at htrace
  rw [hquiet]
  simp only [after, answer, control_run, inner_control_run]
  cases (l.commandOutcome py env payload w).answer with
  | ok reply => exact ⟨hstay, by simp⟩
  | error e =>
    cases e with
    | transport e =>
      rcases hr : (relocate (LocalTransport.asTransport py) factory.build env.search).run
        (l.commandState py env payload w) with b | e'
      · simp only [after, hr] at htrace ⊢
        exact ⟨⟨quiet, hq, htrace⟩, by simp⟩
      · simp only [after, hr] at htrace ⊢
        refine ⟨⟨quiet, hq, htrace⟩, ?_⟩
        cases e' <;> simp [Exn.isTransport]
    | _ => exact ⟨hstay, by simp⟩

end RediscoveringLocalTransport

namespace Client

variable (py : Interpreter) (factory : Factory)

/-- Going over to the relay commands at most once, and does so exactly when the relay takes it. -/
theorem relay_commands (c : CloudRelayTransport) (env : RelayEnv) (payload : Payload)
    (localError : Option TransportError) (s : Client × World) (h : s.1.cloud = some c) :
    ∃ evs, (after (FallbackClient.viaCloud (CloudRelayTransport.asTransport py).name
        ((CloudRelayTransport.asTransport py).control env payload) localError) s).2.trace =
        s.2.trace ++ evs ∧
      Tally (IsCommand py payload (some c)) evs True (c.Takes py env) := by
  have hcommand : ∀ raw, c.publishLine py
      (setFrameOf payload (intText (nextSn s.2.lastSn env.time))) = .ok raw →
        (IsCommand py payload (some c) raw ↔ True) := by
    intro raw hpub
    exact iff_of_true ⟨_, .inr ⟨c, rfl, hpub⟩⟩ trivial
  have hrun : after ((CloudRelayTransport.asTransport py).control env payload) (c, s.2) =
      (c, after (c.control py env payload) s.2) := after_zoom (c, s.2) (World.lens _) _
  refine ⟨_, ?_, (c.outcome_hands py env _ s.2.sockets (fun _ => subscribe_no_command)
    hcommand).congr Iff.rfl (by rw [true_and])⟩
  rw [(FallbackClient.viaCloud_after _ _ _ _ c h).2, hrun, c.control_after]
  rfl

/-- When the command goes out twice: local is tried and takes it, no answer comes, the search after
that stays quiet, and then the relay takes it as well. -/
structure Resends (s : Client × World) (env : ClientEnv) (payload : Payload) : Prop where
  tried : (s.1.toBreaker.shouldTryLocal s.1.cloud.isSome env.readings.check
    env.readings.probe).1 = true
  unserved : s.1.local'.transport.Unserved py env.local'.first.exchange
    (setFrameOf payload (intText (nextSn s.2.lastSn env.local'.first.time))) s.2.sockets
  searched : s.1.local'.SearchesQuietly env.local'.search
  relayed : ∃ c, s.1.cloud = some c ∧ c.Takes py env.cloud

/-- The local half of a command: it is handed over at most once, and handed over in vain exactly when
the exchange goes unserved and the search after it raises nothing unexpected. -/
theorem local_commands (relay : Option CloudRelayTransport) (env : RediscoverEnv LocalEnv)
    (payload : Payload) (l : RediscoveringLocalTransport LocalTransport) (w : World) :
    ∃ evs taken, (after ((localPath py factory).control env payload) (l, w)).2.trace =
        w.trace ++ evs ∧ Tally (IsCommand py payload relay) evs True taken ∧
      (taken ∧ (∃ e, answer ((localPath py factory).control env payload) (l, w) =
          .error (.transport e)) ↔
        l.transport.Unserved py env.first.exchange
            (setFrameOf payload (intText (nextSn w.lastSn env.first.time))) w.sockets ∧
          l.SearchesQuietly env.search) := by
  obtain ⟨⟨quiet, hq, htrace⟩, hfails⟩ :=
    RediscoveringLocalTransport.control_effect py factory env payload l w
  have hcommand : IsCommand py payload relay
      (encode py (setFrameOf payload (intText (nextSn w.lastSn env.first.time)))) ↔ True :=
    iff_of_true ⟨_, .inl rfl⟩ trivial
  have htally := LocalTransport.outcome_hands py l.transport env.first.exchange
    (setFrameOf payload (intText (nextSn w.lastSn env.first.time))) w.sockets hcommand
  have hunserved := LocalTransport.outcome_unserved py l.transport env.first.exchange
    (setFrameOf payload (intText (nextSn w.lastSn env.first.time))) w.sockets
  have hquiet : Tally (IsCommand py payload relay) quiet True False := by
    apply Tally.quiet
    intro e he hk
    obtain ⟨n, rfl⟩ := hq e he
    exact hk
  refine ⟨_, (l.transport.takes py env.first.exchange w.sockets).isSome = true, htrace,
    (htally.append hquiet).congr (by simp) (by simp), ?_⟩
  constructor
  · intro hvain
    obtain ⟨htaken, hraised⟩ := hvain
    obtain ⟨hfailed, hsearched⟩ := hfails.mp hraised
    exact ⟨hunserved.mp ⟨htaken, hfailed⟩, hsearched⟩
  · intro hquietly
    obtain ⟨hun, hsearched⟩ := hquietly
    obtain ⟨htaken, hfailed⟩ := hunserved.mpr hun
    exact ⟨htaken, hfails.mpr ⟨hfailed, hsearched⟩⟩

/-- One call of `control` hands its command over at most once, except exactly when it resends. -/
theorem control_written_once (s : Client × World) (env : ClientEnv) (payload : Payload) :
    ∃ evs, (after (control py factory env payload) s).2.trace = s.2.trace ++ evs ∧
      (WrittenOnce py payload s.1.cloud evs ↔ ¬ Resends py s env payload) := by
  obtain ⟨evs, taken, htrace, htally, hvain⟩ :=
    local_commands py factory s.1.cloud env.local' payload s.1.local' s.2
  have hgoes := FallbackClient.attempt_goes (CloudRelayTransport.asTransport py).name env.readings
    ((localPath py factory).control env.local' payload)
    ((CloudRelayTransport.asTransport py).control env.cloud payload) s (localPath py factory).name
  unfold control FallbackClient.control
  generalize after _ s = left at hgoes ⊢
  generalize answer _ s = r at hgoes
  cases hgoes with
  | here h hends a ha t hc ht =>
    obtain ⟨log, ht⟩ := ht
    have hworld : FallbackClient.worldAfterLocal env.readings
        ((localPath py factory).control env.local' payload) s = _ := if_pos h
    refine ⟨evs, by rw [ht, hworld]; exact htrace, iff_of_true ?_ ?_⟩
    · exact writtenOnce_iff.mpr (htally.once.mpr trivial)
    · intro hresends
      obtain ⟨c, hc, _⟩ := hresends.relayed
      rw [hends (hvain.mpr ⟨hresends.unserved, hresends.searched⟩).2] at hc
      cases hc
  | relayed h c hc t htc ht localError =>
    obtain ⟨log, ht⟩ := ht
    obtain ⟨relayed, hrelayed, htally'⟩ := relay_commands py c env.cloud payload localError t htc
    have htakes : (∃ c, s.1.cloud = some c ∧ c.Takes py env.cloud) ↔ c.Takes py env.cloud := by
      simp [hc]
    rw [hc] at htally
    by_cases htries : FallbackClient.TriesLocal env.readings s
    · have hworld : FallbackClient.worldAfterLocal env.readings
          ((localPath py factory).control env.local' payload) s = _ := if_pos htries
      have hfrom : t.2.trace = s.2.trace ++ evs := by
        rw [ht, hworld]
        exact htrace
      have hinvain := (and_iff_left (h htries)).symm.trans hvain
      rw [hfrom, List.append_assoc] at hrelayed
      refine ⟨evs ++ relayed, hrelayed, ?_⟩
      rw [hc, writtenOnce_iff, (htally.append htally').once, hinvain]
      constructor
      · intro hwritten hr
        exact hwritten.2.2 ⟨⟨hr.unserved, hr.searched⟩, htakes.mp hr.relayed⟩
      · intro hresends
        refine ⟨trivial, trivial, ?_⟩
        intro hboth
        exact hresends ⟨htries, hboth.1.1, hboth.1.2, htakes.mpr hboth.2⟩
    · have hworld : FallbackClient.worldAfterLocal env.readings
          ((localPath py factory).control env.local' payload) s = _ := if_neg htries
      rw [ht, hworld] at hrelayed
      refine ⟨relayed, hrelayed, iff_of_true ?_ (fun hr => htries hr.tried)⟩
      rw [hc]
      exact writtenOnce_iff.mpr (htally'.once.mpr trivial)

/-- A client that has both paths. -/
def bothPaths : Client :=
  .initial (.new (.standard 5) (str "dev") (str "10.0.0.7") 300)
    (some ⟨str "dev", str "key", str "relay", 8898, 10⟩) 3 600

/-- The listener takes the command and says nothing until the deadline; the relay takes it too. -/
def silentListener : ClientEnv where
  readings := ⟨0, 0, 0⟩
  local' :=
    { first := ⟨0, ⟨.wouldBlock, true⟩, ⟨.accepted, 0, []⟩, .opened, ⟨.accepted, 0, []⟩⟩
      search := ⟨5, none, .ok none⟩
      retry := ⟨5, ⟨.wouldBlock, true⟩, ⟨.accepted, 5, []⟩, .opened, ⟨.accepted, 5, []⟩⟩ }
  cloud := ⟨5, 5, .opened, .accepted, .accepted, []⟩

/-- The client sends the command over the relay once the listener has had it and said nothing. -/
theorem silent_listener_resends : ¬ ∃ evs,
    (after (control .plain (.standard 5) silentListener [(.int 1, 1)])
      (bothPaths, World.initial)).2.trace = World.initial.trace ++ evs ∧
    WrittenOnce .plain [(.int 1, 1)] bothPaths.cloud evs := by
  intro hwritten
  obtain ⟨evs, htrace, honce⟩ := hwritten
  let frame (sn : Str) : Frame := setFrameOf [(.int 1, 1)] sn
  let relay : CloudRelayTransport := ⟨str "dev", str "key", str "relay", 8898, 10⟩
  let packet := encode .plain (frame (str "1"))
  let pub := (relay.publishText .plain (frame (str "5000"))).flatMap utf8Char ++ TERMINATOR
  have hsub : [Event.sent 0 (some 5) packet packet, .sent 1 (some 10) pub pub].Sublist evs := by
    have hevs : _ = evs := htrace
    rw [← hevs]
    decide +kernel
  have hpair := honce.sublist hsub
  simp only [List.pairwise_cons, List.mem_singleton, forall_eq] at hpair
  refine hpair.1 ⟨⟨rfl, str "1", .inl rfl⟩, ⟨rfl, str "5000", .inr ⟨relay, rfl, ?_⟩⟩⟩
  decide +kernel

end Client

end CozyLife
