import CozyLife.Proofs.Alone
import CozyLife.Proofs.Overlap
import CozyLife.Proofs.Ownership

/-! Requests that do not overlap: the client does for them what it does when nothing shares it. -/

namespace CozyLife
open Python Effects Threads

/-- The client that requests share, as one that nothing shares. -/
def SharedClient.view (s : SharedClient) : Client × World :=
  ({ s.client with local' := { s.client.local' with
      transport := (s.transports s.client.local'.transport).self } }, s.world)

namespace Overlap
open Thread

/-- Between two steps of the only request there is, the client is as `u` has it. -/
structure Mirrors (relay : Option CloudRelayTransport) (s : SharedClient) (u : Client × World) :
    Prop where
  view : s.view = u
  idle : (s.transports s.client.local'.transport).lock = none
  cloud : s.client.cloud = relay
  own : ∀ i, s.own i = none

/-- `u` with its local path like this. -/
abbrev MirrorsLocal (relay : Option CloudRelayTransport) (u : Client × World) (s : SharedClient)
    (v : RediscoveringLocalTransport LocalTransport × World) : Prop :=
  Mirrors relay s (FallbackClient.onLocal.set v u)

/-- `u` with the transport of its local path like this. -/
abbrev MirrorsTransport (relay : Option CloudRelayTransport) (u : Client × World)
    (v : RediscoveringLocalTransport LocalTransport × World) (s : SharedClient)
    (t : LocalTransport × World) : Prop :=
  MirrorsLocal relay u s ((RediscoveringLocalTransport.inner LocalTransport).set t v)

variable {py : Interpreter} {factory : Factory} {me : Nat} {relay : Option CloudRelayTransport}
  {s : SharedClient} {u : Client × World} {v : RediscoveringLocalTransport LocalTransport × World}
  {t : LocalTransport × World}

theorem alone_looked (f : SharedClient → α) (g : α → Call β) (s : SharedClient) :
    alone (look f >>= g) s = alone (g (f s)) s := rfl

theorem alone_found (f : SharedClient → α) (m : α → Moment) (g : α → Call β) (s : SharedClient) :
    alone (find me f m >>= g) s = alone (g (f s)) (s.adding me [m (f s)]) := rfl

theorem alone_changed (f : SharedClient → SharedClient) (g : Unit → Call β) (s : SharedClient) :
    alone (change f >>= g) s = alone (g ()) (f s) := rfl

theorem alone_info (line : LogLine) (s : SharedClient) : alone (info line) s =
    some (.ok (), { s with world := { s.world with log := s.world.log ++ [line] } }) := rfl

theorem alone_newSn (time : ℚ) (s : SharedClient) : alone (newSn time) s =
    some (.ok (intText (nextSn s.world.lastSn time)),
      { s with world := { s.world with lastSn := nextSn s.world.lastSn time } }) := by
  unfold newSn nextSn
  rw [alone_looked]
  by_cases h : (time * 1000).num.tdiv (time * 1000).den ≤ s.world.lastSn
  · simp only [h, decide_true, ↓reduceIte]
    rfl
  · simp only [h, decide_false, Bool.false_eq_true, ↓reduceIte]
    rfl

theorem accepted_map (x : Except Exn (Dict Json)) : x.map LocalTransport.accepted =
    x.bind (fun reply => .ok (LocalTransport.accepted reply)) := by
  cases x <;> rfl

theorem Mirrors.world (h : Mirrors relay s u) : s.world = u.2 := congrArg Prod.snd h.view

/-- The history of a request is nothing the client shows. -/
theorem Mirrors.adding (h : Mirrors relay s u) (me : Nat) (ms : List Moment) :
    Mirrors relay (s.adding me ms) u := ⟨h.view, h.idle, h.cloud, h.own⟩

theorem Mirrors.setWorld (h : Mirrors relay s u) (w : World) :
    Mirrors relay { s with world := w } (u.1, w) :=
  ⟨congrArg (fun p => (p.1, w)) h.view, h.idle, h.cloud, h.own⟩

/-! ### The transport -/

section Transport

/-- What has been done at the current transport is what the client shows of it. -/
theorem Mirrors.left {s' : SharedClient} {now : LocalTransport} {w : World}
    (h : MirrorsTransport relay u v s t) (hleft : Left s s' s.client.local'.transport now w) :
    MirrorsTransport relay u v s' (now, w) := by
  have hsame := hleft.client
  have hview : s'.view = ({ s.view.1 with local' := { s.view.1.local' with transport := now } }, w) := by
    simp only [SharedClient.view, hsame, hleft.transport.1, hleft.world]
  refine ⟨?_, ?_, ?_, fun i => ?_⟩
  · rw [hview, h.view]
    rfl
  · rw [hsame]
    exact hleft.transport.2
  · rw [hsame]
    exact h.cloud
  · rw [hleft.own]
    exact h.own i

theorem Mirrors.transport (h : MirrorsTransport relay u v s t) :
    (s.transports s.client.local'.transport).self = t.1 :=
  congrArg (fun p => p.1.local'.transport) h.view

/-- An exchange of a frame that is asked with the next sequence number. -/
theorem local_alone {env : LocalEnv} {ask : Str → Frame} {rest : Nat → Dict Json → Call α}
    (reads : LocalTransport → Dict Json → Except Exn α)
    (hrest : ∀ r reply s, alone (rest r reply) s =
      some ((reads (s.transports r).self reply).mapError .exn, s))
    (hreads : ∀ t conn, reads { t with conn := conn } = reads t)
    (h : MirrorsTransport relay u v s t) :
    let o := LocalTransport.outcome py t.1 env.exchange (ask (intText (nextSn t.2.lastSn env.time)))
      t.2.sockets
    ∃ s', alone (do
        let r ← Rediscovering.transport me
        let sn ← newSn env.time
        let reply ← Local.exchange py me r env.exchange (ask sn)
        rest r reply) s = some ((o.answer.bind (reads t.1)).mapError .exn, s') ∧
      MirrorsTransport relay u v s'
        (o.state t.1 { t.2 with lastSn := nextSn t.2.lastSn env.time }) := by
  have hself : (s.transports s.client.local'.transport).self = t.1 := h.transport
  have hworld : s.world = t.2 := h.world
  let asked := { s.adding me [.chose s.client.local'.transport] with
    world := { s.world with lastSn := nextSn s.world.lastSn env.time } }
  have hfree : (asked.transports s.client.local'.transport).lock = none := h.idle
  obtain ⟨s', halone, hleft⟩ := exchange_alone py me hfree env.exchange
    (ask (intText (nextSn s.world.lastSn env.time)))
  simp only [asked, SharedClient.adding, hself, hworld] at halone hleft
  refine ⟨s', ?_, h.left ⟨hleft.client, hleft.own, hleft.transport, hleft.world⟩⟩
  rw [Rediscovering.transport, alone_found, alone_bind, alone_newSn]
  simp only [SharedClient.adding, hworld]
  rw [alone_bind, halone]
  cases (LocalTransport.outcome py t.1 env.exchange (ask (intText (nextSn t.2.lastSn env.time)))
    t.2.sockets).answer with
  | error e => rfl
  | ok reply =>
    simp only [Except.mapError, Except.bind]
    rw [hrest, hleft.transport.1, hreads]
    rfl

variable (h : MirrorsTransport relay u v s t)

include h

theorem localQuery_alone (env : LocalEnv) (attrs : Option (List Int)) :
    EndsAs Raised.exn (MirrorsTransport relay u v)
      (do Local.query py me (← Rediscovering.transport me) env attrs) s
      (LocalTransport.query py env attrs) t := by
  rw [EndsAs, LocalTransport.query_answer, LocalTransport.query_after]
  refine local_alone (LocalTransport.readData py) (fun r reply s => ?_) (fun _ _ => rfl) h
  simp only [LocalTransport.readData]
  cases LocalTransport.dataMap reply <;> rfl

theorem localControl_alone (env : LocalEnv) (payload : Payload) :
    EndsAs Raised.exn (MirrorsTransport relay u v)
      (do Local.control py me (← Rediscovering.transport me) env payload) s
      (LocalTransport.control py env payload) t := by
  rw [EndsAs, LocalTransport.control_answer, LocalTransport.control_after, accepted_map]
  exact local_alone (fun _ reply => .ok (LocalTransport.accepted reply)) (fun _ _ _ => rfl)
    (fun _ _ => rfl) h

theorem disconnect_alone :
    EndsAs Raised.exn (MirrorsTransport relay u v) (Local.close me s.client.local'.transport) s
      LocalTransport.disconnect t := by
  have hworld : s.world = t.2 := h.world
  obtain ⟨s', halone, hleft⟩ := close_alone me h.idle
  rw [h.transport, hworld] at hleft
  have hrun := LocalTransport.disconnect_run t.1 t.2
  have hanswer : answer LocalTransport.disconnect t = .ok () := by rw [answer, hrun]
  have hafter : after LocalTransport.disconnect t =
      (t.1.bare, { t.2 with trace := t.2.trace ++ t.1.held.map .closed }) := by
    rw [after, hrun]
    simp only [LocalTransport.bare, LocalTransport.held, List.map_map]
    rfl
  rw [EndsAs, hanswer, hafter]
  exact ⟨s', halone, h.left hleft⟩

end Transport

/-! ### The local path -/

section Local

theorem alone_tooRecent (now : ℚ) (s : SharedClient) :
    alone (Rediscovering.tooRecent now) s = some (.ok (!s.client.local'.searchDue now), s) := by
  unfold Rediscovering.tooRecent RediscoveringLocalTransport.searchDue
  rw [alone_looked]
  cases hlast : s.client.local'.lastSearch with
  | none => rfl
  | some last =>
    simp only []
    rw [alone_looked]
    simp only [hlast, decide_not, Bool.not_not]
    rfl

theorem alone_rediscover (env : SearchEnv) (s : SharedClient) :
    alone (Rediscovering.rediscover env) s = some (env.found.mapError .exn,
      { s with world := RediscoveringLocalTransport.probed env s.world }) := by
  unfold Rediscovering.rediscover RediscoveringLocalTransport.probed
  cases env.probe with
  | none => rfl
  | some time =>
    simp only []
    rw [alone_bind, alone_newSn]
    rfl

/-- What the client shows of its local path. -/
theorem Mirrors.local' (h : MirrorsLocal relay u s v) :
    { s.client.local' with transport := (s.transports s.client.local'.transport).self } = v.1 :=
  congrArg (fun p => p.1.local') h.view

/-- Whatever else has become of the client, its local path is now like this. -/
theorem Mirrors.setLocal {s' : SharedClient} {m : RediscoveringLocalTransport Nat}
    {v' : RediscoveringLocalTransport LocalTransport × World} (h : MirrorsLocal relay u s v)
    (hclient : s'.client = { s.client with local' := m })
    (hlocal : { m with transport := (s'.transports m.transport).self } = v'.1)
    (hworld : s'.world = v'.2) (hlock : (s'.transports m.transport).lock = none)
    (hown : s'.own = s.own) : MirrorsLocal relay u s' v' := by
  have hview : s'.view = ({ s.view.1 with local' := v'.1 }, v'.2) := by
    simp only [SharedClient.view, hclient, hlocal, hworld]
  refine ⟨?_, ?_, ?_, fun i => ?_⟩
  · rw [hview, h.view]
    rfl
  · rw [hclient]
    exact hlock
  · rw [hclient]
    exact h.cloud
  · rw [hown]
    exact h.own i

variable (h : MirrorsLocal relay u s v)

include h

/-- A device that was found elsewhere is gone on with there. -/
theorem move_alone (found : Str) : EndsAs Raised.exn (MirrorsLocal relay u) (do
      changeClient (fun c => { c with local' := { c.local' with host := found } })
      Rediscovering.install (factory.build found)
      return true) s (do
    modifySelf (fun t => { t with host := found, transport := factory.build found })
    return true) v := by
  let s₁ := { s with client := { s.client with local' := { s.client.local' with host := found } } }
  have hmoved : MirrorsLocal relay u (Rediscovering.installed s₁ (factory.build found))
      ({ v.1 with host := found, transport := factory.build found }, v.2) := by
    refine h.setLocal rfl ?_ h.world ?_ rfl
    · rw [← h.local']
      simp only [Rediscovering.installed, SharedClient.put, Function.update_self]
      rfl
    · simp only [Rediscovering.installed, SharedClient.put, Function.update_self]
  exact ⟨_, rfl, hmoved⟩

theorem relocate_alone (env : SearchEnv) :
    EndsAs Raised.exn (MirrorsLocal relay u) (Rediscovering.relocate factory me env) s
      (RediscoveringLocalTransport.relocate (LocalTransport.asTransport py) factory.build env) v := by
  have hlocal := h.local'
  have hdue : s.client.local'.searchDue env.now = v.1.searchDue env.now := by
    rw [← hlocal]
    rfl
  refine EndsAs.step (alone_tooRecent env.now s) (run_getSelf v) ?_
  rw [hdue]
  cases v.1.searchDue env.now with
  | false => exact endsAs_pure false h
  | true =>
    simp only [Bool.not_true, Bool.false_eq_true, ↓reduceIte]
    let m := { s.client.local' with lastSearch := some env.now }
    let s₁ := { s with client := { s.client with local' := m } }
    let s₂ := { s₁ with world := RediscoveringLocalTransport.probed env s.world }
    have hstart : alone (changeClient (fun c => { c with local' := { c.local' with
        lastSearch := some env.now } })) s = some (.ok (), s₁) := rfl
    refine EndsAs.step hstart (run_modifySelf v _) ?_
    have hsearch : alone (Thread.caught (Rediscovering.rediscover env)) s₁ =
        some (.ok (env.found.mapError .exn), s₂) := by
      rw [alone_caught, alone_rediscover]
      rfl
    have hsearch' : (caught (onWorld (RediscoveringLocalTransport.rediscover env))).run
        ({ v.1 with lastSearch := some env.now }, v.2) =
          .ok env.found (RediscoveringLocalTransport.searched env v) := by
      rw [run_caught, run_onWorld, RediscoveringLocalTransport.rediscover_run]
      cases env.found <;> rfl
    refine EndsAs.step hsearch hsearch' ?_
    have hsearched : MirrorsLocal relay u s₂ (RediscoveringLocalTransport.searched env v) := by
      have hworld : s.world = v.2 := h.world
      refine h.setLocal rfl ?_ ?_ h.idle rfl
      · simp only [RediscoveringLocalTransport.searched, ← hlocal]
        rfl
      · simp only [RediscoveringLocalTransport.searched, ← hworld]
        rfl
    cases env.found with
    | error e => cases e <;> first | exact endsAs_pure false hsearched | exact endsAs_raise _ hsearched
    | ok found =>
      cases found with
      | none => exact endsAs_pure false hsearched
      | some found =>
        have hlook : alone (look (fun s => s.client.local'.host)) s₂ = some (.ok v.1.host, s₂) := by
          rw [← hlocal]
          rfl
        refine EndsAs.extra hlook ?_
        by_cases hstay : found = [] ∨ found = v.1.host
        · simp only [if_pos hstay]
          exact endsAs_pure false hsearched
        · simp only [if_neg hstay]
          let s₃ := s₂.adding me [.chose s₂.client.local'.transport]
          have hcurrent : alone (Rediscovering.transport me) s₂ =
              some (.ok s₂.client.local'.transport, s₃) := rfl
          refine EndsAs.extra hcurrent ?_
          have hclose : EndsAs Raised.exn (MirrorsLocal relay u)
              (Local.close me s₃.client.local'.transport) s₃
              (RediscoveringLocalTransport.closeInner (LocalTransport.asTransport py))
              (RediscoveringLocalTransport.searched env v) :=
            EndsAs.zoom (disconnect_alone (hsearched.adding me _))
          exact hclose.bind (fun _ s v hv => move_alone hv found)

theorem rediscoveringQuery_alone (env : RediscoverEnv LocalEnv) (attrs : Option (List Int)) :
    EndsAs Raised.exn (MirrorsLocal relay u) (Rediscovering.query py factory me env attrs) s
      (RediscoveringLocalTransport.query (LocalTransport.asTransport py) factory.build env attrs)
      v := by
  have hask (env : LocalEnv) {s : SharedClient}
      {v : RediscoveringLocalTransport LocalTransport × World} (h : MirrorsLocal relay u s v) :
      EndsAs Raised.exn (MirrorsLocal relay u)
        (do Local.query py me (← Rediscovering.transport me) env attrs) s
        (zoom (RediscoveringLocalTransport.inner LocalTransport) (LocalTransport.query py env attrs))
        v := EndsAs.zoom (localQuery_alone h env attrs)
  refine (hask env.first h).caught (fun r s v hv => ?_)
  rcases r with e | data
  · cases e with
    | transport e =>
      refine (relocate_alone hv env.search).bind (fun moved s v hv => ?_)
      cases moved with
      | false => exact endsAs_raise _ hv
      | true =>
        have hlook : alone (look (fun s => s.client.local')) s = some (.ok s.client.local', s) := rfl
        refine EndsAs.step hlook (run_getSelf v) ?_
        have hid : s.client.local'.deviceId = v.1.deviceId := by rw [← hv.local']
        have hhost : s.client.local'.host = v.1.host := by rw [← hv.local']
        rw [hid, hhost]
        have hinfo : onWorld (CozyLife.info (.moved v.1.deviceId v.1.host)) v =
          .ok () (RediscoveringLocalTransport.announced v) := rfl
        refine EndsAs.step (alone_info _ s) hinfo (hask env.retry ?_)
        have hworld : s.world = v.2 := hv.world
        rw [hworld]
        exact hv.setWorld _
    | _ => exact endsAs_raise _ hv
  · exact endsAs_pure data hv

theorem rediscoveringControl_alone (env : RediscoverEnv LocalEnv) (payload : Payload) :
    EndsAs Raised.exn (MirrorsLocal relay u) (Rediscovering.control py factory me env payload) s
      (RediscoveringLocalTransport.control (LocalTransport.asTransport py) factory.build env payload)
      v := by
  have hask : EndsAs Raised.exn (MirrorsLocal relay u)
      (do Local.control py me (← Rediscovering.transport me) env.first payload) s
      (zoom (RediscoveringLocalTransport.inner LocalTransport)
        (LocalTransport.control py env.first payload)) v :=
    EndsAs.zoom (localControl_alone h env.first payload)
  refine hask.caught (fun r s v hv => ?_)
  rcases r with e | accepted
  · cases e with
    | transport e =>
      exact (relocate_alone hv env.search).bind (fun _ _ _ hv => endsAs_raise _ hv)
    | _ => exact endsAs_raise _ hv
  · exact endsAs_pure accepted hv

end Local

/-! ### The relay -/

section Relay

theorem Mirrors.cloud' (h : Mirrors relay s u) : u.1.cloud = relay := by
  rw [← h.view]
  exact h.cloud

theorem onCloud_world (c : CloudRelayTransport) (m : CloudRelayTransport → EStateM Exn World α)
    (hcloud : u.1.cloud = some c) :
    answer (FallbackClient.onCloud c (do onWorld (m (← getSelf)))) u = answer (m c) u.2 ∧
      after (FallbackClient.onCloud c (do onWorld (m (← getSelf)))) u = (u.1, after (m c) u.2) := by
  have hsame : ({ u.1 with cloud := some c } : Client) = u.1 := by rw [← hcloud]
  simp only [answer, after, FallbackClient.run_onCloud, EStateM.run_bind, run_getSelf, run_onWorld]
  cases (m c).run u.2 <;> simp only [hsame, and_self]

variable (c : CloudRelayTransport) (env : RelayEnv)

/-- An exchange of a frame that is asked with the next sequence number. -/
theorem relay_alone {ask : Str → Frame} {rest : Dict Json → Call α}
    {reads : Dict Json → Except Exn α}
    (hrest : ∀ reply, rest reply = .done ((reads reply).mapError .exn)) (h : Mirrors relay s u) :
    let o := c.outcome py env (ask (intText (nextSn u.2.lastSn env.time))) u.2.sockets
    ∃ s', alone (do
        let sn ← newSn env.time
        let reply ← Relay.exchange py c me env (ask sn)
        rest reply) s = some ((o.answer.bind reads).mapError .exn, s') ∧
      Mirrors relay s' (u.1, o.world { u.2 with lastSn := nextSn u.2.lastSn env.time }) := by
  let asked := { s with world := { s.world with lastSn := nextSn s.world.lastSn env.time } }
  have hown : asked.own me = none := h.own me
  obtain ⟨s', halone, hend⟩ := relayExchange_alone py c env
    (ask (intText (nextSn s.world.lastSn env.time))) hown
  have hworld := hend.world
  rw [CloudRelayTransport.outcome_past] at hworld
  rw [← h.world]
  refine ⟨s', ?_, ?_, ?_, ?_, fun i => ?_⟩
  · rw [alone_bind, alone_newSn]
    simp only []
    rw [alone_bind, halone]
    cases (c.outcome py env (ask (intText (nextSn s.world.lastSn env.time)))
      asked.world.sockets).answer with
    | error e => rfl
    | ok reply =>
      simp only [Except.mapError, Except.bind]
      rw [hrest]
      rfl
  · rw [SharedClient.view, hend.client, hend.transports, hworld, ← h.view]
    rfl
  · rw [hend.client, hend.transports]
    exact h.idle
  · rw [hend.client]
    exact h.cloud
  · have hsame : s'.own = asked.own := by rw [hend.own, ← hown, Function.update_eq_self]
    rw [hsame]
    exact h.own i

variable (h : Mirrors (some c) s u)

include h

theorem relayQuery_alone (attrs : Option (List Int)) : EndsAs Raised.exn (Mirrors (some c))
    (Relay.query py c me env attrs) s
    (FallbackClient.onCloud c ((CloudRelayTransport.asTransport py).query env attrs)) u := by
  obtain ⟨hanswer, hafter⟩ := onCloud_world c (fun c => c.query py env attrs) h.cloud'
  rw [EndsAs, CloudRelayTransport.asTransport, hanswer, hafter, c.query_answer, c.query_after]
  refine relay_alone c env (fun reply => ?_) h
  simp only [CloudRelayTransport.readData]
  cases LocalTransport.dataMap reply <;> rfl

theorem relayControl_alone (payload : Payload) : EndsAs Raised.exn (Mirrors (some c))
    (Relay.control py c me env payload) s
    (FallbackClient.onCloud c ((CloudRelayTransport.asTransport py).control env payload)) u := by
  obtain ⟨hanswer, hafter⟩ := onCloud_world c (fun c => c.control py env payload) h.cloud'
  rw [EndsAs, CloudRelayTransport.asTransport, hanswer, hafter, c.control_answer, c.control_after,
    accepted_map]
  exact relay_alone c env (fun _ => rfl) h

end Relay

/-! ### The breaker and the path -/

section Fallback

/-- The state `_note_path` leaves. -/
def noted (path : Str) (s : SharedClient) : SharedClient :=
  { s with
    client := { s.client with activePath := some path }
    world := { s.world with
      log := s.world.log ++ FallbackClient.noteLines s.client.activePath path } }

/-- What `_should_try_local` finds as it looks at the circuit. -/
def looks (s : SharedClient) : List Moment :=
  match s.client.cloud, s.client.circuitOpenedAt with
  | none, _ => []
  | some _, none => [.saw none]
  | some _, some opened => [.saw (some opened), .saw (some opened)]

/-- The state `_should_try_local` leaves. -/
def decided (r : Readings) (s : SharedClient) : SharedClient :=
  let d := s.client.toBreaker.shouldTryLocal s.client.cloud.isSome r.check r.probe
  { s with client := { s.client with toBreaker := d.2 } }

/-- The state a recorded local failure leaves. -/
def failed (r : Readings) (s : SharedClient) : SharedClient :=
  let d := s.client.toBreaker.recordLocalFailure s.client.cloud.isSome r.trip
  { s with
    client := { s.client with toBreaker := d.2 }
    world := { s.world with log := s.world.log ++
      if d.1 then [.localFailing d.2.consecutiveFailures d.2.recoveryInterval] else [] } }

/-- The state a recorded local success leaves. -/
def succeeded (s : SharedClient) : SharedClient :=
  let d := s.client.toBreaker.recordLocalSuccess
  { s with
    client := { s.client with toBreaker := d.2 }
    world := { s.world with log := s.world.log ++ if d.1 then [.localAnswering] else [] } }

/-- The state in which no path served the request. -/
def lost (s : SharedClient) : SharedClient := { s with client := { s.client with activePath := none } }

theorem alone_notePath (path : Str) (s : SharedClient) :
    alone (notePath path) s = some (.ok (), noted path s) := by
  unfold notePath activePath noted
  rw [alone_looked]
  cases hactive : s.client.activePath with
  | none =>
    simp only [reduceCtorEq, ↓reduceIte]
    rw [alone_looked, hactive]
    rfl
  | some before =>
    by_cases hsame : before = path
    · subst hsame
      have hlines : FallbackClient.noteLines (some before) before = [] := if_neg (fun h => h rfl)
      simp only [↓reduceIte, hlines, List.append_nil]
      rw [← hactive]
      rfl
    · have hlines : FallbackClient.noteLines (some before) path = [.switched before path] :=
        if_pos (Ne.symm hsame)
      have hother : ¬ some before = some path := fun h => hsame (Option.some.inj h)
      simp only [if_neg hother, hlines]
      rw [alone_looked, hactive]
      simp only []
      rw [alone_looked, hactive]
      rfl

theorem alone_shouldTryLocal (me : Nat) (r : Readings) (s : SharedClient) :
    alone (shouldTryLocal me r) s =
      some (.ok (s.client.toBreaker.shouldTryLocal s.client.cloud.isSome r.check r.probe).1,
        (decided r s).adding me (looks s)) := by
  unfold shouldTryLocal cloud circuit decided looks Breaker.shouldTryLocal
  rw [alone_looked]
  cases hcloud : s.client.cloud with
  | none =>
    rw [SharedClient.adding_nil]
    rfl
  | some c =>
    simp only [Option.isNone_some, Bool.false_eq_true, ↓reduceIte, Option.isSome_some]
    rw [alone_found]
    cases hopened : s.client.circuitOpenedAt with
    | none => rfl
    | some opened =>
      simp only [Option.isNone_some, Bool.false_eq_true, ↓reduceIte]
      have hopened' : (s.adding me [.saw (some opened)]).client.circuitOpenedAt = some opened := hopened
      rw [alone_found, SharedClient.adding_adding, hopened']
      simp only []
      rw [alone_looked]
      have hsame (ms : List Moment) :
          (s.adding me ms).client.recoveryInterval = s.client.recoveryInterval := rfl
      by_cases hrecent : r.check - opened < s.client.recoveryInterval
      · simp only [hsame, if_pos hrecent]
        rfl
      · simp only [hsame, if_neg hrecent]
        rfl

theorem alone_recordLocalFailure (r : Readings) (s : SharedClient) :
    alone (recordLocalFailure r) s = some (.ok (), failed r s) := by
  unfold recordLocalFailure cloud openedAt failed Breaker.recordLocalFailure
  rw [alone_looked, changeClient, alone_changed, alone_looked]
  cases hopened : s.client.circuitOpenedAt with
  | some opened =>
    simp only [Option.isSome_some, ↓reduceIte, reduceCtorEq, false_and, Bool.false_eq_true,
      List.append_nil]
    rfl
  | none =>
    simp only [Option.isSome_none, Bool.false_eq_true, ↓reduceIte, true_and]
    rw [alone_looked]
    cases hcloud : s.client.cloud with
    | none =>
      simp only [Option.isNone_none, Option.isSome_none, ↓reduceIte, Bool.false_eq_true, false_and,
        List.append_nil]
      rfl
    | some c =>
      simp only [Option.isNone_some, Option.isSome_some, Bool.false_eq_true, ↓reduceIte, true_and]
      rw [alone_looked]
      by_cases htrips : s.client.failureThreshold ≤ ((s.client.consecutiveFailures + 1 : Nat) : Int)
      · simp only [if_pos htrips]
        rfl
      · simp only [if_neg htrips, Bool.false_eq_true, ↓reduceIte, List.append_nil]
        rfl

theorem alone_recordLocalSuccess (s : SharedClient) :
    alone recordLocalSuccess s = some (.ok (), succeeded s) := by
  unfold recordLocalSuccess openedAt succeeded Breaker.recordLocalSuccess Breaker.isOpen
  rw [changeClient, alone_changed, alone_looked]
  cases hopened : s.client.circuitOpenedAt with
  | none =>
    simp only [Option.isSome_none, Bool.false_eq_true, ↓reduceIte, List.append_nil]
    rw [← hopened]
    rfl
  | some opened =>
    simp only [Option.isSome_some, ↓reduceIte]
    rfl

variable (h : Mirrors relay s u)

include h

theorem Mirrors.noted (path : Str) :
    Mirrors relay (noted path s) (FallbackClient.noted path u) := by
  obtain rfl := h.view
  exact ⟨rfl, h.idle, h.cloud, h.own⟩

theorem Mirrors.decided (r : Readings) :
    Mirrors relay (decided r s) (FallbackClient.decided r u) := by
  obtain rfl := h.view
  exact ⟨rfl, h.idle, h.cloud, h.own⟩

theorem Mirrors.failed (r : Readings) : Mirrors relay (failed r s) (FallbackClient.failed r u) := by
  obtain rfl := h.view
  exact ⟨rfl, h.idle, h.cloud, h.own⟩

theorem Mirrors.succeeded : Mirrors relay (succeeded s) (FallbackClient.succeeded u) := by
  obtain rfl := h.view
  exact ⟨rfl, h.idle, h.cloud, h.own⟩

theorem Mirrors.lost : Mirrors relay (lost s) (FallbackClient.lost u) := by
  obtain rfl := h.view
  exact ⟨rfl, h.idle, h.cloud, h.own⟩

end Fallback

/-! ### One path or the other -/

section Attempt

theorem viaCloud_alone {c : CloudRelayTransport} {callCloud : CloudRelayTransport → Call α}
    {m : Method CloudRelayTransport α} (localError : Option TransportError)
    (h : Mirrors (some c) s u) (hcall : EndsAs Raised.exn (Mirrors (some c)) (callCloud c) s
      (FallbackClient.onCloud c m) u) :
    EndsAs Raised.exn (Mirrors (some c)) (viaCloud callCloud localError) s
      (FallbackClient.viaCloud CloudRelayTransport.name m localError) u := by
  have hlook : alone cloud s = some (.ok (some c), s) := by
    rw [← h.cloud]
    rfl
  refine EndsAs.step hlook (run_getSelf u) ?_
  simp only [h.cloud']
  refine hcall.caught (fun r s u hp => ?_)
  rcases r with e | result
  · cases e with
    | transport e =>
      have hchange : alone (changeClient (fun c => { c with activePath := none })) s =
        some (.ok (), lost s) := rfl
      refine EndsAs.step hchange (FallbackClient.setActivePath_run u) ?_
      cases localError with
      | none => exact endsAs_raise _ hp.lost
      | some localError => exact endsAs_raise _ hp.lost
    | _ => exact endsAs_raise _ hp
  · refine EndsAs.step (alone_notePath _ s) (FallbackClient.notePath_run _ u) ?_
    exact endsAs_pure result (hp.noted _)

theorem attempt_alone {callLocal : Call α} {callCloud : CloudRelayTransport → Call α}
    {l : Method (RediscoveringLocalTransport LocalTransport) α} {m : Method CloudRelayTransport α}
    (r : Readings) (h : Mirrors relay s u)
    (hl : ∀ s u, Mirrors relay s u → EndsAs Raised.exn (Mirrors relay) callLocal s
      (zoom FallbackClient.onLocal l) u)
    (hc : ∀ c s u, Mirrors (some c) s u → EndsAs Raised.exn (Mirrors (some c)) (callCloud c) s
      (FallbackClient.onCloud c m) u) :
    EndsAs Raised.exn (Mirrors relay) (attempt me r callLocal callCloud) s
      (FallbackClient.attempt RediscoveringLocalTransport.name CloudRelayTransport.name r l m) u := by
  have htry : s.client.toBreaker.shouldTryLocal s.client.cloud.isSome r.check r.probe =
      u.1.toBreaker.shouldTryLocal u.1.cloud.isSome r.check r.probe := by
    rw [← h.view]
    rfl
  refine EndsAs.step (alone_shouldTryLocal me r s) (FallbackClient.shouldTryLocal_run r u) ?_
  rw [htry]
  have hdecided := (h.decided r).adding me (looks s)
  have hvia (localError : Option TransportError) {s : SharedClient} {u : Client × World}
      (h : Mirrors relay s u) (hrelay : relay ≠ none) :
      EndsAs Raised.exn (Mirrors relay) (viaCloud callCloud localError) s
        (FallbackClient.viaCloud CloudRelayTransport.name m localError) u := by
    cases relay with
    | none => exact absurd rfl hrelay
    | some c => exact viaCloud_alone localError h (hc c s u h)
  cases htries : (u.1.toBreaker.shouldTryLocal u.1.cloud.isSome r.check r.probe).1 with
  | true =>
    simp only [↓reduceIte]
    refine (hl _ _ hdecided).caught (fun x s u hp => ?_)
    rcases x with e | result
    · cases e with
      | transport e =>
        refine EndsAs.step (alone_recordLocalFailure r s) (FallbackClient.recordLocalFailure_run r u) ?_
        have hlook : alone cloud (Overlap.failed r s) = some (.ok relay, Overlap.failed r s) := by
          rw [← (hp.failed r).cloud]
          rfl
        refine EndsAs.step hlook (run_getSelf _) ?_
        rw [(hp.failed r).cloud']
        cases relay with
        | none =>
          have hchange : alone (changeClient (fun c => { c with activePath := none }))
            (Overlap.failed r s) = some (.ok (), lost (Overlap.failed r s)) := rfl
          refine EndsAs.step hchange (FallbackClient.setActivePath_run _) ?_
          exact endsAs_raise _ (hp.failed r).lost
        | some c => exact hvia (some e) (hp.failed r) (Option.some_ne_none c)
      | _ => exact endsAs_raise _ hp
    · refine EndsAs.step (alone_recordLocalSuccess s) (FallbackClient.recordLocalSuccess_run u) ?_
      refine EndsAs.step (alone_notePath _ _) (FallbackClient.notePath_run _ _) ?_
      exact endsAs_pure result (hp.succeeded.noted _)
  | false =>
    simp only [Bool.false_eq_true, ↓reduceIte]
    refine hvia none hdecided (fun hrelay => ?_)
    rw [h.cloud', hrelay] at htries
    cases htries

end Attempt

/-! ### Requests -/

section Requests

theorem clientClose_alone (h : Mirrors relay s u) :
    EndsAs Raised.exn (Mirrors relay) (close me) s (Client.close py factory) u := by
  let s₁ := s.adding me [.chose s.client.local'.transport]
  have hcurrent : alone (Rediscovering.transport me) s = some (.ok s.client.local'.transport, s₁) :=
    rfl
  have hsame : (Client.close py factory).run u = (zoom FallbackClient.onLocal
      (zoom (RediscoveringLocalTransport.inner LocalTransport) LocalTransport.disconnect)).run u := by
    rw [Client.close_run, run_zoom, run_zoom, LocalTransport.disconnect_run]
    rfl
  have hclosed : EndsAs Raised.exn (Mirrors relay) (close me) s (zoom FallbackClient.onLocal
      (zoom (RediscoveringLocalTransport.inner LocalTransport) LocalTransport.disconnect)) u :=
    EndsAs.extra hcurrent (EndsAs.zoom (EndsAs.zoom (disconnect_alone (h.adding me _))))
  rw [EndsAs, answer, after] at hclosed ⊢
  rw [hsame]
  exact hclosed

/-- What a request asks of the client when nothing shares it. -/
def Request.method (py : Interpreter) (factory : Factory) : Request → Method Client Reply
  | .query env attrs => do return .data (← Client.query py factory env attrs)
  | .control env payload => do return .accepted (← Client.control py factory env payload)
  | .close => do
    Client.close py factory
    return .closed

theorem request_alone (request : Request) (h : Mirrors relay s u) :
    EndsAs Raised.exn (Mirrors relay) (request.thread py factory me) s (request.method py factory)
      u := by
  have hzoom {β : Type} {t : Call β} {m : Method (RediscoveringLocalTransport LocalTransport) β}
      (hm : ∀ s u v, MirrorsLocal relay u s v → EndsAs Raised.exn (MirrorsLocal relay u) t s m v)
      (s : SharedClient) (u : Client × World) (h : Mirrors relay s u) :
      EndsAs Raised.exn (Mirrors relay) t s (zoom FallbackClient.onLocal m) u :=
    EndsAs.zoom (hm s u _ h)
  cases request with
  | query env attrs =>
    have hquery : EndsAs Raised.exn (Mirrors relay) (Overlap.query py factory me env attrs) s
        (Client.query py factory env attrs) u :=
      attempt_alone env.readings h (hzoom (fun _ _ _ h => rediscoveringQuery_alone h env.local' attrs))
        (fun c _ _ h => relayQuery_alone c env.cloud h attrs)
    exact hquery.bind (fun _ _ _ h => endsAs_pure _ h)
  | control env payload =>
    have hcontrol : EndsAs Raised.exn (Mirrors relay) (Overlap.control py factory me env payload) s
        (Client.control py factory env payload) u :=
      attempt_alone env.readings h
        (hzoom (fun _ _ _ h => rediscoveringControl_alone h env.local' payload))
        (fun c _ _ h => relayControl_alone c env.cloud h payload)
    exact hcontrol.bind (fun _ _ _ h => endsAs_pure _ h)
  | close => exact (clientClose_alone h).bind (fun _ _ _ h => endsAs_pure _ h)

variable (py : Interpreter) (entry : ConfigEntry) (requests : Nat → Request)

theorem shared_mirrors :
    Mirrors (buildClient entry).cloud (shared entry) (buildClient entry, World.initial) :=
  ⟨rfl, rfl, rfl, fun _ => rfl⟩

/-- Requests that get their turns one after another do, and leave, what the client does when nothing
shares it and they are made one after another. -/
theorem requests_in_turn (turns : Nat → Nat) (n : Nat)
    (hover : ∀ i < n,
      ((run py entry requests (Parallel.inTurn turns n)).ended i).isSome = true) :
    let factory := Factory.standard (entry.localTimeout.getD DEFAULT_LOCAL_TIMEOUT)
    let client := oneByOne (fun i => (requests i).method py factory) (buildClient entry, World.initial)
    (run py entry requests (Parallel.inTurn turns n)).state.view = client n ∧
      ∀ i < n, (run py entry requests (Parallel.inTurn turns n)).ended i =
        some ((answer ((requests i).method py factory) (client i)).mapError .exn) := by
  intro factory client
  have hends (i : Nat) (s : SharedClient) (u : Client × World)
      (h : Mirrors (buildClient entry).cloud s u) :
      EndsAs Raised.exn (Mirrors (buildClient entry).cloud) ((requests i).thread py factory i) s
        ((requests i).method py factory) u := request_alone (requests i) h
  obtain ⟨hmirrors, hended⟩ := Parallel.inTurn_ends (shared_mirrors entry) hends hover
  exact ⟨hmirrors.view, hended⟩

theorem requests_in_turn_switching :
    let factory := Factory.standard (plug.localTimeout.getD DEFAULT_LOCAL_TIMEOUT)
    let client := oneByOne (fun i => (switching i).method .plain factory)
      (buildClient plug, World.initial)
    (run .plain plug switching (Parallel.inTurn (fun _ => 60) 2)).state.view = client 2 := by
  refine (requests_in_turn .plain plug switching (fun _ => 60) 2 ?_).1
  decide +kernel

end Requests

end Overlap

end CozyLife
