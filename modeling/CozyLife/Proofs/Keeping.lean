import CozyLife.Integration
import CozyLife.Proofs.Fallback
import CozyLife.Proofs.Rediscover
import CozyLife.Proofs.Relay

/-! Rules for invariants: what the layers around the transports keep if the transports do. -/

namespace CozyLife
open Python Effects

namespace FallbackClient

variable {L C α : Type} {J : L → Option C → World → Prop}

/-- What holds of both transports and the world, whatever the log says. -/
def Serving (J : L → Option C → World → Prop) (s : FallbackClient L C × World) : Prop :=
  J s.1.local' s.1.cloud s.2

theorem viaCloud_rule (hlog : ∀ l c w log, J l c w → J l c { w with log := log })
    {callCloud : Method C α} (hcloud : ∀ l, Keeps (fun t => J l (some t.1) t.2) callCloud)
    (cloudName : Str) (localError : Option TransportError) :
    Keeps (Serving J) (viaCloud cloudName callCloud localError) := by
  intro s h
  cases hc : s.1.cloud with
  | none =>
    have hrun : (viaCloud cloudName callCloud localError).run s = .error .assertion s := by
      simp [viaCloud, hc]
    rw [after, hrun]
    exact h
  | some c =>
    have hserving : J s.1.local' (some c) s.2 := by
      rw [← hc]
      exact h
    have hcall := hcloud s.1.local' (c, s.2) hserving
    rw [after] at hcall
    rw [after, viaCloud_run cloudName callCloud localError s c hc, run_onCloud]
    rcases hr : callCloud.run (c, s.2) with ⟨a, t⟩ | ⟨e, t⟩ <;> rw [hr] at hcall
    · exact hlog _ _ _ _ hcall
    · cases e <;> exact hcall

/-- A request leaves what its local call leaves, should it make one, and what its calls keep of the
cloud transport. -/
theorem attempt_rule (hlog : ∀ l c w log, J l c w → J l c { w with log := log })
    {callLocal : Method L α} {callCloud : Method C α} (r : Readings)
    {s : FallbackClient L C × World} (h : Serving J s)
    (hlocal : (s.1.toBreaker.shouldTryLocal s.1.cloud.isSome r.check r.probe).1 = true →
      J (after callLocal (s.1.local', s.2)).1 s.1.cloud (after callLocal (s.1.local', s.2)).2)
    (hcloud : ∀ l, Keeps (fun t => J l (some t.1) t.2) callCloud) (localName cloudName : Str) :
    Serving J (after (attempt localName cloudName r callLocal callCloud) s) := by
  rw [after, attempt_run]
  by_cases htries : (s.1.toBreaker.shouldTryLocal s.1.cloud.isSome r.check r.probe).1 = true
  · have hcall : Serving J (locally callLocal (decided r s)) := hlocal htries
    have hfailed : Serving J (failed r (locally callLocal (decided r s))) := hlog _ _ _ _ hcall
    rw [if_pos htries]
    rcases answer callLocal (s.1.local', s.2) with e | a
    · cases e with
      | transport e =>
        cases s.1.cloud with
        | none => exact hfailed
        | some c => exact viaCloud_rule hlog hcloud cloudName (some e) _ hfailed
      | _ => exact hcall
    · exact hlog _ _ _ _ (hlog _ _ _ _ hcall)
  · rw [if_neg htries]
    exact viaCloud_rule hlog hcloud cloudName none (decided r s) h

end FallbackClient

/-! ### The client of an entry -/

theorem CloudRelayTransport.after_self (m : CloudRelayTransport → EStateM Exn World α)
    (c : CloudRelayTransport) (w : World) :
    after (do onWorld (m (← getSelf)) : Method CloudRelayTransport α) (c, w) =
      (c, after (m c) w) := by
  rw [after_bind]
  exact after_zoom _ _ _

namespace RediscoveringLocalTransport

/-- The call fails, and the clock says that a search is due. -/
def Searches (call : Method LocalTransport α) (now : ℚ)
    (s : RediscoveringLocalTransport LocalTransport × World) : Prop :=
  (∃ e, answer call (s.1.transport, s.2) = .error (.transport e)) ∧ s.1.searchDue now = true

/-- A transport that has released its connection. -/
def released (l : RediscoveringLocalTransport LocalTransport) :
    RediscoveringLocalTransport LocalTransport :=
  { l with transport := { l.transport with conn := none } }

/-- The closing of its connection, if it holds one. -/
def closing (l : RediscoveringLocalTransport LocalTransport) : List Event :=
  l.transport.conn.toList.map (fun conn => .closed conn.sock)

end RediscoveringLocalTransport

namespace Client

/-- The call is made on the local path first, and searches for the device when that fails. -/
def Searches (r : Readings) (call : Method LocalTransport α) (now : ℚ) (s : Client × World) : Prop :=
  (s.1.toBreaker.shouldTryLocal s.1.cloud.isSome r.check r.probe).1 = true ∧
    RediscoveringLocalTransport.Searches call now (s.1.local', s.2)

/-- What `J` says of a client's transports and the world outlives exchanges of the frames in `frame`
on either path, searches that lead to the addresses in `found`, and closing. -/
structure Kept (py : Interpreter) (factory : Factory) (frame : Frame → Prop) (found : Str → Prop)
    (J : RediscoveringLocalTransport LocalTransport → Option CloudRelayTransport → World → Prop) :
    Prop where
  logged : ∀ l c w log, J l c w → J l c { w with log := log }
  exchanged : ∀ l c w env f sn, frame f → J l c w →
    let o := LocalTransport.outcome py l.transport env f w.sockets
    J { l with transport := { l.transport with conn := o.conn } } c (o.world { w with lastSn := sn })
  relayed : ∀ l c w env f sn, frame f → J l (some c) w →
    J l (some c) ((c.outcome py env f w.sockets).world { w with lastSn := sn })
  searched : ∀ l c w env, J l c w → J { l with lastSearch := some env.now } c
    (RediscoveringLocalTransport.probed env w)
  released : ∀ l c w, J l c w → J l.released c { w with trace := w.trace ++ l.closing }
  moved : ∀ l c w host, found host → J (RediscoveringLocalTransport.released l) c w →
    J { l with host := host, transport := factory.build host } c w

theorem close_run (py : Interpreter) (factory : Factory) (s : Client × World) :
    (Client.close py factory).run s =
      .ok () ({ s.1 with local' := s.1.local'.released },
        { s.2 with trace := s.2.trace ++ s.1.local'.closing }) := by
  have hclose : (localPath py factory).close =
    some (zoom (RediscoveringLocalTransport.inner LocalTransport) LocalTransport.disconnect) := rfl
  have hcloud : (CloudRelayTransport.asTransport py).close = none := rfl
  simp only [close, FallbackClient.close, hclose, hcloud, EStateM.run_bind, run_zoom,
    FallbackClient.onLocal, RediscoveringLocalTransport.inner, LocalTransport.disconnect_run,
    run_getSelf]
  cases s.1.cloud <;> rfl

section Kept

variable {py : Interpreter} {factory : Factory} {frame : Frame → Prop} {found : Str → Prop}
  {J : RediscoveringLocalTransport LocalTransport → Option CloudRelayTransport → World → Prop}
  (h : Kept py factory frame found J)
include h

theorem Kept.inner {ask : Str → Frame} {call : Method LocalTransport α}
    (ha : LocalTransport.Asks py env ask reads call) (hask : ∀ sn, frame (ask sn))
    (c : Option CloudRelayTransport) : Keeps (fun t => J t.1 c t.2)
      (zoom (RediscoveringLocalTransport.inner LocalTransport) call) := by
  rintro ⟨l, w⟩ hs
  rw [after_zoom]
  change J { l with transport := (after call (l.transport, w)).1 } c (after call (l.transport, w)).2
  rw [ha.leaves]
  exact h.exchanged l c w env.exchange _ _ (hask _) hs

theorem Kept.relay {ask : Str → Frame} {call : CloudRelayTransport → EStateM Exn World α}
    (ha : CloudRelayTransport.Asks py env ask reads call) (hask : ∀ sn, frame (ask sn))
    (l : RediscoveringLocalTransport LocalTransport) : Keeps (fun t => J l (some t.1) t.2)
      (do onWorld (call (← getSelf)) : Method CloudRelayTransport α) := by
  rintro ⟨c, w⟩ hs
  rw [CloudRelayTransport.after_self]
  change J l (some c) (after (call c) w)
  rw [ha.leaves]
  exact h.relayed l c w env _ _ (hask _) hs

theorem Kept.relocate (env : SearchEnv) {s : RediscoveringLocalTransport LocalTransport × World}
    {c : Option CloudRelayTransport}
    (hfound : s.1.searchDue env.now = true → ∀ ip, env.found = .ok (some ip) → found ip)
    (hs : J s.1 c s.2) :
    let t := after (RediscoveringLocalTransport.relocate (LocalTransport.asTransport py)
      factory.build env) s
    J t.1 c t.2 := by
  have hsearched := h.searched s.1 c s.2 env hs
  simp only [after, RediscoveringLocalTransport.relocate_run]
  cases hdue : s.1.searchDue env.now with
  | false => exact hs
  | true =>
    rcases hend : env.found with (_ | _ | _ | _ | _ | _) | _ | ip
    case ok.some =>
      by_cases hstays : ip = [] ∨ ip = s.1.host
      · simp only [hstays, ↓reduceIte]
        exact hsearched
      · simp only [hstays, ↓reduceIte]
        exact h.moved _ _ _ ip (hfound hdue ip hend) (h.released _ _ _ hsearched)
    all_goals exact hsearched

/-- The first call on the local path, and what it says of a search after it. -/
theorem Kept.first {ask : Str → Frame} {call : Method LocalTransport α}
    (ha : LocalTransport.Asks py env ask reads call) (hask : ∀ sn, frame (ask sn)) (now : ℚ)
    {c : Option CloudRelayTransport} {s : RediscoveringLocalTransport LocalTransport × World}
    (hs : J s.1 c s.2) : Triple (· = s)
      (caught (zoom (RediscoveringLocalTransport.inner LocalTransport) call))
      (fun r t => J t.1 c t.2 ∧ ∀ e, r = .ok (.error (.transport e)) → t.1.searchDue now = true →
        RediscoveringLocalTransport.Searches call now s) := by
  rintro _ rfl
  refine ⟨h.inner ha hask c _ hs, ?_⟩
  intro e he hdue
  change Except.ok (answer (zoom (RediscoveringLocalTransport.inner LocalTransport) call) _) = _ at he
  change (after (zoom (RediscoveringLocalTransport.inner LocalTransport) call) _).1.searchDue now =
    true at hdue
  rw [answer_zoom] at he
  rw [after_zoom] at hdue
  exact ⟨⟨e, Except.ok.inj he⟩, hdue⟩

theorem Kept.query_local (env : RediscoverEnv LocalEnv) {attrs : Option (List Int)}
    (hask : ∀ sn, frame (queryFrameOf attrs sn)) {c : Option CloudRelayTransport}
    {s : RediscoveringLocalTransport LocalTransport × World} (hs : J s.1 c s.2)
    (hfound : RediscoveringLocalTransport.Searches (LocalTransport.query py env.first attrs)
      env.search.now s → ∀ ip, env.search.found = .ok (some ip) → found ip) :
    let t := after (RediscoveringLocalTransport.query (LocalTransport.asTransport py) factory.build
      env attrs) s
    J t.1 c t.2 := by
  have hfirst := h.first (LocalTransport.query_asks py env.first attrs) hask env.search.now hs
  have hretry := h.inner (LocalTransport.query_asks py env.retry attrs) hask c
  refine hfirst.bind (S := fun _ t => J t.1 c t.2) (fun r => ?_) (fun _ _ h => h.1) s rfl
  rcases r with e | data
  · cases e with
    | transport e =>
      refine Triple.bind (Q := fun _ t => J t.1 c t.2) ?_ (fun moved => ?_) (fun _ _ h => h)
      · intro t ht
        exact h.relocate env.search (fun hdue => hfound (ht.2 e rfl hdue)) ht.1
      · cases moved with
        | false => exact keeps_throw _
        | true =>
          refine keeps_getSelf.bind (fun t => ?_)
          exact (keeps_info (fun t log => h.logged t.1 c t.2 log) _).bind (fun _ => hretry)
    | _ => exact fun _ h => h.1
  · exact fun _ h => h.1

theorem Kept.control_local (env : RediscoverEnv LocalEnv) {payload : Payload}
    (hask : ∀ sn, frame (setFrameOf payload sn)) {c : Option CloudRelayTransport}
    {s : RediscoveringLocalTransport LocalTransport × World} (hs : J s.1 c s.2)
    (hfound : RediscoveringLocalTransport.Searches (LocalTransport.control py env.first payload)
      env.search.now s → ∀ ip, env.search.found = .ok (some ip) → found ip) :
    let t := after (RediscoveringLocalTransport.control (LocalTransport.asTransport py) factory.build
      env payload) s
    J t.1 c t.2 := by
  have hfirst := h.first (LocalTransport.control_asks py env.first payload) hask env.search.now hs
  refine hfirst.bind (S := fun _ t => J t.1 c t.2) (fun r => ?_) (fun _ _ h => h.1) s rfl
  rcases r with e | accepted
  · cases e with
    | transport e =>
      refine Triple.bind (Q := fun _ t => J t.1 c t.2) ?_ (fun _ => ?_) (fun _ _ h => h)
      · intro t ht
        exact h.relocate env.search (fun hdue => hfound (ht.2 e rfl hdue)) ht.1
      · exact keeps_throw _
    | _ => exact fun _ h => h.1
  · exact fun _ h => h.1

theorem Kept.query (env : ClientEnv) {attrs : Option (List Int)}
    (hask : ∀ sn, frame (queryFrameOf attrs sn)) {s : Client × World}
    (hs : FallbackClient.Serving J s)
    (hfound : Searches env.readings (LocalTransport.query py env.local'.first attrs)
      env.local'.search.now s → ∀ ip, env.local'.search.found = .ok (some ip) → found ip) :
    FallbackClient.Serving J (after (Client.query py factory env attrs) s) :=
  FallbackClient.attempt_rule h.logged env.readings hs
    (fun htries => h.query_local env.local' hask hs (fun hsearches => hfound ⟨htries, hsearches⟩))
    (h.relay (CloudRelayTransport.query_asks py env.cloud attrs) hask) _ _

theorem Kept.control (env : ClientEnv) {payload : Payload}
    (hask : ∀ sn, frame (setFrameOf payload sn)) {s : Client × World}
    (hs : FallbackClient.Serving J s)
    (hfound : Searches env.readings (LocalTransport.control py env.local'.first payload)
      env.local'.search.now s → ∀ ip, env.local'.search.found = .ok (some ip) → found ip) :
    FallbackClient.Serving J (after (Client.control py factory env payload) s) :=
  FallbackClient.attempt_rule h.logged env.readings hs
    (fun htries => h.control_local env.local' hask hs (fun hsearches => hfound ⟨htries, hsearches⟩))
    (h.relay (CloudRelayTransport.control_asks py env.cloud payload) hask) _ _

theorem Kept.close {s : Client × World} (hs : FallbackClient.Serving J s) :
    FallbackClient.Serving J (after (Client.close py factory) s) := by
  rw [after, close_run]
  exact h.released _ _ _ hs

end Kept

/-- Of what any frame and any address keep, nothing need be known of the call. -/
theorem Kept.always_query {py : Interpreter} {factory : Factory}
    {J : RediscoveringLocalTransport LocalTransport → Option CloudRelayTransport → World → Prop}
    (h : Kept py factory (fun _ => True) (fun _ => True) J) (env : ClientEnv)
    (attrs : Option (List Int)) :
    Keeps (FallbackClient.Serving J) (Client.query py factory env attrs) :=
  fun _ hs => h.query env (fun _ => trivial) hs (fun _ _ _ => trivial)

theorem Kept.always_control {py : Interpreter} {factory : Factory}
    {J : RediscoveringLocalTransport LocalTransport → Option CloudRelayTransport → World → Prop}
    (h : Kept py factory (fun _ => True) (fun _ => True) J) (env : ClientEnv)
    (payload : Payload) :
    Keeps (FallbackClient.Serving J) (Client.control py factory env payload) :=
  fun _ hs => h.control env (fun _ => trivial) hs (fun _ _ _ => trivial)

end Client

namespace CozyLifeCoordinator

variable {K ω : Type} {J : K × World → Prop}

/-- What holds of the client and the world. -/
def OfClient (J : K × World → Prop) (s : CozyLifeCoordinator K × World) : Prop := J (s.1.client, s.2)

theorem onClient_rule {m : Method K α} (h : Keeps J m) : Keeps (OfClient J) (zoom onClient m) :=
  h.zoom (fun _ hs => hs) (fun _ _ _ ht => ht)

theorem poll_rule {query : ω → Option (List Int) → Method K (Dict Json)} (env : PollEnv ω)
    (hquery : ∀ env attrs, Keeps J (query env attrs)) : Keeps (OfClient J) (poll query env) := by
  have hprobe (data : Dict Json) : Keeps (OfClient J) (probeMetering query env.metering data) := by
    refine (onClient_rule (hquery env.metering _)).caught.bind (fun r => ?_)
    rcases r with e | readings
    · cases e with
      | transport e => exact keeps_pure _
      | _ => exact keeps_throw _
    · by_cases h : readings = []
      · simp only [h, ↓reduceIte]
        exact keeps_pure _
      · simp only [h, ↓reduceIte]
        exact keeps_pure _
  have hset (f : CozyLifeCoordinator K → Option (List Int)) : Keeps (OfClient J)
      (modifySelf (fun c => { c with metering := f c })) := fun _ h => h
  refine (onClient_rule (hquery env.wildcard none)).bind (fun data => ?_)
  refine keeps_getSelf.bind (fun c => ?_)
  rcases c.metering with _ | _ | ⟨d, ds⟩
  · exact (hprobe data).bind (fun p => (hset _).bind (fun _ => keeps_pure _))
  · exact keeps_pure _
  · refine (onClient_rule (hquery env.metering _)).caught.bind (fun r => ?_)
    rcases r with e | readings
    · cases e with
      | transport e => exact keeps_pure _
      | _ => exact keeps_throw _
    · exact keeps_pure _

end CozyLifeCoordinator

namespace HassCoordinator

variable {H K ω : Type} {J : K × World → Prop} (hass : UpdateCoordinator H)
  {query : ω → Option (List Int) → Method K (Dict Json)} {write : ω → Payload → Method K Bool}

def OfClient (J : K × World → Prop) (s : HassCoordinator H K × World) : Prop :=
  J (s.1.client, s.2)

theorem inExecutor_rule {I : σ × World → Prop} {m : Method σ α} (h : Keeps I m) :
    Keeps I (inExecutor m) := fun s hs => h s hs

theorem onPolled_rule {m : Method (CozyLifeCoordinator K) α}
    (h : Keeps (CozyLifeCoordinator.OfClient J) m) :
    Keeps (OfClient (H := H) J) (zoom onPolled m) :=
  h.zoom (fun _ hs => hs) (fun _ _ _ ht => ht)

theorem asyncRefresh_rule (env : PollEnv ω) (hquery : ∀ env attrs, Keeps J (query env attrs)) :
    Keeps (OfClient J) (asyncRefresh hass query env) := by
  have hpoll := inExecutor_rule (onPolled_rule (H := H)
    (CozyLifeCoordinator.poll_rule env hquery))
  have hupdate : Keeps (OfClient (H := H) J) (asyncUpdateData query env) := by
    refine hpoll.bind (fun r => ?_)
    rcases r with e | data
    · cases e <;> exact keeps_throw _
    · exact keeps_pure data
  exact hupdate.caught.bind (fun r s hs => hs)

theorem asyncControl_rule (env : ω) (reconcile : Option (PollEnv ω)) (payload : Payload)
    (hquery : ∀ env attrs, Keeps J (query env attrs))
    (hwrite : ∀ env payload, Keeps J (write env payload)) :
    Keeps (OfClient J) (asyncControl hass query write env reconcile payload) := by
  have hcommand := inExecutor_rule (onPolled_rule (H := H)
    (CozyLifeCoordinator.onClient_rule (hwrite env payload)))
  have hget : Keeps (OfClient J) (get : Coroutine (HassCoordinator H K) _) := fun _ h => h
  have hset (f : HassCoordinator H K × World → H) : Keeps (OfClient J)
      (modify (fun s => ({ s.1 with updates := f s }, s.2)) : Coroutine (HassCoordinator H K) Unit) :=
    fun _ h => h
  refine hcommand.bind (fun r => ?_)
  rcases r with e | accepted
  · cases e with
    | transport e => exact hget.bind (fun _ => keeps_throw _)
    | _ => exact keeps_throw _
  · cases accepted with
    | false => exact hget.bind (fun _ => keeps_throw _)
    | true =>
      refine hget.bind (fun s => (hset _).bind (fun _ => ?_))
      cases reconcile with
      | none => exact keeps_pure ()
      | some env => exact asyncRefresh_rule hass env hquery

end HassCoordinator

end CozyLife
