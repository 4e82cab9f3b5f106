import CozyLife.Lib.TwoRuns
import CozyLife.Proofs.Keeping
import Mathlib.Data.List.Forall2

/-! What a device key shows in: the ends of the two lines it is sent in, and nothing else. -/

namespace CozyLife
open Python Effects

/-- A line to the relay, which ends with the key. -/
def keyed (lead : Bytes) (key : Str) : Bytes := lead ++ key.flatMap utf8Char ++ TERMINATOR

section Relations

variable (K : Str → Str → Prop)

/-- The keys can be sent. The error of one that cannot be encoded names a character of it. -/
def KeysEncodable : Prop :=
  ∀ key key', K key key' → key.any isSurrogate = false ∧ key'.any isSurrogate = false

/-- One event in two runs whose keys `K` relates. -/
inductive Event.Rekeyed : Event → Event → Prop
  | same (e : Event) : Rekeyed e e
  | line (hk : K key key') (s : Nat) (mode : Option ℚ) (lead : Bytes) (o : SendOutcome) :
      Rekeyed (.sent s mode (keyed lead key) (o.taken (keyed lead key)))
        (.sent s mode (keyed lead key') (o.taken (keyed lead key')))

structure World.Rekeyed (w w' : World) : Prop where
  lastSn : w.lastSn = w'.lastSn
  sockets : w.sockets = w'.sockets
  log : w.log = w'.log
  trace : List.Forall₂ (Event.Rekeyed K) w.trace w'.trace

structure CloudRelayTransport.Rekeyed (c c' : CloudRelayTransport) : Prop where
  deviceId : c.deviceId = c'.deviceId
  host : c.host = c'.host
  port : c.port = c'.port
  timeout : c.timeout = c'.timeout
  deviceKey : K c.deviceKey c'.deviceKey

/-- An object that `Q` relates to another, each with its world. -/
def Beside (Q : σ → σ' → Prop) (s : σ × World) (s' : σ' × World) : Prop :=
  Q s.1 s'.1 ∧ World.Rekeyed K s.2 s'.2

variable {K}

theorem events_same (evs : List Event) : List.Forall₂ (Event.Rekeyed K) evs evs :=
  List.forall₂_same.mpr (fun e _ => .same e)

theorem World.Rekeyed.initial : World.Rekeyed K .initial .initial := ⟨rfl, rfl, rfl, .nil⟩

theorem World.Rekeyed.logged (h : World.Rekeyed K w w') (lines : List LogLine) :
    World.Rekeyed K { w with log := w.log ++ lines } { w' with log := w'.log ++ lines } :=
  ⟨h.lastSn, h.sockets, congrArg (· ++ lines) h.log, h.trace⟩

/-- An exchange that comes to the same in both worlds. -/
theorem World.Rekeyed.outcome {o o' : Outcome} (h : World.Rekeyed K w w') (sn : Int)
    (hopened : o.opened = o'.opened) (hevents : List.Forall₂ (Event.Rekeyed K) o.events o'.events) :
    World.Rekeyed K (o.world { w with lastSn := sn }) (o'.world { w' with lastSn := sn }) where
  lastSn := rfl
  sockets := by
    simp only [Outcome.world, h.sockets, hopened]
  log := h.log
  trace := List.rel_append h.trace hevents

end Relations

section Methods

variable {K : Str → Str → Prop} {Q : σ → σ' → Prop} {A : α → α' → Prop}

theorem alike_getSelf : Matches (Beside K Q) Q (getSelf : Method σ σ) getSelf :=
  fun _ _ hs => ⟨.ok hs.1, hs⟩

theorem alike_modifySelf {f : σ → σ} {f' : σ' → σ'} (h : ∀ s s', Q s s' → Q (f s) (f' s')) :
    Matches (Beside K Q) Eq (modifySelf f : Method σ Unit) (modifySelf f') :=
  fun _ _ hs => ⟨.ok rfl, h _ _ hs.1, hs.2⟩

theorem alike_onWorld {m : EStateM Exn World α} {m' : EStateM Exn World α'}
    (hm : Matches (World.Rekeyed K) A m m') :
    Matches (Beside K Q) A (onWorld m : Method σ α) (onWorld m' : Method σ' α') :=
  hm.zoom (fun _ _ hs => hs.2) (fun _ _ _ _ hs ht => ⟨hs.1, ht⟩)

theorem alike_info (line : LogLine) : Matches (World.Rekeyed K) Eq (info line) (info line) := by
  intro w w' h
  refine ⟨.ok rfl, h.lastSn, h.sockets, ?_, h.trace⟩
  change w.log ++ [line] = w'.log ++ [line]
  rw [h.log]

theorem alike_newSn (time : ℚ) : Matches (World.Rekeyed K) Eq (newSn time) (newSn time) := by
  intro w w' h
  simp only [answer, after, run_newSn, h.lastSn]
  exact ⟨.ok rfl, rfl, h.sockets, h.log, h.trace⟩

end Methods

/-! ### The transports -/

namespace LocalTransport

variable {K : Str → Str → Prop} (py : Interpreter)

theorem state_beside (t : LocalTransport) (o : Outcome) (sn : Int) (h : World.Rekeyed K w w') :
    Beside K Eq (o.state t { w with lastSn := sn }) (o.state t { w' with lastSn := sn }) :=
  ⟨rfl, h.outcome sn rfl (events_same _)⟩

/-- An exchange with the device does not look at what happened before. -/
theorem Asks.alike {env : LocalEnv} {ask : Str → Frame} {m : Method LocalTransport α}
    (h : Asks py env ask reads m) : Matches (Beside K Eq) Eq m m := by
  rintro ⟨t, ⟨sn, n, trace, log⟩⟩ ⟨t', ⟨sn', n', trace', log'⟩⟩ ⟨ht, hw⟩
  obtain rfl : t = t' := ht
  obtain rfl : sn = sn' := hw.lastSn
  obtain rfl : n = n' := hw.sockets
  rw [h.answers, h.answers, h.leaves, h.leaves]
  exact ⟨.refl _, state_beside t _ _ hw⟩

theorem disconnect_alike : Matches (Beside K Eq) Eq disconnect disconnect := by
  rintro ⟨t, w⟩ ⟨t', w'⟩ ⟨ht, h⟩
  obtain rfl : t = t' := ht
  simp only [answer, after, disconnect_run]
  exact ⟨.ok rfl, rfl, h.lastSn, h.sockets, h.log, List.rel_append h.trace (events_same _)⟩

end LocalTransport

namespace CloudRelayTransport

variable {K : Str → Str → Prop} (py : Interpreter)

def subscribeLead (self : CloudRelayTransport) : Bytes :=
  (str "cmd=subscribe&topic=device_" ++ self.deviceId ++ str "&device_id=" ++ self.deviceId ++
    str "&device_key=").flatMap utf8Char

def publishLead (self : CloudRelayTransport) (frame : Frame) : Bytes :=
  (str "cmd=publish&topic=control_" ++ self.deviceId ++ str "&message=" ++
    quote ((encode py frame).dropLast.dropLast) ++ str "&device_id=" ++ self.deviceId ++
    str "&device_key=").flatMap utf8Char

theorem subscribeLine_keyed (self : CloudRelayTransport) : self.subscribeLine =
    if self.encodable then .ok (keyed self.subscribeLead self.deviceKey) else .error .unicode := by
  rw [subscribeLine_cases, subscribeText, List.flatMap_append]
  rfl

theorem publishLine_keyed (self : CloudRelayTransport) (frame : Frame) :
    self.publishLine py frame =
      if self.encodable then .ok (keyed (self.publishLead py frame) self.deviceKey)
      else .error .unicode := by
  rw [publishLine_cases, publishText, List.flatMap_append]
  rfl

variable {self self' : CloudRelayTransport}

theorem Rekeyed.lines (h : Rekeyed K self self')
    (hK : KeysEncodable K) (frame : Frame) :
    self.encodable = self'.encodable ∧ self.subscribeLead = self'.subscribeLead ∧
      self.publishLead py frame = self'.publishLead py frame := by
  refine ⟨?_, ?_, ?_⟩
  · obtain ⟨hkey, hkey'⟩ := hK _ _ h.deviceKey
    rw [encodable, encodable, h.deviceId, hkey, hkey']
  · rw [subscribeLead, subscribeLead, h.deviceId]
  · rw [publishLead, publishLead, h.deviceId]

theorem Rekeyed.verdict (h : Rekeyed K self self') : self.relayVerdict = self'.relayVerdict ∧
    self.repr = self'.repr := by
  obtain ⟨id, key, host, port, timeout⟩ := self
  obtain ⟨id', key', host', port', timeout'⟩ := self'
  obtain ⟨rfl, rfl, rfl, rfl, _⟩ := h
  exact ⟨rfl, rfl⟩

/-- The relay is told the same up to the key, and what it answers is understood the same. -/
theorem Rekeyed.talk (h : Rekeyed K self self')
    (hK : KeysEncodable K) (env : RelayEnv)
    (frame : Frame) (n : Nat) : (self.talk py env frame n).2 = (self'.talk py env frame n).2 ∧
      List.Forall₂ (Event.Rekeyed K) (self.talk py env frame n).1 (self'.talk py env frame n).1 := by
  obtain ⟨hencodable, hsub, hpub⟩ := h.lines py hK frame
  have hhear : self.hear py env frame n = self'.hear py env frame n := by
    rw [hear, hear, h.verdict.1, h.timeout]
  have line (lead : Bytes) (o : SendOutcome) : Event.Rekeyed K
      (.sent n (some self'.timeout) (keyed lead self.deviceKey) (o.taken (keyed lead self.deviceKey)))
      (.sent n (some self'.timeout) (keyed lead self'.deviceKey)
        (o.taken (keyed lead self'.deviceKey))) := .line h.deviceKey n _ lead o
  simp only [CloudRelayTransport.talk, subscribeLine_keyed, publishLine_keyed, hencodable, hsub,
    hpub, hhear, h.timeout]
  cases self'.encodable with
  | false => exact ⟨rfl, .nil⟩
  | true =>
    cases env.subscribe with
    | failed k fault => exact ⟨rfl, .cons (line _ (.failed k fault)) .nil⟩
    | accepted =>
      cases env.publish with
      | failed k fault =>
        exact ⟨rfl, .cons (line _ .accepted) (.cons (line _ (.failed k fault)) .nil)⟩
      | accepted =>
        exact ⟨rfl, .cons (line _ .accepted) (.cons (line _ .accepted) (events_same _))⟩

theorem Rekeyed.outcome (h : Rekeyed K self self')
    (hK : KeysEncodable K) (env : RelayEnv)
    (frame : Frame) (n : Nat) :
    let o := self.outcome py env frame n
    let o' := self'.outcome py env frame n
    o.answer = o'.answer ∧ o.opened = o'.opened ∧
      List.Forall₂ (Event.Rekeyed K) o.events o'.events := by
  obtain ⟨hanswer, htalk⟩ := h.talk py hK env frame n
  simp only [CloudRelayTransport.outcome, h.host, h.port, h.timeout, h.verdict.2, hanswer]
  split
  · split
    · exact ⟨rfl, rfl, events_same _⟩
    · refine ⟨rfl, rfl, ?_⟩
      exact List.rel_append (.cons (.same _) (.cons (.same _) htalk)) (events_same _)
  · exact ⟨rfl, rfl, events_same _⟩

theorem Rekeyed.reads (h : Rekeyed K self self') : self.readData py = self'.readData py := by
  funext reply
  simp only [readData, h.verdict.2]

/-- An exchange with the relay comes to the same for both keys. -/
theorem Asks.alike (hK : KeysEncodable K) {env : RelayEnv} {ask : Str → Frame}
    {m : CloudRelayTransport → EStateM Exn World α} (h : Asks py env ask reads m)
    (hreads : ∀ self self', Rekeyed K self self' → reads self = reads self') :
    Matches (Beside K (Rekeyed K)) Eq (do onWorld (m (← getSelf)) : Method CloudRelayTransport α)
      (do onWorld (m (← getSelf))) := by
  refine alike_getSelf.bind (fun self self' hself => alike_onWorld ?_)
  rintro ⟨sn, n, trace, log⟩ ⟨sn', n', trace', log'⟩ hw
  obtain rfl : sn = sn' := hw.lastSn
  obtain rfl : n = n' := hw.sockets
  obtain ⟨hanswer, hopened, hevents⟩ := hself.outcome py hK env (ask (intText (nextSn sn env.time))) n
  rw [h.answers, h.answers, h.leaves, h.leaves, hreads self self' hself]
  exact ⟨.of_eq (congrArg (·.bind (reads self')) hanswer), hw.outcome _ hopened hevents⟩

end CloudRelayTransport

namespace RediscoveringLocalTransport

variable {K : Str → Str → Prop} (py : Interpreter) (factory : Factory)

theorem inner_alike {m : Method LocalTransport α} (h : Matches (Beside K Eq) Eq m m) :
    Matches (Beside K Eq) Eq (zoom (inner LocalTransport) m) (zoom (inner LocalTransport) m) := by
  refine h.zoom (fun s s' hs => ⟨congrArg (·.transport) hs.1, hs.2⟩) (fun s s' t t' hs ht => ⟨?_, ht.2⟩)
  simp only [inner, hs.1, ht.1]

theorem relocate_alike (env : SearchEnv) : Matches (Beside K Eq) Eq
    (relocate (LocalTransport.asTransport py) factory.build env)
    (relocate (LocalTransport.asTransport py) factory.build env) := by
  have hsearch : Matches (World.Rekeyed K) Eq (rediscover env) (rediscover env) := by
    unfold rediscover
    cases env.probe with
    | none => exact alike_rethrow (.refl _)
    | some time => exact (alike_newSn time).bind (fun _ _ _ => alike_rethrow (.refl _))
  refine alike_getSelf.bind (fun t t' ht => ?_)
  obtain rfl : t = t' := ht
  cases t.searchDue env.now with
  | false => exact alike_pure rfl
  | true =>
    refine (alike_modifySelf (fun _ _ h => congrArg _ h)).bind (fun _ _ _ => ?_)
    refine (alike_onWorld hsearch).caught.bind (fun r r' hr => ?_)
    obtain rfl : r = r' := hr.eq
    rcases r with e | _ | found
    · cases e with
      | os text => exact alike_pure rfl
      | _ => exact alike_throw _
    · exact alike_pure rfl
    · by_cases h : found = [] ∨ found = t.host
      · simp only [h, ↓reduceIte]
        exact alike_pure rfl
      · simp only [h, ↓reduceIte]
        refine (inner_alike LocalTransport.disconnect_alike).bind (fun _ _ _ => ?_)
        exact (alike_modifySelf (fun _ _ h => congrArg _ h)).bind (fun _ _ _ => alike_pure rfl)

theorem query_alike (env : RediscoverEnv LocalEnv) (attrs : Option (List Int)) :
    Matches (Beside K Eq) Eq (query (LocalTransport.asTransport py) factory.build env attrs)
      (query (LocalTransport.asTransport py) factory.build env attrs) := by
  refine (inner_alike (LocalTransport.query_asks py env.first attrs).alike).caught.bind
    (fun r r' hr => ?_)
  obtain rfl : r = r' := hr.eq
  rcases r with e | data
  · cases e with
    | transport e =>
      refine (relocate_alike py factory env.search).bind (fun found found' hfound => ?_)
      obtain rfl : found = found' := hfound
      cases found with
      | false => exact alike_throw _
      | true =>
        refine alike_getSelf.bind (fun t t' ht => ?_)
        obtain rfl : t = t' := ht
        refine (alike_onWorld (alike_info _)).bind (fun _ _ _ => ?_)
        exact inner_alike (LocalTransport.query_asks py env.retry attrs).alike
    | _ => exact alike_throw _
  · exact alike_pure rfl

theorem control_alike (env : RediscoverEnv LocalEnv) (payload : Payload) :
    Matches (Beside K Eq) Eq (control (LocalTransport.asTransport py) factory.build env payload)
      (control (LocalTransport.asTransport py) factory.build env payload) := by
  refine (inner_alike (LocalTransport.control_asks py env.first payload).alike).caught.bind
    (fun r r' hr => ?_)
  obtain rfl : r = r' := hr.eq
  rcases r with e | accepted
  · cases e with
    | transport e => exact (relocate_alike py factory env.search).bind (fun _ _ _ => alike_throw _)
    | _ => exact alike_throw _
  · exact alike_pure rfl

end RediscoveringLocalTransport

/-! ### The client -/

namespace FallbackClient

variable {K : Str → Str → Prop} {L C C' α : Type}

/-- Clients that differ in their cloud transports at most, as `P` allows. -/
structure Twins (P : C → C' → Prop) (s : FallbackClient L C) (s' : FallbackClient L C') : Prop where
  breaker : s.toBreaker = s'.toBreaker
  local' : s.local' = s'.local'
  cloud : Option.Rel P s.cloud s'.cloud
  activePath : s.activePath = s'.activePath

variable {P : C → C' → Prop}

theorem Twins.isSome {s : FallbackClient L C} {s' : FallbackClient L C'} (h : Twins P s s') :
    s.cloud.isSome = s'.cloud.isSome := by
  obtain ⟨_, _, hcloud, _⟩ := h
  generalize s.cloud = c at hcloud
  generalize s'.cloud = c' at hcloud
  cases hcloud <;> rfl

section Steps

variable {s : FallbackClient L C × World} {s' : FallbackClient L C' × World}
  (h : Beside K (Twins P) s s')
include h

theorem noted_twins (path : Str) : Beside K (Twins P) (noted path s) (noted path s') := by
  obtain ⟨ht, hw⟩ := h
  refine ⟨⟨ht.breaker, ht.local', ht.cloud, rfl⟩, ?_⟩
  simp only [noted, ht.activePath]
  exact hw.logged _

theorem lost_twins : Beside K (Twins P) (lost s) (lost s') :=
  ⟨⟨h.1.breaker, h.1.local', h.1.cloud, rfl⟩, h.2⟩

theorem decided_twins (r : Readings) : Beside K (Twins P) (decided r s) (decided r s') := by
  refine ⟨⟨?_, h.1.local', h.1.cloud, h.1.activePath⟩, h.2⟩
  simp only [decided, h.1.breaker, h.1.isSome]

theorem failed_twins (r : Readings) : Beside K (Twins P) (failed r s) (failed r s') := by
  obtain ⟨ht, hw⟩ := h
  have hfail : s.1.toBreaker.recordLocalFailure s.1.cloud.isSome r.trip =
      s'.1.toBreaker.recordLocalFailure s'.1.cloud.isSome r.trip := by
    rw [ht.breaker, ht.isSome]
  simp only [failed, hfail]
  exact ⟨⟨rfl, ht.local', ht.cloud, ht.activePath⟩, hw.logged _⟩

theorem succeeded_twins : Beside K (Twins P) (succeeded s) (succeeded s') := by
  obtain ⟨ht, hw⟩ := h
  simp only [succeeded, ht.breaker]
  exact ⟨⟨rfl, ht.local', ht.cloud, ht.activePath⟩, hw.logged _⟩

end Steps

theorem onCloud_alike {callCloud : Method C α} {callCloud' : Method C' α} (hP : P c c')
    (hc : Matches (Beside K P) Eq callCloud callCloud') : Matches (Beside K (Twins P)) Eq
      (onCloud c callCloud : Method (FallbackClient L C) α) (onCloud c' callCloud') := by
  intro s s' hs
  obtain ⟨hanswer, hafter⟩ := hc (c, s.2) (c', s'.2) ⟨hP, hs.2⟩
  simp only [answer, after, run_onCloud] at hanswer hafter ⊢
  cases hr : callCloud.run (c, s.2) <;> cases hr' : callCloud'.run (c', s'.2) <;>
    simp only [hr, hr'] at hanswer hafter ⊢
  all_goals exact ⟨hanswer, ⟨hs.1.breaker, hs.1.local', .some hafter.1, hs.1.activePath⟩, hafter.2⟩

variable (localName cloudName : Str) {callLocal : Method L α} {callCloud : Method C α}
  {callCloud' : Method C' α} (hl : Matches (Beside K Eq) Eq callLocal callLocal)
  (hc : Matches (Beside K P) Eq callCloud callCloud')

theorem lost_alike : Matches (Beside K (Twins P)) Eq
    (setActivePath none : Method (FallbackClient L C) Unit) (setActivePath none) :=
  fun _ _ hs => ⟨.ok rfl, lost_twins hs⟩

include hc in
theorem viaCloud_alike (localError : Option TransportError) : Matches (Beside K (Twins P)) Eq
    (viaCloud cloudName callCloud localError : Method (FallbackClient L C) α)
    (viaCloud cloudName callCloud' localError) := by
  refine alike_getSelf.bind (fun s s' hs => ?_)
  obtain ⟨_, _, hcloud, _⟩ := hs
  generalize s.cloud = c at hcloud
  generalize s'.cloud = c' at hcloud
  cases hcloud with
  | none => exact alike_throw _
  | some hP =>
    refine (onCloud_alike hP hc).caught.bind (fun r r' hr => ?_)
    obtain rfl : r = r' := hr.eq
    rcases r with e | result
    · cases e with
      | transport e =>
        refine lost_alike.bind (fun _ _ _ => ?_)
        cases localError <;> exact alike_throw _
      | _ => exact alike_throw _
    · have hnote : Matches (Beside K (Twins P)) Eq
          (notePath cloudName : Method (FallbackClient L C) Unit) (notePath cloudName) := by
        intro s s' hs
        simp only [answer, after, notePath_run]
        exact ⟨.ok rfl, noted_twins hs cloudName⟩
      exact hnote.bind (fun _ _ _ => alike_pure rfl)

include hl hc in
/-- A request goes the same way for both clients. -/
theorem attempt_alike (r : Readings) : Matches (Beside K (Twins P)) Eq
    (attempt localName cloudName r callLocal callCloud)
    (attempt localName cloudName r callLocal callCloud') := by
  have htry : Matches (Beside K (Twins P)) Eq
      (shouldTryLocal r : Method (FallbackClient L C) Bool) (shouldTryLocal r) := by
    intro s s' hs
    simp only [answer, after, shouldTryLocal_run]
    exact ⟨.of_eq (by rw [hs.1.breaker, hs.1.isSome]), decided_twins hs r⟩
  have hfail : Matches (Beside K (Twins P)) Eq
      (recordLocalFailure r : Method (FallbackClient L C) Unit) (recordLocalFailure r) := by
    intro s s' hs
    simp only [answer, after, recordLocalFailure_run]
    exact ⟨.ok rfl, failed_twins hs r⟩
  have hsucceed : Matches (Beside K (Twins P)) Eq
      (recordLocalSuccess : Method (FallbackClient L C) Unit) recordLocalSuccess := by
    intro s s' hs
    simp only [answer, after, recordLocalSuccess_run]
    exact ⟨.ok rfl, succeeded_twins hs⟩
  have hnote : Matches (Beside K (Twins P)) Eq
      (notePath localName : Method (FallbackClient L C) Unit) (notePath localName) := by
    intro s s' hs
    simp only [answer, after, notePath_run]
    exact ⟨.ok rfl, noted_twins hs localName⟩
  have hlocal : Matches (Beside K (Twins P)) Eq
      (zoom onLocal callLocal : Method (FallbackClient L C) α) (zoom onLocal callLocal) :=
    hl.zoom (fun _ _ hs => ⟨hs.1.local', hs.2⟩)
      (fun _ _ _ _ hs ht => ⟨⟨hs.1.breaker, ht.1, hs.1.cloud, hs.1.activePath⟩, ht.2⟩)
  refine htry.bind (fun tried tried' htried => ?_)
  obtain rfl : tried = tried' := htried
  cases tried with
  | false => exact viaCloud_alike cloudName hc none
  | true =>
    refine hlocal.caught.bind (fun x x' hx => ?_)
    obtain rfl : x = x' := hx.eq
    rcases x with e | result
    · cases e with
      | transport e =>
        refine hfail.bind (fun _ _ _ => alike_getSelf.bind (fun s s' hs => ?_))
        have hnone : s.cloud.isNone = s'.cloud.isNone := by
          rw [← Option.not_isSome, ← Option.not_isSome, hs.isSome]
        rw [hnone]
        split
        · exact lost_alike.bind (fun _ _ _ => alike_throw _)
        · exact viaCloud_alike cloudName hc (some e)
      | _ => exact alike_throw _
    · exact hsucceed.bind (fun _ _ _ => hnote.bind (fun _ _ _ => alike_pure rfl))

end FallbackClient

section Client

variable {K : Str → Str → Prop} (py : Interpreter) (factory : Factory)

/-- Clients with keys that `K` relates. -/
abbrev Client.Twins (K : Str → Str → Prop) : Client → Client → Prop :=
  FallbackClient.Twins (CloudRelayTransport.Rekeyed K)

theorem Client.close_alike :
    Matches (Beside K (Client.Twins K)) Eq (Client.close py factory) (Client.close py factory) := by
  intro s s' hs
  obtain ⟨ht, hw⟩ := hs
  simp only [answer, after, Client.close_run, ht.local']
  refine ⟨.ok rfl, ⟨ht.breaker, rfl, ht.cloud, ht.activePath⟩, hw.lastSn, hw.sockets, hw.log, ?_⟩
  exact List.rel_append hw.trace (events_same _)

variable (hK : KeysEncodable K)
include hK

theorem Client.query_alike (env : ClientEnv) (attrs : Option (List Int)) :
    Matches (Beside K (Client.Twins K)) Eq (Client.query py factory env attrs)
      (Client.query py factory env attrs) :=
  FallbackClient.attempt_alike _ _
    (RediscoveringLocalTransport.query_alike py factory env.local' attrs)
    ((CloudRelayTransport.query_asks py env.cloud attrs).alike py hK
      (fun _ _ h => h.reads py)) env.readings

theorem Client.control_alike (env : ClientEnv) (payload : Payload) :
    Matches (Beside K (Client.Twins K)) Eq (Client.control py factory env payload)
      (Client.control py factory env payload) :=
  FallbackClient.attempt_alike _ _
    (RediscoveringLocalTransport.control_alike py factory env.local' payload)
    ((CloudRelayTransport.control_asks py env.cloud payload).alike py hK (fun _ _ _ => rfl))
    env.readings

end Client

end CozyLife
