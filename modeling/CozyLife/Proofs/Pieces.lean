import CozyLife.Lib.Pieces
import CozyLife.Proofs.Breaker
import CozyLife.Proofs.Sequence

/-! Requests whose steps fall between one another in any way, but never within a method of the
breaker, are runs of the pool. -/

namespace CozyLife
open Python Effects Threads

namespace Overlap
open Thread

variable {py : Interpreter} {me : Nat} {r : Readings}

/-! ### The methods of the breaker as steps -/

/-- `_should_try_local()` in one step. -/
def decideInPiece (me : Nat) (r : Readings) : Call Bool := .act (fun s =>
  .ok (s.client.toBreaker.shouldTryLocal s.client.cloud.isSome r.check r.probe).1
    ((decided r s).adding me (looks s)))

/-- `_attempt(call)`, with each method of the breaker in one step. -/
def attemptInPieces (me : Nat) (r : Readings) (callLocal : Call α)
    (callCloud : CloudRelayTransport → Call α) : Call α := do
  if ← decideInPiece me r then
    match ← .caught callLocal with
    | .error (.exn (.transport localError)) =>
      change (failed r)
      if (← cloud).isNone then
        changeClient (fun c => { c with activePath := none })
        .raise (.exn (.transport localError))
      else viaCloud callCloud (some localError)
    | .error e => .raise e
    | .ok result =>
      change succeeded
      notePath RediscoveringLocalTransport.name
      return result
  else viaCloud callCloud none

theorem attempt_pieces (callLocal : Call α) (callCloud : CloudRelayTransport → Call α) :
    Pieces (attempt me r callLocal callCloud) (attemptInPieces me r callLocal callCloud) := by
  refine .whole (alone_shouldTryLocal me r) (fun tries => ?_)
  cases tries with
  | false => exact .refl _
  | true =>
    refine Pieces.bind (.refl _) (fun x => ?_)
    rcases x with (e | _) | result
    · cases e with
      | transport e => exact .whole (alone_recordLocalFailure r) (fun _ => .refl _)
      | _ => exact .refl _
    · exact .refl _
    · exact .whole alone_recordLocalSuccess (fun _ => .refl _)

/-! ### What the paths leave alone -/

/-- The breaker is as it was, and so is the cloud transport. -/
def SameBreaker (s s' : SharedClient) : Prop :=
  s'.client.toBreaker = s.client.toBreaker ∧ s'.client.cloud = s.client.cloud

/-- No step touches the breaker. -/
abbrev Quiet (t : Call α) : Prop := Within SameBreaker t

theorem quiet_look (f : SharedClient → α) : Quiet (look f) := within_act (fun _ => ⟨rfl, rfl⟩)

theorem quiet_find (f : SharedClient → α) (m : α → Moment) : Quiet (find me f m) :=
  within_act (fun _ => ⟨rfl, rfl⟩)

theorem quiet_change {f : SharedClient → SharedClient} (h : ∀ s, SameBreaker s (f s)) :
    Quiet (change f) := within_act h

theorem quiet_info (line : LogLine) : Quiet (info line) := quiet_change (fun _ => ⟨rfl, rfl⟩)

theorem quiet_newSn (time : ℚ) : Quiet (newSn time) := by
  refine (quiet_look _).bind (fun behind => ?_)
  have hnext (t : Call Int) (ht : Quiet t) : Quiet (do
      let candidate ← t
      change (fun s => { s with world := { s.world with lastSn := candidate } })
      return intText candidate) :=
    ht.bind (fun _ => (quiet_change (fun _ => ⟨rfl, rfl⟩)).bind (fun _ => within_pure _))
  cases behind with
  | true => exact hnext _ (quiet_look _)
  | false => exact hnext _ (within_pure _)

section Local

variable {k : Nat}

theorem quiet_step (m : EStateM Raised (LocalTransport × World) α) : Quiet (Local.step me k m) := by
  refine within_act (fun s => ?_)
  rw [onTransport_after]
  exact ⟨rfl, rfl⟩

theorem quiet_locked {t : Call α} (h : Quiet t) : Quiet (Local.locked me k t) :=
  (within_await (fun _ => ⟨rfl, rfl⟩)).bind
    (fun _ => h.ensuring (quiet_change (fun _ => ⟨rfl, rfl⟩)))

theorem quiet_lines (body : β → Bytes → Verdict β α) (deadline : ℚ) (turns : List Turn) (b : β) :
    Quiet (Local.lines me k body deadline turns b) := by
  induction turns generalizing b with
  | nil =>
    refine (quiet_step _).bind (fun verdict => ?_)
    cases verdict <;> exact within_pure _
  | cons turn turns ih =>
    refine (quiet_step _).bind (fun verdict => ?_)
    cases verdict with
    | leave a => exact within_pure _
    | raise e => exact within_pure _
    | next b =>
      refine (quiet_step _).bind (fun pull => ?_)
      cases pull with
      | ended => exact within_pure _
      | raised e => exact within_pure _
      | more => exact ih b

theorem quiet_awaitReply (c : Conversation) (frame : Frame) :
    Quiet (Local.awaitReply py me k c frame) := by
  refine (quiet_look _).bind (fun missing => ?_)
  cases missing with
  | true => trivial
  | false =>
    refine (quiet_look _).bind (fun t => (quiet_lines ..).bind (fun exit => ?_))
    cases exit with
    | left reply => exact within_pure _
    | raised e => exact within_raise _
    | ended _ => exact (quiet_step _).bind (fun _ => within_raise _)

theorem quiet_exchangeFresh (env : ExchangeEnv) (frame : Frame) :
    Quiet (Local.exchangeFresh py me k env frame) := by
  refine (quiet_step _).bind (fun _ => (quiet_step _).caught.bind (fun sent => ?_))
  rcases sent with (e | _) | _
  · cases e with
    | transport e => exact (quiet_step _).bind (fun _ => within_raise _)
    | _ => exact within_raise _
  · exact within_raise _
  · exact quiet_awaitReply _ frame

theorem quiet_exchange (env : ExchangeEnv) (frame : Frame) :
    Quiet (Local.exchange py me k env frame) := by
  have hfresh : Quiet (do
      Local.step me k (raising LocalTransport.disconnect)
      Local.exchangeFresh py me k env frame) :=
    (quiet_step _).bind (fun _ => quiet_exchangeFresh env frame)
  refine quiet_locked ((quiet_look _).bind (fun missing => ?_))
  cases missing with
  | true => exact quiet_exchangeFresh env frame
  | false =>
    refine (quiet_step _).bind (fun hungUp => ?_)
    cases hungUp with
    | true => exact hfresh
    | false =>
      refine (quiet_step _).caught.bind (fun sent => ?_)
      rcases sent with (e | _) | _
      · cases e with
        | transport e => exact hfresh
        | _ => exact within_raise _
      · exact within_raise _
      · exact quiet_awaitReply _ frame

theorem quiet_query (env : LocalEnv) (attrs : Option (List Int)) :
    Quiet (Local.query py me k env attrs) := by
  refine (quiet_newSn _).bind (fun sn => (quiet_exchange _ _).bind (fun reply => ?_))
  cases LocalTransport.dataMap reply with
  | none => exact (quiet_look _).bind (fun _ => within_raise _)
  | some data => exact within_pure data

theorem quiet_control (env : LocalEnv) (payload : Payload) :
    Quiet (Local.control py me k env payload) :=
  (quiet_newSn _).bind (fun _ => (quiet_exchange _ _).bind (fun _ => within_pure _))

theorem quiet_close : Quiet (Local.close me k) := quiet_locked (quiet_step _)

end Local

/-! ### The relay -/

section Relay

variable {c : CloudRelayTransport}

theorem quiet_onOwn (owns : α → Option Nat → Option Nat) (m : EStateM Exn World α) :
    Quiet (.act (Relay.onOwn me owns m)) := by
  refine within_act (fun s => ?_)
  simp only [Effects.after, EStateM.run, Relay.onOwn]
  cases m s.world <;> exact ⟨rfl, rfl⟩

theorem quiet_relayExchange (env : RelayEnv) (frame : Frame) :
    Quiet (Relay.exchange py c me env frame) := by
  have hconverse (conn : LineSocket) : Quiet (Relay.converse py c me env frame conn) := by
    refine (within_done _).bind (fun subscribe => (quiet_onOwn ..).bind (fun _ => ?_))
    refine (within_done _).bind (fun publish => (quiet_onOwn ..).bind (fun _ => ?_))
    refine (quiet_onOwn ..).bind (fun _ => ?_)
    cases (conn.lines (c.relayVerdict py frame) (env.started + c.timeout) env.turns ()).exit with
    | left reply => exact within_pure _
    | raised e => exact within_raise _
    | ended _ => exact within_pure _
  refine (quiet_onOwn ..).bind (fun conn => ?_)
  refine ((hconverse conn).ensuring (quiet_onOwn ..)).bind (fun r => ?_)
  cases r with
  | some reply => exact within_pure reply
  | none => exact within_raise _

theorem quiet_relayQuery (env : RelayEnv) (attrs : Option (List Int)) :
    Quiet (Relay.query py c me env attrs) := by
  refine (quiet_newSn _).bind (fun sn => (quiet_relayExchange _ _).bind (fun reply => ?_))
  cases LocalTransport.dataMap reply with
  | none => exact within_raise _
  | some data => exact within_pure data

theorem quiet_relayControl (env : RelayEnv) (payload : Payload) :
    Quiet (Relay.control py c me env payload) :=
  (quiet_newSn _).bind (fun _ => (quiet_relayExchange _ _).bind (fun _ => within_pure _))

end Relay

/-! ### The local path -/

section Rediscovering

variable {factory : Factory}

theorem quiet_transport : Quiet (Rediscovering.transport me) := quiet_find _ _

theorem quiet_relocate (env : SearchEnv) : Quiet (Rediscovering.relocate factory me env) := by
  have hrecent : Quiet (Rediscovering.tooRecent env.now) := by
    refine (quiet_look _).bind (fun last => ?_)
    cases last with
    | none => exact within_pure false
    | some _ =>
      refine (quiet_look _).bind (fun found => ?_)
      rcases found with ⟨_ | last, interval⟩
      · exact within_raise _
      · exact within_pure _
  have hsearch : Quiet (Rediscovering.rediscover env) := by
    unfold Rediscovering.rediscover
    cases env.probe with
    | none => exact within_done _
    | some time => exact (quiet_newSn time).bind (fun _ => within_done _)
  refine hrecent.bind (fun recent => ?_)
  cases recent with
  | true => exact within_pure false
  | false =>
    refine (quiet_change (fun _ => ⟨rfl, rfl⟩)).bind (fun _ => hsearch.caught.bind (fun found => ?_))
    rcases found with (e | _) | _ | found
    · cases e with
      | os _ => exact within_pure false
      | _ => exact within_raise _
    · exact within_raise _
    · exact within_pure false
    · refine (quiet_look _).bind (fun host => ?_)
      by_cases hstay : found = [] ∨ found = host
      · rw [if_pos hstay]
        exact within_pure false
      · rw [if_neg hstay]
        refine quiet_transport.bind (fun _ => quiet_close.bind (fun _ => ?_))
        refine (quiet_change (fun _ => ⟨rfl, rfl⟩)).bind (fun _ => ?_)
        exact (quiet_change (fun _ => ⟨rfl, rfl⟩)).bind (fun _ => within_pure true)

theorem quiet_rediscoveringQuery (env : RediscoverEnv LocalEnv) (attrs : Option (List Int)) :
    Quiet (Rediscovering.query py factory me env attrs) := by
  have hask (env : LocalEnv) :
      Quiet (do Local.query py me (← Rediscovering.transport me) env attrs) :=
    quiet_transport.bind (fun _ => quiet_query env attrs)
  refine (hask env.first).caught.bind (fun r => ?_)
  rcases r with (e | _) | data
  · cases e with
    | transport e =>
      refine (quiet_relocate env.search).bind (fun moved => ?_)
      cases moved with
      | true => exact (quiet_look _).bind (fun _ => (quiet_info _).bind (fun _ => hask env.retry))
      | false => exact within_raise _
    | _ => exact within_raise _
  · exact within_raise _
  · exact within_pure data

theorem quiet_rediscoveringControl (env : RediscoverEnv LocalEnv) (payload : Payload) :
    Quiet (Rediscovering.control py factory me env payload) := by
  have hask : Quiet (do Local.control py me (← Rediscovering.transport me) env.first payload) :=
    quiet_transport.bind (fun _ => quiet_control env.first payload)
  refine hask.caught.bind (fun r => ?_)
  rcases r with (e | _) | accepted
  · cases e with
    | transport e => exact (quiet_relocate env.search).bind (fun _ => within_raise _)
    | _ => exact within_raise _
  · exact within_raise _
  · exact within_pure accepted

end Rediscovering

theorem quiet_notePath (path : Str) : Quiet (notePath path) := by
  refine (quiet_look _).bind (fun active => ?_)
  have hnote : Quiet (changeClient (fun c => { c with activePath := some path })) :=
    quiet_change (fun _ => ⟨rfl, rfl⟩)
  by_cases hsame : active = some path
  · rw [if_pos hsame]
    exact within_pure ()
  · rw [if_neg hsame]
    refine (quiet_look _).bind (fun active => ?_)
    cases active with
    | none => exact (quiet_info _).bind (fun _ => hnote)
    | some _ => exact (quiet_look _).bind (fun _ => (quiet_info _).bind (fun _ => hnote))

/-! ### Threads that play the steps of the pool -/

/-- The pool has the breaker of the client that requests share. -/
structure Pooled (cloudy : Bool) (p : Pool) (s : SharedClient) : Prop where
  breaker : p.breaker = s.client.toBreaker
  cloud : p.cloud = cloudy
  cloudy : s.client.cloud.isSome = cloudy

variable {cloudy : Bool} {p : Pool} {s s' : SharedClient}

theorem Pooled.quiet (h : Pooled cloudy p s) (hs : SameBreaker s s') : Pooled cloudy p s' :=
  ⟨h.breaker.trans hs.1.symm, h.cloud, by rw [hs.2, h.cloudy]⟩

/-- A step that request `i` may take when the clock reads `r` for it. -/
def StepOf (i : Nat) (r : Readings) (st : PoolStep) : Prop :=
  ∃ (tries : Bool) (ended : Except Exn Unit), st ∈ FallbackClient.requestSteps i r tries ended

/-- Where request `i` is at `phase`, each step of the thread is none of the pool's, or some that are
its `own`. -/
def Follows (cloudy : Bool) (own : PoolStep → Prop) (i : Nat) : Call α → Phase → Prop
  | .done _, _ => True
  | .step ready m next, phase => ∀ p s, Pooled cloudy p s → p.phase i = phase → ready s = true →
    ∃ steps : List PoolStep, (∀ st ∈ steps, own st) ∧
      Pooled cloudy (steps.foldl Pool.step p) (after m s) ∧
      Follows cloudy own i (next (answer m s)) ((steps.foldl Pool.step p).phase i)

variable {own : PoolStep → Prop} {phase : Phase}

theorem Follows.quietly {t : Call β} {f : β → Call α} (ht : Quiet t)
    (hf : ∀ b, Follows cloudy own me (f b) phase) : Follows cloudy own me (t >>= f) phase := by
  induction t with
  | done x =>
    cases x with
    | ok b => exact hf b
    | error e => trivial
  | step ready m next ih =>
    intro p s hp hphase _
    refine ⟨[], List.forall_mem_nil _, hp.quiet (ht.1 s), ?_⟩
    rw [List.foldl_nil, hphase]
    exact ih _ (ht.2 _)

theorem follows_quiet {t : Call α} (ht : Quiet t) : Follows cloudy own me t phase := by
  induction t generalizing phase with
  | done x => trivial
  | step ready m next ih =>
    intro p s hp _ _
    exact ⟨[], List.forall_mem_nil _, hp.quiet (ht.1 s), ih _ (ht.2 _)⟩

theorem Follows.ending {t : Call β} {f : β → Call α} (ht : Follows cloudy own me t phase)
    (hf : ∀ b, Quiet (f b)) : Follows cloudy own me (t >>= f) phase := by
  induction t generalizing phase with
  | done x =>
    cases x with
    | ok b => exact follows_quiet (hf b)
    | error e => trivial
  | step ready m next ih =>
    intro p s hp hphase hready
    obtain ⟨steps, hown, hp', hnext⟩ := ht p s hp hphase hready
    exact ⟨steps, hown, hp', ih _ hnext⟩

theorem Follows.withCloud {g : Option CloudRelayTransport → Call α}
    (h : ∀ c, c.isSome = cloudy → Follows cloudy own me (g c) phase) :
    Follows cloudy own me (cloud >>= g) phase := by
  intro p s hp hphase _
  refine ⟨[], List.forall_mem_nil _, hp, ?_⟩
  rw [List.foldl_nil, hphase]
  exact h s.client.cloud hp.cloudy

/-- A step that is one of the pool's. -/
theorem Follows.step {m : EStateM Raised SharedClient β} {f : β → Call α} {st : PoolStep}
    (phase' : β → Phase) (hst : own st)
    (hstep : ∀ p s, Pooled cloudy p s → p.phase me = phase → Pooled cloudy (p.step st) (after m s) ∧
      ∃ b, answer m s = .ok b ∧ (p.step st).phase me = phase' b)
    (hf : ∀ b, Follows cloudy own me (f b) (phase' b)) :
    Follows cloudy own me (.act m >>= f) phase := by
  intro p s hp hphase _
  obtain ⟨hp', b, hb, hphase'⟩ := hstep p s hp hphase
  refine ⟨[st], List.forall_mem_singleton.mpr hst, hp', ?_⟩
  rw [hb, List.foldl_cons, List.foldl_nil, hphase']
  exact hf b

theorem viaCloud_follows {callCloud : CloudRelayTransport → Call α} (hcall : ∀ c, Quiet (callCloud c))
    (localError : Option TransportError) :
    Follows cloudy (StepOf me r) me (viaCloud callCloud localError) .onCloud := by
  have hturns : StepOf me r (.turnsToCloud me) :=
    ⟨false, .ok (), by simp [FallbackClient.requestSteps]⟩
  refine Follows.step (fun _ => .idle) hturns (fun p s hp hphase => ?_)
    (fun c => follows_quiet ?_)
  · simp only [Pool.step, hphase]
    exact ⟨⟨hp.breaker, hp.cloud, hp.cloudy⟩, _, rfl, if_pos rfl⟩
  · cases c with
    | none => exact within_raise _
    | some c =>
      refine (hcall c).caught.bind (fun x => ?_)
      rcases x with (e | _) | result
      · cases e with
        | transport e =>
          refine (quiet_change (fun _ => ⟨rfl, rfl⟩)).bind (fun _ => ?_)
          cases localError <;> exact within_raise _
        | _ => exact within_raise _
      · exact within_raise _
      · exact (quiet_notePath _).bind (fun _ => within_pure result)

theorem attempt_follows {callLocal : Call α} {callCloud : CloudRelayTransport → Call α}
    (hl : Quiet callLocal) (hc : ∀ c, Quiet (callCloud c)) :
    Follows cloudy (StepOf me r) me (attemptInPieces me r callLocal callCloud) .idle := by
  have hbegins : StepOf me r (.begins me r.check r.probe) := ⟨false, .ok (), .head _⟩
  have hfails : StepOf me r (.fails me r.trip) :=
    ⟨true, .error (.transport ⟨[]⟩), by simp [FallbackClient.requestSteps]⟩
  have hsucceeds : StepOf me r (.succeeds me) :=
    ⟨true, .ok (), by simp [FallbackClient.requestSteps]⟩
  refine Follows.step (fun tries => if tries then .onLocal else .onCloud) hbegins
    (fun p s hp hphase => ?_) (fun tries => ?_)
  · simp only [Pool.step, hphase, hp.breaker, hp.cloud, ← hp.cloudy]
    exact ⟨⟨rfl, rfl, rfl⟩, _, rfl, if_pos rfl⟩
  · cases tries with
    | false => exact viaCloud_follows hc none
    | true =>
      refine Follows.quietly hl.caught (fun x => ?_)
      rcases x with (e | _) | result
      · cases e with
        | transport e =>
          refine Follows.step (fun _ => if cloudy then .onCloud else .idle) hfails
            (fun p s hp hphase => ?_) (fun _ => ?_)
          · simp only [Pool.step, hphase, hp.breaker, hp.cloud]
            refine ⟨⟨?_, rfl, hp.cloudy⟩, _, rfl, if_pos rfl⟩
            rw [← hp.cloudy]
            rfl
          · refine Follows.withCloud (fun c hcloud => ?_)
            subst hcloud
            cases c with
            | none =>
              refine follows_quiet ((quiet_change (fun _ => ⟨rfl, rfl⟩)).bind (fun _ => ?_))
              exact within_raise _
            | some c => exact viaCloud_follows hc (some e)
        | _ => trivial
      · trivial
      · refine Follows.step (fun _ => .idle) hsucceeds (fun p s hp hphase => ?_)
          (fun _ => follows_quiet ((quiet_notePath _).bind (fun _ => within_pure result)))
        simp only [Pool.step, hphase, hp.breaker]
        exact ⟨⟨rfl, hp.cloud, hp.cloudy⟩, _, rfl, if_pos rfl⟩

/-! ### Requests -/

/-- A request as the thread that runs it, with each method of the breaker in one step. -/
def Request.inPieces (py : Interpreter) (factory : Factory) (me : Nat) : Request → Call Reply
  | .query env attrs => do
    return .data (← attemptInPieces me env.readings
      (Rediscovering.query py factory me env.local' attrs)
      (fun c => Relay.query py c me env.cloud attrs))
  | .control env payload => do
    return .accepted (← attemptInPieces me env.readings
      (Rediscovering.control py factory me env.local' payload)
      (fun c => Relay.control py c me env.cloud payload))
  | .close => Request.close.thread py factory me

/-- The steps of the pool that are those of request `i`. -/
def Request.Takes (i : Nat) : Request → PoolStep → Prop
  | .query env _, st | .control env _, st => StepOf i env.readings st
  | .close, _ => False

variable {factory : Factory}

theorem request_pieces (request : Request) :
    Pieces (request.thread py factory me) (request.inPieces py factory me) := by
  cases request with
  | query env attrs => exact (attempt_pieces _ _).bind (fun _ => .refl _)
  | control env payload => exact (attempt_pieces _ _).bind (fun _ => .refl _)
  | close => exact .refl _

theorem request_follows (request : Request) :
    Follows cloudy (request.Takes me) me (request.inPieces py factory me) .idle := by
  cases request with
  | query env attrs =>
    exact (attempt_follows (quiet_rediscoveringQuery _ _) (fun _ => quiet_relayQuery _ _)).ending
      (fun _ => within_pure _)
  | control env payload =>
    exact (attempt_follows (quiet_rediscoveringControl _ _) (fun _ => quiet_relayControl _ _)).ending
      (fun _ => within_pure _)
  | close =>
    have hclose : Quiet (close me) := quiet_transport.bind (fun _ => quiet_close)
    exact follows_quiet (hclose.bind (fun _ => within_pure _))

/-- Between two steps of the threads, the pool is where they are. -/
structure Played (cloudy : Bool) (requests : Nat → Request) (p : Pool)
    (q : Parallel Raised SharedClient Reply) : Prop where
  pooled : Pooled cloudy p q.state
  threads : ∀ i, Follows cloudy ((requests i).Takes i) i (q.threads i) (p.phase i)

theorem Request.Takes.request {i : Nat} {request : Request} {st : PoolStep}
    (h : request.Takes i st) : st.request = i := by
  cases request with
  | query | control =>
    obtain ⟨_, _, h⟩ := h
    exact FallbackClient.requestSteps_request h
  | close => cases h

theorem steps_others {i j : Nat} (hj : j ≠ i) {steps : List PoolStep}
    (h : ∀ st ∈ steps, st.request = i) (p : Pool) :
    (steps.foldl Pool.step p).phase j = p.phase j := by
  induction steps generalizing p with
  | nil => rfl
  | cons st steps ih =>
    obtain ⟨hst, hsteps⟩ := List.forall_mem_cons.mp h
    exact (ih hsteps (p.step st)).trans (Pool.step_others (hst.symm ▸ hj) p)

variable {requests : Nat → Request} {q : Parallel Raised SharedClient Reply}

theorem Played.turn (h : Played cloudy requests p q) (i : Nat) : ∃ steps : List PoolStep,
    (∀ st ∈ steps, (requests i).Takes i st) ∧
      Played cloudy requests (steps.foldl Pool.step p) (q.turn i) := by
  have hfollows := h.threads i
  have htook := q.turn_took i
  generalize q.turn i = q' at htook
  cases htook with
  | nothing => exact ⟨[], List.forall_mem_nil _, h⟩
  | step hi hready =>
    rw [hi] at hfollows
    obtain ⟨steps, hown, hpooled, hnext⟩ := hfollows p q.state h.pooled rfl hready
    refine ⟨steps, hown, hpooled, fun j => ?_⟩
    by_cases hj : j = i
    · subst hj
      simp only [Function.update_self]
      exact hnext
    · simp only [Function.update_of_ne hj,
        steps_others hj (fun st hst => (hown st hst).request) p]
      exact h.threads j

theorem Played.run (h : Played cloudy requests p q) (schedule : List Nat) :
    ∃ steps : List PoolStep, (∀ st ∈ steps, (requests st.request).Takes st.request st) ∧
      Played cloudy requests (steps.foldl Pool.step p) (q.run schedule) := by
  induction schedule generalizing p q with
  | nil => exact ⟨[], List.forall_mem_nil _, h⟩
  | cons i schedule ih =>
    obtain ⟨first, hfirst, hturn⟩ := h.turn i
    obtain ⟨rest, hrest, hrun⟩ := ih hturn
    refine ⟨first ++ rest, List.forall_mem_append.mpr ⟨fun st hst => ?_, hrest⟩, ?_⟩
    · rw [(hfirst st hst).request]
      exact hfirst st hst
    · rw [List.foldl_append]
      exact hrun

/-- Whatever way the steps of requests fall between one another, as long as nothing falls into a
method of the breaker: they are a run of the client, and the breaker is that of a run of the pool in
which each request takes its own steps. -/
theorem requests_in_pieces (py : Interpreter) (entry : ConfigEntry) (requests : Nat → Request)
    (schedule : List Nat) :
    let factory := Factory.standard (entry.localTimeout.getD DEFAULT_LOCAL_TIMEOUT)
    let q := Parallel.run schedule ⟨shared entry, fun me => (requests me).inPieces py factory me⟩
    (∃ schedule', (run py entry requests schedule').state = q.state ∧
      ∀ i x, q.ended i = some x → (run py entry requests schedule').ended i = some x) ∧
    ∃ steps : List PoolStep, (∀ st ∈ steps, (requests st.request).Takes st.request st) ∧
      let p := steps.foldl Pool.step (Pool.start Breaker.DEFAULT_FAILURE_THRESHOLD
        Breaker.DEFAULT_RECOVERY_INTERVAL (buildClient entry).cloud.isSome)
      p.breaker = q.state.client.toBreaker ∧ p.cloud = q.state.client.cloud.isSome := by
  intro factory q
  constructor
  · have hstart : Parallel.Pieces ⟨shared entry, fun me => (requests me).thread py factory me⟩
        ⟨shared entry, fun me => (requests me).inPieces py factory me⟩ :=
      ⟨rfl, fun me => request_pieces (requests me)⟩
    obtain ⟨schedule', h⟩ := hstart.run schedule
    exact ⟨schedule', h.state, fun i x => h.ended⟩
  · have hstart : Played (buildClient entry).cloud.isSome requests
        (Pool.start Breaker.DEFAULT_FAILURE_THRESHOLD Breaker.DEFAULT_RECOVERY_INTERVAL
          (buildClient entry).cloud.isSome)
        ⟨shared entry, fun me => (requests me).inPieces py factory me⟩ :=
      ⟨⟨rfl, rfl, rfl⟩, fun me => request_follows (requests me)⟩
    obtain ⟨steps, hown, h⟩ := hstart.run schedule
    exact ⟨steps, hown, h.pooled.breaker, h.pooled.cloud.trans h.pooled.cloudy.symm⟩

end Overlap

end CozyLife
