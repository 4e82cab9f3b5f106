import CozyLife.Proofs.Calls
import CozyLife.Proofs.WriteOnce

/-! What requests that overlap do to a client, whatever way their steps fall between one another. -/

namespace CozyLife
open Python Effects Threads

namespace Overlap

variable {py : Interpreter} {asks : Nat → ExchangeEnv → Frame → Prop}
  {relay : Option CloudRelayTransport} {i : Nat}

/-! ### The breaker and the path -/

section Fallback

variable {D : List Moment → Except Raised β → Prop}

theorem Calls.withCloud {g : Option CloudRelayTransport → Call β}
    (h : Calls py asks relay i (g relay) D) : Calls py asks relay i (cloud >>= g) D := by
  refine (calls_look (F := (· = .ok relay)) (fun s hs => by rw [hs.cloud])).after (fun a ha => ?_)
    (fun _ h => nomatch h)
  cases ha
  exact h

theorem calls_notePath (path : Str) :
    Calls py asks relay i (notePath path) (Silent (· = .ok ())) := by
  refine Calls.looked (fun active => ?_)
  by_cases hsame : active = some path
  · rw [if_pos hsame]
    exact calls_pure ⟨rfl, rfl⟩
  · rw [if_neg hsame]
    have hnote : Calls py asks relay i
        (changeClient (fun c => { c with activePath := some path })) (Silent (· = .ok ())) :=
      calls_change (fun _ => ⟨rfl, rfl, rfl, rfl, rfl, rfl, rfl, rfl, rfl, id⟩)
    refine Calls.looked (fun active => ?_)
    cases active with
    | none => exact (calls_info _).after (fun _ _ => hnote) (fun _ h => nomatch h)
    | some _ =>
      exact Calls.looked (fun _ => (calls_info _).after (fun _ _ => hnote) (fun _ h => nomatch h))

/-- What `_should_try_local` makes of what it finds: it looks at the circuit twice, and the circuit
may close in between. -/
inductive Decides (relay : Option CloudRelayTransport) (r : Readings) :
    List Moment → Except Raised Bool → Prop
  | alone (hc : relay = none) : Decides relay r [] (.ok true)
  | closed (hc : relay ≠ none) : Decides relay r [.saw none] (.ok true)
  | raced (hc : relay ≠ none) (first : ℚ) :
      Decides relay r [.saw (some first), .saw none] (.error .onNone)
  | resting (hc : relay ≠ none) (first opened : ℚ)
      (h : r.check - opened < Breaker.DEFAULT_RECOVERY_INTERVAL) :
      Decides relay r [.saw (some first), .saw (some opened)] (.ok false)
  | probing (hc : relay ≠ none) (first opened : ℚ)
      (h : Breaker.DEFAULT_RECOVERY_INTERVAL ≤ r.check - opened) :
      Decides relay r [.saw (some first), .saw (some opened)] (.ok true)

theorem Calls.sawCircuit {g : Option ℚ → Call β}
    (h : ∀ opened, Calls py asks relay i (g opened) (fun ms x => D (.saw opened :: ms) x)) :
    Calls py asks relay i (circuit i >>= g) D := by
  refine (calls_find (fun _ => rfl) (fun _ => .saw)).bind (fun opened _ hfound => ?_) ?_
  · obtain ⟨_, rfl, hsame⟩ := hfound
    cases hsame
    exact h opened
  · rintro e _ ⟨_, _, hraised⟩
    cases hraised

theorem calls_shouldTryLocal (r : Readings) :
    Calls py asks relay i (shouldTryLocal i r) (Decides relay r) := by
  refine Calls.withCloud ?_
  cases relay with
  | none => exact calls_pure (.alone rfl)
  | some c =>
    have hc : some c ≠ none := Option.some_ne_none c
    refine Calls.sawCircuit (fun first => ?_)
    cases first with
    | none => exact calls_pure (.closed hc)
    | some first =>
      refine Calls.sawCircuit (fun opened => ?_)
      cases opened with
      | none => exact calls_raise (.raced hc first)
      | some opened =>
        refine (calls_look (F := (· = .ok Breaker.DEFAULT_RECOVERY_INTERVAL))
          (fun s hs => by rw [hs.interval])).after (fun interval hinterval => ?_) (fun _ h => nomatch h)
        cases hinterval
        by_cases hrecent : r.check - opened < Breaker.DEFAULT_RECOVERY_INTERVAL
        · rw [if_pos hrecent]
          exact calls_pure (.resting hc first opened hrecent)
        · rw [if_neg hrecent]
          exact Calls.changed (fun _ => ⟨rfl, rfl, rfl, rfl, rfl, rfl, rfl, rfl, rfl, id⟩)
            (calls_pure (.probing hc first opened (not_lt.mp hrecent)))

theorem calls_recordLocalFailure (r : Readings) :
    Calls py asks relay i (recordLocalFailure r) (Silent (· = .ok ())) := by
  have hdone : Calls py asks relay i (pure ()) (Silent (· = .ok ())) := calls_pure ⟨rfl, rfl⟩
  refine Calls.looked (fun failures => ?_)
  refine Calls.changed (fun _ => ⟨rfl, rfl, rfl, rfl, rfl, rfl, rfl, rfl, rfl, id⟩) ?_
  refine Calls.looked (fun opened => ?_)
  cases opened with
  | some _ => exact hdone
  | none =>
    refine Calls.withCloud ?_
    cases relay with
    | none => exact hdone
    | some c =>
      refine Calls.looked (fun client => ?_)
      by_cases htrips : client.failureThreshold ≤ client.consecutiveFailures
      · simp only [if_pos htrips]
        exact Calls.changed (fun _ => ⟨rfl, rfl, rfl, rfl, rfl, rfl, rfl, rfl, rfl, id⟩)
          (Calls.looked (fun _ => calls_info _))
      · simp only [if_neg htrips]
        exact hdone

theorem calls_recordLocalSuccess :
    Calls py asks relay i recordLocalSuccess (Silent (· = .ok ())) := by
  refine Calls.changed (fun _ => ⟨rfl, rfl, rfl, rfl, rfl, rfl, rfl, rfl, rfl, id⟩) ?_
  refine Calls.looked (fun opened => ?_)
  cases opened with
  | none => exact calls_pure ⟨rfl, rfl⟩
  | some _ =>
    exact Calls.changed (fun _ => ⟨rfl, rfl, rfl, rfl, rfl, rfl, rfl, rfl, rfl, id⟩) (calls_info _)

end Fallback

/-! ### One path or the other -/

/-- What a request raises over the relay, after the error it had over the local path. -/
def beside (localError : Option TransportError) : Raised → Raised
  | .exn (.transport cloudError) => .exn (FallbackClient.cloudFailure localError cloudError)
  | e => e

/-- What the client does for a request that does `L` over the local path and `C` over the relay: once
it has decided, one of them, or the relay after the local path failed. It does nothing when the circuit
closes as it looks. -/
inductive Served (relay : Option CloudRelayTransport) (r : Readings)
    (L : List Moment → Except Raised α → Prop)
    (C : CloudRelayTransport → List Moment → Except Raised α → Prop) :
    List Moment → Except Raised α → Prop
  | here (hd : Decides relay r looks (.ok true)) (h : L ms x)
      (hx : ∀ e, x = .error (.exn (.transport e)) → relay = none) :
      Served relay r L C (looks ++ ms) x
  | skipped (hd : Decides relay r looks (.ok false)) (hc : relay = some c) (h : C c ms x) :
      Served relay r L C (looks ++ ms) (x.mapError (beside none))
  | fellBack (hd : Decides relay r looks (.ok true)) (hc : relay = some c)
      (h : L ms (.error (.exn (.transport e)))) (h' : C c ms' x) :
      Served relay r L C (looks ++ (ms ++ ms')) (x.mapError (beside (some e)))
  | raced (hd : Decides relay r looks (.error .onNone)) : Served relay r L C looks (.error .onNone)

section Attempt

variable {L : List Moment → Except Raised α → Prop}
  {C : CloudRelayTransport → List Moment → Except Raised α → Prop}

theorem calls_viaCloud {c : CloudRelayTransport} {callCloud : CloudRelayTransport → Call α}
    (localError : Option TransportError)
    (h : Calls py asks (some c) i (callCloud c) (C c)) :
    Calls py asks (some c) i (viaCloud callCloud localError)
      (fun ms x => ∃ y, C c ms y ∧ x = y.mapError (beside localError)) := by
  refine Calls.withCloud (h.handled (fun r ms hr => ?_))
  rcases r with (e | _) | result
  · cases e with
    | transport e =>
      refine Calls.changed (fun _ => ⟨rfl, rfl, rfl, rfl, rfl, rfl, rfl, rfl, rfl, id⟩) ?_
      cases localError with
      | none => exact calls_raise ⟨_, by simpa using hr, rfl⟩
      | some localError => exact calls_raise ⟨_, by simpa using hr, rfl⟩
    | _ => exact calls_raise ⟨_, by simpa using hr, rfl⟩
  · exact calls_raise ⟨_, by simpa using hr, rfl⟩
  · exact (calls_notePath _).after (fun _ _ => calls_pure ⟨_, by simpa using hr, rfl⟩)
      (fun _ h => nomatch h)

/-- What a request does once it has decided for the local path. -/
theorem calls_tried {callLocal : Call α} {callCloud : CloudRelayTransport → Call α} {r : Readings}
    {looks : List Moment} (hd : Decides relay r looks (.ok true))
    (hl : Calls py asks relay i callLocal L)
    (hc : ∀ c, relay = some c → Calls py asks relay i (callCloud c) (C c)) :
    Calls py asks relay i (do
      match ← Thread.caught callLocal with
      | .error (.exn (.transport localError)) =>
        recordLocalFailure r
        if (← cloud).isNone then
          changeClient (fun c => { c with activePath := none })
          .raise (.exn (.transport localError))
        else viaCloud callCloud (some localError)
      | .error e => .raise e
      | .ok result =>
        recordLocalSuccess
        notePath RediscoveringLocalTransport.name
        return result) (fun ms x => Served relay r L C (looks ++ ms) x) := by
  refine hl.handled (fun x ms hx => ?_)
  rcases x with (e | _) | result
  · cases e with
    | transport e =>
      refine (calls_recordLocalFailure r).after (fun _ _ => ?_) (fun _ h => nomatch h)
      refine Calls.withCloud ?_
      cases relay with
      | none =>
        refine Calls.changed (fun _ => ⟨rfl, rfl, rfl, rfl, rfl, rfl, rfl, rfl, rfl, id⟩) ?_
        exact calls_raise (by simpa using .here hd hx (fun _ _ => rfl))
      | some c =>
        refine (calls_viaCloud (some e) (hc c rfl)).mono ?_
        rintro ms' x ⟨y, hy, rfl⟩
        exact .fellBack hd rfl hx hy
    | _ => exact calls_raise (by simpa using .here hd hx (fun _ h => nomatch h))
  · exact calls_raise (by simpa using .here hd hx (fun _ h => nomatch h))
  · refine calls_recordLocalSuccess.after (fun _ _ => ?_) (fun _ h => nomatch h)
    refine (calls_notePath _).after (fun _ _ => ?_) (fun _ h => nomatch h)
    exact calls_pure (by simpa using .here hd hx (fun _ h => nomatch h))

theorem calls_attempt {callLocal : Call α} {callCloud : CloudRelayTransport → Call α} (r : Readings)
    (hl : Calls py asks relay i callLocal L)
    (hc : ∀ c, relay = some c → Calls py asks relay i (callCloud c) (C c)) :
    Calls py asks relay i (attempt i r callLocal callCloud) (Served relay r L C) := by
  refine (calls_shouldTryLocal r).bind (fun try' looks hd => ?_) ?_
  · cases try' with
    | true => exact calls_tried hd hl hc
    | false =>
      simp only [Bool.false_eq_true, ↓reduceIte]
      cases hrelay : relay with
      | none =>
        rw [hrelay] at hd
        cases hd
        contradiction
      | some c =>
        subst hrelay
        refine (calls_viaCloud none (hc c rfl)).mono ?_
        rintro ms x ⟨y, hy, rfl⟩
        exact .skipped hd rfl hy
  · intro e looks hd
    cases hd with
    | raced hrelay first => exact .raced (.raced hrelay first)

end Attempt

/-! ### Requests -/

/-- What a request may ask of the listener of the device. -/
def Request.mayAsk : Request → ExchangeEnv → Frame → Prop
  | .query env attrs, met, frame =>
    (met = env.local'.first.exchange ∨ met = env.local'.retry.exchange) ∧
      ∃ sn, frame = queryFrameOf attrs sn
  | .control env payload, met, frame =>
    met = env.local'.first.exchange ∧ ∃ sn, frame = setFrameOf payload sn
  | .close, _, _ => False

/-- What a command does over the local path. -/
abbrev CommandedHere (py : Interpreter) (env : ClientEnv) (payload : Payload) :
    List Moment → Except Raised Bool → Prop :=
  Commanded py env.local' (setFrameOf payload) (fun _ reply => .ok (LocalTransport.accepted reply))

/-- What a command does over the relay `c`. -/
abbrev CommandedOver (py : Interpreter) (env : ClientEnv) (payload : Payload)
    (c : CloudRelayTransport) : List Moment → Except Raised Bool → Prop :=
  RelayDid py c env.cloud (setFrameOf payload) (fun reply => .ok (LocalTransport.accepted reply))

/-- What a request adds to its history, and how it ends. -/
def Request.Did (py : Interpreter) (relay : Option CloudRelayTransport) :
    Request → List Moment → Except Raised Reply → Prop
  | .query env attrs, ms, x => ∃ r, x = r.map .data ∧
      Served relay env.readings
        (Fetched py env.local' (queryFrameOf attrs) (LocalTransport.readData py))
        (fun c => RelayDid py c env.cloud (queryFrameOf attrs) (c.readData py)) ms r
  | .control env payload, ms, x => ∃ r, x = r.map .accepted ∧
      Served relay env.readings (CommandedHere py env payload) (CommandedOver py env payload) ms r
  | .close, ms, x => x = .ok .closed ∧ Closed ms

theorem Calls.returning {t : Call α} {B : List Moment → Except Raised α → Prop}
    (h : Calls py asks relay i t B) (f : α → γ) :
    Calls py asks relay i (t >>= fun a => pure (f a)) (fun ms x => ∃ r, x = r.map f ∧ B ms r) := by
  refine h.bind (fun a ms hB => ?_) (fun e ms hB => ⟨_, rfl, hB⟩)
  exact calls_pure ⟨.ok a, rfl, by rw [List.append_nil]; exact hB⟩

theorem calls_request (factory : Factory) {requests : Nat → Request} :
    Calls py (fun i => (requests i).mayAsk) relay i ((requests i).thread py factory i)
      ((requests i).Did py relay) := by
  have hasks (met : ExchangeEnv) (frame : Frame) (h : (requests i).mayAsk met frame) :
      (fun i => (requests i).mayAsk) i met frame := h
  generalize requests i = request at hasks
  cases request with
  | query env attrs =>
    refine Calls.returning (calls_attempt env.readings (calls_rediscoveringQuery ?_ ?_)
      (fun c _ => calls_relayQuery c env.cloud attrs)) Reply.data
    · exact fun sn => hasks _ _ ⟨.inl rfl, sn, rfl⟩
    · exact fun sn => hasks _ _ ⟨.inr rfl, sn, rfl⟩
  | control env payload =>
    refine Calls.returning (calls_attempt env.readings (calls_rediscoveringControl ?_)
      (fun c _ => calls_relayControl c env.cloud payload)) Reply.accepted
    exact fun sn => hasks _ _ ⟨rfl, sn, rfl⟩
  | close =>
    refine Calls.bind (B := fun ms x => x = .ok () ∧ Closed ms)
      (Calls.atTransport (fun r d => ?_)) (fun _ ms h => ?_) ?_
    · refine close_sound.post ?_
      rintro x s _ ⟨t, hx, hout⟩
      exact ⟨_, ⟨hx, r, t, rfl⟩, hout⟩
    · exact calls_pure ⟨rfl, by rw [List.append_nil]; exact h.2⟩
    · rintro e ms ⟨h, _⟩
      cases h

/-! ### Commands -/

section Commands

variable {payload : Payload} {ms : List Moment}

theorem events_turn (r : Nat) (t : LocalTransport) (evs : List Event) :
    Moment.events (turn r t evs) = evs := Moment.events_did evs

/-- Nothing is handed over as a transport is closed. -/
theorem Closed.quiet (h : Closed ms) (kind : Bytes → Prop) :
    Tally kind (Moment.events ms) True False := by
  obtain ⟨r, t, rfl⟩ := h
  have hevents (evs : List Event) : Moment.events (.chose r :: turn r t evs) = evs :=
    events_turn r t evs
  rw [hevents]
  refine Tally.quiet ?_
  simp [Event.Hands]

end Commands

/-! ### Runs -/

section Runs

/-- An entry that has both paths. -/
def plug : ConfigEntry :=
  ⟨str "dev", str "10.0.0.7", some (str "key"), some (str "relay"), 8898, none, none⟩

/-- A command, which the listener leaves unanswered, and the client is closed. -/
def switching : Nat → Request
  | 0 => .control Client.silentListener [(.int 1, 1)]
  | _ => .close

variable (py : Interpreter) (entry : ConfigEntry) (requests : Nat → Request)

theorem shared_inv (asks : Nat → ExchangeEnv → Frame → Prop) :
    Inv py asks (buildClient entry).cloud (shared entry) := by
  have hidle (r : Nat) : ((shared entry).transports r).self.conn = none := by
    by_cases hr : r = 0
    · simp only [shared, if_pos hr]
      rfl
    · simp only [shared, if_neg hr]
      rfl
  have hheld (p : Place) : (shared entry).held p = none := by
    cases p with
    | transport r => simp only [SharedClient.held, hidle, Option.map_none]
    | request j => rfl
  have hrecord (p : Place) : (shared entry).record p = [] := by cases p <;> rfl
  refine ⟨Nat.zero_lt_one, rfl, rfl, fun r _ => ⟨hidle r, rfl, rfl⟩, fun r _ => ?_, ?_⟩
  · exact .free _ _ [] (hidle r) .start
  · refine ⟨fun n => ?_, List.nodup_nil, ?_, ?_, ?_, ?_, ?_⟩
    · refine iff_of_false List.not_mem_nil ?_
      rintro ⟨p, hp⟩
      rw [hheld] at hp
      cases hp
    · intro p p' n hp
      rw [hheld] at hp
      cases hp
    · intro p n hp
      rw [hheld] at hp
      cases hp
    · exact fun n hn => absurd hn (Nat.not_lt_zero n)
    · exact fun e he => absurd he List.not_mem_nil
    · intro p e he
      rw [hrecord] at he
      cases he

/-- What a request that is over did and found, with no lock left. -/
def Over (i : Nat) (x : Except Raised Reply) (s : SharedClient) : Prop :=
  (requests i).Did py (buildClient entry).cloud (s.history i) x ∧ Free i s

theorem run_kept (schedule : List Nat) : (run py entry requests schedule).Kept
    (rules py (fun i => (requests i).mayAsk) (buildClient entry).cloud)
    (Over py entry requests) := by
  refine Parallel.Kept.run ⟨shared_inv py entry _, fun i => ⟨Outside i [] none, ⟨rfl, rfl, ?_⟩, ?_⟩⟩
    schedule
  · intro r hlock
    cases hlock
  · refine (calls_request _ []).post ?_
    rintro x s _ ⟨ms, hdid, hout⟩
    rw [List.nil_append] at hout
    exact ⟨hout.history ▸ hdid, hout.free⟩

/-- Whatever way the steps of requests fall between one another, they take turns at each transport,
where each does what it would do alone, and every socket is in one hand. -/
theorem requests_take_turns (schedule : List Nat) :
    (∀ r < (run py entry requests schedule).state.built, Orderly py (fun i => (requests i).mayAsk)
      ((run py entry requests schedule).state.transports r)) ∧
      (run py entry requests schedule).state.Sockets :=
  have hinv := (run_kept py entry requests schedule).1
  ⟨hinv.orderly, hinv.sockets⟩

theorem rules_locks (asks : Nat → ExchangeEnv → Frame → Prop) (relay : Option CloudRelayTransport) :
    (rules py asks relay).Locks Free := by
  refine ⟨fun i j s s' hj _ _ hg h r hlock => h r (hg.locks r i hj.symm hlock), ?_⟩
  rintro i s ⟨hfree, j, r, hlock⟩
  exact ⟨hfree, j, fun h => h r hlock⟩

/-- Requests that get their turns again and again all end. -/
theorem requests_end (n : Nat) (f : Nat → Nat) (hf : ∀ k, f k < n)
    (hfair : ∀ i < n, ∀ k, ∃ m, k ≤ m ∧ f m = i) :
    ∃ N, ∀ i < n, ∃ x, (run py entry requests ((List.range N).map f)).ended i = some x :=
  (run_kept py entry requests []).ends (rules_locks py _ _) (fun _ _ _ h => h.2)
    (fun _ _ _ hlock => nomatch hlock) hf hfair

theorem requests_end_switching :
    ∃ N, ∀ i < 2, ∃ x,
      (run .plain plug switching ((List.range N).map (· % 2))).ended i = some x := by
  refine requests_end .plain plug switching 2 (· % 2) (fun k => Nat.mod_lt k Nat.two_pos) ?_
  intro i hi k
  exact ⟨2 * k + i, by omega, by omega⟩

end Runs

end Overlap

end CozyLife
