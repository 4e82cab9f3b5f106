import CozyLife.Proofs.Sharing
import CozyLife.Proofs.Timeouts

/-! Requests that overlap take turns at a transport: what each does there is what it would do alone. -/

namespace CozyLife
open Python Effects Threads

/-- All of a transport but its connection. -/
def LocalTransport.bare (t : LocalTransport) : LocalTransport := { t with conn := none }

theorem LocalTransport.repr_bare (t : LocalTransport) : t.bare.repr = t.repr := rfl

/-- What request `i` does to a transport under its lock, so far. -/
def entered (i : Nat) (evs : List Event) : List (Nat × Deed) :=
  (i, .acquired) :: evs.map (fun e => (i, .did e))

theorem entered_append (i : Nat) (evs evs' : List Event) :
    entered i evs ++ evs'.map (fun e => (i, .did e)) = entered i (evs ++ evs') := by
  simp [entered]

/-- A whole turn. -/
def visit (v : Nat × List Event) : List (Nat × Deed) := entered v.1 v.2 ++ [(v.1, .released)]

section

variable (py : Interpreter) (asks : Nat → ExchangeEnv → Frame → Prop)

/-- What one turn of request `i` does to a transport: an exchange that it asks for, as it goes on its
own, or a close. -/
inductive Visit (i : Nat) (t : LocalTransport) : List Event → LocalTransport → Prop
  | exchanged (env : ExchangeEnv) (frame : Frame) (ha : asks i env frame) (n : Nat) :
      Visit i t (LocalTransport.outcome py t env frame n).events
        { t with conn := (LocalTransport.outcome py t env frame n).conn }
  | closed : Visit i t (t.held.map .closed) t.bare

/-- Turns one after another. -/
inductive Visits (t : LocalTransport) : List (Nat × List Event) → LocalTransport → Prop
  | start : Visits t [] t
  | visited (vs t' i evs t'') (h : Visits t vs t') (hv : Visit py asks i t' evs t'') :
      Visits t (vs ++ [(i, evs)]) t''

/-- All that was ever done to a transport was done in turns, of which one may be under way. -/
inductive Orderly : SharedTransport → Prop
  | free (t₀ t vs) (h₀ : t₀.conn = none) (h : Visits py asks t₀ vs t) :
      Orderly ⟨t, none, vs.flatMap visit⟩
  | taken (t₀ t vs) (h₀ : t₀.conn = none) (h : Visits py asks t₀ vs t) (i evs now) :
      Orderly ⟨now, some i, vs.flatMap visit ++ entered i evs⟩

end

namespace Overlap

/-- What a step that finds the client like `s` may add to the history of its request. -/
inductive Adds (s : SharedClient) : List Moment → Prop
  | did (evs : List Event) : Adds s (evs.map .did)
  | took (r : Nat) (hr : r < s.built) (hfree : (s.transports r).lock = none) :
      Adds s [.took r (s.transports r).self]
  | chose : Adds s [.chose s.client.local'.transport]
  | saw : Adds s [.saw s.client.circuitOpenedAt]

/-- What a turn of a request at transport `r` adds to its history. -/
def turn (r : Nat) (t : LocalTransport) (evs : List Event) : List Moment :=
  .took r t :: evs.map .did

theorem turn_append (r : Nat) (t : LocalTransport) (evs evs' : List Event) :
    turn r t evs ++ evs'.map .did = turn r t (evs ++ evs') := by
  simp [turn]

/-- What is so between any two steps. -/
structure Inv (py : Interpreter) (asks : Nat → ExchangeEnv → Frame → Prop)
    (relay : Option CloudRelayTransport) (s : SharedClient) : Prop where
  current : s.client.local'.transport < s.built
  cloud : s.client.cloud = relay
  interval : s.client.recoveryInterval = Breaker.DEFAULT_RECOVERY_INTERVAL
  unbuilt : ∀ r, s.built ≤ r → (s.transports r).self.conn = none ∧ (s.transports r).journal = [] ∧
    (s.transports r).lock = none
  orderly : ∀ r < s.built, Orderly py asks (s.transports r)
  sockets : s.Sockets

/-- What a step of request `j` leaves as it is. -/
structure Guar (j : Nat) (s s' : SharedClient) : Prop where
  own : ∀ i, i ≠ j → s'.own i = s.own i
  history : ∀ i, i ≠ j → s'.history i = s.history i
  adds : ∃ ms, s'.history j = s.history j ++ ms ∧ Adds s ms
  built : s.built ≤ s'.built
  kept : ∀ r i, i ≠ j → (s.transports r).lock = some i → s'.transports r = s.transports r
  locks : ∀ r i, i ≠ j → (s'.transports r).lock = some i → (s.transports r).lock = some i
  bare : ∀ r < s.built, (s'.transports r).self.bare = (s.transports r).self.bare
  searched : s.client.local'.lastSearch.isSome → s'.client.local'.lastSearch.isSome

/-- A step that adds nothing to the history of its request. -/
theorem adds_nothing {s s' : SharedClient} {j : Nat} (h : s'.history j = s.history j) :
    ∃ ms, s'.history j = s.history j ++ ms ∧ Adds s ms :=
  ⟨[], by rw [h, List.append_nil], .did []⟩

theorem guar_refl {j : Nat} (s : SharedClient) : Guar j s s :=
  ⟨fun _ _ => rfl, fun _ _ => rfl, adds_nothing rfl, le_refl _, fun _ _ _ _ => rfl, fun _ _ _ h => h,
    fun _ _ => rfl, id⟩

/-- Request `i` holds no lock. -/
def Free (i : Nat) (s : SharedClient) : Prop := ∀ r, (s.transports r).lock ≠ some i

/-- A request only waits while it holds no lock, for one that another holds. -/
def rules (py : Interpreter) (asks : Nat → ExchangeEnv → Frame → Prop)
    (relay : Option CloudRelayTransport) : Rules SharedClient where
  inv := Inv py asks relay
  guar := Guar
  waits i s := Free i s ∧ ∃ j r, (s.transports r).lock = some j

/-- Request `i` is between its turns, and that is its history. -/
structure Outside (i : Nat) (d : List Moment) (own : Option Nat) (s : SharedClient) : Prop where
  history : s.history i = d
  own : s.own i = own
  free : Free i s

variable (py : Interpreter) (asks : Nat → ExchangeEnv → Frame → Prop)

/-- Request `i` has its turn at transport `r`, which was `t` before it; it has done `evs` since. -/
structure Inside (i r : Nat) (d : List Moment) (t now : LocalTransport) (evs : List Event)
    (s : SharedClient) : Prop where
  built : r < s.built
  journal : ∃ t₀ vs, t₀.conn = none ∧ Visits py asks t₀ vs t ∧
    s.transports r = ⟨now, some i, vs.flatMap visit ++ entered i evs⟩
  history : s.history i = d ++ turn r t evs
  own : s.own i = none
  others : ∀ r', r' ≠ r → (s.transports r').lock ≠ some i

variable {py asks} {relay : Option CloudRelayTransport} {i : Nat}

theorem outside_stable {d : List Moment} {own : Option Nat} :
    (rules py asks relay).Stable i (Outside i d own) := by
  intro j s s' hj _ _ hg h
  exact ⟨(hg.history i hj.symm).trans h.history, (hg.own i hj.symm).trans h.own,
    fun r hlock => h.free r (hg.locks r i hj.symm hlock)⟩

theorem built_stable {r : Nat} : (rules py asks relay).Stable i (fun s => r < s.built) :=
  fun _ _ _ _ _ _ hg h => lt_of_lt_of_le h hg.built

theorem bare_stable {r : Nat} {t : LocalTransport} :
    (rules py asks relay).Stable i (fun s => r < s.built ∧ (s.transports r).self.bare = t) :=
  fun _ _ _ _ _ _ hg h => ⟨lt_of_lt_of_le h.1 hg.built, (hg.bare _ h.1).trans h.2⟩

theorem inside_stable {r : Nat} {d : List Moment} {evs : List Event} {t now : LocalTransport} :
    (rules py asks relay).Stable i (Inside py asks i r d t now evs) := by
  intro j s s' hj _ _ hg h
  obtain ⟨t₀, vs, h₀, hvs, hjournal⟩ := h.journal
  have hlock : (s.transports r).lock = some i := by rw [hjournal]
  exact ⟨lt_of_lt_of_le h.built hg.built,
    ⟨t₀, vs, h₀, hvs, (hg.kept r i hj.symm hlock).trans hjournal⟩,
    (hg.history i hj.symm).trans h.history, (hg.own i hj.symm).trans h.own,
    fun r' hr' hlock' => h.others r' hr' (hg.locks r' i hj.symm hlock')⟩

/-! ### Steps on a transport -/

/-- What a step on transport `now` comes to: how it ends, what it leaves and what happens. -/
structure Effect (m : EStateM Raised (LocalTransport × World) α) (now : LocalTransport) (w : World)
    (x : Except Raised α) (now' : LocalTransport) (evs : List Event) : Prop where
  ends : answer m (now, w) = x
  leaves : after m (now, w) = (now', w.past evs)
  opens : newSockets evs = [] ∨ newSockets evs = [w.sockets]
  stays : ∀ e ∈ evs, ∀ n, e.socket = some n → n ∈ now.held ∨ n ∈ newSockets evs
  track : evs.foldl Event.track now.held = now'.held
  bare : now'.bare = now.bare

theorem held_toList (s : SharedClient) (r : Nat) :
    (s.held (.transport r)).toList = (s.transports r).self.held := by
  simp only [SharedClient.held, LocalTransport.held]
  cases (s.transports r).self.conn <;> rfl

theorem onTransport_answer (i r : Nat) (m : EStateM Raised (LocalTransport × World) α)
    (s : SharedClient) :
    answer (Local.onTransport i r m) s = answer m ((s.transports r).self, s.world) := by
  simp only [answer, Local.onTransport, EStateM.run]
  cases m ((s.transports r).self, s.world) <;> rfl

theorem onTransport_after (i r : Nat) (m : EStateM Raised (LocalTransport × World) α)
    (s : SharedClient) : after (Local.onTransport i r m) s =
      s.wrote i r (after m ((s.transports r).self, s.world)).1
        (after m ((s.transports r).self, s.world)).2 := by
  simp only [after, Local.onTransport, EStateM.run]
  cases m ((s.transports r).self, s.world) <;> rfl

section Wrote

variable {s : SharedClient} {i r : Nat} {now' : LocalTransport} {w' : World} {evs : List Event}

theorem news_eq {w w' : World} (ht : w'.trace = w.trace ++ evs) : SharedClient.news w w' = evs := by
  rw [SharedClient.news, ht, List.drop_left]

theorem wrote_transport (ht : w'.trace = s.world.trace ++ evs) :
    (s.wrote i r now' w').transports r = ⟨now', (s.transports r).lock,
      (s.transports r).journal ++ evs.map (fun e => (i, .did e))⟩ := by
  simp only [SharedClient.wrote, news_eq ht, Function.update_self]

theorem wrote_other (hr : r' ≠ r) : (s.wrote i r now' w').transports r' = s.transports r' := by
  simp only [SharedClient.wrote, Function.update_of_ne hr]

theorem wrote_history (ht : w'.trace = s.world.trace ++ evs) :
    (s.wrote i r now' w').history i = s.history i ++ evs.map .did := by
  simp only [SharedClient.wrote, SharedClient.adding, news_eq ht, Function.update_self]

theorem wrote_unchanged (hj : j ≠ i) : (s.wrote i r now' w').history j = s.history j := by
  simp only [SharedClient.wrote, SharedClient.adding, Function.update_of_ne hj]

theorem wrote_done (ht : w'.trace = s.world.trace ++ evs) :
    (s.wrote i r now' w').done i = s.done i ++ evs := by
  rw [SharedClient.done_append (wrote_history ht), Moment.events_did]

theorem wrote_events (ht : w'.trace = s.world.trace ++ evs) :
    ((s.wrote i r now' w').transports r).events = (s.transports r).events ++ evs := by
  have hdeeds : (evs.map (fun e => ((i, Deed.did e) : Nat × Deed))).filterMap (fun d => d.2.event) =
      evs := by simp [Deed.event]
  rw [wrote_transport ht, SharedTransport.events, List.filterMap_append, hdeeds]
  rfl

end Wrote

section Steps

variable {s : SharedClient} {i r : Nat} {d : List Moment} {evs evs' : List Event}
  {t now now' : LocalTransport}

theorem Inside.self (h : Inside py asks i r d t now evs s) : (s.transports r).self = now := by
  obtain ⟨_, _, _, _, hjournal⟩ := h.journal
  rw [hjournal]

theorem Inside.lock (h : Inside py asks i r d t now evs s) : (s.transports r).lock = some i := by
  obtain ⟨_, _, _, _, hjournal⟩ := h.journal
  rw [hjournal]

variable {m : EStateM Raised (LocalTransport × World) α} {x : Except Raised α} {w' : World}

/-- A step on a transport, seen from its sockets. -/
theorem Effect.moves (he : Effect m (s.transports r).self s.world x now' evs') :
    SharedClient.Moves s (s.wrote i r now' (s.world.past evs')) (.transport r) evs' := by
  have htrace : (s.world.past evs').trace = s.world.trace ++ evs' := rfl
  have htransport : (s.wrote i r now' (s.world.past evs')).transports r = ⟨now',
      (s.transports r).lock, (s.transports r).journal ++ evs'.map (fun e => (i, .did e))⟩ :=
    wrote_transport htrace
  refine ⟨htrace, World.past_sockets he.opens, ?_, ?_, ?_, ?_, ?_⟩
  · intro e hmem n hsock
    rw [← Option.mem_toList, held_toList]
    exact (he.stays e hmem n hsock).imp_right (World.past_new he.opens)
  · rw [held_toList, held_toList, htransport]
    exact he.track
  · intro p' hp'
    cases p' with
    | transport r' =>
      have hr' : r' ≠ r := fun heq => hp' (heq ▸ rfl)
      simp only [SharedClient.held, wrote_other hr']
    | request j => rfl
  · exact wrote_events htrace
  · intro p' hp'
    cases p' with
    | transport r' =>
      have hr' : r' ≠ r := fun heq => hp' (heq ▸ rfl)
      left
      simp only [SharedClient.record, wrote_other hr']
    | request j =>
      by_cases hj : j = i
      · subst hj
        exact .inr ⟨rfl, rfl, wrote_done htrace⟩
      · exact .inl (SharedClient.done_eq (wrote_unchanged hj))

theorem Inside.step (hinv : Inv py asks relay s) (h : Inside py asks i r d t now evs s)
    (he : Effect m now s.world x now' evs') :
    Inv py asks relay (after (Local.onTransport i r m) s) ∧
      Guar i s (after (Local.onTransport i r m) s) ∧
      Inside py asks i r d t now' (evs ++ evs') (after (Local.onTransport i r m) s) := by
  have hself := h.self
  obtain ⟨t₀, vs, h₀, hvs, hjournal⟩ := h.journal
  have hmoves := Effect.moves (i := i) (hself ▸ he)
  have hafter := onTransport_after i r m s
  rw [hself, he.leaves] at hafter
  rw [hafter]
  generalize hw : s.world.past evs' = w' at hmoves
  have htrace : w'.trace = s.world.trace ++ evs' := hw ▸ rfl
  have hnew : (s.wrote i r now' w').transports r =
      ⟨now', some i, vs.flatMap visit ++ entered i (evs ++ evs')⟩ := by
    rw [wrote_transport htrace, hjournal, List.append_assoc, entered_append]
  refine ⟨⟨hinv.current, hinv.cloud, hinv.interval, ?_, ?_, hinv.sockets.step hmoves⟩,
    ⟨?_, ?_, ⟨_, wrote_history htrace, .did evs'⟩, ?_, ?_, ?_, ?_, id⟩,
    ⟨h.built, ⟨t₀, vs, h₀, hvs, hnew⟩, ?_, ?_, ?_⟩⟩
  · intro r' hr'
    have hne : r' ≠ r := (lt_of_lt_of_le h.built hr').ne'
    rw [wrote_other hne]
    exact hinv.unbuilt r' hr'
  · intro r' hr'
    by_cases hne : r' = r
    · rw [hne, hnew]
      exact .taken t₀ t vs h₀ hvs i (evs ++ evs') now'
    · rw [wrote_other hne]
      exact hinv.orderly r' hr'
  · exact fun _ _ => rfl
  · exact fun j hj => wrote_unchanged hj
  · exact le_refl _
  · intro r' j hj hlock
    have hne : r' ≠ r := by
      intro heq
      subst heq
      rw [hjournal] at hlock
      exact hj (Option.some.inj hlock).symm
    exact wrote_other hne
  · intro r' j hj hlock
    by_cases hne : r' = r
    · rw [hne, hnew] at hlock
      exact absurd (Option.some.inj hlock).symm hj
    · rwa [wrote_other hne] at hlock
  · intro r' _
    by_cases hne : r' = r
    · rw [hne, hnew, hself]
      exact he.bare
    · rw [wrote_other hne]
  · rw [wrote_history htrace, h.history, List.append_assoc, turn_append]
  · exact h.own
  · intro r' hr'
    rw [wrote_other hr']
    exact h.others r' hr'

end Steps

/-- What makes a turn of request `i` at transport `r`, whatever else goes on: the request finds the
transport as it left it. -/
structure Tenure (R : Rules SharedClient) (i r : Nat)
    (In : LocalTransport → List Event → SharedClient → Prop) : Prop where
  refl : ∀ s, R.guar i s s
  stable : ∀ {now evs}, R.Stable i (In now evs)
  self : ∀ {now evs s}, In now evs s → (s.transports r).self = now
  step : ∀ {α} {m : EStateM Raised (LocalTransport × World) α} {now evs s x now' evs'},
    R.inv s → In now evs s → Effect m now s.world x now' evs' →
      R.inv (after (Local.onTransport i r m) s) ∧ R.guar i s (after (Local.onTransport i r m) s) ∧
        In now' (evs ++ evs') (after (Local.onTransport i r m) s)

theorem inside_tenure {r : Nat} {d : List Moment} {t : LocalTransport} :
    Tenure (rules py asks relay) i r (Inside py asks i r d t) where
  refl := guar_refl
  stable := inside_stable
  self h := h.self
  step hinv h he := h.step hinv he

section Tenure

variable {R : Rules SharedClient} {In : LocalTransport → List Event → SharedClient → Prop}
  {i r : Nat} {evs evs' : List Event} {now now' : LocalTransport}
  {m : EStateM Raised (LocalTransport × World) α} {x : Except Raised α}

/-- A step of a request that has its turn. -/
theorem Tenure.sound_step (h : Tenure R i r In)
    {M : Except Raised α → LocalTransport → List Event → Prop}
    (hm : ∀ w, ∃ x now' evs', Effect m now w x now' evs' ∧ M x now' evs') :
    Sound R i (fun x s => ∃ now' evs', M x now' evs' ∧ In now' (evs ++ evs') s)
      (Local.step i r m) (In now evs) := by
  refine sound_act h.stable (fun x => ?_) ?_
  · exact .exists (fun now' => .exists (fun evs' => (Rules.Stable.const _).and h.stable))
  · intro s hinv hin
    obtain ⟨x, now', evs', he, hM⟩ := hm s.world
    obtain ⟨hinv', hguar, hin'⟩ := h.step hinv hin he
    refine ⟨hinv', hguar, now', evs', ?_, hin'⟩
    rw [onTransport_answer, h.self hin, he.ends]
    exact hM

/-- A step that comes to the same whatever the world is like. -/
theorem Tenure.sound_known (h : Tenure R i r In) (hm : ∀ w, Effect m now w x now' evs') :
    Sound R i (fun y s => y = x ∧ In now' (evs ++ evs') s) (Local.step i r m) (In now evs) := by
  refine (h.sound_step (M := fun y n e => y = x ∧ n = now' ∧ e = evs')
    (fun w => ⟨x, now', evs', hm w, rfl, rfl, rfl⟩)).post ?_
  rintro y s _ ⟨_, _, ⟨rfl, rfl, rfl⟩, hin⟩
  exact ⟨rfl, hin⟩

end Tenure

/-! ### What the steps come to -/

section Effects

variable {now : LocalTransport} {conn : LineSocket} (w : World)

/-- A step that leaves the sockets alone. -/
theorem Effect.still {m : EStateM Raised (LocalTransport × World) α}
    (hm : m.run (now, w) = .ok a (now', w)) (hheld : now'.held = now.held)
    (hbare : now'.bare = now.bare) : Effect m now w (.ok a) now' [] := by
  refine ⟨?_, ?_, .inl rfl, ?_, hheld.symm, hbare⟩
  · rw [answer, hm]
  · rw [after, hm, World.past_still rfl, List.append_nil]
  · intro e he
    cases he

theorem held_conn (h : now.conn = some conn) : now.held = [conn.sock] := by
  simp [LocalTransport.held, h]

theorem peerHasClosed_effect (o : PeekOutcome) (h : now.conn = some conn) :
    Effect (Local.peerHasClosed o) now w (.ok (conn.peerHasClosed o).1)
      { now with conn := some (conn.peerHasClosed o).2 } [] := by
  refine Effect.still w ?_ ?_ rfl
  · simp [-bind_pure_comp, Local.peerHasClosed, Local.run_onConn h]
  · rw [held_conn h, held_conn rfl, LocalTransport.peerHasClosed_sock]

/-- A step that goes on with the connection it has. -/
theorem Effect.used {m : EStateM Raised (LocalTransport × World) α} (h : now.conn = some conn)
    (hends : answer m (now, w) = x)
    (hafter : after m (now, w) = (now', { w with trace := w.trace ++ evs }))
    (hnow : now'.conn = some conn') (hsock : conn'.sock = conn.sock) (hbare : now'.bare = now.bare)
    (hevs : ∀ e ∈ evs, e.socket = some conn.sock ∧ (∀ opened, e.track opened = opened) ∧
      e.opens = none) : Effect m now w x now' evs := by
  have hopens : newSockets evs = [] := newSockets_none (fun e he => (hevs e he).2.2)
  refine ⟨hends, ?_, .inl hopens, ?_, ?_, hbare⟩
  · rw [hafter, World.past_still hopens]
  · intro e he n hn
    left
    rw [held_conn h, List.mem_singleton]
    exact Option.some.inj (hn.symm.trans (hevs e he).1)
  · rw [track_still (fun e he => (hevs e he).2.1), held_conn h, held_conn hnow, hsock]

theorem sendLine_effect (packet : Bytes) (o : SendOutcome) (h : now.conn = some conn) :
    Effect (Local.sendLine packet o) now w
      (match o with
        | .accepted => .ok ()
        | .failed _ fault => .error (.exn (sendError fault)))
      now [.sent conn.sock conn.timeout packet (o.taken packet)] := by
  have hrun : (Local.sendLine packet o).run (now, w) =
      (raising (onWorld (conn.sendLine packet o))).run (now, w) := Local.run_onConn h
  refine Effect.used w h ?_ ?_ h rfl rfl ?_
  · rw [answer, hrun]
    cases o <;> simp
  · rw [after, hrun]
    cases o <;> simp [SendOutcome.taken]
  · simp [Event.socket, Event.track, Event.opens]

theorem drained_effect (body : β → Bytes → Verdict β α) (b : β) (h : now.conn = some conn) :
    Effect (Local.drained body b) now w (.ok (drain body b conn.buffer).2.2)
      { now with conn := some { conn with buffer := (drain body b conn.buffer).2.1 } } [] := by
  refine Effect.still w ?_ ?_ rfl
  · simp [-bind_pure_comp, Local.drained, Local.run_onConn h]
  · rw [held_conn h, held_conn rfl]

theorem pulled_effect (deadline : ℚ) (turn : Turn) (h : now.conn = some conn) :
    Effect (Local.pulled deadline turn) now w (.ok (conn.pull deadline turn).2.2)
      { now with conn := some (conn.pull deadline turn).2.1 } (conn.pull deadline turn).1 := by
  have hrun : (Local.pulled deadline turn).run (now, w) = .ok (conn.pull deadline turn).2.2
      ({ now with conn := some (conn.pull deadline turn).2.1 },
        { w with trace := w.trace ++ (conn.pull deadline turn).1 }) := by
    simp [-bind_pure_comp, Local.pulled, Local.run_onConn h]
  refine Effect.used w h ?_ ?_ rfl (Lines.pull_sock ..) rfl ?_
  · rw [answer, hrun]
  · rw [after, hrun]
  · intro e he
    obtain ⟨mode, chunk, rfl⟩ := Lines.pull_reads conn deadline turn e he
    exact ⟨rfl, fun _ => rfl, rfl⟩

/-- A connection that is dropped is closed. -/
theorem disconnect_effect :
    Effect (raising LocalTransport.disconnect) now w (.ok ()) now.bare (now.held.map .closed) := by
  have hrun : (raising LocalTransport.disconnect).run (now, w) =
      .ok () (now.bare, { w with trace := w.trace ++ now.held.map .closed }) := by
    simp only [run_raising, LocalTransport.disconnect_run, LocalTransport.held, List.map_map]
    rfl
  have hopens : newSockets (now.held.map .closed) = [] := by
    refine newSockets_none (fun e he => ?_)
    obtain ⟨n, _, rfl⟩ := List.mem_map.mp he
    rfl
  refine ⟨?_, ?_, .inl hopens, ?_, ?_, rfl⟩
  · rw [answer, hrun]
  · rw [after, hrun, World.past_still hopens]
  · intro e he n hn
    obtain ⟨s, hs, rfl⟩ := List.mem_map.mp he
    cases hn
    exact .inl hs
  · cases h : now.conn with
    | none => simp [LocalTransport.held, LocalTransport.bare, h]
    | some conn => simp [LocalTransport.held, LocalTransport.bare, h, Event.track]

/-- A connection that cannot be opened. -/
theorem dial_effect_failed {o : ConnectOutcome} {e : Exn}
    (hrun : (connect py now.host now.port now.timeout o).run w =
      .error e { w with trace := w.trace ++ [.connecting now.host now.port now.timeout] }) :
    Effect (Local.dial py o) now w (.error (.exn e)) now
      [.connecting now.host now.port now.timeout] := by
  have hdial : (Local.dial py o).run (now, w) = .error (.exn e)
      (now, { w with trace := w.trace ++ [.connecting now.host now.port now.timeout] }) := by
    simp [Local.dial, hrun]
  refine ⟨?_, ?_, .inl rfl, ?_, rfl, rfl⟩
  · rw [answer, hdial]
  · rw [after, hdial, World.past_still rfl]
  · intro e he n hn
    rw [List.mem_singleton.mp he] at hn
    cases hn

theorem dial_effect_opened {o : ConnectOutcome} (h : now.conn = none)
    (hi : addressable py now.host now.port = true) (ho : o = .opened) :
    Effect (Local.dial py o) now w (.ok ())
      { now with conn := some ⟨w.sockets, [], some now.timeout⟩ }
      [.connecting now.host now.port now.timeout, .opened w.sockets] := by
  subst ho
  have hdial : (Local.dial py .opened).run (now, w) = .ok ()
      ({ now with conn := some ⟨w.sockets, [], some now.timeout⟩ },
        { w with sockets := w.sockets + 1, trace := w.trace ++
          [.connecting now.host now.port now.timeout, .opened w.sockets] }) := by
    simp [Local.dial, connect_opened py w _ _ _ hi]
  refine ⟨?_, ?_, .inr rfl, ?_, ?_, rfl⟩
  · rw [answer, hdial]
  · rw [after, hdial]
    rfl
  · intro e he n hn
    right
    simp only [List.mem_cons, List.not_mem_nil, or_false] at he
    rcases he with rfl | rfl
    · cases hn
    · cases hn
      exact List.mem_singleton_self _
  · simp [LocalTransport.held, h, Event.track]

end Effects

/-! ### An exchange under the lock -/

section Exchange

variable {R : Rules SharedClient} {In : LocalTransport → List Event → SharedClient → Prop}
  {i r : Nat} {evs : List Event} {now : LocalTransport} {conn : LineSocket}

/-- A look, after which `F` goes on holding of what it saw. -/
theorem sound_seen {f : SharedClient → α} {P : SharedClient → Prop} {F : α → SharedClient → Prop}
    (hrefl : ∀ s, R.guar i s s) (hP : R.Stable i P) (hF : ∀ a, R.Stable i (F a))
    (h : ∀ s, R.inv s → P s → F (f s) s) :
    Sound R i (fun x s => ∃ a, x = .ok a ∧ F a s) (look f) P := by
  refine sound_act hP (fun _ => .exists (fun a => (Rules.Stable.const _).and (hF a))) ?_
  intro s hinv hs
  exact ⟨hinv, hrefl s, f s, rfl, h s hinv hs⟩

/-- A look at the transport of a turn. -/
theorem Tenure.sound_look (hin : Tenure R i r In) (f : LocalTransport → α) :
    Sound R i (fun x s => x = .ok (f now) ∧ In now evs s)
      (look (fun s => f (s.transports r).self)) (In now evs) := by
  refine (sound_seen (F := fun a s => a = f now ∧ In now evs s) hin.refl hin.stable
    (fun _ => (Rules.Stable.const _).and hin.stable) (fun s _ hs => ⟨by rw [hin.self hs], hs⟩)).post ?_
  rintro x s _ ⟨_, hx, rfl, hs⟩
  exact ⟨hx, hs⟩

theorem lines_sound (hin : Tenure R i r In) (body : β → Bytes → Verdict β α) (deadline : ℚ)
    (turns : List Turn) (b : β) (h : now.conn = some conn) :
    let rd := conn.lines body deadline turns b
    Sound R i
      (fun x s => x = .ok rd.exit ∧ In { now with conn := some rd.conn } (evs ++ rd.events) s)
      (Local.lines i r body deadline turns b) (In now evs) := by
  induction turns generalizing b conn now evs with
  | nil =>
    refine Sound.bind_ok (hin.sound_known (fun w => drained_effect w body b h)) ?_
    rw [List.append_nil]
    rcases hv : (drain body b conn.buffer).2.2 with b' | a | e <;>
      simp only [LineSocket.lines, hv, List.append_nil] <;>
      exact sound_pure hin.stable (fun s _ hs => ⟨rfl, hs⟩)
  | cons turn turns ih =>
    refine Sound.bind_ok (hin.sound_known (fun w => drained_effect w body b h)) ?_
    rw [List.append_nil]
    rcases hv : (drain body b conn.buffer).2.2 with b' | a | e
    · refine Sound.bind_ok (hin.sound_known (fun w => pulled_effect w deadline turn rfl)) ?_
      rcases hp : LineSocket.pull { conn with buffer := (drain body b conn.buffer).2.1 } deadline turn
        with ⟨evs', conn', _ | _ | e⟩
      · rw [LineSocket.lines]
        simp only [hv, hp]
        rw [← List.append_assoc]
        have hconn : ({ now with conn := some conn' } : LocalTransport).conn = some conn' := rfl
        exact ih b' hconn
      · simp only [LineSocket.lines, hv, hp]
        exact sound_pure hin.stable (fun s _ hs => ⟨rfl, hs⟩)
      · simp only [LineSocket.lines, hv, hp]
        exact sound_pure hin.stable (fun s _ hs => ⟨rfl, hs⟩)
    all_goals
      simp only [LineSocket.lines, hv, List.append_nil]
      exact sound_pure hin.stable (fun s _ hs => ⟨rfl, hs⟩)

/-- Awaiting the reply, on the connection that took the frame. -/
theorem awaitReply_sound (hin : Tenure R i r In) (c : Conversation) (frame : Frame)
    (h : now.conn = some conn) :
    let o := LocalTransport.conclude py now (LocalTransport.listenFor py now frame conn c)
    Sound R i
      (fun x s => x = o.answer.mapError .exn ∧ In { now with conn := o.conn } (evs ++ o.events) s)
      (Local.awaitReply py i r c frame) (In now evs) := by
  intro o
  refine Sound.bind_ok (hin.sound_look (fun t => t.conn.isNone)) ?_
  simp only [h, Option.isNone_some, Bool.false_eq_true, ↓reduceIte]
  refine Sound.bind_ok (hin.sound_look (fun t => t)) ?_
  refine Sound.bind_ok (lines_sound hin _ _ _ _ h) ?_
  have ho : o = LocalTransport.conclude py now (conn.lines (LocalTransport.replyVerdict py frame)
      (c.started + now.timeout) c.turns ()) := rfl
  generalize conn.lines (LocalTransport.replyVerdict py frame) (c.started + now.timeout) c.turns () =
    rd at ho
  rw [ho]
  rcases hx : rd.exit with _ | reply | e
  · refine Sound.bind_ok (hin.sound_known (fun w => disconnect_effect w)) ?_
    simp only [LocalTransport.conclude, hx]
    refine sound_raise hin.stable (fun s _ hs => ⟨rfl, ?_⟩)
    rw [← List.append_assoc]
    exact hs
  · simp only [LocalTransport.conclude, hx]
    exact sound_pure hin.stable (fun s _ hs => ⟨rfl, hs⟩)
  · simp only [LocalTransport.conclude, hx]
    exact sound_raise hin.stable (fun s _ hs => ⟨rfl, hs⟩)

/-- An exchange on a connection of its own. -/
theorem exchangeFresh_sound (hin : Tenure R i r In) (env : ExchangeEnv) (frame : Frame)
    (h : now.conn = none) :
    Sound R i
      (fun x s => ∃ n,
        let o := LocalTransport.settle py now frame
          (LocalTransport.deliverFresh py now env (encode py frame) n)
        x = o.answer.mapError .exn ∧ In { now with conn := o.conn } (evs ++ o.events) s)
      (Local.exchangeFresh py i r env frame) (In now evs) := by
  have hnow : now = { now with conn := none } := by
    cases now
    simp only at h
    rw [h]
  cases hi : addressable py now.host now.port with
  | false =>
    refine Sound.bind_error (hin.sound_known
      (fun w => dial_effect_failed w (connect_unaddressable py w _ _ _ env.connect hi))) ?_
    intro s _ hs
    refine ⟨0, ?_⟩
    simp only [LocalTransport.deliverFresh, LocalTransport.settle, hi]
    exact ⟨rfl, hnow ▸ hs⟩
  | true =>
    cases hc : env.connect with
    | refused text =>
      refine Sound.bind_error (hin.sound_known
        (fun w => dial_effect_failed w (by rw [hc]; exact connect_refused py w _ _ _ text hi))) ?_
      intro s _ hs
      refine ⟨0, ?_⟩
      simp only [LocalTransport.deliverFresh, LocalTransport.settle, hi, hc]
      exact ⟨rfl, hnow ▸ hs⟩
    | opened =>
      refine Sound.bind (hin.sound_step (M := fun x now' evs' => ∃ n, x = .ok () ∧
        now' = { now with conn := some ⟨n, [], some now.timeout⟩ } ∧
        evs' = [.connecting now.host now.port now.timeout, .opened n])
        (fun w => ⟨_, _, _, dial_effect_opened w h hi hc, w.sockets, rfl, rfl, rfl⟩)) ?_ ?_
      · intro a
        refine Sound.elim (fun now' => Sound.elim (fun evs' => Sound.const ?_))
        rintro ⟨n, _, rfl, rfl⟩
        refine Sound.handled_as (hin.sound_known (fun w => sendLine_effect w _ _ rfl)) ?_
        cases hs : env.fresh.send with
        | accepted =>
          have hd : LocalTransport.deliverFresh py now env (encode py frame) n =
              ⟨[.connecting now.host now.port now.timeout, .opened n], 1,
                .ok (⟨n, [], some now.timeout⟩, env.fresh)⟩ := by
            simp only [LocalTransport.deliverFresh, hi, hc, hs, ↓reduceIte]
          refine (awaitReply_sound hin env.fresh frame rfl).post ?_
          rintro x s _ ⟨hx, hend⟩
          refine ⟨n, ?_⟩
          simp only [hd, LocalTransport.settle]
          refine ⟨hx, ?_⟩
          simp only [List.append_assoc] at hend
          exact hend
        | failed k fault =>
          have hd : LocalTransport.deliverFresh py now env (encode py frame) n =
              ⟨[.connecting now.host now.port now.timeout, .opened n,
                .sent n (some now.timeout) (encode py frame)
                  ((SendOutcome.failed k fault).taken (encode py frame)), .closed n], 1,
                .error (sendError fault)⟩ := by
            simp only [LocalTransport.deliverFresh, hi, hc, hs, ↓reduceIte]
          refine Sound.bind_ok (hin.sound_known (fun w => disconnect_effect w)) ?_
          refine sound_raise hin.stable (fun s _ hend => ⟨n, ?_⟩)
          simp only [hd, LocalTransport.settle]
          refine ⟨rfl, ?_⟩
          simp only [List.append_assoc] at hend
          exact hend
      · rintro e s _ ⟨_, _, ⟨_, he, _, _⟩, _⟩
        cases he

/-- An exchange on a connection of its own, once the held one is given up. -/
theorem redial_sound (hin : Tenure R i r In) {t : LocalTransport} (env : ExchangeEnv) (frame : Frame)
    (evs : List Event)
    (hd : ∀ n, LocalTransport.deliver py t env (encode py frame) n =
      (LocalTransport.deliverFresh py t env (encode py frame) n).after evs) :
    Sound R i
      (fun x s => ∃ n,
        let o := LocalTransport.outcome py t env frame n
        x = o.answer.mapError .exn ∧ In { t with conn := o.conn } o.events s)
      (Local.exchangeFresh py i r env frame) (In t.bare evs) := by
  refine (exchangeFresh_sound hin env frame rfl).post ?_
  rintro x s _ ⟨n, hx, hs⟩
  have hlead := LocalTransport.settle_lead py t frame evs
    (LocalTransport.deliverFresh py t env (encode py frame) n)
  have hconn : (LocalTransport.settle py t frame
      ((LocalTransport.deliverFresh py t env (encode py frame) n).after evs)).conn =
        (LocalTransport.settle py t frame
          (LocalTransport.deliverFresh py t env (encode py frame) n)).conn :=
    LocalTransport.settle_lead_conn frame evs _
  refine ⟨n, ?_⟩
  simp only [LocalTransport.outcome, hd, hlead.1, hlead.2, hconn]
  exact ⟨hx, hs⟩

/-- What `_exchange` does under the lock. -/
theorem exchangeHeld_sound (hin : Tenure R i r In) (t : LocalTransport) (env : ExchangeEnv)
    (frame : Frame) :
    Sound R i
      (fun x s => ∃ n,
        let o := LocalTransport.outcome py t env frame n
        x = o.answer.mapError .exn ∧ In { t with conn := o.conn } o.events s)
      (Local.exchangeHeld py i r env frame) (In t []) := by
  refine Sound.bind_ok (hin.sound_look (fun t => t.conn.isNone)) ?_
  cases h : t.conn with
  | none =>
    have hbare : t = t.bare := by
      cases t
      simp only at h
      rw [LocalTransport.bare, h]
    simp only [Option.isNone_none, ↓reduceIte]
    have hdeliver (n : Nat) : LocalTransport.deliver py t env (encode py frame) n =
        (LocalTransport.deliverFresh py t env (encode py frame) n).after [] := by
      simp only [LocalTransport.deliver, h]
      rfl
    have hredial := redial_sound hin env frame [] hdeliver
    rwa [← hbare] at hredial
  | some conn =>
    simp only [Option.isNone_some, Bool.false_eq_true, ↓reduceIte]
    refine Sound.bind_ok (hin.sound_known (fun w => peerHasClosed_effect w env.peek h)) ?_
    rcases hp : conn.peerHasClosed env.peek with ⟨closed, held⟩
    cases closed with
    | true =>
      simp only [↓reduceIte]
      refine Sound.bind_ok (hin.sound_known (fun w => disconnect_effect w)) ?_
      exact redial_sound hin env frame [.closed held.sock]
        (fun n => by simp only [LocalTransport.deliver, h, hp, ↓reduceIte])
    | false =>
      simp only [Bool.false_eq_true, ↓reduceIte]
      refine Sound.handled_as (hin.sound_known (fun w => sendLine_effect w _ _ rfl)) ?_
      cases hs : env.held.send with
      | accepted =>
        refine (awaitReply_sound hin env.held frame rfl).post ?_
        rintro x s _ ⟨hx, hend⟩
        refine ⟨0, ?_⟩
        have hd : LocalTransport.deliver py t env (encode py frame) 0 =
            ⟨[], 0, .ok (held, env.held)⟩ := by
          simp only [LocalTransport.deliver, h, hp, hs, Bool.false_eq_true, ↓reduceIte]
        simp only [LocalTransport.outcome, hd, LocalTransport.settle]
        exact ⟨hx, hend⟩
      | failed k fault =>
        refine Sound.bind_ok (hin.sound_known (fun w => disconnect_effect w)) ?_
        exact redial_sound hin env frame
          [.sent held.sock held.timeout (encode py frame)
            ((SendOutcome.failed k fault).taken (encode py frame)), .closed held.sock]
          (fun n => by
            simp only [LocalTransport.deliver, h, hp, hs, Bool.false_eq_true, ↓reduceIte])

end Exchange

/-! ### Turns -/

section Turns

variable {s : SharedClient} {i r : Nat} {d ms : List Moment} {evs : List Event}
  {t now : LocalTransport}

/-- The lock and what is written of it do not touch the sockets. -/
theorem put_sockets {u : SharedTransport} (h : s.Sockets) (hms : ∀ m ∈ ms, m.event = none)
    (hself : u.self = (s.transports r).self) (hevents : u.events = (s.transports r).events) :
    ((s.adding i ms).put r u).Sockets := by
  refine h.of_eq rfl rfl (fun p => ?_) (fun p => ?_)
  · cases p with
    | transport r' =>
      by_cases hr : r' = r
      · subst hr
        simp only [SharedClient.held, SharedClient.put, Function.update_self, hself]
      · simp only [SharedClient.held, SharedClient.put, SharedClient.adding,
          Function.update_of_ne hr]
    | request j => rfl
  · cases p with
    | transport r' =>
      by_cases hr : r' = r
      · subst hr
        simp only [SharedClient.record, SharedClient.put, Function.update_self, hevents]
      · simp only [SharedClient.record, SharedClient.put, SharedClient.adding,
          Function.update_of_ne hr]
    | request j => exact SharedClient.adding_done hms s i j

/-- A transport changes hands: its lock was free or held by `i`, and is now held by `i` or free. -/
theorem put_kept {u : SharedTransport} (hinv : Inv py asks relay s) (hr : r < s.built)
    (hms : ∀ m ∈ ms, m.event = none) (hadds : Adds s ms)
    (hself : u.self = (s.transports r).self) (hevents : u.events = (s.transports r).events)
    (hbefore : ∀ j, j ≠ i → (s.transports r).lock ≠ some j) (hafter : ∀ j, j ≠ i → u.lock ≠ some j)
    (horderly : Orderly py asks u) :
    Inv py asks relay ((s.adding i ms).put r u) ∧ Guar i s ((s.adding i ms).put r u) := by
  have hat : ((s.adding i ms).put r u).transports r = u := by
    simp only [SharedClient.put, Function.update_self]
  have hoff {r' : Nat} (hne : r' ≠ r) :
      ((s.adding i ms).put r u).transports r' = s.transports r' := by
    simp only [SharedClient.put, SharedClient.adding, Function.update_of_ne hne]
  refine ⟨⟨hinv.current, hinv.cloud, hinv.interval, ?_, ?_,
    put_sockets hinv.sockets hms hself hevents⟩, ⟨fun _ _ => rfl,
      fun _ hj => SharedClient.adding_other hj s ms, ⟨ms, SharedClient.adding_history s i ms, hadds⟩,
      le_refl _, ?_, ?_, ?_, id⟩⟩
  · intro r' hr'
    rw [hoff (lt_of_lt_of_le hr hr').ne']
    exact hinv.unbuilt r' hr'
  · intro r' hr'
    by_cases hne : r' = r
    · rw [hne, hat]
      exact horderly
    · rw [hoff hne]
      exact hinv.orderly r' hr'
  · intro r' j hj hlock
    have hne : r' ≠ r := by
      intro heq
      subst heq
      exact hbefore j hj hlock
    exact hoff hne
  · intro r' j hj hlock
    by_cases hne : r' = r
    · rw [hne, hat] at hlock
      exact absurd hlock (hafter j hj)
    · rwa [hoff hne] at hlock
  · intro r' _
    by_cases hne : r' = r
    · rw [hne, hat, hself]
    · rw [hoff hne]

/-- A request that takes a free lock begins its turn where the last one ended. -/
theorem acquire_sound : Sound (rules py asks relay) i
    (fun x s => x = .ok () ∧ ∃ t, Inside py asks i r d t t [] s)
    (Local.acquire i r) (fun s => Outside i d none s ∧ r < s.built) := by
  refine sound_await (outside_stable.and built_stable)
    (fun _ => (Rules.Stable.const _).and (.exists (fun t => inside_stable))) ?_ ?_
  · rintro s _ ⟨hout, _⟩
    cases hlock : (s.transports r).lock with
    | none => exact .inl rfl
    | some j => exact .inr ⟨hout.free, j, r, hlock⟩
  · rintro s hinv ⟨hout, hr⟩ hready
    have hfree : (s.transports r).lock = none := Option.isNone_iff_eq_none.mp hready
    obtain ⟨t₀, t, vs, h₀, hvs, htransport⟩ : ∃ t₀ t vs, t₀.conn = none ∧ Visits py asks t₀ vs t ∧
        s.transports r = ⟨t, none, vs.flatMap visit⟩ := by
      have horderly := hinv.orderly r hr
      revert hfree horderly
      generalize s.transports r = u
      rintro hfree (⟨t₀, t, vs, h₀, hvs⟩ | ⟨t₀, t, vs, h₀, hvs, j, evs, now⟩)
      · exact ⟨t₀, t, vs, h₀, hvs, rfl⟩
      · cases hfree
    have hacquired : Local.acquired s i r =
        (s.adding i [.took r t]).put r ⟨t, some i, vs.flatMap visit ++ entered i []⟩ := by
      rw [Local.acquired, htransport]
      rfl
    have hadds : Adds s [.took r t] := by
      have htook := Adds.took (s := s) r hr hfree
      rwa [htransport] at htook
    have hevents : SharedTransport.events ⟨t, some i, vs.flatMap visit ++ entered i []⟩ =
        (s.transports r).events := by
      rw [htransport]
      simp [SharedTransport.events, entered, Deed.event]
    obtain ⟨hinv', hguar⟩ := put_kept (i := i) hinv hr (by simp [Moment.event]) hadds
      (by rw [htransport]) hevents
      (fun j _ hlock => by rw [hfree] at hlock; cases hlock)
      (fun j hj hlock => hj (Option.some.inj hlock).symm)
      (Orderly.taken t₀ t vs h₀ hvs i [] t)
    have hafter : after (modify (fun s => Local.acquired s i r) : EStateM Raised SharedClient Unit) s =
        (s.adding i [.took r t]).put r ⟨t, some i, vs.flatMap visit ++ entered i []⟩ := by
      rw [← hacquired]
      rfl
    rw [hafter]
    refine ⟨hinv', hguar, rfl, t, hr, ⟨t₀, vs, h₀, hvs, ?_⟩, ?_, hout.own, ?_⟩
    · simp only [SharedClient.put, Function.update_self]
    · rw [← hout.history]
      exact SharedClient.adding_history s i _
    · intro r' hr'
      simp only [SharedClient.put, SharedClient.adding, Function.update_of_ne hr']
      exact hout.free r'

/-- A request that gives the lock back has had a turn. -/
theorem release_sound (hv : Visit py asks i t evs now) (hbare : now.bare = t.bare) :
    Sound (rules py asks relay) i
      (fun x s => x = .ok () ∧ Outside i (d ++ turn r t evs) none s ∧
        r < s.built ∧ (s.transports r).self.bare = t.bare)
      (Local.release i r) (Inside py asks i r d t now evs) := by
  refine sound_act inside_stable
    (fun _ => (Rules.Stable.const _).and (outside_stable.and bare_stable)) ?_
  intro s hinv hin
  obtain ⟨t₀, vs, h₀, hvs, htransport⟩ := hin.journal
  have hjournal : vs.flatMap visit ++ entered i evs ++ [(i, .released)] =
      (vs ++ [(i, evs)]).flatMap visit := by
    simp [visit]
  have hnothing : s.adding i [] = s := SharedClient.adding_nil s i
  have hreleased : Local.released s i r =
      (s.adding i []).put r ⟨now, none, (vs ++ [(i, evs)]).flatMap visit⟩ := by
    rw [hnothing, Local.released, htransport, ← hjournal]
  have hevents : SharedTransport.events ⟨now, none, (vs ++ [(i, evs)]).flatMap visit⟩ =
      (s.transports r).events := by
    rw [htransport, ← hjournal]
    simp [SharedTransport.events, Deed.event]
  obtain ⟨hinv', hguar⟩ := put_kept (i := i) hinv hin.built (List.forall_mem_nil _) (.did [])
    (by rw [htransport]) hevents
    (fun j hj hlock => by
      rw [htransport] at hlock
      exact hj (Option.some.inj hlock).symm)
    (fun j _ hlock => nomatch hlock)
    (Orderly.free t₀ now _ h₀ (.visited vs t i evs now hvs hv))
  have hafter : after (modify (fun s => Local.released s i r) : EStateM Raised SharedClient Unit) s =
      (s.adding i []).put r ⟨now, none, (vs ++ [(i, evs)]).flatMap visit⟩ := by
    rw [← hreleased]
    rfl
  rw [hafter]
  refine ⟨hinv', hguar, rfl, ⟨?_, hin.own, ?_⟩, hin.built, ?_⟩
  · rw [hnothing]
    exact hin.history
  · intro r' hlock
    by_cases hr' : r' = r
    · subst hr'
      simp only [SharedClient.put, Function.update_self] at hlock
      cases hlock
    · simp only [SharedClient.put, SharedClient.adding, Function.update_of_ne hr'] at hlock
      exact hin.others r' hr' hlock
  · simp only [SharedClient.put, Function.update_self]
    exact hbare

/-- `with self._lock`: what is done under the lock makes a turn. -/
theorem locked_sound {body : Call α}
    {B : LocalTransport → Except Raised α → List Event → LocalTransport → Prop}
    (hbody : ∀ t, Sound (rules py asks relay) i
      (fun x s => ∃ evs now, B t x evs now ∧ Inside py asks i r d t now evs s) body
      (Inside py asks i r d t t []))
    (hvisit : ∀ t x evs now, B t x evs now → Visit py asks i t evs now ∧ now.bare = t.bare) :
    Sound (rules py asks relay) i
      (fun x s => ∃ t evs now, B t x evs now ∧ Outside i (d ++ turn r t evs) none s ∧
        r < s.built ∧ (s.transports r).self.bare = t.bare)
      (Local.locked i r body) (fun s => Outside i d none s ∧ r < s.built) := by
  refine Sound.bind_ok acquire_sound (Sound.elim (fun t => ?_))
  refine Sound.ensuring (hbody t) (fun x => ?_) (fun x => ?_)
  · refine Sound.elim (fun evs => Sound.elim (fun now => Sound.const (fun hB => ?_)))
    obtain ⟨hv, hbare⟩ := hvisit t x evs now hB
    refine (release_sound hv hbare).post ?_
    rintro y s _ ⟨hy, hout⟩
    exact ⟨hy, t, evs, now, hB, hout⟩
  · exact .exists (fun t => .exists (fun evs => .exists (fun now =>
      (Rules.Stable.const _).and (outside_stable.and bare_stable))))

end Turns

end Overlap

end CozyLife
