import CozyLife.Proofs.Turns

/-! What the parts of a request do, whatever steps of others fall between theirs. -/

namespace CozyLife
open Python Effects Threads

namespace Overlap

variable {py : Interpreter} {asks : Nat → ExchangeEnv → Frame → Prop}
  {relay : Option CloudRelayTransport} {i r : Nat} {d : List Moment}

/-! ### A turn at a transport -/

theorem exchange_sound {env : ExchangeEnv} {frame : Frame} (ha : asks i env frame) :
    Sound (rules py asks relay) i
      (fun x s => ∃ t n,
        let o := LocalTransport.outcome py t env frame n
        x = o.answer.mapError .exn ∧ Outside i (d ++ turn r t o.events) none s ∧
          r < s.built ∧ (s.transports r).self.bare = t.bare)
      (Local.exchange py i r env frame) (fun s => Outside i d none s ∧ r < s.built) := by
  refine (locked_sound (B := fun t x evs now => ∃ n,
    let o := LocalTransport.outcome py t env frame n
    x = o.answer.mapError .exn ∧ evs = o.events ∧ now = { t with conn := o.conn }) ?_ ?_).post ?_
  · intro t
    refine (exchangeHeld_sound inside_tenure t env frame).post ?_
    rintro x s _ ⟨n, hx, hin⟩
    exact ⟨_, _, ⟨n, hx, rfl, rfl⟩, hin⟩
  · rintro t x _ _ ⟨n, _, rfl, rfl⟩
    exact ⟨.exchanged env frame ha n, rfl⟩
  · rintro x s _ ⟨t, _, _, ⟨n, hx, rfl, rfl⟩, hout⟩
    exact ⟨t, n, hx, hout⟩

theorem close_sound : Sound (rules py asks relay) i
    (fun x s => ∃ t : LocalTransport,
      x = .ok () ∧ Outside i (d ++ turn r t (t.held.map .closed)) none s)
    (Local.close i r) (fun s => Outside i d none s ∧ r < s.built) := by
  refine (locked_sound
    (B := fun t x evs now => x = .ok () ∧ evs = t.held.map .closed ∧ now = t.bare) ?_ ?_).post ?_
  · intro t
    refine (inside_tenure.sound_known (fun w => disconnect_effect w)).post ?_
    rintro x s _ ⟨hx, hin⟩
    exact ⟨_, _, ⟨hx, rfl, rfl⟩, hin⟩
  · rintro t x _ _ ⟨_, rfl, rfl⟩
    exact ⟨.closed, rfl⟩
  · rintro x s _ ⟨t, _, _, ⟨hx, rfl, rfl⟩, hout, _⟩
    exact ⟨t, hx, hout⟩

/-! ### Between the turns -/

/-- A step that touches neither the transports nor the sockets. -/
structure Plain (s s' : SharedClient) : Prop where
  transports : s'.transports = s.transports
  built : s'.built = s.built
  own : s'.own = s.own
  history : s'.history = s.history
  trace : s'.world.trace = s.world.trace
  sockets : s'.world.sockets = s.world.sockets
  cloud : s'.client.cloud = s.client.cloud
  interval : s'.client.recoveryInterval = s.client.recoveryInterval
  current : s'.client.local'.transport = s.client.local'.transport
  searched : s.client.local'.lastSearch.isSome → s'.client.local'.lastSearch.isSome

theorem Plain.kept {s s' : SharedClient} (h : Plain s s') (hinv : Inv py asks relay s) :
    Inv py asks relay s' ∧ Guar i s s' := by
  refine ⟨⟨?_, ?_, ?_, ?_, ?_, ?_⟩, ⟨?_, ?_, ?_, ?_, ?_, ?_, ?_, h.searched⟩⟩
  · rw [h.current, h.built]
    exact hinv.current
  · rw [h.cloud]
    exact hinv.cloud
  · rw [h.interval]
    exact hinv.interval
  · rw [h.built, h.transports]
    exact hinv.unbuilt
  · rw [h.built, h.transports]
    exact hinv.orderly
  · refine hinv.sockets.of_eq h.trace h.sockets (fun p => ?_) (fun p => ?_)
    · cases p <;> simp only [SharedClient.held, h.transports, h.own]
    · cases p <;> simp only [SharedClient.record, SharedClient.done, h.transports, h.history]
  · exact fun _ _ => by rw [h.own]
  · exact fun _ _ => by rw [h.history]
  · exact adds_nothing (by rw [h.history])
  · exact h.built.ge
  · exact fun _ _ _ _ => by rw [h.transports]
  · intro r j _ hlock
    rwa [h.transports] at hlock
  · exact fun _ _ => by rw [h.transports]

theorem Plain.outside {s s' : SharedClient} {o : Option Nat} (h : Plain s s')
    (hout : Outside i d o s) : Outside i d o s' :=
  ⟨by rw [h.history]; exact hout.history, by rw [h.own]; exact hout.own,
    by rw [Free, h.transports]; exact hout.free⟩

/-- A request that has no turn now: whatever its history before, it adds `ms` to it and ends as `x`,
where `B` relates the two. -/
def Calls (py : Interpreter) (asks : Nat → ExchangeEnv → Frame → Prop)
    (relay : Option CloudRelayTransport) (i : Nat) (t : Call α)
    (B : List Moment → Except Raised α → Prop) : Prop :=
  ∀ d, Sound (rules py asks relay) i
    (fun x s => ∃ ms, B ms x ∧ Outside i (d ++ ms) none s) t (Outside i d none)

section Calls

variable {t : Call α} {B : List Moment → Except Raised α → Prop}

theorem calls_stable (B : List Moment → Except Raised α → Prop) (x : Except Raised α) :
    (rules py asks relay).Stable i (fun s => ∃ ms, B ms x ∧ Outside i (d ++ ms) none s) :=
  .exists (fun _ => (Rules.Stable.const _).and outside_stable)

theorem Calls.mono {B' : List Moment → Except Raised α → Prop} (h : Calls py asks relay i t B)
    (himp : ∀ ms x, B ms x → B' ms x) : Calls py asks relay i t B' := by
  intro d
  refine (h d).post ?_
  rintro x s _ ⟨ms, hB, hout⟩
  exact ⟨ms, himp ms x hB, hout⟩

theorem calls_done {x : Except Raised α} (h : B [] x) : Calls py asks relay i (.done x) B :=
  fun d => sound_done x outside_stable
    (fun _ _ hout => ⟨[], h, by rw [List.append_nil]; exact hout⟩)

theorem calls_pure {a : α} (h : B [] (.ok a)) : Calls py asks relay i (pure a) B := calls_done h

theorem calls_raise {e : Raised} (h : B [] (.error e)) : Calls py asks relay i (.raise e) B :=
  calls_done h

theorem Calls.bind {f : α → Call β} {D : List Moment → Except Raised β → Prop}
    (ht : Calls py asks relay i t B)
    (hf : ∀ a ms, B ms (.ok a) → Calls py asks relay i (f a) (fun ms' x => D (ms ++ ms') x))
    (he : ∀ e ms, B ms (.error e) → D ms (.error e)) : Calls py asks relay i (t >>= f) D := by
  intro d
  refine (ht d).bind (fun a => Sound.elim (fun ms => Sound.const (fun hB => ?_))) ?_
  · refine (hf a ms hB (d ++ ms)).post ?_
    rintro x s _ ⟨ms', hD, hout⟩
    exact ⟨ms ++ ms', hD, by rw [← List.append_assoc]; exact hout⟩
  · rintro e s _ ⟨ms, hB, hout⟩
    exact ⟨ms, he e ms hB, hout⟩

theorem Calls.handled {f : Except Raised α → Call β} {D : List Moment → Except Raised β → Prop}
    (ht : Calls py asks relay i t B)
    (hf : ∀ r ms, B ms r → Calls py asks relay i (f r) (fun ms' x => D (ms ++ ms') x)) :
    Calls py asks relay i (Thread.caught t >>= f) D := by
  intro d
  refine (ht d).handled (fun r => Sound.elim (fun ms => Sound.const (fun hB => ?_)))
  refine (hf r ms hB (d ++ ms)).post ?_
  rintro x s _ ⟨ms', hD, hout⟩
  exact ⟨ms ++ ms', hD, by rw [← List.append_assoc]; exact hout⟩

theorem calls_act {m : EStateM Raised SharedClient α} (hm : ∀ s, Plain s (after m s))
    (hB : ∀ s, Inv py asks relay s → B [] (answer m s)) : Calls py asks relay i (.act m) B := by
  intro d
  refine sound_act outside_stable (fun x => calls_stable B x) ?_
  intro s hinv hout
  obtain ⟨hinv', hguar⟩ := (hm s).kept (i := i) hinv
  exact ⟨hinv', hguar, [], hB s hinv, by rw [List.append_nil]; exact (hm s).outside hout⟩

end Calls

/-- Nothing is added to the history. -/
def Silent (F : Except Raised α → Prop) (ms : List Moment) (x : Except Raised α) : Prop :=
  ms = [] ∧ F x

/-- What is silent may be left out. -/
theorem Calls.after {t : Call α} {F : Except Raised α → Prop} {f : α → Call β}
    {D : List Moment → Except Raised β → Prop} (ht : Calls py asks relay i t (Silent F))
    (hf : ∀ a, F (.ok a) → Calls py asks relay i (f a) D)
    (he : ∀ e, F (.error e) → D [] (.error e)) : Calls py asks relay i (t >>= f) D := by
  refine ht.bind ?_ ?_
  · rintro a _ ⟨rfl, hF⟩
    exact hf a hF
  · rintro e _ ⟨rfl, hF⟩
    exact he e hF

section Steps

variable {F : Except Raised α → Prop}

theorem calls_look {f : SharedClient → α} (h : ∀ s, Inv py asks relay s → F (.ok (f s))) :
    Calls py asks relay i (look f) (Silent F) :=
  calls_act (fun _ => ⟨rfl, rfl, rfl, rfl, rfl, rfl, rfl, rfl, rfl, id⟩) (fun s hs => ⟨rfl, h s hs⟩)

theorem calls_change {f : SharedClient → SharedClient} (hf : ∀ s, Plain s (f s)) :
    Calls py asks relay i (change f) (Silent (· = .ok ())) :=
  calls_act hf (fun _ _ => ⟨rfl, rfl⟩)

theorem calls_info (line : LogLine) : Calls py asks relay i (info line) (Silent (· = .ok ())) :=
  calls_change (fun _ => ⟨rfl, rfl, rfl, rfl, rfl, rfl, rfl, rfl, rfl, id⟩)

/-- A look whose answer may be anything, before whatever does `D`. -/
theorem Calls.looked {f : SharedClient → α} {g : α → Call β} {D : List Moment → Except Raised β → Prop}
    (h : ∀ a, Calls py asks relay i (g a) D) : Calls py asks relay i (look f >>= g) D :=
  (calls_look (F := fun x => ∃ a, x = .ok a) (fun _ _ => ⟨_, rfl⟩)).after (fun a _ => h a)
    (fun _ he => nomatch he)

theorem Calls.changed {f : SharedClient → SharedClient} {g : Unit → Call β}
    {D : List Moment → Except Raised β → Prop} (hf : ∀ s, Plain s (f s))
    (h : Calls py asks relay i (g ()) D) : Calls py asks relay i (change f >>= g) D :=
  (calls_change hf).after (fun _ _ => h) (fun _ he => nomatch he)

theorem calls_newSn (time : ℚ) :
    Calls py asks relay i (newSn time) (Silent (fun x => ∃ sn, x = .ok sn)) := by
  refine Calls.looked (fun behind => ?_)
  cases behind with
  | false =>
    exact Calls.changed (fun _ => ⟨rfl, rfl, rfl, rfl, rfl, rfl, rfl, rfl, rfl, id⟩)
      (calls_pure ⟨rfl, _, rfl⟩)
  | true =>
    refine Calls.looked (fun last => ?_)
    exact Calls.changed (fun _ => ⟨rfl, rfl, rfl, rfl, rfl, rfl, rfl, rfl, rfl, id⟩)
      (calls_pure ⟨rfl, _, rfl⟩)

end Steps

/-! ### The local path -/

/-- An exchange at transport `r`, of a frame that is asked with some sequence number: the request takes
the lock, and what it does under it, and how it ends, is as it would be alone. -/
def AtTransport (py : Interpreter) (env : ExchangeEnv) (ask : Str → Frame)
    (reads : LocalTransport → Dict Json → Except Exn α) (r : Nat) (ms : List Moment)
    (x : Except Raised α) : Prop :=
  ∃ sn t n, ms = turn r t (LocalTransport.outcome py t env (ask sn) n).events ∧
    x = ((LocalTransport.outcome py t env (ask sn) n).answer.bind (reads t)).mapError .exn

/-- An exchange with the device's listener, at the transport that is current. -/
def LocalDid (py : Interpreter) (env : ExchangeEnv) (ask : Str → Frame)
    (reads : LocalTransport → Dict Json → Except Exn α) (ms : List Moment) (x : Except Raised α) :
    Prop :=
  ∃ r ms', ms = .chose r :: ms' ∧ AtTransport py env ask reads r ms' x

theorem local_sound {env : LocalEnv} {ask : Str → Frame}
    {reads : LocalTransport → Dict Json → Except Exn α} {rest : Dict Json → Call α}
    (ha : ∀ sn, asks i env.exchange (ask sn))
    (hrest : ∀ t reply d, Sound (rules py asks relay) i
      (fun x s => x = (reads t reply).mapError .exn ∧ Outside i d none s) (rest reply)
      (fun s => Outside i d none s ∧ r < s.built ∧ (s.transports r).self.bare = t.bare)) :
    Sound (rules py asks relay) i
      (fun x s => ∃ ms, AtTransport py env.exchange ask reads r ms x ∧ Outside i (d ++ ms) none s)
      (do let sn ← newSn env.time
          let reply ← Local.exchange py i r env.exchange (ask sn)
          rest reply)
      (fun s => Outside i d none s ∧ r < s.built) := by
  have hsn : Sound (rules py asks relay) i
      (fun x s => (∃ ms, Silent (fun x => ∃ sn, x = .ok sn) ms x ∧ Outside i (d ++ ms) none s) ∧
        r < s.built) (newSn env.time) (fun s => Outside i d none s ∧ r < s.built) :=
    (calls_newSn env.time d).frame (fun _ _ _ _ _ hg h => lt_of_lt_of_le h hg.built)
  refine hsn.bind (fun sn => ?_) ?_
  · refine Sound.pre (P := fun s => Outside i d none s ∧ r < s.built) ?_ ?_ ?_
    · refine (exchange_sound (ha sn)).bind (fun reply => ?_) ?_
      · refine Sound.elim (fun t => Sound.elim (fun n => Sound.const (fun hx => ?_)))
        refine (hrest t reply _).post ?_
        rintro x s _ ⟨hx', hout⟩
        refine ⟨_, ⟨sn, t, n, rfl, ?_⟩, hout⟩
        cases hanswer : (LocalTransport.outcome py t env.exchange (ask sn) n).answer with
        | error e =>
          rw [hanswer] at hx
          cases hx
        | ok reply' =>
          rw [hanswer] at hx
          cases hx
          exact hx'
      · rintro e s _ ⟨t, n, hx, hout, _⟩
        refine ⟨_, ⟨sn, t, n, rfl, ?_⟩, hout⟩
        cases hanswer : (LocalTransport.outcome py t env.exchange (ask sn) n).answer with
        | error e' =>
          rw [hanswer] at hx
          cases hx
          rfl
        | ok reply =>
          rw [hanswer] at hx
          cases hx
    · exact (calls_stable _ _).and built_stable
    · rintro s _ ⟨⟨_, ⟨rfl, _⟩, hout⟩, hr⟩
      rw [List.append_nil] at hout
      exact ⟨hout, hr⟩
  · rintro e s _ ⟨⟨_, ⟨_, _, h⟩, _⟩, _⟩
    cases h

theorem localQuery_sound {env : LocalEnv} {attrs : Option (List Int)}
    (ha : ∀ sn, asks i env.exchange (queryFrameOf attrs sn)) :
    Sound (rules py asks relay) i
      (fun x s => ∃ ms, AtTransport py env.exchange (queryFrameOf attrs)
        (LocalTransport.readData py) r ms x ∧ Outside i (d ++ ms) none s)
      (Local.query py i r env attrs) (fun s => Outside i d none s ∧ r < s.built) := by
  refine local_sound ha (fun t reply d => ?_)
  cases hdata : LocalTransport.dataMap reply with
  | some data =>
    refine sound_pure (outside_stable.and bare_stable) (fun s _ h => ⟨?_, h.1⟩)
    simp only [LocalTransport.readData, hdata]
    rfl
  | none =>
    -- the transport may be in other hands by now, but its address stays
    refine Sound.bind_some (sound_seen guar_refl
      (F := fun a s => a.repr = t.repr ∧ Outside i d none s) (outside_stable.and bare_stable)
      (fun _ => (Rules.Stable.const _).and outside_stable) ?_)
      (fun a => Sound.const (fun ha => ?_))
    · rintro s _ ⟨hout, _, hbare⟩
      exact ⟨by rw [← LocalTransport.repr_bare, hbare, LocalTransport.repr_bare], hout⟩
    · refine sound_raise outside_stable (fun s _ h => ⟨?_, h⟩)
      simp only [LocalTransport.readData, hdata, ha]
      rfl

theorem localControl_sound {env : LocalEnv} {payload : Payload}
    (ha : ∀ sn, asks i env.exchange (setFrameOf payload sn)) :
    Sound (rules py asks relay) i
      (fun x s => ∃ ms, AtTransport py env.exchange (setFrameOf payload)
        (fun _ reply => .ok (LocalTransport.accepted reply)) r ms x ∧ Outside i (d ++ ms) none s)
      (Local.control py i r env payload) (fun s => Outside i d none s ∧ r < s.built) :=
  local_sound ha (fun _ _ _ => sound_pure (outside_stable.and bare_stable) (fun _ _ h => ⟨rfl, h.1⟩))

/-! ### Relocation -/

theorem install_kept {s : SharedClient} {t : LocalTransport} (h : t.conn = none)
    (hinv : Inv py asks relay s) :
    Inv py asks relay (Rediscovering.installed s t) ∧ Guar i s (Rediscovering.installed s t) := by
  have hat : (Rediscovering.installed s t).transports s.built = ⟨t, none, []⟩ := by
    simp only [Rediscovering.installed, SharedClient.put, Function.update_self]
  have hoff {r : Nat} (hr : r ≠ s.built) :
      (Rediscovering.installed s t).transports r = s.transports r := by
    simp only [Rediscovering.installed, SharedClient.put, Function.update_of_ne hr]
  obtain ⟨hconn, hjournal, hlock⟩ := hinv.unbuilt s.built (le_refl _)
  refine ⟨⟨Nat.lt_succ_self _, hinv.cloud, hinv.interval, ?_, ?_, ?_⟩,
    ⟨fun _ _ => rfl, fun _ _ => rfl, adds_nothing rfl, Nat.le_succ _, ?_, ?_, ?_, id⟩⟩
  · intro r hr
    rw [hoff (Nat.lt_of_succ_le hr).ne']
    exact hinv.unbuilt r (Nat.le_of_succ_le hr)
  · intro r hr
    by_cases hne : r = s.built
    · rw [hne, hat]
      exact .free t t [] h .start
    · rw [hoff hne]
      exact hinv.orderly r (lt_of_le_of_ne (Nat.le_of_lt_succ hr) hne)
  · refine hinv.sockets.of_eq rfl rfl (fun p => ?_) (fun p => ?_)
    · cases p with
      | transport r =>
        by_cases hne : r = s.built
        · simp only [SharedClient.held, hne, hat, hconn, h]
        · simp only [SharedClient.held, hoff hne]
      | request j => rfl
    · cases p with
      | transport r =>
        by_cases hne : r = s.built
        · simp only [SharedClient.record, SharedTransport.events, hne, hat, hjournal]
        · simp only [SharedClient.record, hoff hne]
      | request j => rfl
  · intro r j _ hheld
    refine hoff ?_
    intro heq
    subst heq
    rw [hlock] at hheld
    cases hheld
  · intro r j _ hheld
    by_cases hne : r = s.built
    · rw [hne, hat] at hheld
      cases hheld
    · rwa [hoff hne] at hheld
  · intro r hr
    rw [hoff hr.ne]

theorem calls_install {t : LocalTransport} (h : t.conn = none) :
    Calls py asks relay i (Rediscovering.install t) (Silent (· = .ok ())) := by
  intro d
  refine sound_act outside_stable (fun x => calls_stable _ x) ?_
  intro s hinv hout
  obtain ⟨hinv', hguar⟩ := install_kept (i := i) h hinv
  refine ⟨hinv', hguar, [], ⟨rfl, rfl⟩, ?_⟩
  rw [List.append_nil]
  refine ⟨hout.history, hout.own, fun r hr => ?_⟩
  by_cases hne : r = s.built
  · subst hne
    simp only [after, EStateM.run_modify, Rediscovering.installed, SharedClient.put,
      Function.update_self] at hr
    cases hr
  · simp only [after, EStateM.run_modify, Rediscovering.installed, SharedClient.put,
      Function.update_of_ne hne] at hr
    exact hout.free r hr

/-- What a request finds changes nothing but its history. -/
theorem adding_kept {s : SharedClient} {ms : List Moment} (hms : ∀ m ∈ ms, m.event = none)
    (hadds : Adds s ms) (hinv : Inv py asks relay s) :
    Inv py asks relay (s.adding i ms) ∧ Guar i s (s.adding i ms) := by
  refine ⟨⟨hinv.current, hinv.cloud, hinv.interval, hinv.unbuilt, hinv.orderly, ?_⟩, fun _ _ => rfl,
    fun _ hj => SharedClient.adding_other hj s ms, ⟨ms, SharedClient.adding_history s i ms, hadds⟩,
    le_refl _, fun _ _ _ _ => rfl, fun _ _ _ h => h, fun _ _ => rfl, id⟩
  refine hinv.sockets.of_eq rfl rfl (fun p => ?_) (fun p => ?_)
  · cases p <;> rfl
  · cases p with
    | transport r => rfl
    | request j => exact SharedClient.adding_done hms s i j

theorem Outside.adding {s : SharedClient} {o : Option Nat} (h : Outside i d o s) (ms : List Moment) :
    Outside i (d ++ ms) o (s.adding i ms) :=
  ⟨by rw [SharedClient.adding_history, h.history], h.own, h.free⟩

theorem calls_find {f : SharedClient → α} {m : α → Moment} (hm : ∀ a, (m a).event = none)
    (hadds : ∀ s, Adds s [m (f s)]) :
    Calls py asks relay i (find i f m) (fun ms x => ∃ a, ms = [m a] ∧ x = .ok a) := by
  intro d
  refine sound_act outside_stable
    (fun x => calls_stable (fun ms x => ∃ a, ms = [m a] ∧ x = .ok a) x) ?_
  intro s hinv hout
  obtain ⟨hinv', hguar⟩ := adding_kept (i := i) (List.forall_mem_singleton.mpr (hm (f s)))
    (hadds s) hinv
  exact ⟨hinv', hguar, _, ⟨f s, rfl, rfl⟩, hout.adding _⟩

/-- What the transport that is current can do, a request may do. -/
theorem Calls.atTransport {f : Nat → Call α} {B : List Moment → Except Raised α → Prop}
    (h : ∀ r d, Sound (rules py asks relay) i
      (fun x s => ∃ ms, B (.chose r :: ms) x ∧ Outside i (d ++ ms) none s) (f r)
      (fun s => Outside i d none s ∧ r < s.built)) :
    Calls py asks relay i (Rediscovering.transport i >>= f) B := by
  intro d
  refine Sound.bind_some (F := fun r s => Outside i (d ++ [.chose r]) none s ∧ r < s.built) ?_
    (fun r => ?_)
  · refine sound_act outside_stable (fun _ => .exists (fun r =>
      (Rules.Stable.const _).and (outside_stable.and built_stable))) ?_
    intro s hinv hout
    obtain ⟨hinv', hguar⟩ := adding_kept (i := i) (by simp [Moment.event]) Adds.chose hinv
    exact ⟨hinv', hguar, _, rfl, hout.adding _, hinv.current⟩
  · refine (h r _).post ?_
    rintro x s _ ⟨ms, hB, hout⟩
    rw [List.append_assoc] at hout
    exact ⟨_, hB, hout⟩

theorem calls_local {env : ExchangeEnv} {ask : Str → Frame}
    {reads : LocalTransport → Dict Json → Except Exn α} {f : Nat → Call α}
    (h : ∀ r d, Sound (rules py asks relay) i
      (fun x s => ∃ ms, AtTransport py env ask reads r ms x ∧ Outside i (d ++ ms) none s) (f r)
      (fun s => Outside i d none s ∧ r < s.built)) :
    Calls py asks relay i (Rediscovering.transport i >>= f) (LocalDid py env ask reads) := by
  refine Calls.atTransport (fun r d => (h r d).post ?_)
  rintro x s _ ⟨ms, hat, hout⟩
  exact ⟨ms, ⟨r, ms, rfl, hat⟩, hout⟩

/-- The transport that is current has been closed. -/
def Closed (ms : List Moment) : Prop :=
  ∃ r t, ms = .chose r :: turn r t (t.held.map .closed)

/-- A search for the device on the sockets: when it is found elsewhere, the connection to its old
address is dropped. -/
def Relocated (env : SearchEnv) (ms : List Moment) (x : Except Raised Bool) : Prop :=
  ms = [] ∧ (x = .ok false ∨ ∃ e, env.found = .error e ∧ x = .error (.exn e)) ∨
    x = .ok true ∧ Closed ms ∧ ∃ host, env.found = .ok (some host)

theorem calls_rediscover (env : SearchEnv) :
    Calls py asks relay i (Rediscovering.rediscover env) (Silent (· = env.found.mapError .exn)) := by
  unfold Rediscovering.rediscover
  cases env.probe with
  | none => exact calls_done ⟨rfl, rfl⟩
  | some time =>
    exact (calls_newSn time).after (fun _ _ => calls_done ⟨rfl, rfl⟩) (fun _ h => nomatch h.choose_spec)

/-- Once there has been a search, there always has been one. -/
theorem calls_tooRecent (now : ℚ) :
    Calls py asks relay i (Rediscovering.tooRecent now) (Silent (fun x => ∃ recent, x = .ok recent)) := by
  intro d
  have hsearched : (rules py asks relay).Stable i (fun s => s.client.local'.lastSearch.isSome) :=
    fun _ _ _ _ _ _ hg h => hg.searched h
  have hdone (P : SharedClient → Prop) (hP : (rules py asks relay).Stable i P) (recent : Bool)
      (hout : ∀ s, P s → Outside i d none s) : Sound (rules py asks relay) i
      (fun x s => ∃ evs, Silent (fun x => ∃ recent, x = .ok recent) evs x ∧
        Outside i (d ++ evs) none s) (pure recent) P :=
    sound_pure hP (fun s _ h => ⟨[], ⟨rfl, recent, rfl⟩, by rw [List.append_nil]; exact hout s h⟩)
  refine Sound.bind_some (sound_seen guar_refl
    (F := fun last s => (last.isSome → s.client.local'.lastSearch.isSome) ∧ Outside i d none s)
    outside_stable (fun last => ?_) (fun s _ hout => ⟨id, hout⟩)) (fun last => ?_)
  · exact fun j s s' hj hs hs' hg h =>
      ⟨fun hl => hg.searched (h.1 hl), outside_stable j s s' hj hs hs' hg h.2⟩
  · cases last with
    | none => exact hdone _ (fun j s s' hj hs hs' hg h =>
        ⟨fun hl => (nomatch hl), outside_stable j s s' hj hs hs' hg h.2⟩) false (fun _ h => h.2)
    | some _ =>
      refine Sound.pre (P := fun s => s.client.local'.lastSearch.isSome ∧ Outside i d none s) ?_ ?_ ?_
      · refine Sound.bind_some (sound_seen guar_refl
          (F := fun p s => p.1.isSome ∧ Outside i d none s) (hsearched.and outside_stable)
          (fun _ => (Rules.Stable.const _).and outside_stable)
          (fun s _ h => h)) (fun p => Sound.const (fun hp => ?_))
        rcases p with ⟨_ | last, interval⟩
        · cases hp
        · exact hdone _ outside_stable _ (fun _ h => h)
      · exact fun j s s' hj hs hs' hg h =>
          ⟨fun hl => hg.searched (h.1 hl), outside_stable j s s' hj hs hs' hg h.2⟩
      · exact fun s _ h => ⟨h.1 rfl, h.2⟩

theorem calls_relocate (factory : Factory) (env : SearchEnv) :
    Calls py asks relay i (Rediscovering.relocate factory i env) (Relocated env) := by
  have hfalse : Relocated env [] (.ok false) := .inl ⟨rfl, .inl rfl⟩
  refine (calls_tooRecent env.now).after (fun recent _ => ?_) (fun _ h => nomatch h.choose_spec)
  cases recent with
  | true => exact calls_pure hfalse
  | false =>
    refine Calls.changed (fun _ => ⟨rfl, rfl, rfl, rfl, rfl, rfl, rfl, rfl, rfl, fun _ => rfl⟩) ?_
    refine (calls_rediscover env).handled ?_
    rintro found _ ⟨rfl, rfl⟩
    cases hfound : env.found with
    | error e =>
      have herror : Relocated env [] (.error (.exn e)) := .inl ⟨rfl, .inr ⟨e, hfound, rfl⟩⟩
      cases e <;> first | exact calls_pure hfalse | exact calls_raise herror
    | ok found =>
      cases found with
      | none => exact calls_pure hfalse
      | some found =>
        refine Calls.looked (fun host => ?_)
        by_cases hsame : found = [] ∨ found = host
        · simp only [if_pos hsame]
          exact calls_pure hfalse
        · simp only [if_neg hsame]
          have hrest : Calls py asks relay i (do
              changeClient (fun c => { c with local' := { c.local' with host := found } })
              Rediscovering.install (factory.build found)
              return true) (Silent (· = .ok true)) := by
            refine Calls.changed (fun _ => ⟨rfl, rfl, rfl, rfl, rfl, rfl, rfl, rfl, rfl, id⟩) ?_
            exact (calls_install (factory.idle found)).after (fun _ _ => calls_pure ⟨rfl, rfl⟩)
              (fun _ h => nomatch h)
          refine Calls.atTransport (fun r d => close_sound.bind
            (fun _ => Sound.elim (fun t => Sound.const (fun _ => ?_))) ?_)
          · refine (hrest _).post ?_
            rintro x s _ ⟨_, ⟨rfl, hx⟩, hout⟩
            rw [List.append_nil] at hout
            exact ⟨_, .inr ⟨hx, ⟨r, t, rfl⟩, found, hfound⟩, hout⟩
          · rintro e s _ ⟨_, h, _⟩
            cases h

/-- What a call raises that could not reach the device: that error, or what the search for it raised. -/
def Lost (env : SearchEnv) (e : TransportError) (x : Raised) : Prop :=
  x = .exn (.transport e) ∨ ∃ e', env.found = .error e' ∧ x = .exn e'

/-- What the local path does for a query: a device that fails to answer is looked for, and asked again
where it is found. -/
inductive Fetched (py : Interpreter) (env : RediscoverEnv LocalEnv) (ask : Str → Frame)
    (reads : LocalTransport → Dict Json → Except Exn α) : List Moment → Except Raised α → Prop
  | once (h : LocalDid py env.first.exchange ask reads ms x)
      (hx : ∀ e, x ≠ .error (.exn (.transport e))) : Fetched py env ask reads ms x
  | lost (h : LocalDid py env.first.exchange ask reads ms (.error (.exn (.transport e))))
      (hx : Lost env.search e x) : Fetched py env ask reads ms (.error x)
  | moved (h : LocalDid py env.first.exchange ask reads ms (.error (.exn (.transport e))))
      (hfound : env.search.found = .ok (some host)) (hc : Closed closed)
      (h' : LocalDid py env.retry.exchange ask reads ms' x) :
      Fetched py env ask reads (ms ++ (closed ++ ms')) x

/-- What the local path does for a command: it is not made again. -/
inductive Commanded (py : Interpreter) (env : RediscoverEnv LocalEnv) (ask : Str → Frame)
    (reads : LocalTransport → Dict Json → Except Exn α) : List Moment → Except Raised α → Prop
  | once (h : LocalDid py env.first.exchange ask reads ms x)
      (hx : ∀ e, x ≠ .error (.exn (.transport e))) : Commanded py env ask reads ms x
  | lost (h : LocalDid py env.first.exchange ask reads ms (.error (.exn (.transport e))))
      (hc : closed = [] ∨ Closed closed) (hx : Lost env.search e x) :
      Commanded py env ask reads (ms ++ closed) (.error x)

theorem calls_rediscoveringQuery {factory : Factory} {env : RediscoverEnv LocalEnv}
    {attrs : Option (List Int)}
    (ha : ∀ sn, asks i env.first.exchange (queryFrameOf attrs sn))
    (ha' : ∀ sn, asks i env.retry.exchange (queryFrameOf attrs sn)) :
    Calls py asks relay i (Rediscovering.query py factory i env attrs)
      (Fetched py env (queryFrameOf attrs) (LocalTransport.readData py)) := by
  have hfirst : Calls py asks relay i
      (do Local.query py i (← Rediscovering.transport i) env.first attrs)
      (LocalDid py env.first.exchange (queryFrameOf attrs) (LocalTransport.readData py)) :=
    calls_local (fun _ _ => localQuery_sound ha)
  have hretry : Calls py asks relay i
      (do Local.query py i (← Rediscovering.transport i) env.retry attrs)
      (LocalDid py env.retry.exchange (queryFrameOf attrs) (LocalTransport.readData py)) :=
    calls_local (fun _ _ => localQuery_sound ha')
  refine hfirst.handled (fun r ms hr => ?_)
  rcases r with (e | _) | data
  · cases e with
    | transport e =>
      refine (calls_relocate factory env.search).bind (fun moved ms' hm => ?_) ?_
      · rcases hm with ⟨rfl, hfalse | ⟨_, _, h⟩⟩ | ⟨hmoved, hclosed, host, hfound⟩
        · cases hfalse
          exact calls_raise (by simpa using .lost hr (.inl rfl))
        · cases h
        · cases hmoved
          refine Calls.looked (fun l => (calls_info _).after (fun _ _ => ?_) (fun _ h => nomatch h))
          exact hretry.mono (fun ms' x h => by simpa using .moved hr hfound hclosed h)
      · rintro x ms' (⟨rfl, h | ⟨e', hfound, h⟩⟩ | ⟨h, _⟩)
        · cases h
        · cases h
          simpa using .lost hr (.inr ⟨e', hfound, rfl⟩)
        · cases h
    | _ => exact calls_raise (by simpa using .once hr (fun _ h => nomatch h))
  · exact calls_raise (by simpa using .once hr (fun _ h => nomatch h))
  · exact calls_pure (by simpa using .once hr (fun _ h => nomatch h))

theorem calls_rediscoveringControl {factory : Factory} {env : RediscoverEnv LocalEnv}
    {payload : Payload} (ha : ∀ sn, asks i env.first.exchange (setFrameOf payload sn)) :
    Calls py asks relay i (Rediscovering.control py factory i env payload)
      (Commanded py env (setFrameOf payload)
        (fun _ reply => .ok (LocalTransport.accepted reply))) := by
  have hfirst : Calls py asks relay i
      (do Local.control py i (← Rediscovering.transport i) env.first payload)
      (LocalDid py env.first.exchange (setFrameOf payload)
        (fun _ reply => .ok (LocalTransport.accepted reply))) :=
    calls_local (fun _ _ => localControl_sound ha)
  refine hfirst.handled (fun r ms hr => ?_)
  rcases r with (e | _) | accepted
  · cases e with
    | transport e =>
      refine (calls_relocate factory env.search).bind (fun moved ms' hm => calls_raise ?_) ?_
      · rcases hm with ⟨rfl, _⟩ | ⟨_, hclosed, _⟩
        · exact .lost hr (.inl rfl) (.inl rfl)
        · simpa using .lost hr (.inr hclosed) (.inl rfl)
      · rintro x ms' (⟨rfl, h | ⟨e', hfound, h⟩⟩ | ⟨h, _⟩)
        · cases h
        · cases h
          exact .lost hr (.inl rfl) (.inr ⟨e', hfound, rfl⟩)
        · cases h
    | _ => exact calls_raise (by simpa using .once hr (fun _ h => nomatch h))
  · exact calls_raise (by simpa using .once hr (fun _ h => nomatch h))
  · exact calls_pure (by simpa using .once hr (fun _ h => nomatch h))

/-! ### The relay -/

/-- What a step on a connection of the request's own comes to; `own` is the connection. -/
structure OwnEffect (m : EStateM Exn World α) (own : Option Nat) (w : World) (x : Except Exn α)
    (own' : Option Nat) (evs : List Event) : Prop where
  ends : answer m w = x
  leaves : after m w = w.past evs
  opens : newSockets evs = [] ∨ newSockets evs = [w.sockets]
  stays : ∀ e ∈ evs, ∀ n, e.socket = some n → own = some n ∨ n ∈ newSockets evs
  track : evs.foldl Event.track own.toList = own'.toList

/-- What makes a request talk on a connection of its own, whatever else goes on: it owns what it owned
after its last step. -/
structure Dialogue (R : Rules SharedClient) (i : Nat)
    (On : List Event → Option Nat → SharedClient → Prop) : Prop where
  stable : ∀ {evs own}, R.Stable i (On evs own)
  own : ∀ {evs own s}, On evs own s → s.own i = own
  step : ∀ {α} {m : EStateM Exn World α} {own evs s x own' evs'},
    R.inv s → On evs own s → OwnEffect m own s.world x own' evs' →
      R.inv (s.talked i own' (s.world.past evs')) ∧
        R.guar i s (s.talked i own' (s.world.past evs')) ∧
        On (evs ++ evs') own' (s.talked i own' (s.world.past evs'))

section Own

variable {own own' : Option Nat} {m : EStateM Exn World α} {owns : α → Option Nat → Option Nat}
  {s : SharedClient} {x : Except Exn α} {evs : List Event}

/-- Who owns the connection after a step. -/
def owned (owns : α → Option Nat → Option Nat) (own : Option Nat) : Except Exn α → Option Nat
  | .ok a => owns a own
  | .error _ => own

theorem onOwn_answer (s : SharedClient) :
    answer (Relay.onOwn i owns m) s = (answer m s.world).mapError .exn := by
  simp only [answer, Relay.onOwn, EStateM.run]
  cases m s.world <;> rfl

theorem onOwn_after (s : SharedClient) : after (Relay.onOwn i owns m) s =
    s.talked i (owned owns (s.own i) (answer m s.world)) (after m s.world) := by
  simp only [after, answer, Relay.onOwn, EStateM.run]
  cases m s.world <;> rfl

theorem talked_history {w : World} (hnews : SharedClient.news s.world w = evs) :
    (s.talked i own' w).history i = s.history i ++ evs.map .did := by
  simp only [SharedClient.talked, SharedClient.adding, Function.update_self, hnews]

theorem talked_unchanged {w : World} {j : Nat} (hj : j ≠ i) :
    (s.talked i own' w).history j = s.history j := by
  simp only [SharedClient.talked, SharedClient.adding, Function.update_of_ne hj]

theorem own_moves (he : OwnEffect m (s.own i) s.world x own' evs) :
    SharedClient.Moves s (s.talked i own' (s.world.past evs)) (.request i) evs := by
  have hnews : SharedClient.news s.world (s.world.past evs) = evs := news_eq rfl
  refine ⟨rfl, World.past_sockets he.opens, ?_, ?_, ?_, ?_, ?_⟩
  · exact fun e hmem n hsock => (he.stays e hmem n hsock).imp_right (World.past_new he.opens)
  · simp only [SharedClient.held, SharedClient.talked, Function.update_self]
    exact he.track
  · intro p' hp'
    cases p' with
    | transport r' => rfl
    | request j =>
      have hj : j ≠ i := fun heq => hp' (heq ▸ rfl)
      simp only [SharedClient.held, SharedClient.talked, Function.update_of_ne hj]
  · exact (SharedClient.done_append (talked_history hnews)).trans (by rw [Moment.events_did]; rfl)
  · intro p' hp'
    left
    cases p' with
    | transport r' => rfl
    | request j =>
      have hj : j ≠ i := fun heq => hp' (heq ▸ rfl)
      exact SharedClient.done_eq (talked_unchanged hj)

theorem outside_dialogue : Dialogue (rules py asks relay) i
    (fun evs => Outside i (d ++ evs.map .did)) where
  stable := outside_stable
  own h := h.own
  step := by
    intro α m own evs s x own' evs' hinv hout he
    obtain rfl := hout.own
    have hnews : SharedClient.news s.world (s.world.past evs') = evs' := news_eq rfl
    have hsockets := hinv.sockets.step (own_moves he)
    refine ⟨⟨hinv.current, hinv.cloud, hinv.interval, hinv.unbuilt, hinv.orderly, hsockets⟩,
      ⟨?_, ?_, ⟨_, talked_history hnews, .did evs'⟩, le_refl _, fun _ _ _ _ => rfl, fun _ _ _ h => h,
        fun _ _ => rfl, id⟩, ?_, ?_, hout.free⟩
    · exact fun j hj => Function.update_of_ne hj ..
    · exact fun j hj => talked_unchanged hj
    · rw [talked_history hnews, hout.history, List.append_assoc, List.map_append]
    · simp only [SharedClient.talked, Function.update_self]

variable {R : Rules SharedClient} {On : List Event → Option Nat → SharedClient → Prop}
  {d : List Event}

/-- A step on a connection that the request has for itself. -/
theorem Dialogue.sound_own (h : Dialogue R i On) {M : Except Exn α → Option Nat → List Event → Prop}
    (hm : ∀ w, ∃ x evs, OwnEffect m own w x (owned owns own x) evs ∧ M x (owned owns own x) evs) :
    Sound R i
      (fun y s => ∃ x own' evs, y = x.mapError .exn ∧ M x own' evs ∧ On (d ++ evs) own' s)
      (.act (Relay.onOwn i owns m)) (On d own) := by
  refine sound_act h.stable (fun y => .exists (fun x => .exists (fun own' => .exists
    (fun evs => (Rules.Stable.const _).and ((Rules.Stable.const _).and h.stable))))) ?_
  intro s hinv hon
  obtain ⟨x, evs, he, hM⟩ := hm s.world
  obtain ⟨hinv', hguar, hon'⟩ := h.step hinv hon he
  have hafter : after (Relay.onOwn i owns m) s =
      s.talked i (owned owns own x) (s.world.past evs) := by
    rw [onOwn_after, he.ends, he.leaves, h.own hon]
  rw [hafter, onOwn_answer, he.ends]
  exact ⟨hinv', hguar, x, _, evs, rfl, hM, hon'⟩

/-- A step on the connection there is, which goes on. -/
theorem Dialogue.sound_spoken (h : Dialogue R i On) {n : Nat} (hends : ∀ w, answer m w = x)
    (hafter : ∀ w, after m w = { w with trace := w.trace ++ evs })
    (hevs : ∀ e ∈ evs, e.socket = some n ∧ (∀ opened, e.track opened = opened) ∧ e.opens = none) :
    Sound R i (fun y s => y = x.mapError .exn ∧ On (d ++ evs) (some n) s)
      (Relay.step i m) (On d (some n)) := by
  have hopens : newSockets evs = [] := newSockets_none (fun e he => (hevs e he).2.2)
  have heffect (w : World) : OwnEffect m (some n) w x (some n) evs := by
    refine ⟨hends w, ?_, .inl hopens, ?_, track_still (fun e he => (hevs e he).2.1) _⟩
    · rw [hafter, World.past_still hopens]
    · intro e he k hk
      rw [(hevs e he).1] at hk
      exact .inl hk
  have howned (y : Except Exn α) : owned (fun _ own => own) (some n) y = some n := by
    cases y <;> rfl
  refine (h.sound_own (M := fun y o e => y = x ∧ o = some n ∧ e = evs)
    (fun w => ⟨x, evs, by rw [howned]; exact heffect w, rfl, howned x, rfl⟩)).post ?_
  rintro y s _ ⟨_, _, _, hy, ⟨rfl, rfl, rfl⟩, hon⟩
  exact ⟨hy, hon⟩

end Own

section Exchange

variable {R : Rules SharedClient} {On : List Event → Option Nat → SharedClient → Prop}
  {d : List Event} (h : Dialogue R i On) (self : CloudRelayTransport) (env : RelayEnv) (frame : Frame)
  {n : Nat}

include h

theorem sent_sound (raw : Bytes) (o : SendOutcome) (conn : LineSocket) :
    Sound R i
      (fun y s => y = (match o with
          | .accepted => .ok ()
          | .failed _ fault => .error (.exn (sendError fault))) ∧
        On (d ++ [.sent conn.sock conn.timeout raw (o.taken raw)]) (some conn.sock) s)
      (Relay.step i (conn.sendLine raw o)) (On d (some conn.sock)) := by
  have hends (w : World) : answer (conn.sendLine raw o) w = match o with
      | .accepted => .ok ()
      | .failed _ fault => .error (sendError fault) := by
    cases o <;> simp [answer]
  have hafter (w : World) : after (conn.sendLine raw o) w =
      { w with trace := w.trace ++ [.sent conn.sock conn.timeout raw (o.taken raw)] } := by
    cases o <;> simp [after, SendOutcome.taken]
  refine (h.sound_spoken hends hafter (by simp [Event.socket, Event.track, Event.opens])).post ?_
  rintro y s _ ⟨hy, hon⟩
  refine ⟨?_, hon⟩
  rw [hy]
  cases o <;> rfl

theorem converse_sound : Sound R i
    (fun x s => x = (self.talk py env frame n).2.mapError .exn ∧
      On (d ++ (self.talk py env frame n).1) (some n) s)
    (Relay.converse py self i env frame ⟨n, [], some self.timeout⟩) (On d (some n)) := by
  have hsent (d : List Event) (raw : Bytes) (o : SendOutcome) : Sound R i
      (fun y s => y = (match o with
          | .accepted => .ok ()
          | .failed _ fault => .error (.exn (sendError fault))) ∧
        On (d ++ [.sent n (some self.timeout) raw (o.taken raw)]) (some n) s)
      (Relay.step i (LineSocket.sendLine ⟨n, [], some self.timeout⟩ raw o)) (On d (some n)) :=
    sent_sound h raw o ⟨n, [], some self.timeout⟩
  unfold Relay.converse
  cases hsub : self.subscribeLine with
  | error e =>
    refine sound_done _ h.stable (fun s _ hon => ?_)
    simp only [CloudRelayTransport.talk, hsub]
    exact ⟨rfl, by rw [List.append_nil]; exact hon⟩
  | ok sub =>
    refine Sound.done_bind ?_
    cases hs : env.subscribe with
    | failed k fault =>
      refine Sound.bind_error (hsent d sub (.failed k fault)) ?_
      intro s _ hon
      simp only [CloudRelayTransport.talk, hsub, hs]
      exact ⟨rfl, hon⟩
    | accepted =>
      refine Sound.bind_ok (hsent d sub .accepted) ?_
      cases hpub : self.publishLine py frame with
      | error e =>
        refine sound_done _ h.stable (fun s _ hon => ?_)
        simp only [CloudRelayTransport.talk, hsub, hs, hpub]
        exact ⟨rfl, hon⟩
      | ok pub =>
        refine Sound.done_bind ?_
        cases hp : env.publish with
        | failed k fault =>
          refine Sound.bind_error (hsent _ pub (.failed k fault)) ?_
          intro s _ hon
          simp only [CloudRelayTransport.talk, hsub, hs, hpub, hp]
          refine ⟨rfl, ?_⟩
          rw [List.append_assoc] at hon
          exact hon
        | accepted =>
          refine Sound.bind_ok (hsent _ pub .accepted) ?_
          have hreads : Lines.Reads _ _ _ _ _ (self.hear py env frame n) :=
            Lines.lines_reads (self.relayVerdict py frame) (env.started + self.timeout) env.turns ()
              ⟨n, [], some self.timeout⟩
          have hheard (e : Event) (he : e ∈ (self.hear py env frame n).events) :
              e.socket = some n ∧ (∀ opened, e.track opened = opened) ∧ e.opens = none := by
            obtain ⟨mode, chunk, rfl⟩ := hreads.events e he
            exact ⟨rfl, fun _ => rfl, rfl⟩
          refine Sound.bind_ok (h.sound_spoken (m := record (self.hear py env frame n).events)
            (x := .ok ()) (fun _ => rfl) (fun _ => rfl) hheard) ?_
          rcases hx : (self.hear py env frame n).exit with _ | reply | e <;>
          · have hx' := hx
            simp only [CloudRelayTransport.hear] at hx'
            simp only [CloudRelayTransport.talk, hsub, hs, hpub, hp, hx, hx']
            refine sound_done _ h.stable (fun s _ hon => ⟨rfl, ?_⟩)
            simp only [List.append_assoc] at hon
            exact hon

theorem hangUp_sound (conn : LineSocket) : Sound R i
    (fun x s => x = .ok () ∧ On (d ++ [.closed conn.sock]) none s)
    (Relay.hangUp i conn) (On d (some conn.sock)) := by
  have heffect (w : World) : OwnEffect conn.close (some conn.sock) w (.ok ()) none
      [.closed conn.sock] := by
    refine ⟨rfl, (World.past_still rfl w).symm, .inl rfl, ?_, by simp [Event.track]⟩
    intro e he n hn
    rw [List.mem_singleton.mp he] at hn
    exact .inl hn
  refine (h.sound_own (M := fun x o evs => x = .ok () ∧ o = none ∧ evs = [.closed conn.sock])
    (fun w => ⟨.ok (), _, heffect w, rfl, rfl, rfl⟩)).post ?_
  rintro y s _ ⟨_, _, _, hy, ⟨rfl, rfl, rfl⟩, hon⟩
  exact ⟨hy, hon⟩

theorem dial_failed {o : ConnectOutcome} {e : Exn}
    (hrun : ∀ w, (connect py self.host self.port self.timeout o).run w =
      .error e { w with trace := w.trace ++ [.connecting self.host self.port self.timeout] }) :
    Sound R i
      (fun x s => x = .error (.exn e) ∧
        On (d ++ [.connecting self.host self.port self.timeout]) none s)
      (Relay.dial py i self o) (On d none) := by
  have heffect (w : World) : OwnEffect (connect py self.host self.port self.timeout o) none w
      (.error e) none [.connecting self.host self.port self.timeout] := by
    refine ⟨?_, ?_, .inl rfl, ?_, rfl⟩
    · rw [answer, hrun]
    · rw [after, hrun, World.past_still rfl]
    · intro e he n hn
      rw [List.mem_singleton.mp he] at hn
      cases hn
  refine (h.sound_own (M := fun x o evs => x = .error e ∧ o = none ∧
      evs = [.connecting self.host self.port self.timeout])
    (fun w => ⟨.error e, _, heffect w, rfl, rfl, rfl⟩)).post ?_
  rintro y s _ ⟨_, _, _, hy, ⟨rfl, rfl, rfl⟩, hon⟩
  exact ⟨hy, hon⟩

theorem dial_opened (hi : addressable py self.host self.port = true) : Sound R i
    (fun x s => ∃ n, x = .ok ⟨n, [], some self.timeout⟩ ∧
      On (d ++ [.connecting self.host self.port self.timeout, .opened n]) (some n) s)
    (Relay.dial py i self .opened) (On d none) := by
  have hrun (w : World) := connect_opened py w self.host self.port self.timeout hi
  have heffect (w : World) : OwnEffect (connect py self.host self.port self.timeout .opened) none w
      (.ok ⟨w.sockets, [], some self.timeout⟩) (some w.sockets)
      [.connecting self.host self.port self.timeout, .opened w.sockets] := by
    refine ⟨?_, ?_, .inr rfl, ?_, rfl⟩
    · rw [answer, hrun]
    · rw [after, hrun]
      rfl
    · intro e he n hn
      right
      simp only [List.mem_cons, List.not_mem_nil, or_false] at he
      rcases he with rfl | rfl
      · cases hn
      · cases hn
        exact List.mem_singleton_self _
  refine (h.sound_own (M := fun x o evs => ∃ n, x = .ok ⟨n, [], some self.timeout⟩ ∧ o = some n ∧
      evs = [.connecting self.host self.port self.timeout, .opened n])
    (fun w => ⟨.ok ⟨w.sockets, [], some self.timeout⟩, _, heffect w, w.sockets, rfl, rfl,
      rfl⟩)).post ?_
  rintro y s _ ⟨_, _, _, hy, ⟨n, rfl, rfl, rfl⟩, hon⟩
  exact ⟨n, hy, hon⟩

/-- An exchange with the relay, from the connection to its end. -/
theorem relayExchange_sound : Sound R i
    (fun x s => ∃ n, x = (self.outcome py env frame n).answer.mapError .exn ∧
      On (d ++ (self.outcome py env frame n).events) none s)
    (Relay.exchange py self i env frame) (On d none) := by
  cases hi : addressable py self.host self.port with
  | false =>
    refine Sound.bind_error
      (dial_failed h self (fun w => connect_unaddressable py w _ _ _ env.connect hi)) ?_
    intro s _ hon
    refine ⟨0, ?_⟩
    simp only [CloudRelayTransport.outcome, hi]
    exact ⟨rfl, hon⟩
  | true =>
    cases hc : env.connect with
    | refused text =>
      refine Sound.bind_error (dial_failed h self
        (fun w => by rw [hc]; exact connect_refused py w _ _ _ text hi)) ?_
      intro s _ hon
      refine ⟨0, ?_⟩
      simp only [CloudRelayTransport.outcome, hi, hc]
      exact ⟨rfl, hon⟩
    | opened =>
      have hdial : Sound R i
          (fun x s => ∃ n, x = .ok ⟨n, [], some self.timeout⟩ ∧
            On (d ++ [.connecting self.host self.port self.timeout, .opened n]) (some n) s)
          (Relay.dial py i self env.connect) (On d none) := by
        rw [hc]
        exact dial_opened h self hi
      refine hdial.bind (fun conn => Sound.elim (fun n => Sound.const (fun hconn => ?_))) ?_
      · cases hconn
        refine Sound.bind (Q := fun x s => x = (self.talk py env frame n).2.mapError .exn ∧
          On (d ++ (self.outcome py env frame n).events) none s) ?_ (fun reply => ?_) ?_
        · refine Sound.ensuring (converse_sound h self env frame)
            (fun x => Sound.const (fun hx => ?_)) (fun x => (Rules.Stable.const _).and h.stable)
          refine (hangUp_sound h ⟨n, [], some self.timeout⟩).post ?_
          rintro y s _ ⟨hy, hon⟩
          refine ⟨hy, hx, ?_⟩
          simp only [CloudRelayTransport.outcome, hi, hc]
          simp only [List.append_assoc] at hon
          exact hon
        · refine Sound.const (fun hreply => ?_)
          have htalk : (self.talk py env frame n).2 = .ok reply := by
            cases ht : (self.talk py env frame n).2 with
            | ok r =>
              rw [ht] at hreply
              cases hreply
              rfl
            | error e =>
              rw [ht] at hreply
              cases hreply
          cases reply with
          | some reply =>
            refine sound_pure h.stable (fun s _ hon => ⟨n, ?_, hon⟩)
            simp only [CloudRelayTransport.outcome, hi, hc, htalk]
            rfl
          | none =>
            refine sound_raise h.stable (fun s _ hon => ⟨n, ?_, hon⟩)
            simp only [CloudRelayTransport.outcome, hi, hc, htalk]
            rfl
        · rintro e s _ ⟨he, hon⟩
          refine ⟨n, ?_, hon⟩
          cases ht : (self.talk py env frame n).2 with
          | ok r =>
            rw [ht] at he
            cases he
          | error e' =>
            rw [ht] at he
            cases he
            simp only [CloudRelayTransport.outcome, hi, hc, ht]
            rfl
      · rintro e s _ ⟨_, he, _⟩
        cases he

end Exchange

/-- What the relay path does: an exchange of a frame that is asked with some sequence number. -/
def RelayDid (py : Interpreter) (self : CloudRelayTransport) (env : RelayEnv) (ask : Str → Frame)
    (reads : Dict Json → Except Exn α) (ms : List Moment) (x : Except Raised α) : Prop :=
  ∃ sn n, ms = (self.outcome py env (ask sn) n).events.map .did ∧
    x = ((self.outcome py env (ask sn) n).answer.bind reads).mapError .exn

section Relay

variable (self : CloudRelayTransport) (env : RelayEnv)

theorem calls_relay {ask : Str → Frame} {reads : Dict Json → Except Exn α}
    {rest : Dict Json → Call α} (hrest : ∀ reply, rest reply = .done ((reads reply).mapError .exn)) :
    Calls py asks relay i (do
      let sn ← newSn env.time
      let reply ← Relay.exchange py self i env (ask sn)
      rest reply) (RelayDid py self env ask reads) := by
  refine (calls_newSn env.time).after (fun sn _ d => ?_) (fun _ h => nomatch h.choose_spec)
  have hexchange : Sound (rules py asks relay) i
      (fun x s => ∃ n, x = (self.outcome py env (ask sn) n).answer.mapError .exn ∧
        Outside i (d ++ (self.outcome py env (ask sn) n).events.map .did) none s)
      (Relay.exchange py self i env (ask sn)) (Outside i d none) := by
    refine (relayExchange_sound (d := []) (outside_dialogue (d := d)) self env (ask sn)).pre
      outside_stable (fun s _ h => ?_)
    rwa [List.map_nil, List.append_nil]
  refine hexchange.bind (fun reply => Sound.elim (fun n => Sound.const (fun hx => ?_))) ?_
  · rw [hrest]
    refine sound_done _ outside_stable (fun s _ hout => ⟨_, ⟨sn, n, rfl, ?_⟩, hout⟩)
    cases hanswer : (self.outcome py env (ask sn) n).answer with
    | error e =>
      rw [hanswer] at hx
      cases hx
    | ok reply' =>
      rw [hanswer] at hx
      cases hx
      rfl
  · rintro e s _ ⟨n, hx, hout⟩
    refine ⟨_, ⟨sn, n, rfl, ?_⟩, hout⟩
    cases hanswer : (self.outcome py env (ask sn) n).answer with
    | error e' =>
      rw [hanswer] at hx
      cases hx
      rfl
    | ok reply =>
      rw [hanswer] at hx
      cases hx

theorem calls_relayQuery (attrs : Option (List Int)) :
    Calls py asks relay i (Relay.query py self i env attrs)
      (RelayDid py self env (queryFrameOf attrs) (self.readData py)) := by
  refine calls_relay self env (fun reply => ?_)
  simp only [CloudRelayTransport.readData]
  cases LocalTransport.dataMap reply <;> rfl

theorem calls_relayControl (payload : Payload) :
    Calls py asks relay i (Relay.control py self i env payload)
      (RelayDid py self env (setFrameOf payload)
        (fun reply => .ok (LocalTransport.accepted reply))) :=
  calls_relay self env (fun _ => rfl)

end Relay

end Overlap

end CozyLife
