import CozyLife.Proofs.Aftermath
import CozyLife.Proofs.Ownership

/-! Which sockets are open in a house with any number of entries, and who holds on to them. -/

namespace CozyLife
open Python Effects

/-! ### The sockets of others -/

theorem track_perm {opened opened' : List Nat} (evs : List Event) (h : opened.Perm opened') :
    (evs.foldl Event.track opened).Perm (evs.foldl Event.track opened') := by
  induction evs generalizing opened opened' with
  | nil => exact h
  | cons e evs ih =>
    refine ih ?_
    cases e with
    | opened s => exact h.cons s
    | closed s => exact h.filter _
    | _ => exact h

/-- Sockets that are not closed stay open behind the others. -/
theorem track_append {evs : List Event} {opened rest : List Nat}
    (h : ∀ s ∈ rest, Event.closed s ∉ evs) :
    evs.foldl Event.track (opened ++ rest) = evs.foldl Event.track opened ++ rest := by
  induction evs generalizing opened with
  | nil => rfl
  | cons e evs ih =>
    have hevs : ∀ s ∈ rest, Event.closed s ∉ evs := fun s hs he => h s hs (List.mem_cons_of_mem _ he)
    rw [List.foldl_cons, List.foldl_cons, ← ih hevs]
    cases e with
    | opened s => rfl
    | closed s =>
      have hrest : rest.filter (· ≠ s) = rest := by
        apply List.filter_eq_self.mpr
        intro s' hs'
        have hne : s' ≠ s := by
          intro heq
          subst heq
          exact h s' hs' List.mem_cons_self
        simpa using hne
      rw [Event.track, Event.track, List.filter_append, hrest]
    | _ => rfl

theorem mem_track {evs : List Event} {opened : List Nat} (h : s ∈ evs.foldl Event.track opened) :
    s ∈ opened ∨ Event.opened s ∈ evs := by
  induction evs generalizing opened with
  | nil => exact .inl h
  | cons e evs ih =>
    rcases ih h with h | h
    · cases e with
      | opened s' =>
        rcases List.mem_cons.mp h with rfl | h
        · exact .inr List.mem_cons_self
        · exact .inl h
      | closed s' => exact .inl (List.mem_filter.mp h).1
      | _ => exact .inl h
    · exact .inr (List.mem_cons_of_mem _ h)

/-- What happens is on sockets in `held`, or on ones that are numbered from `n` on. -/
def Stays (held : List Nat) (n : Nat) (evs : List Event) : Prop :=
  ∀ e ∈ evs, ∀ s, e.socket = some s → s ∈ held ∨ n ≤ s

/-- The sockets open are those in `held` and those of others in `rest`. -/
structure Holds (held rest : List Nat) (w : World) : Prop where
  exact : (openSockets w.trace).Perm (held ++ rest)
  nodup : (held ++ rest).Nodup
  known : ∀ s ∈ held ++ rest, s < w.sockets

theorem Holds.of_eq (h : Holds held rest w) (ht : w'.trace = w.trace) (hs : w'.sockets = w.sockets) :
    Holds held rest w' :=
  ⟨by rw [ht]; exact h.exact, h.nodup, by rw [hs]; exact h.known⟩

theorem Holds.all (h : Holds held rest w) : Holds [] (held ++ rest) w := ⟨h.exact, h.nodup, h.known⟩

theorem Holds.split (h : Holds [] (held ++ rest) w) : Holds held rest w :=
  ⟨h.exact, h.nodup, h.known⟩

/-- What stays on one's own sockets leaves those of others alone. -/
theorem Holds.step {evs : List Event} (h : Holds held rest w) (hstays : Stays held w.sockets evs)
    (hheld : evs.foldl Event.track held = held') (hnodup : held'.Nodup)
    (hknown : ∀ s ∈ held', s < w'.sockets) (ht : w'.trace = w.trace ++ evs)
    (hs : w.sockets ≤ w'.sockets) : Holds held' rest w' := by
  have hapart : ∀ s ∈ rest, ∀ e ∈ evs, e.socket ≠ some s := by
    intro s hrest e he hsock
    rcases hstays e he s hsock with hmem | hle
    · exact (List.nodup_append.mp h.nodup).2.2 s hmem s hrest rfl
    · exact Nat.not_lt.mpr hle (h.known s (List.mem_append_right _ hrest))
  refine ⟨?_, ?_, ?_⟩
  · rw [ht, openSockets, List.foldl_append]
    refine (track_perm evs h.exact).trans ?_
    rw [track_append (fun s hrest he => hapart s hrest _ he rfl), hheld]
  · refine List.nodup_append.mpr ⟨hnodup, (List.nodup_append.mp h.nodup).2.1, ?_⟩
    intro s hs' _ hrest heq
    subst heq
    rw [← hheld] at hs'
    rcases mem_track hs' with hmem | hopened
    · exact (List.nodup_append.mp h.nodup).2.2 s hmem s hrest rfl
    · exact hapart s hrest _ hopened rfl
  · intro s hs'
    rcases List.mem_append.mp hs' with hmem | hrest
    · exact hknown s hmem
    · exact (h.known s (List.mem_append_right _ hrest)).trans_le hs

namespace LocalTransport

variable (py : Interpreter)

theorem GivesUp.stays (h : GivesUp t env packet evs) : Stays t.held n evs := by
  intro e he s hs
  left
  cases h with
  | idle => cases he
  | hungUp conn h hc =>
    rw [List.mem_singleton.mp he] at hs
    cases hs
    simp [held, h]
  | broken conn k fault h hc hf =>
    simp only [List.mem_cons, List.not_mem_nil, or_false] at he
    rcases he with rfl | rfl <;>
    · cases hs
      simp [held, h]

theorem Dials.stays (h : Dials py t env packet n d) (mine : List Nat) : Stays mine n d.lead := by
  intro e he s hs
  right
  cases h with
  | refused | unaddressable =>
    rw [List.mem_singleton.mp he] at hs
    cases hs
  | broken =>
    simp only [List.mem_cons, List.not_mem_nil, or_false] at he
    rcases he with rfl | rfl | rfl | rfl <;> cases hs <;> exact le_rfl
  | taken =>
    simp only [List.mem_cons, List.not_mem_nil, or_false] at he
    rcases he with rfl | rfl <;> cases hs
    exact le_rfl

/-- An exchange touches the held connection and the one it opens, and no other. -/
theorem outcome_stays (t : LocalTransport) (env : ExchangeEnv) (frame : Frame) (n : Nat) :
    Stays t.held n (outcome py t env frame n).events := by
  have hd := deliver_delivers py t env (encode py frame) n
  unfold outcome
  generalize deliver py t env (encode py frame) n = d at hd
  have hlead : Stays t.held n d.lead := by
    intro e he
    exact hd.lead_all (P := fun e => ∀ s, e.socket = some s → s ∈ t.held ∨ n ≤ s)
      (fun evs hg => hg.stays) (fun d hd => hd.stays py t.held) e he
  rcases hl : d.line with e | ⟨conn, c⟩
  · simpa only [settle, hl] using hlead
  · have hconn : conn.sock ∈ t.held ∨ n ≤ conn.sock := by
      rcases hd.line hl with ⟨held', h, hsock, _⟩ | ⟨hsock, _, _⟩
      · left
        simp [held, h, hsock]
      · exact .inr hsock.ge
    intro e he s hs
    simp only [settle, hl] at he
    rcases List.mem_append.mp he with he | he
    · exact hlead e he s hs
    · have hsame : s = conn.sock := by
        rcases List.mem_cons.mp he with rfl | he
        · exact (Option.some.inj hs).symm
        · rcases conclude_events py t frame conn c e he with ⟨_, _, rfl⟩ | rfl <;>
            exact (Option.some.inj hs).symm
      exact hsame ▸ hconn

/-- The sockets a transport holds on to, before and after an exchange. -/
theorem outcome_track (t : LocalTransport) (env : ExchangeEnv) (frame : Frame) (n : Nat)
    (hn : ∀ s ∈ t.held, s < n) :
    let o := outcome py t env frame n
    o.events.foldl Event.track t.held = o.conn.toList.map (·.sock) ∧
      ∀ s ∈ o.conn.toList.map (·.sock), s < n + o.opened := by
  -- a process that has opened the held connection and done nothing else
  have hstart : Owns t.held ⟨0, n, t.held.map .opened, []⟩ := by
    refine ⟨?_, hn⟩
    cases h : t.conn <;> simp [held, h, openSockets, Event.track]
  have hends := outcome_owns py t env frame hstart
  refine ⟨?_, hends.known⟩
  have hexact := hends.exact
  rwa [Outcome.world, openSockets, List.foldl_append,
    show (t.held.map Event.opened).foldl Event.track [] = t.held from hstart.exact] at hexact

theorem held_nodup (t : LocalTransport) : t.held.Nodup := by
  rw [held]
  cases t.conn <;> simp

theorem outcome_holds (t : LocalTransport) (env : ExchangeEnv) (frame : Frame) (w : World) (sn : Int)
    (h : Holds t.held rest w) :
    let o := outcome py t env frame w.sockets
    Holds (o.conn.toList.map (·.sock)) rest (o.world { w with lastSn := sn }) := by
  obtain ⟨htrack, hknown⟩ := outcome_track py t env frame w.sockets
    (fun s hs => h.known s (List.mem_append_left _ hs))
  have hnodup := held_nodup { t with conn := (outcome py t env frame w.sockets).conn }
  exact h.step (outcome_stays py t env frame w.sockets) htrack hnodup hknown rfl
    (Nat.le_add_right _ _)

end LocalTransport

namespace CloudRelayTransport

variable (py : Interpreter) (self : CloudRelayTransport)

/-- An exchange with the relay leaves open what was open. -/
theorem outcome_holds (env : RelayEnv) (frame : Frame) (w : World) (sn : Int)
    (h : Holds [] rest w) :
    Holds [] rest ((self.outcome py env frame w.sockets).world { w with lastSn := sn }) := by
  have htrack : (self.outcome py env frame w.sockets).events.foldl Event.track [] = [] := by
    have hstart : Owns [] ⟨0, w.sockets, [], []⟩ := ⟨rfl, by simp⟩
    exact (self.outcome_owns py env frame hstart).exact
  refine h.step ?_ htrack .nil (by simp) rfl (Nat.le_add_right _ _)
  have htalk : ∀ e ∈ (self.talk py env frame w.sockets).1, e.socket = some w.sockets := by
    have hreads := (Lines.lines_reads (self.relayVerdict py frame) (env.started + self.timeout)
      env.turns () ⟨w.sockets, [], some self.timeout⟩).events
    intro e he
    unfold talk at he
    split at he
    · cases he
    · split at he
      · rw [List.mem_singleton.mp he]
        rfl
      · split at he
        · rw [List.mem_singleton.mp he]
          rfl
        · split at he
          · simp only [List.mem_cons, List.not_mem_nil, or_false] at he
            rcases he with rfl | rfl <;> rfl
          · simp only [List.mem_cons] at he
            rcases he with rfl | rfl | he
            · rfl
            · rfl
            · obtain ⟨_, _, rfl⟩ := hreads e he
              rfl
  intro e he s hs
  right
  unfold outcome at he
  split at he
  · split at he
    · rw [List.mem_singleton.mp he] at hs
      cases hs
    · simp only [List.cons_append, List.mem_cons, List.mem_append, List.not_mem_nil, or_false] at he
      rcases he with rfl | rfl | he | rfl
      · cases hs
      · exact (Option.some.inj hs).le
      · rw [htalk e he] at hs
        exact (Option.some.inj hs).le
      · exact (Option.some.inj hs).le
  · rw [List.mem_singleton.mp he] at hs
    cases hs

end CloudRelayTransport

/-- Releasing the connection leaves the sockets of others. -/
theorem RediscoveringLocalTransport.released_holds {l : RediscoveringLocalTransport LocalTransport}
    {w : World} (h : Holds l.transport.held rest w) :
    Holds [] rest { w with trace := w.trace ++ l.closing } := by
  refine h.step ?_ ?_ .nil (by simp) rfl le_rfl
  · intro e he s hs
    obtain ⟨conn, hconn, rfl⟩ := List.mem_map.mp he
    left
    cases hs
    exact List.mem_map.mpr ⟨conn, hconn, rfl⟩
  · cases hc : l.transport.conn <;> simp [closing, LocalTransport.held, hc, Event.track]

namespace Client

variable (py : Interpreter) (factory : Factory) (rest : List Nat)

/-- The sockets a client holds on to. -/
def held (client : Client) : List Nat := client.local'.transport.held

def Holding (s : Client × World) : Prop := Holds s.1.held rest s.2

theorem holding_kept : Kept py factory (fun _ => True) (fun _ => True)
    (fun l _ w => Holds l.transport.held rest w) where
  logged l c w log h := h.of_eq rfl rfl
  exchanged l c w env f sn _ h := LocalTransport.outcome_holds py l.transport env f w sn h
  relayed l c w env f sn _ h := (c.outcome_holds py env f w sn h.all).split
  searched l c w env h := h.of_eq (RediscoveringLocalTransport.probed_trace env w)
    (RediscoveringLocalTransport.probed_sockets env w)
  released l c w h := RediscoveringLocalTransport.released_holds h
  moved l c w host _ h := by
    have hheld : (factory.build host).held = [] := by
      simp [LocalTransport.held, factory.idle host]
    rw [hheld]
    exact h

/-- A closed client holds on to nothing. -/
theorem close_holds {s : Client × World} (h : Holding rest s) :
    Holds [] rest (after (Client.close py factory) s).2 := by
  rw [after, close_run]
  exact RediscoveringLocalTransport.released_holds h

end Client

theorem Holds.perm (h : Holds held rest w) (hp : (held ++ rest).Perm (held' ++ rest')) :
    Holds held' rest' w :=
  ⟨h.exact.trans hp, hp.nodup_iff.mp h.nodup, fun s hs => h.known s (hp.mem_iff.mpr hs)⟩

/-! ### The house -/

namespace House

variable {H : Type} (hass : UpdateCoordinator H) (py : Interpreter)

/-- The sockets the client of an entry holds on to. -/
def heldBy (house : House H) (id : Nat) : List Nat :=
  (house.loaded id).elim [] (fun e => e.coordinator.client.held)

/-- The sockets of the clients that nothing refers to any more. -/
def abandoned (house : House H) : List Nat := house.dropped.flatMap (fun c => c.client.held)

/-- Exactly the entries in `ids` are set up, and every open socket is one that the client of one of
them holds on to, or was left to nobody. -/
structure Custody (ids : List Nat) (s : House H × World) : Prop where
  distinct : ids.Nodup
  loaded : ∀ id, id ∈ ids ↔ (s.1.loaded id).isSome = true
  holds : Holds [] (ids.flatMap s.1.heldBy ++ s.1.abandoned) s.2

variable {ids : List Nat} {s : House H × World} {id : Nat}

theorem put_heldBy (house : House H) (id : Nat) (e : Option (LoadedEntry H)) :
    (house.put id e).heldBy id = e.elim [] (fun e => e.coordinator.client.held) := by
  simp [heldBy, put]

theorem put_flatMap (house : House H) (e : Option (LoadedEntry H)) (h : id ∉ ids) :
    ids.flatMap (house.put id e).heldBy = ids.flatMap house.heldBy := by
  apply List.flatMap_congr
  intro i hi
  have hne : i ≠ id := by
    intro heq
    subst heq
    exact h hi
  simp [heldBy, put, hne]

theorem put_isSome (house : House H) (id i : Nat) (e : Option (LoadedEntry H)) :
    ((house.put id e).loaded i).isSome = if i = id then e.isSome else (house.loaded i).isSome := by
  simp only [put]
  split <;> simp [*]

/-- The sockets of an entry, in front of those of the others. -/
theorem Custody.front (h : Custody ids s) (hid : id ∈ ids) :
    Holds (s.1.heldBy id) ((ids.erase id).flatMap s.1.heldBy ++ s.1.abandoned) s.2 := by
  apply h.holds.perm
  rw [List.nil_append, ← List.append_assoc]
  exact ((List.perm_cons_erase hid).flatMap_right _).append_right _

/-- An entry that goes on with its own sockets. -/
theorem Custody.put {w : World} {e : LoadedEntry H} (h : Custody ids s) (hid : id ∈ ids)
    (hholds : Holds e.coordinator.client.held
      ((ids.erase id).flatMap s.1.heldBy ++ s.1.abandoned) w) :
    Custody ids (s.1.put id (some e), w) := by
  refine ⟨h.distinct, ?_, hholds.perm ?_⟩
  · intro i
    rw [put_isSome]
    split
    · rename_i hi
      simp [hi, hid]
    · exact h.loaded i
  · rw [List.nil_append, ← List.append_assoc]
    refine List.Perm.append_right _ ?_
    refine List.Perm.trans ?_ ((List.perm_cons_erase hid).flatMap_right _).symm
    rw [List.flatMap_cons, put_heldBy, put_flatMap _ _ h.distinct.not_mem_erase]
    exact .rfl

theorem onEntry_after {m : Coroutine (HassCoordinator H Client) α} (id : Nat) (e : LoadedEntry H)
    (s : House H × World) : after (onEntry id e m) s =
      (s.1.put id (some { e with coordinator := (after m (e.coordinator, s.2)).1 }),
        (after m (e.coordinator, s.2)).2) := by
  simp only [after, run_onEntry]
  cases m.run (e.coordinator, s.2) <;> rfl

/-- What an entry does on its own sockets. -/
theorem Custody.onEntry {m : Coroutine (HassCoordinator H Client) α} {e : LoadedEntry H}
    (h : Custody ids s) (he : s.1.loaded id = some e)
    (hm : ∀ rest, Keeps (HassCoordinator.OfClient (Client.Holding rest)) m) :
    Custody ids (after (onEntry id e m) s) := by
  have hid : id ∈ ids := (h.loaded id).mpr (by simp [he])
  have hfront := h.front hid
  have hheld : s.1.heldBy id = e.coordinator.client.held := by simp [heldBy, he]
  rw [hheld] at hfront
  rw [onEntry_after]
  exact h.put hid (hm _ (e.coordinator, s.2) hfront)

theorem withEntry_after (f : LoadedEntry H → Coroutine (House H) Unit) (s : House H × World) :
    after (withEntry id f) s = (s.1.loaded id).elim s (fun e => after (f e) s) := by
  cases he : s.1.loaded id with
  | none => simp [after, withEntry, he]
  | some e => simp [after, withEntry, he]

/-- A new coordinator after its first refresh. -/
def firstRefreshed (title : Str) (entry : ConfigEntry) (env : PollEnv ClientEnv) (w : World) :
    HassCoordinator H Client × World :=
  after (HassCoordinator.asyncRefresh hass (Client.query py
    (Factory.standard (entry.localTimeout.getD DEFAULT_LOCAL_TIMEOUT))) env)
    (.new hass title (buildClient entry), w)

theorem asyncSetupEntry_run (title : Str) (entry : ConfigEntry) (env : PollEnv ClientEnv)
    (s : House H × World) : (asyncSetupEntry hass py id title entry env).run s =
      let t := firstRefreshed hass py title entry env s.2
      if t.1.available hass then
        .ok () (s.1.put id (some ⟨t.1, reportedSensors (t.1.data hass),
          Factory.standard (entry.localTimeout.getD DEFAULT_LOCAL_TIMEOUT)⟩), t.2)
      else .error .configEntryNotReady ({ s.1 with dropped := t.1 :: s.1.dropped }, t.2) := by
  simp only [asyncSetupEntry, EStateM.run_bind, run_onNew, firstRefreshed]
  split <;> simp [*]

theorem setup_after (title : Str) (entry : ConfigEntry) (env : PollEnv ClientEnv)
    (s : House H × World) : after (perform hass py (.setup id title entry env)) s =
      match s.1.loaded id with
      | none => after (asyncSetupEntry hass py id title entry env) s
      | some _ => s := by
  simp only [perform, after_bind]
  change after (match s.1.loaded id with
    | none => asyncSetupEntry hass py id title entry env
    | some _ => pure ()) s = _
  cases s.1.loaded id <;> rfl

/-- A set-up opens sockets of its own: those of the entry, or ones that are left. -/
theorem Custody.setup {entry : ConfigEntry} {env : PollEnv ClientEnv} (h : Custody ids s)
    (hid : s.1.loaded id = none) (title : Str) :
    ∃ ids, Custody ids (after (asyncSetupEntry hass py id title entry env) s) := by
  have hrefreshed : Holds (firstRefreshed hass py title entry env s.2).1.client.held
      (ids.flatMap s.1.heldBy ++ s.1.abandoned) (firstRefreshed hass py title entry env s.2).2 :=
    HassCoordinator.asyncRefresh_rule hass env
      (Client.holding_kept py _ _).always_query
      (.new hass title (buildClient entry), s.2) h.holds
  have hnew : id ∉ ids := by
    rw [h.loaded, hid]
    simp
  rw [after, asyncSetupEntry_run]
  generalize firstRefreshed hass py title entry env s.2 = t at hrefreshed
  by_cases havailable : t.1.available hass = true
  · simp only [if_pos havailable]
    refine ⟨id :: ids, List.nodup_cons.mpr ⟨hnew, h.distinct⟩, ?_, hrefreshed.perm ?_⟩
    · intro i
      rw [put_isSome, List.mem_cons, h.loaded]
      split <;> simp_all
    · rw [List.flatMap_cons, put_heldBy, put_flatMap _ _ hnew]
      simp [abandoned, House.put]
  · simp only [if_neg havailable]
    refine ⟨ids, h.distinct, h.loaded, hrefreshed.perm ?_⟩
    simp only [abandoned, List.flatMap_cons, List.nil_append]
    rw [← List.append_assoc, ← List.append_assoc]
    exact List.perm_append_comm.append_right _

theorem asyncUnloadEntry_run (e : LoadedEntry H) (s : House H × World) :
    (asyncUnloadEntry py id e true).run s = .ok ()
      (s.1.put id none, (after (Client.close py e.factory) (e.coordinator.client, s.2)).2) := by
  simp only [asyncUnloadEntry, ↓reduceIte, EStateM.run_bind, run_onEntry, closeClient,
    run_inExecutor, after_zoom, EStateM.run_modify]
  simp only [House.put, HassCoordinator.onPolled, CozyLifeCoordinator.onClient]
  congr 3
  funext i
  split <;> simp [*]

/-- Unloading an entry closes its connection. -/
theorem Custody.unload {e : LoadedEntry H} (h : Custody ids s) (he : s.1.loaded id = some e)
    (unloaded : Bool) : ∃ ids, Custody ids (after (asyncUnloadEntry py id e unloaded) s) := by
  cases unloaded with
  | false => exact ⟨ids, h⟩
  | true =>
    have hid : id ∈ ids := (h.loaded id).mpr (by simp [he])
    have hfront := h.front hid
    have hheld : s.1.heldBy id = e.coordinator.client.held := by simp [heldBy, he]
    rw [hheld] at hfront
    have hclosed := Client.close_holds py e.factory _
      (s := (e.coordinator.client, s.2)) hfront
    rw [after, asyncUnloadEntry_run]
    refine ⟨ids.erase id, h.distinct.erase id, ?_, hclosed.perm ?_⟩
    · intro i
      rw [put_isSome, h.distinct.mem_erase_iff, h.loaded]
      split <;> simp_all
    · rw [List.nil_append, List.nil_append, put_flatMap _ _ h.distinct.not_mem_erase]
      exact .rfl

/-- In every life of a house the open sockets are those its entries hold on to and those left to
nobody, and no two of them share one. -/
theorem sockets_accounted (steps : List Step) :
    let s := run hass py steps (empty, World.initial)
    ∃ ids : List Nat, ids.Nodup ∧ (∀ id, id ∈ ids ↔ (s.1.loaded id).isSome = true) ∧
      (openSockets s.2.trace).Nodup ∧
      (openSockets s.2.trace).Perm (ids.flatMap s.1.heldBy ++ s.1.abandoned) := by
  have hstep (ids : List Nat) (s : House H × World) (step : Step) (h : Custody ids s) :
      ∃ ids, Custody ids (after (perform hass py step) s) := by
    cases step with
    | setup id title entry env =>
      rw [setup_after]
      cases hid : s.1.loaded id with
      | none => exact h.setup hass py hid title
      | some e => exact ⟨ids, h⟩
    | refresh id env =>
      rw [perform, withEntry_after]
      cases he : s.1.loaded id with
      | none => exact ⟨ids, h⟩
      | some e =>
        exact ⟨ids, h.onEntry he (fun rest => HassCoordinator.asyncRefresh_rule hass env
          (Client.holding_kept py e.factory rest).always_query)⟩
    | control id env reconcile payload =>
      rw [perform, withEntry_after]
      cases he : s.1.loaded id with
      | none => exact ⟨ids, h⟩
      | some e =>
        exact ⟨ids, h.onEntry he (fun rest =>
          HassCoordinator.asyncControl_rule hass env reconcile payload
            (Client.holding_kept py e.factory rest).always_query
            (Client.holding_kept py e.factory rest).always_control)⟩
    | unload id unloaded =>
      rw [perform, withEntry_after]
      cases he : s.1.loaded id with
      | none => exact ⟨ids, h⟩
      | some e => exact h.unload py he unloaded
  have hrun (ids : List Nat) (s : House H × World) (h : Custody ids s) :
      ∃ ids, Custody ids (run hass py steps s) := by
    induction steps generalizing ids s with
    | nil => exact ⟨ids, h⟩
    | cons step steps ih =>
      obtain ⟨ids, h⟩ := hstep ids s step h
      exact ih ids _ h
  have hstart : Custody [] (empty (H := H), World.initial) := by
    refine ⟨.nil, ?_, ⟨.refl _, .nil, ?_⟩⟩
    · intro id
      simp [empty]
    · simp [empty, abandoned]
  obtain ⟨ids, h⟩ := hrun [] _ hstart
  exact ⟨ids, h.distinct, h.loaded, h.holds.exact.nodup_iff.mpr h.holds.nodup, h.holds.exact⟩

end House

end CozyLife
