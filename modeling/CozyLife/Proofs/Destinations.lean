import CozyLife.Proofs.Discovery
import CozyLife.Proofs.Ownership

/-! Where the client of an entry connects to, and what it sends there. -/

namespace CozyLife
open Python Effects

/-! ### Searches that are scans -/

namespace Discovery

/-- `rediscover=lambda did: find_device_ip(did, targets=broadcast_targets)`, and the clock as the
search for it starts. -/
def search (rt : Runtime) (targets : List Str) (deviceId : Str) (now : ℚ) (scan : ScanEnv) :
    SearchEnv where
  now := now
  probe := if scan.setup = none then some scan.time else none
  found := answer (findDeviceIp rt deviceId scan targets DISCOVERY_PORT DEFAULT_TIMEOUT)
    ([], World.initial)

/-- The addresses at which a scan that gets as far as listening hears of a device in time. -/
def HeardAt (rt : Runtime) (targets : List Str) (deviceId : Str) (scan : ScanEnv) (ip : Str) : Prop :=
  Listens rt scan targets ∧ ∃ d ∈ (arrivals (scan.started + DEFAULT_TIMEOUT) scan.turns).1, ∃ device,
    Announces rt d device ∧ device.deviceId = deviceId ∧ device.ip = ip

variable {rt : Runtime}

theorem receive_left {deadline : ℚ} {turns : List UdpTurn} {seen : List Str} {deviceId ip : Str}
    (h : receive rt (ipVerdict deviceId) deadline turns seen () = .left ip) :
    ∃ d ∈ (arrivals deadline turns).1, ∃ device, Announces rt d device ∧
      device.deviceId = deviceId ∧ device.ip = ip := by
  induction turns generalizing seen with
  | nil => cases h
  | cons turn turns ih =>
    simp only [receive] at h
    simp only [arrivals]
    split at h
    · cases h
    · rename_i hopen
      rw [if_neg hopen]
      cases hread : turn.read with
      | arrived packet sender =>
        simp only [hread] at h ⊢
        have hlater (hr : ∃ seen, receive rt (ipVerdict deviceId) deadline turns seen () = .left ip) :
            ∃ d ∈ ⟨packet.take RECV_SIZE, sender⟩ :: (arrivals deadline turns).1, ∃ device,
              Announces rt d device ∧ device.deviceId = deviceId ∧ device.ip = ip := by
          obtain ⟨seen, hr⟩ := hr
          obtain ⟨d, hd, hdevice⟩ := ih hr
          exact ⟨d, List.mem_cons_of_mem _ hd, hdevice⟩
        rcases hparse : parse rt (packet.take RECV_SIZE) sender with e | _ | device
        · rw [hparse] at h
          cases h
        · rw [hparse] at h
          exact hlater ⟨_, h⟩
        · simp only [hparse] at h
          have hannounced : announced rt ⟨packet.take RECV_SIZE, sender⟩ = some device := by
            simp only [announced, hparse]
          split at h
          · exact hlater ⟨_, h⟩
          · by_cases hid : device.deviceId = deviceId
            · simp only [ipVerdict, if_pos hid] at h
              cases h
              exact ⟨_, List.mem_cons_self, device, announced_iff.mp hannounced, hid, rfl⟩
            · simp only [ipVerdict, if_neg hid] at h
              exact hlater ⟨_, h⟩
      | _ =>
        rw [hread] at h
        cases h

variable {targets : List Str} {deviceId : Str} {scan : ScanEnv}

instance : Decidable (Listens rt scan targets) := inferInstanceAs (Decidable (_ ∧ _))

theorem not_listens (hsetup : scan.setup = none) (h : ¬ Listens rt scan targets) :
    ¬ ∀ t ∈ targets.zipIdx, sendable rt t.1 = true := by
  intro hall
  refine h ⟨hsetup, ?_⟩
  intro target htarget
  obtain ⟨i, hi, rfl⟩ := List.mem_iff_getElem.mp htarget
  exact hall (targets[i], i) (List.mk_mem_zipIdx_iff_getElem?.mpr (by simp [hi]))

/-- What a scan for one device comes to, and what it leaves of the world. -/
theorem findDeviceIp_run (rt : Runtime) (deviceId : Str) (scan : ScanEnv) (targets : List Str)
    (port : Int) (timeout : ℚ) (s : List UdpEvent × World) :
    (answer (findDeviceIp rt deviceId scan targets port timeout) s =
      match scan.setup with
      | some text => .error (.os text)
      | none => if Listens rt scan targets then
          lookup (receive rt (ipVerdict deviceId) (scan.started + timeout) scan.turns [] ())
        else .error .type) ∧
      (after (findDeviceIp rt deviceId scan targets port timeout) s).2 =
        match scan.setup with
        | some _ => s.2
        | none => { s.2 with lastSn := nextSn s.2.lastSn scan.time } := by
  cases hsetup : scan.setup with
  | some text =>
    simp [answer, after, findDeviceIp, listen, hsetup]
  | none =>
    by_cases hlistens : Listens rt scan targets
    · have hrun := listen_run scan targets port timeout (ipVerdict deviceId) () s hlistens
      simp only [answer, after, findDeviceIp, EStateM.run_bind, hrun, if_pos hlistens]
      cases receive rt (ipVerdict deviceId) (scan.started + timeout) scan.turns [] () <;>
        exact ⟨rfl, rfl⟩
    · obtain ⟨evs, hevs⟩ := broadcast_raises port
        (probeOf rt (intText (nextSn s.2.lastSn scan.time))) scan.refused targets.zipIdx
        (not_listens hsetup hlistens)
      simp [-bind_pure_comp, answer, after, findDeviceIp, listen, hsetup, ensuring, probePayload,
        hevs, hlistens]

/-- The transport's search is the scan, wherever the scan starts from. -/
theorem search_refines (rt : Runtime) (targets : List Str) (deviceId : Str) (now : ℚ)
    (scan : ScanEnv) (s : List UdpEvent × World) :
    answer (findDeviceIp rt deviceId scan targets DISCOVERY_PORT DEFAULT_TIMEOUT) s =
        answer (RediscoveringLocalTransport.rediscover (search rt targets deviceId now scan)) s.2 ∧
      (after (findDeviceIp rt deviceId scan targets DISCOVERY_PORT DEFAULT_TIMEOUT) s).2 =
        after (RediscoveringLocalTransport.rediscover (search rt targets deviceId now scan)) s.2 := by
  have hscan := findDeviceIp_run rt deviceId scan targets DISCOVERY_PORT DEFAULT_TIMEOUT
  have hfound : (search rt targets deviceId now scan).found =
      answer (findDeviceIp rt deviceId scan targets DISCOVERY_PORT DEFAULT_TIMEOUT) s :=
    (hscan ([], World.initial)).1.trans (hscan s).1.symm
  have hprobed : RediscoveringLocalTransport.probed (search rt targets deviceId now scan) s.2 =
      (after (findDeviceIp rt deviceId scan targets DISCOVERY_PORT DEFAULT_TIMEOUT) s).2 := by
    rw [(hscan s).2]
    cases hsetup : scan.setup <;> simp [RediscoveringLocalTransport.probed, search, hsetup]
  rw [← hfound, ← hprobed]
  generalize search rt targets deviceId now scan = env
  rw [answer, after, RediscoveringLocalTransport.rediscover_run]
  cases env.found <;> exact ⟨rfl, rfl⟩

/-- A search finds only addresses the device was heard at. -/
theorem search_heard (now : ℚ) {ip : Str}
    (h : (search rt targets deviceId now scan).found = .ok (some ip)) :
    HeardAt rt targets deviceId scan ip := by
  have hscan := (findDeviceIp_run rt deviceId scan targets DISCOVERY_PORT DEFAULT_TIMEOUT
    ([], World.initial)).1
  rw [search, hscan] at h
  cases hsetup : scan.setup with
  | some text =>
    rw [hsetup] at h
    cases h
  | none =>
    simp only [hsetup] at h
    split at h
    · rename_i hlistens
      rcases hr : receive rt (ipVerdict deviceId) (scan.started + DEFAULT_TIMEOUT) scan.turns [] ()
        with _ | ip' | _ <;> rw [hr] at h <;> cases h
      exact ⟨hlistens, receive_left hr⟩
    · cases h

end Discovery

/-! ### Where a socket leads -/

/-- Socket `s` was opened to `port` of `host`. -/
def LeadsTo (evs : List Event) (s : Nat) (host : Str) (port : Int) : Prop :=
  ∃ timeout, [.connecting host port timeout, .opened s] <:+: evs

/-- The sockets that were opened, in their order. -/
def openings (evs : List Event) : List Nat :=
  evs.filterMap (fun
    | .opened s => some s
    | _ => none)

theorem openings_append (evs evs' : List Event) :
    openings (evs ++ evs') = openings evs ++ openings evs' := List.filterMap_append

theorem mem_openings {evs : List Event} : s ∈ openings evs ↔ Event.opened s ∈ evs := by
  rw [openings, List.mem_filterMap]
  constructor
  · rintro ⟨e, he, hs⟩
    cases e with
    | opened s' =>
      cases hs
      exact he
    | _ => cases hs
  · intro h
    exact ⟨_, h, rfl⟩

theorem openings_eq_nil {evs : List Event} (h : ∀ s, Event.opened s ∉ evs) : openings evs = [] :=
  List.eq_nil_iff_forall_not_mem.mpr (fun s hs => h s (mem_openings.mp hs))

theorem LeadsTo.mono (h : LeadsTo evs s host port) (hsub : evs <:+: evs') :
    LeadsTo evs' s host port := h.imp (fun _ ht => ht.trans hsub)

theorem LeadsTo.opened (h : LeadsTo evs s host port) : Event.opened s ∈ evs := by
  obtain ⟨timeout, ht⟩ := h
  exact ht.subset (by simp)

/-- A socket that is opened once leads to one place. -/
theorem LeadsTo.unique {evs : List Event} (hn : (openings evs).Nodup)
    (h : LeadsTo evs s host port) (h' : LeadsTo evs s host' port') : host' = host ∧ port' = port := by
  have hclash {host host' : Str} {port port' : Int} {e : Event} {timeout timeout' : ℚ}
      {evs : List Event} (hn : (openings (e :: evs)).Nodup)
      (hp : [.connecting host port timeout, .opened s] <+: e :: evs)
      (hi : [.connecting host' port' timeout', .opened s] <:+: evs) : False := by
    obtain ⟨rest, hrest⟩ := hp
    cases hrest
    have hmem : Event.opened s ∈ rest := by
      have hsub : [Event.opened s] <:+: rest := by
        rcases List.infix_cons_iff.mp hi with hpre | hi
        · obtain ⟨_, heq⟩ := hpre
          cases heq
        · exact (List.suffix_cons _ _).isInfix.trans hi
      exact hsub.subset (by simp)
    exact (List.nodup_cons.mp hn).1 (mem_openings.mpr hmem)
  obtain ⟨timeout, h⟩ := h
  obtain ⟨timeout', h'⟩ := h'
  induction evs with
  | nil => simp at h
  | cons e evs ih =>
    have hrest : (openings evs).Nodup := by
      rw [← List.singleton_append, openings_append] at hn
      exact (List.nodup_append.mp hn).2.1
    rcases List.infix_cons_iff.mp h with hp | hi <;> rcases List.infix_cons_iff.mp h' with hp' | hi'
    · obtain ⟨rest, hrest⟩ := hp
      obtain ⟨rest', hrest'⟩ := hp'
      cases hrest.trans hrest'.symm
      exact ⟨rfl, rfl⟩
    · exact (hclash hn hp hi').elim
    · exact (hclash hn hp' hi).elim
    · exact ih hrest hi hi'

/-! ### What a client may do -/

/-- Where the device of a client may be, what the client is asked to send and the relay it may use. -/
structure Policy where
  address : Str → Prop
  frame : Frame → Prop
  relay : Option CloudRelayTransport

namespace Policy

variable (p : Policy)

/-- The device's own port where the device may be, and the relay. -/
inductive Dials : Str → Int → Prop
  | device (host : Str) (h : p.address host) : Dials host LocalTransport.DEFAULT_PORT
  | relay (c : CloudRelayTransport) (h : p.relay = some c) : Dials c.host c.port

/-- A frame goes to the device as it is, and to the relay in a line that names the device and its
key, after the line that subscribes to its reports. -/
inductive Sends (py : Interpreter) : Str → Int → Bytes → Prop
  | frame (host : Str) (h : p.address host) (f : Frame) (hf : p.frame f) :
      Sends py host LocalTransport.DEFAULT_PORT (encode py f)
  | subscribe (c : CloudRelayTransport) (h : p.relay = some c) (raw : Bytes)
      (hraw : c.subscribeLine = .ok raw) : Sends py c.host c.port raw
  | publish (c : CloudRelayTransport) (h : p.relay = some c) (f : Frame) (hf : p.frame f)
      (raw : Bytes) (hraw : c.publishLine py f = .ok raw) : Sends py c.host c.port raw

end Policy

/-- Connections are opened, and lines sent, as the policy has it. -/
structure Directed (py : Interpreter) (p : Policy) (w : World) : Prop where
  numbered : openings w.trace = List.range w.sockets
  dialled : ∀ host port timeout, .connecting host port timeout ∈ w.trace → p.Dials host port
  led : ∀ s, .opened s ∈ w.trace → ∃ host port, LeadsTo w.trace s host port
  sent : ∀ s mode raw taken, .sent s mode raw taken ∈ w.trace →
    ∃ host port, LeadsTo w.trace s host port ∧ p.Sends py host port raw

section Steps

variable {py : Interpreter} {p : Policy} {w w' : World}

theorem Directed.of_eq (h : Directed py p w) (ht : w'.trace = w.trace)
    (hs : w'.sockets = w.sockets) : Directed py p w' :=
  ⟨by rw [ht, hs]; exact h.numbered, by rw [ht]; exact h.dialled, by rw [ht]; exact h.led,
    by rw [ht]; exact h.sent⟩

theorem Directed.step {k : Nat} (h : Directed py p w) (evs : List Event)
    (hopened : openings evs = List.range' w.sockets k)
    (hdialled : ∀ host port timeout, .connecting host port timeout ∈ evs → p.Dials host port)
    (hled : ∀ s, .opened s ∈ evs → ∃ host port, LeadsTo evs s host port)
    (hsent : ∀ s mode raw taken, .sent s mode raw taken ∈ evs →
      ∃ host port, LeadsTo (w.trace ++ evs) s host port ∧ p.Sends py host port raw)
    (ht : w'.trace = w.trace ++ evs) (hs : w'.sockets = w.sockets + k) : Directed py p w' where
  numbered := by
    rw [ht, hs, openings_append, h.numbered, hopened, List.range_eq_range', List.range_eq_range',
      ← List.range'_append_1, Nat.zero_add]
  dialled := by
    intro host port timeout hmem
    rw [ht] at hmem
    rcases List.mem_append.mp hmem with hmem | hmem
    · exact h.dialled host port timeout hmem
    · exact hdialled host port timeout hmem
  led := by
    intro s hmem
    rw [ht] at hmem ⊢
    rcases List.mem_append.mp hmem with hmem | hmem
    · obtain ⟨host, port, hleads⟩ := h.led s hmem
      exact ⟨host, port, hleads.mono (List.prefix_append _ _).isInfix⟩
    · obtain ⟨host, port, hleads⟩ := hled s hmem
      exact ⟨host, port, hleads.mono (List.suffix_append _ _).isInfix⟩
  sent := by
    intro s mode raw taken hmem
    rw [ht] at hmem ⊢
    rcases List.mem_append.mp hmem with hmem | hmem
    · obtain ⟨host, port, hleads, hsends⟩ := h.sent s mode raw taken hmem
      exact ⟨host, port, hleads.mono (List.prefix_append _ _).isInfix, hsends⟩
    · exact hsent s mode raw taken hmem

end Steps

/-! ### The local transport -/

namespace LocalTransport

variable {py : Interpreter} {t : LocalTransport} {env : ExchangeEnv} {packet : Bytes} {n : Nat}
  {opened opened' : List Nat}

/-- The socket is held, or leads to the transport's host. -/
def Reaches (t : LocalTransport) (evs : List Event) (s : Nat) : Prop :=
  s ∈ t.held ∨ LeadsTo evs s t.host t.port

/-- What happens opens these sockets, connects to the host only and sends nothing but the packet. -/
structure Aims (t : LocalTransport) (packet : Bytes) (opened : List Nat) (evs : List Event) : Prop where
  numbered : openings evs = opened
  dialled : ∀ host port timeout, .connecting host port timeout ∈ evs → host = t.host ∧ port = t.port
  led : ∀ s, .opened s ∈ evs → LeadsTo evs s t.host t.port
  sent : ∀ s mode raw taken, .sent s mode raw taken ∈ evs → raw = packet ∧ t.Reaches evs s

theorem Reaches.mono (h : t.Reaches evs s) (hsub : evs <:+: evs') : t.Reaches evs' s :=
  h.imp_right (fun h => h.mono hsub)

theorem Aims.append {evs evs' : List Event} (h : t.Aims packet opened evs)
    (h' : t.Aims packet opened' evs') : t.Aims packet (opened ++ opened') (evs ++ evs') where
  numbered := by rw [openings_append, h.numbered, h'.numbered]
  dialled := by
    intro host port timeout hmem
    rcases List.mem_append.mp hmem with hmem | hmem
    · exact h.dialled host port timeout hmem
    · exact h'.dialled host port timeout hmem
  led := by
    intro s hmem
    rcases List.mem_append.mp hmem with hmem | hmem
    · exact (h.led s hmem).mono (List.prefix_append _ _).isInfix
    · exact (h'.led s hmem).mono (List.suffix_append _ _).isInfix
  sent := by
    intro s mode raw taken hmem
    rcases List.mem_append.mp hmem with hmem | hmem
    · exact (h.sent s mode raw taken hmem).imp_right
        (fun h => h.mono (List.prefix_append _ _).isInfix)
    · exact (h'.sent s mode raw taken hmem).imp_right
        (fun h => h.mono (List.suffix_append _ _).isInfix)

theorem GivesUp.aims (h : GivesUp t env packet evs) : t.Aims packet [] evs := by
  cases h with
  | idle => exact ⟨rfl, by simp, by simp, by simp⟩
  | hungUp => exact ⟨rfl, by simp, by simp, by simp⟩
  | broken conn k fault hconn =>
    refine ⟨rfl, by simp, by simp, ?_⟩
    intro s mode raw taken hmem
    simp only [List.mem_cons, Event.sent.injEq, reduceCtorEq, List.not_mem_nil, or_false] at hmem
    obtain ⟨rfl, _, rfl, _⟩ := hmem
    exact ⟨rfl, .inl (by simp [held, hconn])⟩

theorem Dials.aims (h : Dials py t env packet n d) :
    t.Aims packet (List.range' n d.opened) d.lead := by
  have hled {rest : List Event} {s : Nat} (hrest : ∀ s, Event.opened s ∉ rest)
      (hs : .opened s ∈ .connecting t.host t.port t.timeout :: .opened n :: rest) :
      LeadsTo (.connecting t.host t.port t.timeout :: .opened n :: rest) s t.host t.port := by
    obtain rfl : s = n := by simpa [hrest s] using hs
    exact ⟨t.timeout, [], rest, rfl⟩
  cases h with
  | refused | unaddressable => exact ⟨rfl, by simp +contextual, by simp, by simp⟩
  | taken => exact ⟨rfl, by simp +contextual, fun s => hled (by simp), by simp⟩
  | broken k fault hi hc hs =>
    refine ⟨rfl, by simp +contextual, fun s => hled (by simp), ?_⟩
    intro s mode raw taken hmem
    simp only [List.mem_cons, Event.sent.injEq, reduceCtorEq, List.not_mem_nil, or_false,
      false_or] at hmem
    obtain ⟨rfl, _, rfl, _⟩ := hmem
    exact ⟨rfl, .inr ⟨t.timeout, [], _, rfl⟩⟩

/-- The way to a connection that takes the frame, and that connection. -/
theorem Delivers.aims (h : Delivers py t env packet n d) :
    t.Aims packet (List.range' n d.opened) d.lead ∧
      ∀ conn c, d.line = .ok (conn, c) → t.Reaches d.lead conn.sock := by
  cases h with
  | held conn hconn =>
    refine ⟨⟨rfl, by simp, by simp, by simp⟩, ?_⟩
    rintro _ _ ⟨⟩
    exact .inl (by simp [LocalTransport.held, hconn, peerHasClosed_sock])
  | fresh evs d hg hd =>
    refine ⟨hg.aims.append hd.aims, ?_⟩
    intro conn c hl
    cases hd with
    | refused | unaddressable | broken => cases hl
    | taken =>
      cases hl
      exact .inr ⟨t.timeout, evs, [], by simp [Delivery.after]⟩

theorem outcome_aims (py : Interpreter) (t : LocalTransport) (env : ExchangeEnv) (frame : Frame)
    (n : Nat) :
    let o := outcome py t env frame n
    t.Aims (encode py frame) (List.range' n o.opened) o.events ∧
      ∀ conn, o.conn = some conn → t.Reaches o.events conn.sock := by
  obtain ⟨hlead, hline⟩ := (deliver_delivers py t env (encode py frame) n).aims
  unfold outcome
  generalize deliver py t env (encode py frame) n = d at hlead hline
  rcases hl : d.line with e | ⟨conn, c⟩
  · simpa only [settle, hl] using ⟨hlead, by simp⟩
  · have hreach := hline conn c hl
    have hevents := conclude_events py t frame conn c
    have hsub : d.lead <:+: d.lead ++ Event.sent conn.sock conn.timeout (encode py frame)
        (encode py frame) :: (conclude py t (listenFor py t frame conn c)).events :=
      (List.prefix_append _ _).isInfix
    have hopened : openings (conclude py t (listenFor py t frame conn c)).events = [] := by
      apply openings_eq_nil
      intro s hs
      rcases hevents _ hs with ⟨_, _, h⟩ | h <;> cases h
    simp only [settle, hl]
    refine ⟨⟨?_, ?_, ?_, ?_⟩, ?_⟩
    · rw [openings_append, hlead.numbered]
      change _ ++ openings (conclude py t (listenFor py t frame conn c)).events = _
      rw [hopened, List.append_nil]
    · intro host port timeout hmem
      rcases List.mem_append.mp hmem with hmem | hmem
      · exact hlead.dialled host port timeout hmem
      · rcases List.mem_cons.mp hmem with h | hmem
        · cases h
        · rcases hevents _ hmem with ⟨_, _, h⟩ | h <;> cases h
    · intro s hmem
      rcases List.mem_append.mp hmem with hmem | hmem
      · exact (hlead.led s hmem).mono (List.prefix_append _ _).isInfix
      · rcases List.mem_cons.mp hmem with h | hmem
        · cases h
        · rcases hevents _ hmem with ⟨_, _, h⟩ | h <;> cases h
    · intro s mode raw taken hmem
      rcases List.mem_append.mp hmem with hmem | hmem
      · exact (hlead.sent s mode raw taken hmem).imp_right (fun h => h.mono hsub)
      · rcases List.mem_cons.mp hmem with h | hmem
        · cases h
          exact ⟨rfl, hreach.mono hsub⟩
        · rcases hevents _ hmem with ⟨_, _, h⟩ | h <;> cases h
    · intro conn' hconn'
      have hsock : conn'.sock = conn.sock := by
        have hreads := Lines.lines_reads (replyVerdict py frame) (c.started + t.timeout) c.turns ()
          conn
        unfold conclude at hconn'
        split at hconn' <;> cases hconn' <;> exact hreads.sock
      rw [hsock]
      exact hreach.mono hsub

/-- The held connection leads to the transport's host, which is where the device may be. -/
structure Aimed (py : Interpreter) (p : Policy) (s : LocalTransport × World) : Prop where
  directed : Directed py p s.2
  address : p.address s.1.host
  port : s.1.port = DEFAULT_PORT
  leads : ∀ conn, s.1.conn = some conn → LeadsTo s.2.trace conn.sock s.1.host s.1.port

variable {p : Policy} {frame : Frame}

theorem outcome_aimed (env : ExchangeEnv) {w : World} (sn : Int) (h : Aimed py p (t, w))
    (hframe : p.frame frame) : Aimed py p
      ((outcome py t env frame w.sockets).state t { w with lastSn := sn }) := by
  obtain ⟨haims, hconn⟩ := outcome_aims py t env frame w.sockets
  generalize outcome py t env frame w.sockets = o at haims hconn
  have hreach (s : Nat) (hs : t.Reaches o.events s) :
      LeadsTo (w.trace ++ o.events) s t.host t.port := by
    rcases hs with hs | hs
    · obtain ⟨conn, hheld, rfl⟩ : ∃ conn, t.conn = some conn ∧ conn.sock = s := by
        simpa [held] using hs
      exact (h.leads conn hheld).mono (List.prefix_append _ _).isInfix
    · exact hs.mono (List.suffix_append _ _).isInfix
  refine ⟨h.directed.step _ haims.numbered ?_ (fun s hs => ⟨_, _, haims.led s hs⟩) ?_ rfl rfl,
    h.address, h.port, ?_⟩
  · intro host port timeout hmem
    obtain ⟨rfl, rfl⟩ := haims.dialled host port timeout hmem
    rw [h.port]
    exact .device t.host h.address
  · intro s mode raw taken hmem
    obtain ⟨rfl, hs⟩ := haims.sent s mode raw taken hmem
    have hleads := hreach s hs
    rw [h.port] at hleads
    exact ⟨t.host, _, hleads, .frame t.host h.address frame hframe⟩
  · intro conn hc
    exact hreach _ (hconn conn hc)

theorem released_aimed {w : World} (h : Aimed py p (t, w)) : Aimed py p
    ({ t with conn := none },
      { w with trace := w.trace ++ t.conn.toList.map (fun conn => .closed conn.sock) }) := by
  have hclosed {held : Option LineSocket} {e : Event}
      (he : e ∈ held.toList.map (fun c => Event.closed c.sock)) : ∃ s, e = .closed s := by
    obtain ⟨c, _, rfl⟩ := List.mem_map.mp he
    exact ⟨_, rfl⟩
  have hopened (s : Nat) : Event.opened s ∉ t.conn.toList.map (fun c => Event.closed c.sock) := by
    intro hs
    obtain ⟨_, hc⟩ := hclosed hs
    cases hc
  refine ⟨h.directed.step (k := 0) _ (openings_eq_nil hopened) ?_
    (fun s hs => absurd hs (hopened s)) ?_ rfl rfl, h.address, h.port, ?_⟩
  · intro host port timeout hmem
    obtain ⟨_, hc⟩ := hclosed hmem
    cases hc
  · intro n mode raw taken hmem
    obtain ⟨_, hc⟩ := hclosed hmem
    cases hc
  · rintro conn ⟨⟩

end LocalTransport

/-! ### The relay -/

namespace CloudRelayTransport

variable {py : Interpreter} {p : Policy} {frame : Frame} (self : CloudRelayTransport)

theorem talk_events (py : Interpreter) (env : RelayEnv) (frame : Frame) (n : Nat) :
    ∀ e ∈ (self.talk py env frame n).1, (∃ mode raw taken, e = .sent n mode raw taken ∧
      (self.subscribeLine = .ok raw ∨ self.publishLine py frame = .ok raw)) ∨
      ∃ mode chunk, e = .read n mode chunk := by
  have hreads := (Lines.lines_reads (self.relayVerdict py frame) (env.started + self.timeout)
    env.turns () ⟨n, [], some self.timeout⟩).events
  intro e he
  unfold talk at he
  cases hsub : self.subscribeLine with
  | error x => simp [hsub] at he
  | ok sub =>
    cases hs : env.subscribe with
    | failed k fault =>
      simp only [hsub, hs, List.mem_singleton] at he
      exact .inl ⟨_, _, _, he, .inl rfl⟩
    | accepted =>
      cases hpub : self.publishLine py frame with
      | error x =>
        simp only [hsub, hs, hpub, List.mem_singleton] at he
        exact .inl ⟨_, _, _, he, .inl rfl⟩
      | ok pub =>
        cases hp : env.publish with
        | failed k fault =>
          simp only [hsub, hs, hpub, hp, List.mem_cons, List.not_mem_nil, or_false] at he
          rcases he with he | he
          · exact .inl ⟨_, _, _, he, .inl rfl⟩
          · exact .inl ⟨_, _, _, he, .inr rfl⟩
        | accepted =>
          simp only [hsub, hs, hpub, hp, List.mem_cons] at he
          rcases he with he | he | he
          · exact .inl ⟨_, _, _, he, .inl rfl⟩
          · exact .inl ⟨_, _, _, he, .inr rfl⟩
          · exact .inr (hreads e he)

theorem outcome_directed (env : RelayEnv) {w : World} (sn : Int) (h : Directed py p w)
    (hrelay : p.relay = some self) (hframe : p.frame frame) : Directed py p
      ((self.outcome py env frame w.sockets).world { w with lastSn := sn }) := by
  have htalk := self.talk_events py env frame w.sockets
  have hdials : p.Dials self.host self.port := .relay self hrelay
  have hconnecting (o : Outcome) (ho : o.opened = 0)
      (he : o.events = [.connecting self.host self.port self.timeout]) :
      Directed py p (o.world { w with lastSn := sn }) := by
    refine h.step (k := 0) o.events ?_ ?_ ?_ ?_ rfl (by simp [Outcome.world, ho])
    · rw [he]
      rfl
    · intro host port timeout hmem
      rw [he] at hmem
      cases List.mem_singleton.mp hmem
      exact hdials
    · intro s hmem
      rw [he] at hmem
      cases List.mem_singleton.mp hmem
    · intro s mode raw taken hmem
      rw [he] at hmem
      cases List.mem_singleton.mp hmem
  unfold outcome
  cases hi : addressable py self.host self.port with
  | false => exact hconnecting _ rfl rfl
  | true =>
    cases hc : env.connect with
    | refused text => exact hconnecting _ rfl rfl
    | opened =>
      simp only [↓reduceIte]
      generalize self.talk py env frame w.sockets = talked at htalk
      refine h.step (k := 1) (.connecting self.host self.port self.timeout :: .opened w.sockets ::
        talked.1 ++ [.closed w.sockets]) ?_ ?_ ?_ ?_ rfl rfl
      · have hnone : openings (talked.1 ++ [.closed w.sockets]) = [] := by
          apply openings_eq_nil
          intro s hs
          rcases List.mem_append.mp hs with hs | hs
          · rcases htalk _ hs with ⟨_, _, _, h, _⟩ | ⟨_, _, h⟩ <;> cases h
          · cases List.mem_singleton.mp hs
        change w.sockets :: openings (talked.1 ++ [.closed w.sockets]) = _
        rw [hnone]
        rfl
      · intro host port timeout hmem
        simp only [List.cons_append, List.mem_cons, List.mem_append, Event.connecting.injEq,
          reduceCtorEq, false_or, List.not_mem_nil, or_false] at hmem
        rcases hmem with ⟨rfl, rfl, _⟩ | hmem
        · exact hdials
        · rcases htalk _ hmem with ⟨_, _, _, h, _⟩ | ⟨_, _, h⟩ <;> cases h
      · intro s hmem
        simp only [List.cons_append, List.mem_cons, List.mem_append, Event.opened.injEq,
          reduceCtorEq, false_or, List.not_mem_nil, or_false] at hmem
        rcases hmem with rfl | hmem
        · exact ⟨self.host, self.port, self.timeout, [], talked.1 ++ [.closed _], rfl⟩
        · rcases htalk _ hmem with ⟨_, _, _, h, _⟩ | ⟨_, _, h⟩ <;> cases h
      · intro s mode raw taken hmem
        simp only [List.cons_append, List.mem_cons, List.mem_append, reduceCtorEq, false_or,
          List.not_mem_nil, or_false] at hmem
        rcases htalk _ hmem with ⟨_, _, _, he, hline⟩ | ⟨_, _, he⟩
        · cases he
          have hleads : LeadsTo (w.trace ++ (.connecting self.host self.port self.timeout ::
              .opened w.sockets :: talked.1 ++ [.closed w.sockets])) w.sockets self.host self.port :=
            ⟨self.timeout, w.trace, talked.1 ++ [.closed w.sockets], by simp⟩
          refine ⟨self.host, self.port, hleads, ?_⟩
          rcases hline with hline | hline
          · exact .subscribe self hrelay raw hline
          · exact .publish self hrelay frame hframe raw hline
        · cases he

end CloudRelayTransport

/-! ### The client of an entry -/

/-- What a request meets whose search is a scan. -/
structure ScanningEnv where
  readings : Readings
  first : LocalEnv
  now : ℚ
  scan : Discovery.ScanEnv
  retry : LocalEnv
  cloud : RelayEnv

/-- A call of the client, and what it meets. -/
inductive ScanningCall
  | query (env : ScanningEnv) (attrs : Option (List Int))
  | control (env : ScanningEnv) (payload : Payload)
  | close

def ScanningEnv.request (rt : Runtime) (targets : List Str) (deviceId : Str) (env : ScanningEnv) :
    ClientEnv :=
  ⟨env.readings, ⟨env.first, Discovery.search rt targets deviceId env.now env.scan, env.retry⟩,
    env.cloud⟩

namespace ScanningCall

def call (rt : Runtime) (targets : List Str) (deviceId : Str) : ScanningCall → Client.Call
  | .query env attrs => .query (env.request rt targets deviceId) attrs
  | .control env payload => .control (env.request rt targets deviceId) payload
  | .close => .close

def scan : ScanningCall → Option Discovery.ScanEnv
  | .query env _ => some env.scan
  | .control env _ => some env.scan
  | .close => none

/-- From the state `s`, the call goes out on the local path, fails there and searches. -/
def Searches (py : Interpreter) (s : Client × World) : ScanningCall → Prop
  | .query env attrs =>
    Client.Searches env.readings (LocalTransport.query py env.first attrs) env.now s
  | .control env payload =>
    Client.Searches env.readings (LocalTransport.control py env.first payload) env.now s
  | .close => False

/-- The frames a call is to send, which differ in their sequence number. -/
def Asks (call : ScanningCall) (f : Frame) : Prop :=
  match call with
  | .query _ attrs => ∃ sn, f = queryFrameOf attrs sn
  | .control _ payload => ∃ sn, f = setFrameOf payload sn
  | .close => False

end ScanningCall

/-- The client of an entry after these calls. -/
def Client.scanningRun (rt : Runtime) (targets : List Str) (entry : ConfigEntry)
    (calls : List ScanningCall) : Client × World :=
  (calls.map (ScanningCall.call rt targets entry.deviceId)).foldl
    (step rt.toInterpreter (Factory.standard (entry.localTimeout.getD DEFAULT_LOCAL_TIMEOUT)))
    (buildClient entry, World.initial)

/-- What the client of an entry may do in the course of these calls. -/
def ConfigEntry.policy (rt : Runtime) (targets : List Str) (entry : ConfigEntry)
    (calls : List ScanningCall) : Policy where
  address host := host = entry.localIp ∨ ∃ earlier call later, calls = earlier ++ call :: later ∧
    call.Searches rt.toInterpreter (Client.scanningRun rt targets entry earlier) ∧
    ∃ scan ∈ call.scan, Discovery.HeardAt rt targets entry.deviceId scan host
  frame f := ∃ call ∈ calls, call.Asks f
  relay := (buildClient entry).cloud

namespace Client

variable {py : Interpreter} {p : Policy}

/-- A client's two transports, as far as they matter to where it connects. -/
def Aimed (py : Interpreter) (p : Policy) (l : RediscoveringLocalTransport LocalTransport)
    (c : Option CloudRelayTransport) (w : World) : Prop :=
  LocalTransport.Aimed py p (l.transport, w) ∧ c = p.relay

theorem Aimed.still {l : RediscoveringLocalTransport LocalTransport} {c : Option CloudRelayTransport}
    {w w' : World} (h : Aimed py p l c w) (ht : w'.trace = w.trace) (hs : w'.sockets = w.sockets) :
    Aimed py p l c w' := by
  refine ⟨⟨h.1.directed.of_eq ht hs, h.1.address, h.1.port, ?_⟩, h.2⟩
  intro conn hconn
  change LeadsTo w'.trace _ _ _
  rw [ht]
  exact h.1.leads conn hconn

/-- What the relay does for a request leaves the local transport and its connection alone. -/
theorem Aimed.relayed {l : RediscoveringLocalTransport LocalTransport} {c : CloudRelayTransport}
    {w : World} (h : Aimed py p l (some c) w) (env : RelayEnv) {frame : Frame} (sn : Int)
    (hframe : p.frame frame) :
    Aimed py p l (some c) ((c.outcome py env frame w.sockets).world { w with lastSn := sn }) := by
  refine ⟨⟨c.outcome_directed env sn h.1.directed h.2.symm hframe, h.1.address, h.1.port, ?_⟩, h.2⟩
  intro conn hconn
  exact (h.1.leads conn hconn).mono (List.prefix_append _ _).isInfix

theorem aimed_kept (timeout : ℚ) :
    Kept py (Factory.standard timeout) p.frame p.address (Aimed py p) where
  logged l c w log h := h.still rfl rfl
  exchanged l c w env f sn hf h := ⟨LocalTransport.outcome_aimed env sn h.1 hf, h.2⟩
  relayed l c w env f sn hf h := h.relayed env sn hf
  searched l c w env h := h.still (RediscoveringLocalTransport.probed_trace env w)
    (RediscoveringLocalTransport.probed_sockets env w)
  released l c w h := ⟨LocalTransport.released_aimed h.1, h.2⟩
  moved l c w host hfound h := by
    refine ⟨⟨h.1.directed, hfound, rfl, ?_⟩, h.2⟩
    rintro conn ⟨⟩

/-- One call, if the policy allows what it asks for and what its search may find. -/
theorem step_aimed (rt : Runtime) (targets : List Str) (deviceId : Str) (timeout : ℚ)
    (call : ScanningCall) (hframe : ∀ f, call.Asks f → p.frame f) {s : Client × World}
    (hscan : call.Searches rt.toInterpreter s → ∀ scan ∈ call.scan, ∀ ip,
      Discovery.HeardAt rt targets deviceId scan ip → p.address ip)
    (h : FallbackClient.Serving (Aimed rt.toInterpreter p) s) :
    FallbackClient.Serving (Aimed rt.toInterpreter p)
      (step rt.toInterpreter (Factory.standard timeout) s (call.call rt targets deviceId)) := by
  have hkept : Kept rt.toInterpreter (Factory.standard timeout) p.frame p.address
      (Aimed rt.toInterpreter p) := aimed_kept timeout
  cases call with
  | query env attrs =>
    refine hkept.query _ (fun sn => hframe _ ⟨sn, rfl⟩) h ?_
    intro hsearches ip hfound
    exact hscan hsearches env.scan rfl ip (Discovery.search_heard env.now hfound)
  | control env payload =>
    refine hkept.control _ (fun sn => hframe _ ⟨sn, rfl⟩) h ?_
    intro hsearches ip hfound
    exact hscan hsearches env.scan rfl ip (Discovery.search_heard env.now hfound)
  | close => exact hkept.close h

/-- A client of an entry, in the course of these calls. -/
theorem run_aimed (rt : Runtime) (targets : List Str) (entry : ConfigEntry)
    {calls earlier later : List ScanningCall} (hcalls : calls = earlier ++ later)
    (h : FallbackClient.Serving (Aimed rt.toInterpreter (entry.policy rt targets calls))
      (scanningRun rt targets entry earlier)) :
    FallbackClient.Serving (Aimed rt.toInterpreter (entry.policy rt targets calls))
      (scanningRun rt targets entry calls) := by
  induction later generalizing earlier with
  | nil =>
    rw [List.append_nil] at hcalls
    rw [← hcalls] at h
    exact h
  | cons call later ih =>
    have hasks (f : Frame) (hf : call.Asks f) : (entry.policy rt targets calls).frame f :=
      ⟨call, by simp [hcalls], hf⟩
    have hheard (hsearches : call.Searches rt.toInterpreter (scanningRun rt targets entry earlier))
        (scan : Discovery.ScanEnv) (hscan : scan ∈ call.scan) (ip : Str)
        (hip : Discovery.HeardAt rt targets entry.deviceId scan ip) :
        (entry.policy rt targets calls).address ip :=
      .inr ⟨earlier, call, later, hcalls, hsearches, scan, hscan, hip⟩
    have hstep := step_aimed rt targets entry.deviceId
      (entry.localTimeout.getD DEFAULT_LOCAL_TIMEOUT) call hasks hheard h
    have hone : scanningRun rt targets entry (earlier ++ [call]) = step rt.toInterpreter
        (Factory.standard (entry.localTimeout.getD DEFAULT_LOCAL_TIMEOUT))
        (scanningRun rt targets entry earlier) (call.call rt targets entry.deviceId) := by
      simp [scanningRun]
    rw [← hone] at hstep
    refine ih ?_ hstep
    rw [hcalls, List.append_assoc, List.singleton_append]

/-- Whatever it is asked and whatever it meets, the client of an entry connects only to the relay of
the entry and to addresses of the device: the one in the entry and those the device was heard at when
the client searched for it. Every socket leads to one of them, and what is sent there are the frames
asked for and, at the relay, the lines that carry them. -/
theorem destinations (rt : Runtime) (targets : List Str) (entry : ConfigEntry)
    (calls : List ScanningCall) :
    let p := entry.policy rt targets calls
    let evs := (scanningRun rt targets entry calls).2.trace
    (∀ host port timeout, .connecting host port timeout ∈ evs → p.Dials host port) ∧
      (∀ s, .opened s ∈ evs → ∃ host port,
        ∀ host' port', LeadsTo evs s host' port' ↔ host' = host ∧ port' = port) ∧
      ∀ s mode raw taken, .sent s mode raw taken ∈ evs → ∃ host port,
        (∀ host' port', LeadsTo evs s host' port' ↔ host' = host ∧ port' = port) ∧
          p.Sends rt.toInterpreter host port raw := by
  intro p evs
  have hstart : FallbackClient.Serving (Aimed rt.toInterpreter p)
      (scanningRun rt targets entry []) := by
    refine ⟨⟨⟨rfl, ?_, ?_, ?_⟩, .inl rfl, rfl, ?_⟩, rfl⟩
    · rintro host port timeout ⟨⟩
    · rintro s ⟨⟩
    · rintro s mode raw taken ⟨⟩
    · rintro conn ⟨⟩
  have hdirected := (run_aimed rt targets entry (List.nil_append calls).symm hstart).1.directed
  have hone {s : Nat} {host : Str} {port : Int} (hleads : LeadsTo evs s host port) (host' : Str)
      (port' : Int) : LeadsTo evs s host' port' ↔ host' = host ∧ port' = port := by
    constructor
    · exact hleads.unique (hdirected.numbered ▸ List.nodup_range)
    · rintro ⟨rfl, rfl⟩
      exact hleads
  refine ⟨hdirected.dialled, ?_, ?_⟩
  · intro s hopened
    obtain ⟨host, port, hleads⟩ := hdirected.led s hopened
    exact ⟨host, port, hone hleads⟩
  · intro s mode raw taken hsent
    obtain ⟨host, port, hleads, hsends⟩ := hdirected.sent s mode raw taken hsent
    exact ⟨host, port, hone hleads, hsends⟩

end Client

end CozyLife
