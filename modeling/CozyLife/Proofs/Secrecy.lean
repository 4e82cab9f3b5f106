import CozyLife.Proofs.Keys

/-! Two houses whose entries differ in their device keys cannot be told apart, but by the keys in the
lines to the relays. -/

namespace CozyLife
open Python Effects

/-! ### The coordinator -/

namespace CozyLifeCoordinator

variable {K : Str → Str → Prop} {C C' ω : Type}

structure Twins (Q : C → C' → Prop) (c : CozyLifeCoordinator C) (c' : CozyLifeCoordinator C') :
    Prop where
  client : Q c.client c'.client
  metering : c.metering = c'.metering

variable {Q : C → C' → Prop}

theorem onClient_alike {m : Method C α} {m' : Method C' α} (h : Matches (Beside K Q) Eq m m') :
    Matches (Beside K (Twins Q)) Eq (zoom onClient m) (zoom onClient m') :=
  h.zoom (fun _ _ hs => ⟨hs.1.client, hs.2⟩) (fun _ _ _ _ hs ht => ⟨⟨ht.1, hs.1.metering⟩, ht.2⟩)

variable {query : ω → Option (List Int) → Method C (Dict Json)}
  {query' : ω → Option (List Int) → Method C' (Dict Json)}

/-- Polls of coordinators whose clients answer alike. -/
theorem poll_alike (hq : ∀ env attrs, Matches (Beside K Q) Eq (query env attrs) (query' env attrs))
    (env : PollEnv ω) : Matches (Beside K (Twins Q)) Eq (poll query env) (poll query' env) := by
  have hmetering (m : Option (List Int)) : Matches (Beside K (Twins Q)) Eq
      (modifySelf (fun c : CozyLifeCoordinator C => { c with metering := m }))
      (modifySelf (fun c : CozyLifeCoordinator C' => { c with metering := m })) :=
    alike_modifySelf (fun _ _ h => ⟨h.client, rfl⟩)
  have hprobe (data : Dict Json) : Matches (Beside K (Twins Q)) Eq
      (probeMetering query env.metering data) (probeMetering query' env.metering data) := by
    refine (onClient_alike (hq _ _)).caught.bind (fun r r' hr => ?_)
    obtain rfl : r = r' := hr.eq
    rcases r with e | readings
    · cases e with
      | transport e => exact alike_pure rfl
      | _ => exact alike_throw _
    · by_cases h : readings = []
      · simp only [h, ↓reduceIte]
        exact alike_pure rfl
      · simp only [h, ↓reduceIte]
        exact alike_pure rfl
  refine (onClient_alike (hq _ _)).bind (fun data data' hdata => ?_)
  obtain rfl : data = data' := hdata
  refine alike_getSelf.bind (fun c c' hc => ?_)
  rw [← hc.metering]
  rcases c.metering with _ | _ | ⟨d, ds⟩
  · refine (hprobe data).bind (fun p p' hp => ?_)
    obtain rfl : p = p' := hp
    exact (hmetering _).bind (fun _ _ _ => alike_pure rfl)
  · exact alike_pure rfl
  · refine (onClient_alike (hq _ _)).caught.bind (fun r r' hr => ?_)
    obtain rfl : r = r' := hr.eq
    rcases r with e | readings
    · cases e with
      | transport e => exact alike_pure rfl
      | _ => exact alike_throw _
    · exact alike_pure rfl

end CozyLifeCoordinator

namespace HassCoordinator

variable {K : Str → Str → Prop} {H C C' α ω σ σ' : Type} (hass : UpdateCoordinator H)

theorem inExecutor_alike {R : σ × World → σ' × World → Prop} {A : α → α' → Prop} {m : Method σ α}
    {m' : Method σ' α'} (h : Matches R A m m') : Matches R (Ends A) (inExecutor m) (inExecutor m') := by
  intro s s' hs
  obtain ⟨hends, hafter⟩ := h s s' hs
  exact ⟨.ok hends, hafter⟩

structure Twins (Q : C → C' → Prop) (c : HassCoordinator H C) (c' : HassCoordinator H C') :
    Prop where
  polled : c.toCozyLifeCoordinator.Twins Q c'.toCozyLifeCoordinator
  title : c.title = c'.title
  updates : c.updates = c'.updates

variable {Q : C → C' → Prop}

theorem onPolled_alike {m : Method (CozyLifeCoordinator C) α} {m' : Method (CozyLifeCoordinator C') α}
    (h : Matches (Beside K (CozyLifeCoordinator.Twins Q)) Eq m m') :
    Matches (Beside K (Twins (H := H) Q)) Eq (zoom onPolled m) (zoom onPolled m') :=
  h.zoom (fun _ _ hs => ⟨hs.1.polled, hs.2⟩)
    (fun _ _ _ _ hs ht => ⟨⟨ht.1, hs.1.title, hs.1.updates⟩, ht.2⟩)

variable {query : ω → Option (List Int) → Method C (Dict Json)}
  {query' : ω → Option (List Int) → Method C' (Dict Json)} {write : ω → Payload → Method C Bool}
  {write' : ω → Payload → Method C' Bool}

theorem modify_alike (f : H → H) : Matches (Beside K (Twins Q)) Eq
    (modify (fun s => ({ s.1 with updates := f s.1.updates }, s.2)) :
      Coroutine (HassCoordinator H C) Unit)
    (modify (fun s => ({ s.1 with updates := f s.1.updates }, s.2)) :
      Coroutine (HassCoordinator H C') Unit) :=
  alike_modify (fun _ _ hs => ⟨⟨hs.1.polled, hs.1.title, congrArg f hs.1.updates⟩, hs.2⟩)

theorem asyncRefresh_alike
    (hq : ∀ env attrs, Matches (Beside K Q) Eq (query env attrs) (query' env attrs))
    (env : PollEnv ω) : Matches (Beside K (Twins Q)) Eq (asyncRefresh hass query env)
      (asyncRefresh hass query' env) := by
  have hupdate : Matches (Beside K (Twins (H := H) Q)) Eq (asyncUpdateData query env)
      (asyncUpdateData query' env) := by
    refine (inExecutor_alike (onPolled_alike (CozyLifeCoordinator.poll_alike hq env))).bind
      (fun r r' hr => ?_)
    obtain rfl : r = r' := hr.eq
    rcases r with e | data
    · cases e <;> exact alike_throw _
    · exact alike_pure rfl
  refine hupdate.caught.bind (fun r r' hr => ?_)
  obtain rfl : r = r' := hr.eq
  exact modify_alike (fun h => hass.refreshed h r)

theorem asyncControl_alike
    (hq : ∀ env attrs, Matches (Beside K Q) Eq (query env attrs) (query' env attrs))
    (hw : ∀ env payload, Matches (Beside K Q) Eq (write env payload) (write' env payload))
    (env : ω) (reconcile : Option (PollEnv ω)) (payload : Payload) :
    Matches (Beside K (Twins Q)) Eq (asyncControl hass query write env reconcile payload)
      (asyncControl hass query' write' env reconcile payload) := by
  have hname (s : HassCoordinator H C × World) (s' : HassCoordinator H C' × World)
      (hs : Beside K (Twins Q) s s') : s.1.name = s'.1.name := by
    rw [name, name, hs.1.title]
  refine (inExecutor_alike (onPolled_alike (CozyLifeCoordinator.onClient_alike
    (hw env payload)))).bind (fun r r' hr => ?_)
  obtain rfl : r = r' := hr.eq
  rcases r with e | accepted
  · cases e with
    | transport e =>
      refine alike_get.bind (fun s s' hs => ?_)
      rw [hname s s' hs]
      exact alike_throw _
    | _ => exact alike_throw _
  · cases accepted with
    | false =>
      refine alike_get.bind (fun s s' hs => ?_)
      rw [hname s s' hs]
      exact alike_throw _
    | true =>
      refine alike_get.bind (fun s s' hs => ?_)
      have hdata : s.1.data hass = s'.1.data hass := by
        rw [data, data, hs.1.updates]
      rw [hdata]
      refine (modify_alike (fun h => hass.setUpdatedData h _)).bind (fun _ _ _ => ?_)
      cases reconcile with
      | none => exact alike_pure rfl
      | some env => exact asyncRefresh_alike hass hq env

end HassCoordinator

/-! ### The entries -/

/-- One entry with two keys. -/
structure ConfigEntry.Rekeyed (K : Str → Str → Prop) (entry entry' : ConfigEntry) : Prop where
  others : entry' = { entry with deviceKey := entry'.deviceKey }
  deviceKey : Option.Rel K entry.deviceKey entry'.deviceKey

/-- Keys that stand in each other's place can be encoded, and both are given or both not. -/
structure KeyPairs (K : Str → Str → Prop) : Prop where
  encodable : KeysEncodable K
  given : ∀ key key', K key key' → (key = [] ↔ key' = [])

theorem buildClient_twins (hK : KeyPairs K) (h : ConfigEntry.Rekeyed K entry entry') :
    Client.Twins K (buildClient entry) (buildClient entry') := by
  obtain ⟨hothers, hkey⟩ := h
  refine ⟨rfl, ?_, ?_, rfl⟩
  · rw [hothers]
    rfl
  · simp only [buildClient, FallbackClient.initial]
    rw [hothers]
    simp only
    generalize entry.deviceKey = key at hkey
    generalize entry'.deviceKey = key' at hkey
    cases entry.relayHost with
    | none => exact .none
    | some host =>
      cases hkey with
      | none => exact .none
      | @some key key' hk =>
        by_cases hgiven : host ≠ [] ∧ key ≠ []
        · have hgiven' : host ≠ [] ∧ key' ≠ [] :=
            ⟨hgiven.1, fun h => hgiven.2 ((hK.given _ _ hk).mpr h)⟩
          simp only [if_pos hgiven, if_pos hgiven']
          exact .some ⟨rfl, rfl, rfl, rfl, hk⟩
        · have hgiven' : ¬ (host ≠ [] ∧ key' ≠ []) :=
            fun h => hgiven ⟨h.1, fun hn => h.2 ((hK.given _ _ hk).mp hn)⟩
          simp only [if_neg hgiven, if_neg hgiven']
          exact .none

namespace House

variable {K : Str → Str → Prop} {H : Type} (hass : UpdateCoordinator H) (py : Interpreter)

structure LoadedTwins (K : Str → Str → Prop) (e e' : LoadedEntry H) : Prop where
  coordinator : e.coordinator.Twins (Client.Twins K) e'.coordinator
  sensors : e.sensors = e'.sensors
  factory : e.factory = e'.factory

structure Twins (K : Str → Str → Prop) (house house' : House H) : Prop where
  loaded : ∀ id, Option.Rel (LoadedTwins K) (house.loaded id) (house'.loaded id)
  dropped : List.Forall₂ (HassCoordinator.Twins (Client.Twins K)) house.dropped house'.dropped

/-- The same step, for entries whose keys `K` relates. -/
inductive Step.Rekeyed (K : Str → Str → Prop) : Step → Step → Prop
  | setup (id title env) (h : ConfigEntry.Rekeyed K entry entry') :
      Rekeyed K (.setup id title entry env) (.setup id title entry' env)
  | same (step : Step) (h : ∀ id title entry env, step ≠ .setup id title entry env) :
      Rekeyed K step step

theorem Twins.put {house house' : House H} (h : Twins K house house') (id : Nat)
    (he : Option.Rel (LoadedTwins K) e e') : Twins K (house.put id e) (house'.put id e') := by
  refine ⟨fun i => ?_, h.dropped⟩
  simp only [House.put]
  split
  · exact he
  · exact h.loaded i

theorem onEntry_alike {m m' : Coroutine (HassCoordinator H Client) α} {A : α → α → Prop}
    (hm : Matches (Beside K (HassCoordinator.Twins (Client.Twins K))) A m m') (id : Nat)
    (he : LoadedTwins K e e') : Matches (Beside K (Twins K)) A (onEntry id e m) (onEntry id e' m') := by
  intro s s' hs
  obtain ⟨hends, hafter⟩ := hm (e.coordinator, s.2) (e'.coordinator, s'.2) ⟨he.coordinator, hs.2⟩
  have hput : ∀ (t t' : HassCoordinator H Client × World),
      Beside K (HassCoordinator.Twins (Client.Twins K)) t t' → Beside K (Twins K)
        (s.1.put id (some { e with coordinator := t.1 }), t.2)
        (s'.1.put id (some { e' with coordinator := t'.1 }), t'.2) :=
    fun t t' ht => ⟨hs.1.put id (.some ⟨ht.1, he.sensors, he.factory⟩), ht.2⟩
  simp only [answer, after, run_onEntry] at hends hafter ⊢
  cases hr : m.run (e.coordinator, s.2) <;> cases hr' : m'.run (e'.coordinator, s'.2) <;>
    simp only [hr, hr'] at hends hafter ⊢
  all_goals exact ⟨hends, hput _ _ hafter⟩

/-- A new object ends up as its like does. -/
theorem onNew_alike {σ σ' τ τ' α : Type} {R : σ → σ' → Prop} {Q : τ → τ' → Prop} {c : τ} {c' : τ'}
    {m : Coroutine τ α} {m' : Coroutine τ' α} (hc : Q c c')
    (hm : Matches (Beside K Q) Eq m m') : Matches (Beside K R) Q (onNew c m) (onNew c' m') := by
  intro s s' hs
  obtain ⟨_, hafter⟩ := hm (c, s.2) (c', s'.2) ⟨hc, hs.2⟩
  exact ⟨.ok hafter.1, hs.1, hafter.2⟩

theorem withEntry_alike {f f' : LoadedEntry H → Coroutine (House H) Unit} (id : Nat)
    (h : ∀ e e', LoadedTwins K e e' → Matches (Beside K (Twins K)) Eq (f e) (f' e')) :
    Matches (Beside K (Twins K)) Eq (withEntry id f) (withEntry id f') := by
  refine alike_get.bind (fun s s' hs => ?_)
  have hid := hs.1.loaded id
  generalize s.1.loaded id = e at hid
  generalize s'.1.loaded id = e' at hid
  cases hid with
  | none => exact alike_pure rfl
  | some he => exact h _ _ he

section Perform

theorem unload_alike (id : Nat) (he : LoadedTwins K e e') (unloaded : Bool) :
    Matches (Beside K (Twins K)) Eq (asyncUnloadEntry py id e unloaded)
      (asyncUnloadEntry (H := H) py id e' unloaded) := by
  cases unloaded with
  | false => exact alike_pure rfl
  | true =>
    have hclose := HassCoordinator.inExecutor_alike (HassCoordinator.onPolled_alike (H := H)
      (CozyLifeCoordinator.onClient_alike (Client.close_alike (K := K) py e'.factory)))
    have hclosed := onEntry_alike hclose id he
    rw [← he.factory] at hclosed
    refine hclosed.bind (fun _ _ _ => ?_)
    exact alike_modify (fun s s' hs => ⟨hs.1.put id .none, hs.2⟩)

variable (hK : KeyPairs K)
include hK

theorem setup_alike (id : Nat) (title : Str) (env : PollEnv ClientEnv)
    (h : ConfigEntry.Rekeyed K entry entry') : Matches (Beside K (Twins K)) Eq
      (asyncSetupEntry hass py id title entry env) (asyncSetupEntry hass py id title entry' env) := by
  have htimeout : entry'.localTimeout = entry.localTimeout := by
    rw [h.others]
  have hnew : HassCoordinator.Twins (H := H) (Client.Twins K)
      (.new hass title (buildClient entry)) (.new hass title (buildClient entry')) :=
    ⟨⟨buildClient_twins hK h, rfl⟩, rfl, rfl⟩
  simp only [asyncSetupEntry, htimeout]
  have hfirst := HassCoordinator.asyncRefresh_alike hass
    (fun env attrs => Client.query_alike py
      (Factory.standard (entry.localTimeout.getD DEFAULT_LOCAL_TIMEOUT)) hK.encodable env attrs) env
  refine (onNew_alike hnew hfirst).bind (fun c c' hc => ?_)
  have havailable : c.available hass = c'.available hass := by
    rw [HassCoordinator.available, HassCoordinator.available, hc.updates]
  have hdata : c.data hass = c'.data hass := by
    rw [HassCoordinator.data, HassCoordinator.data, hc.updates]
  rw [havailable, hdata]
  cases c'.available hass with
  | true => exact alike_modify (fun s s' hs => ⟨hs.1.put id (.some ⟨hc, rfl, rfl⟩), hs.2⟩)
  | false =>
    have hdrop : Matches (Beside K (Twins (H := H) K)) Eq
        (modify (fun s => ({ s.1 with dropped := c :: s.1.dropped }, s.2)) :
          Coroutine (House H) Unit)
        (modify (fun s => ({ s.1 with dropped := c' :: s.1.dropped }, s.2))) :=
      alike_modify (fun s s' hs => ⟨⟨hs.1.loaded, .cons hc hs.1.dropped⟩, hs.2⟩)
    exact hdrop.bind (fun _ _ _ => alike_throw _)

/-- A step of two houses that differ in keys. -/
theorem perform_alike (h : Step.Rekeyed K step step') :
    Matches (Beside K (Twins K)) Eq (perform hass py step) (perform hass py step') := by
  cases h with
  | setup id title env h =>
    refine alike_get.bind (fun s s' hs => ?_)
    have hid := hs.1.loaded id
    generalize s.1.loaded id = e at hid
    generalize s'.1.loaded id = e' at hid
    cases hid with
    | none => exact setup_alike hass py hK id title env h
    | some he => exact alike_pure rfl
  | same step h =>
    cases step with
    | setup id title entry env => exact absurd rfl (h id title entry env)
    | refresh id env =>
      refine withEntry_alike id (fun e e' he => ?_)
      rw [he.factory]
      exact onEntry_alike (HassCoordinator.asyncRefresh_alike hass
        (fun env attrs => Client.query_alike py e'.factory hK.encodable env attrs) env) id he
    | control id env reconcile payload =>
      refine withEntry_alike id (fun e e' he => ?_)
      rw [he.factory]
      exact onEntry_alike (HassCoordinator.asyncControl_alike hass
        (fun env attrs => Client.query_alike py e'.factory hK.encodable env attrs)
        (fun env payload => Client.control_alike py e'.factory hK.encodable env payload)
        env reconcile payload) id he
    | unload id unloaded =>
      exact withEntry_alike id (fun e e' he => unload_alike py id he unloaded)

/-- Whatever happens in two houses that differ in their device keys only, each step raises the same in
both, what is shown, announced and done is the same, and so is every event but for the key a line to a
relay ends with. -/
theorem keys_kept (steps steps' : List Step) (h : List.Forall₂ (Step.Rekeyed K) steps steps') :
    let s := run hass py steps (empty, World.initial)
    let s' := run hass py steps' (empty, World.initial)
    Twins K s.1 s'.1 ∧ World.Rekeyed K s.2 s'.2 ∧ ∀ step step', Step.Rekeyed K step step' →
      answer (perform hass py step) s = answer (perform hass py step') s' := by
  have hrun (s s' : House H × World) (hs : Beside K (Twins K) s s') :
      Beside K (Twins K) (run hass py steps s) (run hass py steps' s') := by
    induction h generalizing s s' with
    | nil => exact hs
    | cons hstep _ ih => exact ih _ _ (perform_alike hass py hK hstep s s' hs).2
  have hstart : Beside K (Twins (H := H) K) (empty, World.initial) (empty, World.initial) :=
    ⟨⟨fun _ => .none, .nil⟩, .initial⟩
  obtain ⟨htwins, hworld⟩ := hrun _ _ hstart
  exact ⟨htwins, hworld, fun step step' hstep =>
    (perform_alike hass py hK hstep _ _ ⟨htwins, hworld⟩).1.eq⟩

end Perform

/-- An entry for a plug with that key. -/
def plugEntry (key : Str) : ConfigEntry :=
  ⟨str "plug", str "10.0.0.7", some key, some (str "relay"), 8898, none, none⟩

/-- The listener is gone; the relay takes the lines and brings `line`. -/
def overRelay (line : Bytes) : ClientEnv where
  readings := ⟨0, 0, 0⟩
  local' :=
    let gone : LocalEnv :=
      ⟨0, ⟨⟨.wouldBlock, true⟩, ⟨.accepted, 0, []⟩, .refused (str "refused"), ⟨.accepted, 0, []⟩⟩⟩
    ⟨gone, ⟨0, none, .ok none⟩, gone⟩
  cloud := ⟨0, 0, .opened, .accepted, .accepted, [⟨1, .received (line ++ TERMINATOR)⟩]⟩

/-- The plug reports that it is on, and no metering. -/
def reportsOn : PollEnv ClientEnv where
  wildcard := overRelay (ascii
    "topic=device_plug&message=\x7b\"sn\":\"2\",\"msg\":\x7b\"data\":\x7b\"1\":1\x7d\x7d\x7d")
  metering := overRelay (ascii
    "topic=device_plug&message=\x7b\"sn\":\"4\",\"msg\":\x7b\"data\":\x7b\x7d\x7d\x7d")

/-- A key and the one it is replaced by. -/
def Replaced (key key' : Str) : Prop := key = str "old-key" ∧ key' = str "new"

theorem keys_kept_replaced :
    let setup (key : Str) : Step := .setup 0 (str "Plug") (plugEntry key) reportsOn
    let s := run .plain .plain [setup (str "old-key")] (empty, World.initial)
    let s' := run .plain .plain [setup (str "new")] (empty, World.initial)
    (s.1.loaded 0).isSome = true ∧ Twins Replaced s.1 s'.1 ∧ World.Rekeyed Replaced s.2 s'.2 := by
  have hpairs : KeyPairs Replaced := by
    constructor
    · rintro _ _ ⟨rfl, rfl⟩
      decide
    · rintro _ _ ⟨rfl, rfl⟩
      decide
  have hkeys : ConfigEntry.Rekeyed Replaced (plugEntry (str "old-key")) (plugEntry (str "new")) :=
    ⟨rfl, .some ⟨rfl, rfl⟩⟩
  obtain ⟨htwins, hworld, -⟩ := keys_kept .plain .plain hpairs _ _
    (.cons (.setup 0 (str "Plug") reportsOn hkeys) .nil)
  exact ⟨by decide +kernel, htwins, hworld⟩

end House

end CozyLife
