import CozyLife.Integration
import CozyLife.Proofs.Showing
import Mathlib.Data.List.Nodup

/-! What Home Assistant shows of a device over a run of refreshes and commands. -/

namespace CozyLife
open Python Effects

namespace HassCoordinator

/-! ### What a coordinator is told -/

/-- What Home Assistant has a coordinator do. -/
inductive Op (ω : Type)
  | refresh (env : PollEnv ω)
  | control (env : ω) (reconcile : Option (PollEnv ω)) (payload : Payload)

/-- What a poll came to, or a command. -/
inductive Told
  | polled (result : Except Exn (Dict Json))
  | commanded (payload : Payload) (result : Except Exn Bool)

variable {H K ω : Type} (hass : UpdateCoordinator H)
  (query : ω → Option (List Int) → Method K (Dict Json)) (write : ω → Payload → Method K Bool)

def operate : Op ω → Coroutine (HassCoordinator H K) Unit
  | .refresh env => asyncRefresh hass query env
  | .control env reconcile payload => asyncControl hass query write env reconcile payload

def polledAt (env : PollEnv ω) (s : HassCoordinator H K × World) : Except Exn (Dict Json) :=
  answer (CozyLifeCoordinator.poll query env) (s.1.toCozyLifeCoordinator, s.2)

def commandedAt (env : ω) (payload : Payload) (s : HassCoordinator H K × World) : Except Exn Bool :=
  answer (write env payload) (s.1.client, s.2)

/-- A coordinator whose client has made a command. -/
def wrote (env : ω) (payload : Payload) (s : HassCoordinator H K × World) :
    HassCoordinator H K × World :=
  ({ s.1 with client := (after (write env payload) (s.1.client, s.2)).1 },
    (after (write env payload) (s.1.client, s.2)).2)

/-- A coordinator whose client has been polled. -/
def polledTo (env : PollEnv ω) (s : HassCoordinator H K × World) : HassCoordinator H K × World :=
  let t := after (CozyLifeCoordinator.poll query env) (s.1.toCozyLifeCoordinator, s.2)
  ({ s.1 with toCozyLifeCoordinator := t.1 }, t.2)

/-- A coordinator that shows what an accepted command has set. -/
def confirmed (payload : Payload) (s : HassCoordinator H K × World) : HassCoordinator H K × World :=
  let data := ((s.1.data hass).getD []).update (confirmedData payload)
  ({ s.1 with updates := hass.setUpdatedData s.1.updates data }, s.2)

/-- A command that is accepted is followed by the refresh it asks for. -/
def tells : Op ω → HassCoordinator H K × World → List Told
  | .refresh env, s => [.polled (polledAt query env s)]
  | .control env reconcile payload, s =>
    match commandedAt write env payload s, reconcile with
    | .ok true, some env' =>
      [.commanded payload (.ok true), .polled (polledAt query env' (wrote write env payload s))]
    | r, _ => [.commanded payload r]

def told : List (Op ω) → HassCoordinator H K × World → List Told
  | [], _ => []
  | op :: ops, s => tells query write op s ++ told ops (after (operate hass query write op) s)

def runOps (ops : List (Op ω)) (s : HassCoordinator H K × World) : HassCoordinator H K × World :=
  ops.foldl (fun s op => after (operate hass query write op) s) s

/-! ### What it shows -/

/-- What is shown of a device: its data, and whether it is available. -/
structure View where
  data : Option (Dict Json)
  available : Bool

def view (c : HassCoordinator H K) : View := ⟨c.data hass, c.available hass⟩

namespace View

def hear (v : View) : Told → View
  | .polled (.ok data) => ⟨some data, true⟩
  | .polled (.error _) => { v with available := false }
  | .commanded payload (.ok true) => ⟨some ((v.data.getD []).update (confirmedData payload)), true⟩
  | .commanded _ _ => v

end View

theorem asyncUpdateData_run (env : PollEnv ω) (s : HassCoordinator H K × World) :
    (asyncUpdateData query env).run s =
      match polledAt query env s with
      | .ok data => .ok data (polledTo query env s)
      | .error (.transport err) => .error (.updateFailed err.message) (polledTo query env s)
      | .error e => .error (.other e) (polledTo query env s) := by
  have hanswer : answer (zoom onPolled (CozyLifeCoordinator.poll query env)) s =
      polledAt query env s := answer_zoom s onPolled _
  have hafter : after (zoom onPolled (CozyLifeCoordinator.poll query env)) s =
      polledTo query env s := after_zoom s onPolled _
  simp only [asyncUpdateData, EStateM.run_bind, run_inExecutor, hanswer, hafter]
  rcases polledAt query env s with e | data
  · cases e <;> rfl
  · rfl

theorem asyncRefresh_view (env : PollEnv ω) (s : HassCoordinator H K × World) :
    answer (asyncRefresh hass query env) s = .ok () ∧
      view hass (after (asyncRefresh hass query env) s).1 =
        (view hass s.1).hear (.polled (polledAt query env s)) := by
  simp only [answer, after, asyncRefresh, EStateM.run_bind, run_caught, asyncUpdateData_run,
    EStateM.run_modify]
  rcases polledAt query env s with e | data
  · cases e <;>
      simp [view, View.hear, HassCoordinator.data, HassCoordinator.available, hass.data_refreshed,
        hass.success_refreshed, polledTo, Except.isOk, Except.toBool]
  · simp [view, View.hear, HassCoordinator.data, HassCoordinator.available, hass.data_refreshed,
      hass.success_refreshed, Except.isOk, Except.toBool]

variable {hass query write}

theorem asyncControl_run (env : ω) (reconcile : Option (PollEnv ω)) (payload : Payload)
    (s : HassCoordinator H K × World) :
    (asyncControl hass query write env reconcile payload).run s =
      let t := wrote write env payload s
      match commandedAt write env payload s with
      | .ok true => match reconcile with
        | some env => (asyncRefresh hass query env).run (confirmed hass payload t)
        | none => .ok () (confirmed hass payload t)
      | .ok false => .error (.homeAssistant (s.1.name ++ str " refused the command")) t
      | .error (.transport err) => .error (.homeAssistant (str "Could not reach " ++ s.1.name ++
          str " on either path: " ++ err.message)) t
      | .error e => .error (.other e) t := by
  have hanswer : answer (zoom onPolled (CozyLifeCoordinator.control write env payload)) s =
      commandedAt write env payload s :=
    (answer_zoom s onPolled _).trans (answer_zoom _ CozyLifeCoordinator.onClient _)
  have hafter : after (zoom onPolled (CozyLifeCoordinator.control write env payload)) s =
      wrote write env payload s := by
    rw [after_zoom, CozyLifeCoordinator.control, after_zoom]
    rfl
  simp only [asyncControl, EStateM.run_bind, run_inExecutor, hanswer, hafter]
  rcases commandedAt write env payload s with e | _ | _
  · cases e <;> rfl
  · rfl
  · cases reconcile <;> rfl

theorem polledAt_confirmed (env : PollEnv ω) (payload : Payload) (s : HassCoordinator H K × World) :
    polledAt query env (confirmed hass payload s) = polledAt query env s := rfl

theorem confirmed_view (payload : Payload) (s : HassCoordinator H K × World) :
    view hass (confirmed hass payload s).1 =
      (view hass s.1).hear (.commanded payload (.ok true)) := by
  simp only [view, View.hear, HassCoordinator.data, HassCoordinator.available, confirmed,
    hass.data_set, hass.success_set]

/-- What is shown after a refresh or a command is what there was, and what was heard since. -/
theorem operate_view (op : Op ω) (s : HassCoordinator H K × World) :
    view hass (after (operate hass query write op) s).1 =
      (tells query write op s).foldl View.hear (view hass s.1) := by
  cases op with
  | refresh env => exact (asyncRefresh_view hass query env s).2
  | control env reconcile payload =>
    simp only [operate, tells]
    rw [after, asyncControl_run]
    rcases commandedAt write env payload s with e | _ | _
    · cases e <;> rfl
    · rfl
    · cases reconcile with
      | none => exact confirmed_view payload (wrote write env payload s)
      | some env' =>
        have hrefresh := (asyncRefresh_view hass query env'
          (confirmed hass payload (wrote write env payload s))).2
        rw [polledAt_confirmed, confirmed_view] at hrefresh
        exact hrefresh

theorem runOps_view (ops : List (Op ω)) (s : HassCoordinator H K × World) :
    view hass (runOps hass query write ops s).1 =
      (told hass query write ops s).foldl View.hear (view hass s.1) := by
  induction ops generalizing s with
  | nil => rfl
  | cons op ops ih =>
    rw [told, List.foldl_append, ← operate_view]
    exact ih _

/-! ### The last word -/

/-- What is told gives this value to a key, or takes the key away. -/
inductive Told.Says (k : Str) : Told → Option Json → Prop
  | polled (data : Dict Json) : Says k (.polled (.ok data)) (data.get k)
  | commanded (payload : Payload) (value : Json) (h : (confirmedData payload).get k = some value) :
      Says k (.commanded payload (.ok true)) (some value)

/-- What is told makes the device available or not. -/
inductive Told.Reaches : Told → Bool → Prop
  | polled (result : Except Exn (Dict Json)) : Reaches (.polled result) result.isOk
  | commanded (payload : Payload) : Reaches (.commanded payload (.ok true)) true

theorem payloadData_distinct (payload : Payload) : (payloadData payload).Distinct := by
  have hset (d : Dict Int) (hd : d.Distinct) (key : Str) (value : Int) : (d.set key value).Distinct := by
    unfold Dict.set Dict.Distinct
    by_cases hany : (d.any (fun p => p.1 == key)) = true
    · rw [if_pos hany, List.map_map]
      have hsame : d.map (Prod.fst ∘ fun p => if p.1 == key then (key, value) else p) =
          d.map Prod.fst := by
        apply List.map_congr_left
        intro p _
        by_cases hp : p.1 = key <;> simp [hp]
      rw [hsame]
      exact hd
    · rw [if_neg hany, List.map_append]
      refine List.nodup_append.mpr ⟨hd, List.nodup_singleton _, ?_⟩
      intro _ hmem _ hnew heq
      subst heq
      obtain ⟨p, hp, rfl⟩ := List.mem_map.mp hmem
      apply hany
      rw [List.any_eq_true]
      exact ⟨p, hp, by simpa using List.mem_singleton.mp hnew⟩
  unfold payloadData
  suffices h : ∀ d : Dict Int, d.Distinct →
      (payload.foldl (fun data p => data.set p.1.toText p.2) d).Distinct from h [] .nil
  intro d hd
  induction payload generalizing d with
  | nil => exact hd
  | cons p payload ih => exact ih _ (hset d hd _ _)

theorem confirmedData_distinct (payload : Payload) : (confirmedData payload).Distinct := by
  have h := payloadData_distinct payload
  unfold Dict.Distinct at h ⊢
  rw [confirmedData, List.map_map]
  exact h

theorem hear_word {t : Told} {k : Str} {x : Option Json} (h : t.Says k x) (v : View) :
    ((v.hear t).data.getD []).get k = x := by
  cases h with
  | polled data => rfl
  | commanded payload value hvalue =>
    simp only [View.hear, Option.getD_some]
    rw [Dict.get_update _ _ _ (confirmedData_distinct payload), hvalue, Option.some_or]

theorem hear_silent {t : Told} {k : Str} (h : ∀ x, ¬ t.Says k x) (v : View) :
    ((v.hear t).data.getD []).get k = (v.data.getD []).get k := by
  rcases t with (_ | data) | ⟨payload, _ | _ | _⟩
  · rfl
  · exact absurd (.polled data) (h _)
  · rfl
  · rfl
  · simp only [View.hear, Option.getD_some]
    rw [Dict.get_update _ _ _ (confirmedData_distinct payload)]
    cases hk : (confirmedData payload).get k with
    | none => rw [Option.none_or]
    | some value => exact absurd (.commanded payload value hk) (h _)

theorem hear_reaches {t : Told} {b : Bool} (h : t.Reaches b) (v : View) : (v.hear t).available = b := by
  cases h with
  | polled result => cases result <;> rfl
  | commanded payload => rfl

theorem hear_unreached {t : Told} (h : ∀ b, ¬ t.Reaches b) (v : View) :
    (v.hear t).available = v.available := by
  rcases t with result | ⟨payload, _ | _ | _⟩
  · exact absurd (.polled result) (h _)
  · rfl
  · rfl
  · exact absurd (.commanded payload) (h _)

theorem heard_silent {heard : List Told} {k : Str} (h : ∀ t ∈ heard, ∀ x, ¬ t.Says k x) (v : View) :
    ((heard.foldl View.hear v).data.getD []).get k = (v.data.getD []).get k := by
  induction heard generalizing v with
  | nil => rfl
  | cons t heard ih =>
    obtain ⟨ht, hheard⟩ := List.forall_mem_cons.mp h
    rw [List.foldl_cons, ih hheard, hear_silent ht]

theorem heard_unreached {heard : List Told} (h : ∀ t ∈ heard, ∀ b, ¬ t.Reaches b) (v : View) :
    (heard.foldl View.hear v).available = v.available := by
  induction heard generalizing v with
  | nil => rfl
  | cons t heard ih =>
    obtain ⟨ht, hheard⟩ := List.forall_mem_cons.mp h
    rw [List.foldl_cons, ih hheard, hear_unreached ht]

theorem switchPayload_word (value : Int) :
    (Told.commanded (CozyLifeSwitch.switchPayload value) (.ok true)).Says (intText DPID_SWITCH)
      (some (.int value)) := .commanded _ _ rfl

variable (hass query write)

/-- Over any run of refreshes and commands each datapoint shows the last word on it: what the last
poll that succeeded reported, or what a command accepted since has set. A device is available unless
the last poll failed and no command was accepted since. A command raises unless it is accepted, and
an accepted toggle shows at once. -/
theorem shows_last_word (rt : Runtime) (title : Str) (client : K) (w : World) (ops : List (Op ω)) :
    let s := runOps hass query write ops (.new hass title client, w)
    let heard := told hass query write ops (.new hass title client, w)
    let shown := s.1.data hass
    (∀ k before t after x, heard = before ++ t :: after → t.Says k x →
      (∀ t ∈ after, ∀ x, ¬ t.Says k x) → (shown.getD []).get k = x) ∧
    (∀ k, (∀ t ∈ heard, ∀ x, ¬ t.Says k x) → (shown.getD []).get k = none) ∧
    (∀ before t after b, heard = before ++ t :: after → t.Reaches b →
      (∀ t ∈ after, ∀ b, ¬ t.Reaches b) → s.1.available hass = b) ∧
    (∀ env reconcile payload, answer (asyncControl hass query write env reconcile payload) s =
      .ok () ↔ commandedAt write env payload s = .ok true) ∧
    ∀ value before after,
      heard = before ++ .commanded (CozyLifeSwitch.switchPayload value) (.ok true) :: after →
      (∀ t ∈ after, ∀ x, ¬ t.Says (intText DPID_SWITCH) x) →
      CozyLifeSwitch.isOn rt shown = .ok (decide (0 < value)) := by
  intro s heard shown
  have hview : view hass s.1 = heard.foldl View.hear (view hass (.new hass title client)) :=
    runOps_view ops (.new hass title client, w)
  have hshown : shown = (heard.foldl View.hear (view hass (.new hass title client))).data :=
    congrArg View.data hview
  have hlast (k : Str) (before : List Told) (t : Told) (later : List Told) (x : Option Json)
      (hheard : heard = before ++ t :: later) (hword : t.Says k x)
      (hsilent : ∀ t ∈ later, ∀ x, ¬ t.Says k x) : (shown.getD []).get k = x := by
    rw [hshown, hheard, List.foldl_append, List.foldl_cons, heard_silent hsilent]
    exact hear_word hword _
  refine ⟨hlast, ?_, ?_, ?_, ?_⟩
  · intro k hsilent
    rw [hshown, heard_silent hsilent]
    simp [view, HassCoordinator.data, HassCoordinator.new, hass.data_new, Dict.get]
  · intro before t later b hheard hreaches hunreached
    have havailable : s.1.available hass =
        (heard.foldl View.hear (view hass (.new hass title client))).available :=
      congrArg View.available hview
    rw [havailable, hheard, List.foldl_append, List.foldl_cons, heard_unreached hunreached]
    exact hear_reaches hreaches _
  · intro env reconcile payload
    rw [answer, asyncControl_run]
    rcases commandedAt write env payload s with e | _ | _
    · cases e <;> simp
    · simp
    · cases reconcile with
      | none => simp
      | some env' =>
        have hrefresh := (asyncRefresh_view hass query env'
          (confirmed hass payload (wrote write env payload s))).1
        rw [answer] at hrefresh
        simpa using hrefresh
  · intro value before later hheard hsilent
    have hget := hlast _ before _ later _ hheard (switchPayload_word value) hsilent
    rw [isOn_run, rawOf, hget]
    rfl

end HassCoordinator

end CozyLife
