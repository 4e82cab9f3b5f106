import CozyLife.Lib.TwoRuns
import CozyLife.Proofs.Flows
import CozyLife.Proofs.Reporting
import Mathlib.Data.List.Forall2

/-! What the credentials typed into a form show in: the login they are for, and nothing else. -/

namespace CozyLife.ConfigFlow
open Python Effects Account Discovery

/-! ### The login -/

section Fetch

variable (rt : Runtime)

def loginRequest (credentials : Str × Str) (imei : Str) : Except AccountExn HttpRequest :=
  (Account.new API_BASE 20).prepare LOGIN_PATH
    (some (loginForm rt credentials.1 credentials.2 imei DEFAULT_COORDINATES)) none

variable (K : Str × Str → Str × Str → Prop)

/-- Two accounts' servers that answer alike to logins whose credentials `K` relates, and to what is
asked with no form. -/
structure Http.Alike (imei : Str) (http http' : Http) : Prop where
  login : ∀ credentials credentials', K credentials credentials' → ∀ request request',
    loginRequest rt credentials imei = .ok request →
      loginRequest rt credentials' imei = .ok request' → http request 20 = http' request' 20
  listing : ∀ request, request.data = none → http request 20 = http' request 20

variable {K}

theorem encodable_loginForm (credentials : Str × Str) (imei : Str) :
    Account.Encodable (loginForm rt credentials.1 credentials.2 imei DEFAULT_COORDINATES) ↔
      (credentials.1 ++ credentials.2).any isSurrogate = false ∧
        Account.Encodable (loginForm rt [] [] imei DEFAULT_COORDINATES) := by
  simp only [Account.Encodable, loginForm, List.forall_mem_cons, List.any_append,
    Bool.or_eq_false_iff, List.any_nil]
  tauto

/-- A form is sent to the account's API if it can be encoded. -/
theorem prepare_form_run (path : Str) (form : List (Str × Str)) :
    (Account.Encodable form ∧
        ∃ request, (Account.new API_BASE 20).prepare path (some form) none = .ok request) ∨
      (¬ Account.Encodable form ∧
        (Account.new API_BASE 20).prepare path (some form) none = .error .unicode) := by
  have hscheme : hasScheme ((Account.new API_BASE 20).baseUrl ++ path) = true :=
    addressed_api 20 path none _ rfl
  rw [← urlencode_isSome]
  simp only [CozyLifeAccount.prepare, CozyLifeAccount.url, pure_bind, encodeFields, hscheme,
    ↓reduceIte]
  cases urlencode form with
  | none => exact .inr ⟨by simp, rfl⟩
  | some text => exact .inl ⟨⟨text, rfl⟩, _, rfl⟩

theorem prepare_params_data (account : CozyLifeAccount) (path : Str) (params : List (Str × Str))
    {request : HttpRequest} (h : account.prepare path none (some params) = .ok request) :
    request.data = none := by
  unfold CozyLifeAccount.prepare at h
  cases hurl : account.url path (some params) with
  | error e =>
    rw [hurl] at h
    cases h
  | ok url =>
    rw [hurl] at h
    simp only [bind, Except.bind, pure, Except.pure] at h
    split at h
    · cases h
      rfl
    · cases h

/-- Credentials that `K` relates can be sent, all of them. -/
def Sendable (K : Str × Str → Str × Str → Prop) : Prop :=
  ∀ credentials credentials', K credentials credentials' →
    (credentials.1 ++ credentials.2).any isSurrogate = false ∧
      (credentials'.1 ++ credentials'.2).any isSurrogate = false

section Alike

variable (hK : Sendable K) {imei : Str} {http http' : Http} (h : Http.Alike rt K imei http http')
include h

theorem devices_alike (token : Str) : (Account.new API_BASE 20).devices rt http token =
    (Account.new API_BASE 20).devices rt http' token := by
  have hrequest : (Account.new API_BASE 20).request rt http DEVICE_LIST_PATH none
        (some (deviceParams token)) =
      (Account.new API_BASE 20).request rt http' DEVICE_LIST_PATH none
        (some (deviceParams token)) := by
    unfold CozyLifeAccount.request
    cases hr : (Account.new API_BASE 20).prepare DEVICE_LIST_PATH none
      (some (deviceParams token)) with
    | error e => rfl
    | ok request =>
      have hanswer := h.listing request (prepare_params_data _ _ _ hr)
      exact congrArg (conclude rt DEVICE_LIST_PATH) hanswer
  rw [CozyLifeAccount.devices, CozyLifeAccount.devices, hrequest]

include hK

theorem login_alike (hk : K credentials credentials') :
    (Account.new API_BASE 20).login rt http credentials.1 credentials.2 imei DEFAULT_COORDINATES =
      (Account.new API_BASE 20).login rt http' credentials'.1 credentials'.2 imei
        DEFAULT_COORDINATES := by
  have hrequest : (Account.new API_BASE 20).request rt http LOGIN_PATH
        (some (loginForm rt credentials.1 credentials.2 imei DEFAULT_COORDINATES)) none =
      (Account.new API_BASE 20).request rt http' LOGIN_PATH
        (some (loginForm rt credentials'.1 credentials'.2 imei DEFAULT_COORDINATES)) none := by
    have hsend :
        Account.Encodable (loginForm rt credentials.1 credentials.2 imei DEFAULT_COORDINATES) ↔
          Account.Encodable
            (loginForm rt credentials'.1 credentials'.2 imei DEFAULT_COORDINATES) := by
      rw [encodable_loginForm, encodable_loginForm, (hK _ _ hk).1, (hK _ _ hk).2]
    unfold CozyLifeAccount.request
    rcases prepare_form_run LOGIN_PATH
      (loginForm rt credentials.1 credentials.2 imei DEFAULT_COORDINATES) with
      ⟨hok, request, hr⟩ | ⟨hno, hr⟩
    all_goals
      rcases prepare_form_run LOGIN_PATH
        (loginForm rt credentials'.1 credentials'.2 imei DEFAULT_COORDINATES) with
        ⟨hok', request', hr'⟩ | ⟨hno', hr'⟩
    · rw [hr, hr']
      exact congrArg (conclude rt LOGIN_PATH) (h.login _ _ hk request request' hr hr')
    · exact absurd (hsend.mp hok) hno'
    · exact absurd (hsend.mpr hok') hno
    · rw [hr, hr']
      rfl
  rw [CozyLifeAccount.login, CozyLifeAccount.login, hrequest]

/-- The devices are fetched alike: the token is all that is left of a login. -/
theorem fetchDevices_alike (hk : K credentials credentials') :
    fetchDevices rt http credentials.1 credentials.2 imei =
      fetchDevices rt http' credentials'.1 credentials'.2 imei := by
  simp only [fetchDevices, login_alike rt hK h hk, devices_alike rt h]

end Alike

end Fetch

/-! ### Two lives of the flows -/

section Lives

variable (K : Str × Str → Str × Str → Prop)

inductive Job.Alike : Job → Job → Prop
  | fetchDevices (entry : Option Nat) (h : K (email, password) (email', password')) :
      Alike (.fetchDevices entry email password) (.fetchDevices entry email' password')
  | findDeviceIp (entry : Option Nat) (device : CozyLifeDevice) :
      Alike (.findDeviceIp entry device) (.findDeviceIp entry device)

/-- Flows that are the same but for the credentials they are signing in with. -/
structure Running.Alike (r r' : Running) : Prop where
  flow : r.flow = r'.flow
  jobs : List.Forall₂ (Job.Alike K) r.jobs r'.jobs

/-- Home Assistant has been told the same, and the flows are alike. -/
structure Flows.Alike {H : Type} (s s' : Flows H) : Prop where
  home : s.home = s'.home
  flows : List.Forall₂ (Running.Alike K) s.flows s'.flows

inductive Progress.Alike : Progress → Progress → Prop
  | returns (result : FlowResult) : Alike (.returns result) (.returns result)
  | awaits (h : Job.Alike K job job') : Alike (.awaits job) (.awaits job')

inductive JobEnv.Alike (rt : Runtime) : JobEnv → JobEnv → Prop
  | account (imei : Str) (h : Http.Alike rt K imei http http') :
      Alike rt (.account http imei) (.account http' imei)
  | scan (targets : List Str) (env : ScanEnv) : Alike rt (.scan targets env) (.scan targets env)

/-- The same step, also where different credentials are typed or two servers answer. -/
inductive Step.Alike {A : Type} (rt : Runtime) : Step A → Step A → Prop
  | begin (source : Option Nat) : Alike rt (.begin source) (.begin source)
  | user (flowId : Nat) (h : K (email, password) (email', password')) :
      Alike rt (.user flowId email password) (.user flowId email' password')
  | reconfigure (flowId : Nat) (h : K (email, password) (email', password')) :
      Alike rt (.reconfigure flowId email password) (.reconfigure flowId email' password')
  | device (flowId : Nat) (deviceId : Str) : Alike rt (.device flowId deviceId) (.device flowId deviceId)
  | address (flowId : Nat) (localIp : Str) : Alike rt (.address flowId localIp) (.address flowId localIp)
  | back (flowId i : Nat) (h : JobEnv.Alike K rt env env') :
      Alike rt (.back flowId i env) (.back flowId i env')
  | other (action : A) : Alike rt (.other action) (.other action)

end Lives

section Alike

variable {K : Str × Str → Str × Str → Prop} {H A : Type} {hass : HomeAssistant H A} {rt : Runtime}

/-- Handlers that cannot be told apart but by the credentials they go on with. -/
abbrev Handler.Alike (K : Str × Str → Str × Str → Prop) (m m' : Handler H Progress) : Prop :=
  Matches Eq (Progress.Alike K) m m'

section Handlers

theorem asyncStepAddress_alike (userInput : Option Str) :
    Handler.Alike (H := H) K (asyncStepAddress userInput) (asyncStepAddress userInput) := by
  refine alike_get.bind ?_
  rintro s _ rfl
  split
  · exact alike_throw _
  · exact alike_pure (.returns _)
  · exact alike_pure (.returns _)

theorem asyncConfigure_alike (flowId : Nat) (device : CozyLifeDevice) :
    Handler.Alike K (asyncConfigure hass flowId device) (asyncConfigure hass flowId device) :=
  (alike_same _).bind (fun _ _ _ => (alike_same _).bind (fun _ _ _ => (alike_same _).bind
    (fun _ _ _ => alike_pure (.awaits (.findDeviceIp none device)))))

theorem configured_alike (device : CozyLifeDevice) (found : Except Exn (Option Str)) :
    Handler.Alike (H := H) K (configured device found) (configured device found) := by
  rcases found with e | _ | localIp
  · exact alike_throw _
  · exact asyncStepAddress_alike none
  · simp only [configured]
    split
    · exact asyncStepAddress_alike none
    · exact alike_pure (.returns _)

theorem asyncStepDevice_alike (flowId : Nat) (userInput : Option Str) :
    Handler.Alike K (asyncStepDevice hass flowId userInput)
      (asyncStepDevice hass flowId userInput) := by
  refine alike_get.bind ?_
  rintro s _ rfl
  cases userInput with
  | none => exact alike_pure (.returns _)
  | some deviceId =>
    dsimp only
    split
    · exact asyncConfigure_alike flowId _
    · exact alike_throw _

theorem userFetched_alike (flowId : Nat) (fetched : Except AccountExn (List CozyLifeDevice)) :
    Handler.Alike K (userFetched hass flowId fetched) (userFetched hass flowId fetched) := by
  rcases fetched with err | _ | ⟨device, _ | ⟨other, devices⟩⟩
  · simp only [userFetched]
    cases fetchErrors err with
    | none => exact alike_throw _
    | some errors => exact alike_pure (.returns _)
  · exact alike_pure (.returns _)
  · exact (alike_same _).bind (fun _ _ _ => asyncConfigure_alike flowId device)
  · exact (alike_same _).bind (fun _ _ _ => asyncStepDevice_alike flowId none)

theorem reconfigureForm_alike (entryId : Nat) (errors : Dict Str) :
    Handler.Alike K (reconfigureForm hass entryId errors) (reconfigureForm hass entryId errors) := by
  refine alike_get.bind ?_
  rintro s _ rfl
  exact alike_pure (.returns _)

theorem reconfigureFetched_alike (entryId : Nat)
    (fetched : Except AccountExn (List CozyLifeDevice)) :
    Handler.Alike K (reconfigureFetched hass entryId fetched)
      (reconfigureFetched hass entryId fetched) := by
  rcases fetched with err | devices
  · simp only [reconfigureFetched]
    cases fetchErrors err with
    | none => exact alike_throw _
    | some errors => exact reconfigureForm_alike entryId errors
  · refine (alike_same _).bind ?_
    rintro data _ rfl
    dsimp only
    split
    · exact alike_pure (.returns _)
    · exact alike_pure (.awaits (.findDeviceIp (some entryId) _))

theorem reconfigured_alike (flowId entryId : Nat) (device : CozyLifeDevice)
    (found : Except Exn (Option Str)) :
    Handler.Alike K (reconfigured hass flowId entryId device found)
      (reconfigured hass flowId entryId device found) := by
  cases found with
  | error e => exact alike_throw _
  | ok found =>
    refine (alike_same _).bind ?_
    rintro localIp _ rfl
    refine (alike_same _).bind ?_
    rintro reason _ rfl
    exact alike_pure (.returns _)

theorem asyncStepUser_alike (h : K (email, password) (email', password')) :
    Handler.Alike (H := H) K (asyncStepUser (some (email, password)))
      (asyncStepUser (some (email', password'))) :=
  alike_pure (.awaits (.fetchDevices none h))

theorem asyncStepReconfigure_alike (flowId : Nat) (h : K (email, password) (email', password')) :
    Handler.Alike K (asyncStepReconfigure hass flowId (some (email, password)))
      (asyncStepReconfigure hass flowId (some (email', password'))) := by
  refine (alike_same _).bind ?_
  rintro entryId _ rfl
  exact alike_pure (.awaits (.fetchDevices (some entryId) h))

/-- The first form of a flow. -/
theorem begin_alike (flowId : Nat) (source : Option Nat) :
    Handler.Alike K
      (if source.isNone then asyncStepUser none else asyncStepReconfigure hass flowId none)
      (if source.isNone then asyncStepUser none else asyncStepReconfigure hass flowId none) := by
  split
  · exact alike_pure (.returns _)
  · refine (alike_same _).bind ?_
    rintro entryId _ rfl
    exact reconfigureForm_alike entryId []

/-- What a flow goes on with after a job tells nothing of the credentials. -/
theorem goOn_alike (hK : Sendable K) (flowId : Nat) (hjob : Job.Alike K job job')
    (henv : JobEnv.Alike K rt env env') : Option.Rel (Handler.Alike K)
      (Flows.goOn hass rt flowId job env) (Flows.goOn hass rt flowId job' env') := by
  cases henv with
  | account imei hhttp =>
    cases hjob with
    | findDeviceIp entry device => cases entry <;> exact .none
    | @fetchDevices email password email' password' entry hk =>
      have hfetch := fetchDevices_alike rt hK hhttp hk
      simp only at hfetch
      cases entry with
      | none =>
        simp only [Flows.goOn, hfetch]
        exact .some (userFetched_alike flowId _)
      | some entryId =>
        simp only [Flows.goOn, hfetch]
        exact .some (reconfigureFetched_alike entryId _)
  | scan targets env =>
    cases hjob with
    | fetchDevices entry hk => cases entry <;> exact .none
    | findDeviceIp entry device =>
      cases entry with
      | none => exact .some (configured_alike device _)
      | some entryId => exact .some (reconfigured_alike flowId entryId device _)

end Handlers

/-! ### The steps -/

section Steps

variable {s s' : Flows H} (h : s.Alike K s')
include h

theorem go_alike (flowId : Nat) {jobs jobs' : List Job}
    (hjobs : List.Forall₂ (Job.Alike K) jobs jobs') (flow : CozyLifeConfigFlow)
    {m m' : Handler H Progress} (hm : Handler.Alike K m m') :
    (Flows.go hass flowId jobs flow m s).Alike K (Flows.go hass flowId jobs' flow m' s') := by
  obtain ⟨hends, hafter⟩ := hm (flow, s.home) (flow, s'.home) (by rw [h.home])
  have hset (flow : CozyLifeConfigFlow) {rest rest' : List Job}
      (hrest : List.Forall₂ (Job.Alike K) rest rest') :
      List.Forall₂ (Running.Alike K) (s.flows.set flowId ⟨flow, rest⟩)
        (s'.flows.set flowId ⟨flow, rest'⟩) := by
    have hflow : Running.Alike K ⟨flow, rest⟩ ⟨flow, rest'⟩ := ⟨rfl, hrest⟩
    exact set_alike h.flows hflow
  unfold Flows.go
  have hrun := run_eq m (flow, s.home)
  have hrun' := run_eq m' (flow, s'.home)
  rw [hrun, hrun']
  generalize answer m (flow, s.home) = x at hends
  generalize answer m' (flow, s'.home) = x' at hends
  rw [hafter]
  cases hends with
  | error e => exact ⟨rfl, hset _ hjobs⟩
  | ok hr =>
    cases hr with
    | returns result => exact ⟨rfl, hset _ hjobs⟩
    | awaits hjob => exact ⟨rfl, hset _ (List.rel_append hjobs (.cons hjob .nil))⟩

theorem submit_alike (flowId : Nat) {m m' : Handler H Progress} (hm : Handler.Alike K m m') :
    (Flows.submit hass flowId m s).Alike K (Flows.submit hass flowId m' s') := by
  have hget := get?_alike h.flows flowId
  unfold Flows.submit
  generalize s.flows[flowId]? = x at hget
  generalize s'.flows[flowId]? = x' at hget
  cases hget with
  | none => exact h
  | some hr =>
    dsimp only
    rw [hr.flow]
    exact go_alike h flowId hr.jobs _ hm

/-- A step leaves nothing to tell two lives apart by. -/
theorem perform_alike (hK : Sendable K) {step step' : Step A} (hstep : Step.Alike K rt step step') :
    (Flows.perform hass rt s step).Alike K (Flows.perform hass rt s' step') := by
  have hlength : s.flows.length = s'.flows.length := h.flows.length_eq
  cases hstep with
  | begin source =>
    have hnew : Flows.Alike K
        (⟨hass.init s.home s.flows.length source, s.flows ++ [⟨⟨[], none⟩, []⟩]⟩ : Flows H)
        ⟨hass.init s'.home s'.flows.length source, s'.flows ++ [⟨⟨[], none⟩, []⟩]⟩ :=
      ⟨by rw [h.home, hlength], List.rel_append h.flows (.cons ⟨rfl, .nil⟩ .nil)⟩
    simp only [Flows.perform, hlength] at hnew ⊢
    exact submit_alike hnew _ (begin_alike _ source)
  | user flowId hk => exact submit_alike h flowId (asyncStepUser_alike hk)
  | reconfigure flowId hk => exact submit_alike h flowId (asyncStepReconfigure_alike flowId hk)
  | device flowId deviceId => exact submit_alike h flowId (asyncStepDevice_alike flowId _)
  | address flowId localIp => exact submit_alike h flowId (asyncStepAddress_alike _)
  | other action => exact ⟨congrArg (hass.act · action) h.home, h.flows⟩
  | @back env env' flowId i henv =>
    have hget := get?_alike h.flows flowId
    simp only [Flows.perform, Flows.awaited, Option.bind_eq_bind]
    generalize s.flows[flowId]? = x at hget
    generalize s'.flows[flowId]? = x' at hget
    cases hget with
    | none => exact h
    | @some r r' hr =>
      have hjob := get?_alike hr.jobs i
      simp only [Option.bind_some]
      generalize r.jobs[i]? = y at hjob
      generalize r'.jobs[i]? = y' at hjob
      cases hjob with
      | none => exact h
      | @some job job' hjob =>
        have hgoes : Option.Rel (Handler.Alike K) (Flows.goOn hass rt flowId job env)
            (Flows.goOn hass rt flowId job' env') := goOn_alike hK flowId hjob henv
        simp only [Option.bind_some]
        generalize Flows.goOn hass rt flowId job env = z at hgoes
        generalize Flows.goOn hass rt flowId job' env' = z' at hgoes
        cases hgoes with
        | none => exact h
        | some hm =>
          simp only [Option.bind_some, Option.pure_def, hr.flow]
          exact go_alike h flowId (eraseIdx_alike hr.jobs i) _ hm

theorem run_alike (hK : Sendable K) {steps steps' : List (Step A)}
    (hsteps : List.Forall₂ (Step.Alike K rt) steps steps') :
    (Flows.run hass rt steps s).Alike K (Flows.run hass rt steps' s') :=
  List.rel_foldl (P := Flows.Alike K) (R := Step.Alike K rt)
    (fun _ _ h _ _ hstep => perform_alike h hK hstep) h hsteps

end Steps

end Alike

/-- Whatever the flows go through, the credentials that are typed in are used for the login and
dropped: two lives that differ in nothing else, and whose servers answer alike, tell Home Assistant
the same and leave flows that differ only in what they are signing in with. -/
theorem credentials_dropped {K : Str × Str → Str × Str → Prop} (hK : Sendable K) {H A : Type}
    (hass : HomeAssistant H A) (rt : Runtime) (home : H) (steps steps' : List (Step A))
    (h : List.Forall₂ (Step.Alike K rt) steps steps') :
    (Flows.run hass rt steps ⟨home, []⟩).Alike K (Flows.run hass rt steps' ⟨home, []⟩) :=
  run_alike ⟨rfl, .nil⟩ hK h

/-- What one member of a household types, and what another does. -/
def Housemates (credentials credentials' : Str × Str) : Prop :=
  credentials = (str "a@home", str "secret") ∧ credentials' = (str "b@home", str "other")

theorem credentials_dropped_adds :
    let s := Flows.run .plain .plain (adds (str "a@home") (str "secret")) ⟨.empty, []⟩
    let s' := Flows.run .plain .plain (adds (str "b@home") (str "other")) ⟨.empty, []⟩
    s.home.entries.map (fun p => p.2.data.deviceKey) = [str "key"] ∧ s.Alike Housemates s' := by
  have hsend : Sendable Housemates := by
    rintro _ _ ⟨rfl, rfl⟩
    decide +kernel
  have hposts (email password : Str) (request : HttpRequest) (hsome :
      (loginRequest .plain (email, password) (str "imei")).toOption.all (·.data.isSome) = true)
      (h : loginRequest .plain (email, password) (str "imei") = .ok request) :
      request.data.isSome = true := by
    rw [h] at hsome
    exact hsome
  have hserver : Http.Alike .plain Housemates (str "imei") onePlug onePlug := by
    refine ⟨?_, fun _ _ => rfl⟩
    rintro _ _ ⟨rfl, rfl⟩ request request' h h'
    have hdata := hposts _ _ request (by decide +kernel) h
    have hdata' := hposts _ _ request' (by decide +kernel) h'
    simp only [onePlug, hdata, hdata']
  have hback (flowId : Nat) : Step.Alike (A := Action) Housemates .plain
      (.back flowId 0 (.account onePlug (str "imei")))
      (.back flowId 0 (.account onePlug (str "imei"))) := .back flowId 0 (.account _ hserver)
  have hsteps : List.Forall₂ (Step.Alike Housemates .plain) (adds (str "a@home") (str "secret"))
      (adds (str "b@home") (str "other")) :=
    .cons (.begin none) (.cons (.user 0 ⟨rfl, rfl⟩) (.cons (hback 0) (.cons (.begin none)
      (.cons (.user 1 ⟨rfl, rfl⟩) (.cons (hback 1) (.cons (.back 0 0 (.scan _ _))
        (.cons (.address 0 _) .nil)))))))
  exact ⟨by decide +kernel, credentials_dropped hsend .plain .plain .empty _ _ hsteps⟩

end CozyLife.ConfigFlow
