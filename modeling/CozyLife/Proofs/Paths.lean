import CozyLife.Proofs.Coverage
import CozyLife.Proofs.Polling

/-! Which path the coordinator shows after a poll. -/

namespace CozyLife
open Python Effects

namespace FallbackClient

variable {L C α ωL ωC : Type}

/-- The name of a transport whose call served. -/
def ifServed (name : Str) : Except Exn α → Option Str
  | .ok _ => some name
  | .error _ => none

/-- The transport that serves a request, if one does: the first to answer of those it is tried on. -/
def servedPath (localName cloudName : Str) (r : Readings) (callLocal : Method L α)
    (callCloud : Method C α) (s : FallbackClient L C × World) : Option Str :=
  let overCloud := match s.1.cloud with
    | some c => ifServed cloudName (cloudAnswer r callLocal callCloud c s)
    | none => none
  if (s.1.toBreaker.shouldTryLocal s.1.cloud.isSome r.check r.probe).1 then
    (ifServed localName (localAnswer callLocal s)).or overCloud
  else overCloud

/-- A request answered as its path says, with the path noted. -/
def Shown (path : Option Str) (request : Method (FallbackClient L C) α)
    (s : FallbackClient L C × World) : Prop :=
  (answer request s).isOk = path.isSome ∧ (after request s).1.activePath = path

theorem viaCloud_path (cloudName : Str) (callCloud : Method C α)
    (localError : Option TransportError) {s : FallbackClient L C × World} {c : C}
    (h : s.1.cloud = some c) (hc : Contained (answer callCloud (c, s.2))) :
    Shown (ifServed cloudName (answer callCloud (c, s.2))) (viaCloud cloudName callCloud localError)
      s := by
  have hrun := viaCloud_run cloudName callCloud localError s c h
  unfold Shown
  rw [answer, after, hrun, run_onCloud]
  rcases run_cases callCloud (c, s.2) with ⟨a, t, hcall, ha, _⟩ | ⟨e, t, hcall, ha, _⟩
  · rw [hcall, ha]
    exact ⟨rfl, rfl⟩
  · rw [ha] at hc
    rw [hcall, ha]
    cases e with
    | transport e => cases localError <;> exact ⟨rfl, rfl⟩
    | _ => exact absurd (hc _ rfl) (by simp [Exn.isTransport])

/-- A request that is served leaves the name of the transport that served it, any other none. -/
theorem attempt_path (localName cloudName : Str) (r : Readings) {callLocal : Method L α}
    {callCloud : Method C α} (s : FallbackClient L C × World)
    (hl : ∀ t, Contained (answer callLocal t)) (hc : ∀ t, Contained (answer callCloud t)) :
    Shown (servedPath localName cloudName r callLocal callCloud s)
      (attempt localName cloudName r callLocal callCloud) s := by
  have hrun := attempt_run localName cloudName r callLocal callCloud s
  have hlocal := hl (s.1.local', s.2)
  unfold servedPath Shown
  rw [answer, after, hrun, localAnswer]
  cases htry : (s.1.toBreaker.shouldTryLocal s.1.cloud.isSome r.check r.probe).1 with
  | false =>
    cases hcloud : s.1.cloud with
    | none => simp [hcloud, Breaker.shouldTryLocal] at htry
    | some c =>
      have hturned : turned r callLocal s = decided r s := by
        rw [turned, htry]
        rfl
      simp only [cloudAnswer, hturned]
      exact viaCloud_path cloudName callCloud none (s := decided r s) hcloud (hc _)
  | true =>
    rcases ha : answer callLocal (s.1.local', s.2) with e | a
    · rw [ha] at hlocal
      cases e with
      | transport e =>
        cases hcloud : s.1.cloud with
        | none => exact ⟨rfl, rfl⟩
        | some c =>
          have hturned : turned r callLocal s =
              failed r (locally callLocal (decided r s)) := by
            rw [turned, htry]
            rfl
          simp only [cloudAnswer, hturned]
          exact viaCloud_path cloudName callCloud (some e)
            (s := failed r (locally callLocal (decided r s))) hcloud (hc _)
      | _ => exact absurd (hlocal _ rfl) (by simp [Exn.isTransport])
    · exact ⟨rfl, rfl⟩

theorem attempt_contained (localName cloudName : Str) (r : Readings) {callLocal : Method L α}
    {callCloud : Method C α} (s : FallbackClient L C × World)
    (hl : ∀ t, Contained (answer callLocal t)) (hc : ∀ t, Contained (answer callCloud t)) :
    Contained (answer (attempt localName cloudName r callLocal callCloud) s) := by
  cases hcloud : s.1.cloud with
  | some c =>
    apply (attempt_served localName cloudName r callLocal callCloud s c hcloud).raises
    · exact hl _
    · exact hc _
  | none =>
    have hlocal := hl (s.1.local', s.2)
    have hrun := attempt_run localName cloudName r callLocal callCloud s
    have htry : (s.1.toBreaker.shouldTryLocal s.1.cloud.isSome r.check r.probe).1 = true := by
      rw [hcloud]
      rfl
    rw [answer, hrun, if_pos htry, hcloud]
    rcases ha : answer callLocal (s.1.local', s.2) with e | a
    · rw [ha] at hlocal
      cases e with
      | transport e => exact (contained_error _).mpr rfl
      | _ => exact absurd (hlocal _ rfl) (by simp [Exn.isTransport])
    · exact contained_ok a

end FallbackClient

/-- The calls of a transport return or raise transport errors. -/
structure Transport.Contained (t : Transport ω T) : Prop where
  query : ∀ env attrs s, CozyLife.Contained (answer (t.query env attrs) s)
  control : ∀ env payload s, CozyLife.Contained (answer (t.control env payload) s)

namespace CozyLifeCoordinator

variable {L C ωL ωC : Type} (l : Transport ωL L) (c : Transport ωC C)

/-- What is done with a coordinator: polls and writes, in any order. -/
inductive Op (ωL ωC : Type)
  | poll (env : PollEnv (FallbackClient.RequestEnv ωL ωC))
  | control (env : FallbackClient.RequestEnv ωL ωC) (payload : Payload)

def queryPath (env : FallbackClient.RequestEnv ωL ωC) (attrs : Option (List Int)) :
    FallbackClient L C × World → Option Str :=
  FallbackClient.servedPath l.name c.name env.readings (l.query env.local' attrs)
    (c.query env.cloud attrs)

def controlPath (env : FallbackClient.RequestEnv ωL ωC) (payload : Payload) :
    FallbackClient L C × World → Option Str :=
  FallbackClient.servedPath l.name c.name env.readings (l.control env.local' payload)
    (c.control env.cloud payload)

/-- The datapoints a poll asks for besides the wildcard, if it does. -/
def alsoAsked (metering : Option (List Int)) : Option (List Int) :=
  match metering with
  | none => some METERING_DPIDS
  | some [] => none
  | some (d :: ds) => some (d :: ds)

/-- The path of the metering query of a poll, if it makes one. -/
def meteringPath (env : PollEnv (FallbackClient.RequestEnv ωL ωC))
    (s : CozyLifeCoordinator (FallbackClient L C) × World) : Option (Option Str) :=
  (alsoAsked s.1.metering).map (fun dpids => queryPath l c env.metering (some dpids)
    (after (FallbackClient.query l c env.wildcard none) (s.1.client, s.2)))

def Op.returned (s : CozyLifeCoordinator (FallbackClient L C) × World) : Op ωL ωC → Bool
  | .poll env => (answer (CozyLifeCoordinator.poll (FallbackClient.query l c) env) s).isOk
  | .control env payload =>
    (answer (CozyLifeCoordinator.control (FallbackClient.control l c) env payload) s).isOk

def Op.leaves (s : CozyLifeCoordinator (FallbackClient L C) × World) :
    Op ωL ωC → CozyLifeCoordinator (FallbackClient L C) × World
  | .poll env => after (CozyLifeCoordinator.poll (FallbackClient.query l c) env) s
  | .control env payload =>
    after (CozyLifeCoordinator.control (FallbackClient.control l c) env payload) s

/-- The names of the transports that serve the requests of an operation. -/
def Op.paths (s : CozyLifeCoordinator (FallbackClient L C) × World) : Op ωL ωC → List Str
  | .poll env => match queryPath l c env.wildcard none (s.1.client, s.2) with
    | none => []
    | some path => path :: ((meteringPath l c env s).bind id).toList
  | .control env payload => (controlPath l c env payload (s.1.client, s.2)).toList

/-- An operation that returns shows a path that served it, and none is shown only after one that
raised. -/
structure NamesPath (s : CozyLifeCoordinator (FallbackClient L C) × World) (op : Op ωL ωC) :
    Prop where
  served : op.returned l c s = true →
    ∃ path ∈ op.paths l c s, (op.leaves l c s).1.connectionPath = some path
  unnamed : (op.leaves l c s).1.connectionPath = none → op.returned l c s = false

/-- The wildcard query of a poll is served, and its metering query is not. -/
def LosesMetering (s : CozyLifeCoordinator (FallbackClient L C) × World) : Op ωL ωC → Prop
  | .poll env => queryPath l c env.wildcard none (s.1.client, s.2) ≠ none ∧
      meteringPath l c env s = some none
  | .control _ _ => False

instance (s : CozyLifeCoordinator (FallbackClient L C) × World) (op : Op ωL ωC) :
    Decidable (LosesMetering l c s op) :=
  match op with
  | .poll _ => inferInstanceAs (Decidable (_ ∧ _))
  | .control _ _ => inferInstanceAs (Decidable False)

/-- The operations of a run, each with the state it starts from. -/
def steps : List (Op ωL ωC) → CozyLifeCoordinator (FallbackClient L C) × World →
    List ((CozyLifeCoordinator (FallbackClient L C) × World) × Op ωL ωC)
  | [], _ => []
  | op :: ops, s => (s, op) :: steps ops (op.leaves l c s)

/-- Every operation of a run names its path. -/
def AllNamePaths (ops : List (Op ωL ωC))
    (s : CozyLifeCoordinator (FallbackClient L C) × World) : Prop :=
  ∀ st ∈ steps l c ops s, NamesPath l c st.1 st.2

section Paths

variable {l c} (hl : l.Contained) (hc : c.Contained)

include hl hc

theorem query_path (env : FallbackClient.RequestEnv ωL ωC) (attrs : Option (List Int))
    (s : FallbackClient L C × World) : FallbackClient.Shown (queryPath l c env attrs s)
      (FallbackClient.query l c env attrs) s := by
  apply FallbackClient.attempt_path
  · exact hl.query env.local' attrs
  · exact hc.query env.cloud attrs

theorem control_path (env : FallbackClient.RequestEnv ωL ωC) (payload : Payload)
    (s : FallbackClient L C × World) : FallbackClient.Shown (controlPath l c env payload s)
      (FallbackClient.control l c env payload) s := by
  apply FallbackClient.attempt_path
  · exact hl.control env.local' payload
  · exact hc.control env.cloud payload

theorem query_contained (env : FallbackClient.RequestEnv ωL ωC) (attrs : Option (List Int))
    (s : FallbackClient L C × World) :
    CozyLife.Contained (answer (FallbackClient.query l c env attrs) s) := by
  apply FallbackClient.attempt_contained
  · exact hl.query env.local' attrs
  · exact hc.query env.cloud attrs

/-- A poll shows the path of the last query it made. -/
theorem poll_path (env : PollEnv (FallbackClient.RequestEnv ωL ωC))
    (s : CozyLifeCoordinator (FallbackClient L C) × World) :
    (Op.poll env).returned l c s = (queryPath l c env.wildcard none (s.1.client, s.2)).isSome ∧
      ((Op.poll env).leaves l c s).1.connectionPath =
        (queryPath l c env.wildcard none (s.1.client, s.2)).bind
          (fun path => (meteringPath l c env s).getD (some path)) := by
  obtain ⟨⟨client, metering⟩, w⟩ := s
  obtain ⟨hok, hpath⟩ := query_path hl hc env.wildcard none (client, w)
  simp only [Op.returned, Op.leaves, meteringPath, connectionPath]
  rw [answer, after, poll_run]
  rcases run_cases (FallbackClient.query l c env.wildcard none) (client, w) with
    ⟨data, t, hrun, ha, ht⟩ | ⟨e, t, hrun, ha, ht⟩
  · rw [ha] at hok
    rw [ht] at hpath
    obtain ⟨path, hp⟩ := Option.isSome_iff_exists.mp hok.symm
    rw [hp] at hpath ⊢
    rcases metering with _ | _ | ⟨d, ds⟩
    · obtain ⟨hok', hpath'⟩ := query_path hl hc env.metering (some METERING_DPIDS) t
      simp only [hrun, ht, alsoAsked, Option.map_some, Option.bind_some, Option.getD_some]
      rw [← hpath']
      rcases run_cases (FallbackClient.query l c env.metering (some METERING_DPIDS)) t with
        ⟨readings, t', hrun', _, ht'⟩ | ⟨e, t', hrun', ha', ht'⟩
      · rw [hrun', ht']
        exact ⟨rfl, rfl⟩
      · rw [hrun', ht']
        cases e with
        | transport e => exact ⟨rfl, rfl⟩
        | _ => exact absurd (query_contained hl hc _ _ _ _ ha') (by simp [Exn.isTransport])
    · simp only [hrun, alsoAsked, Option.map_none, Option.bind_some, Option.getD_none]
      exact ⟨rfl, hpath⟩
    · obtain ⟨hok', hpath'⟩ := query_path hl hc env.metering (some (d :: ds)) t
      simp only [hrun, ht, alsoAsked, Option.map_some, Option.bind_some, Option.getD_some]
      rw [← hpath']
      rcases run_cases (FallbackClient.query l c env.metering (some (d :: ds))) t with
        ⟨readings, t', hrun', _, ht'⟩ | ⟨e, t', hrun', ha', ht'⟩
      · rw [hrun', ht']
        exact ⟨rfl, rfl⟩
      · rw [hrun', ht']
        cases e with
        | transport e => exact ⟨rfl, rfl⟩
        | _ => exact absurd (query_contained hl hc _ _ _ _ ha') (by simp [Exn.isTransport])
  · rw [ha] at hok
    rw [ht] at hpath
    have hp : queryPath l c env.wildcard none (client, w) = none := by
      simpa [Except.isOk, Except.toBool] using hok.symm
    rw [hp] at hpath ⊢
    simp only [hrun]
    exact ⟨rfl, hpath⟩

end Paths

/-- An operation names its path exactly unless it is a poll that loses its metering query. -/
theorem namesPath_iff (hl : l.Contained) (hc : c.Contained) (op : Op ωL ωC)
    (s : CozyLifeCoordinator (FallbackClient L C) × World) :
    NamesPath l c s op ↔ ¬ LosesMetering l c s op := by
  cases op with
  | poll env =>
    obtain ⟨hreturned, hpath⟩ := poll_path hl hc env s
    cases hw : queryPath l c env.wildcard none (s.1.client, s.2) with
    | none =>
      rw [hw] at hreturned
      refine iff_of_true ⟨?_, fun _ => hreturned⟩ ?_
      · intro h
        simp [hreturned] at h
      · intro h
        exact h.1 hw
    | some path =>
      rw [hw] at hreturned hpath
      rcases hm : meteringPath l c env s with _ | _ | second
      · rw [hm] at hpath
        refine iff_of_true ⟨fun _ => ⟨path, ?_, hpath⟩, ?_⟩ ?_
        · simp [Op.paths, hw]
        · intro h
          rw [hpath] at h
          cases h
        · intro h
          rw [LosesMetering, hm] at h
          cases h.2
      · rw [hm] at hpath
        refine iff_of_false ?_ ?_
        · intro h
          have := h.unnamed hpath
          simp [hreturned] at this
        · intro h
          exact h ⟨by simp [hw], hm⟩
      · rw [hm] at hpath
        refine iff_of_true ⟨fun _ => ⟨second, ?_, hpath⟩, ?_⟩ ?_
        · simp [Op.paths, hw, hm]
        · intro h
          rw [hpath] at h
          cases h
        · intro h
          rw [LosesMetering, hm] at h
          cases h.2
  | control env payload =>
    obtain ⟨⟨client, metering⟩, w⟩ := s
    obtain ⟨hok, hpath⟩ := control_path hl hc env payload (client, w)
    have hreturned : (Op.control env payload).returned l c (⟨client, metering⟩, w) =
        (controlPath l c env payload (client, w)).isSome := by
      rw [← hok, Op.returned, CozyLifeCoordinator.control, answer_zoom]
      rfl
    have hleaves : ((Op.control env payload).leaves l c (⟨client, metering⟩, w)).1.connectionPath =
        controlPath l c env payload (client, w) := by
      rw [← hpath, Op.leaves, CozyLifeCoordinator.control, after_zoom]
      rfl
    refine iff_of_true ⟨?_, ?_⟩ id
    · intro h
      obtain ⟨path, hp⟩ := Option.isSome_iff_exists.mp (hreturned.symm.trans h)
      exact ⟨path, by simp [Op.paths, hp], hleaves.trans hp⟩
    · intro h
      rw [hreturned, ← hleaves, h]
      rfl

/-- In a run of polls and writes every operation names its path exactly if no poll loses its metering
query. -/
theorem run_namesPath (hl : l.Contained) (hc : c.Contained) (local' : L) (cloud : Option C)
    (threshold : Int) (interval : ℚ) (w : World) (ops : List (Op ωL ωC)) :
    AllNamePaths l c ops (.new (.initial local' cloud threshold interval), w) ↔
      ∀ st ∈ steps l c ops (.new (.initial local' cloud threshold interval), w),
        ¬ LosesMetering l c st.1 st.2 := by
  constructor
  · intro h st hst
    exact (namesPath_iff l c hl hc st.2 st.1).mp (h st hst)
  · intro h st hst
    exact (namesPath_iff l c hl hc st.2 st.1).mpr (h st hst)

theorem Script.contained (name : Str) : (FallbackClient.Script.transport name).Contained := by
  refine ⟨?_, ?_⟩
  · intro env attrs s
    obtain ⟨query, _⟩ := env
    cases query with
    | ok data => exact contained_ok _
    | error e => exact (contained_error _).mpr rfl
  · intro env payload s
    obtain ⟨_, control⟩ := env
    cases control with
    | ok accepted => exact contained_ok _
    | error e => exact (contained_error _).mpr rfl

/-- A request both paths answer, and one neither does. -/
def served : FallbackClient.RequestEnv FallbackClient.Script FallbackClient.Script :=
  ⟨⟨0, 0, 0⟩, .answering, .answering⟩

def unserved : FallbackClient.RequestEnv FallbackClient.Script FallbackClient.Script :=
  ⟨⟨0, 0, 0⟩, .failing, .failing⟩

/-- Two polls and a write that are served, to a device that does not measure. -/
theorem served_namesPath :
    AllNamePaths (FallbackClient.Script.transport (str "local"))
      (FallbackClient.Script.transport (str "cloud"))
      [.poll ⟨served, served⟩, .control served [], .poll ⟨served, served⟩]
      (.new (.initial () (some ()) 3 600), World.initial) :=
  (run_namesPath _ _ (Script.contained _) (Script.contained _) () (some ()) 3 600 World.initial
    _).mpr (by decide)

/-- The first poll of a device that does not measure: its wildcard query is served over local, the
probe is not answered. No path is shown though the poll returns. -/
theorem unmetered_shows_none :
    ¬ AllNamePaths (FallbackClient.Script.transport (str "local"))
      (FallbackClient.Script.transport (str "cloud")) [.poll ⟨served, unserved⟩]
      (.new (.initial () (some ()) 3 600), World.initial) := by
  intro h
  have hnames := h _ List.mem_cons_self
  have hreturned : (Op.poll ⟨served, unserved⟩).returned
      (FallbackClient.Script.transport (str "local"))
      (FallbackClient.Script.transport (str "cloud"))
      (.new (.initial () (some ()) 3 600), World.initial) = true := by decide +kernel
  have hnone := hnames.unnamed (by decide +kernel)
  rw [hreturned] at hnone
  cases hnone

end CozyLifeCoordinator

end CozyLife
