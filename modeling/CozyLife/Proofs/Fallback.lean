import CozyLife.Api.Fallback

/-! What one request does, step by step. -/

namespace CozyLife
open Python Effects

def Readings.inOrder (r : Readings) : List ℚ := [r.check, r.probe, r.trip]

namespace FallbackClient

variable {L C α : Type}

/-- What `_note_path` announces. -/
def noteLines (before : Option Str) (path : Str) : List LogLine :=
  match before with
  | none => [.servedOver path]
  | some before => if path ≠ before then [.switched before path] else []

/-- The state `_note_path` leaves. -/
def noted (path : Str) (s : FallbackClient L C × World) : FallbackClient L C × World :=
  ({ s.1 with activePath := some path },
    { s.2 with log := s.2.log ++ noteLines s.1.activePath path })

@[simp] theorem notePath_run (path : Str) (s : FallbackClient L C × World) :
    (notePath path).run s = .ok () (noted path s) := by
  obtain ⟨⟨b, l, c, active⟩, w⟩ := s
  cases active with
  | none => rfl
  | some before =>
    by_cases h : path = before
    · simp [notePath, noted, noteLines, setActivePath, h]
    · simp [notePath, noted, noteLines, setActivePath, h]

/-- The state a recorded local failure leaves. -/
def failed (r : Readings) (s : FallbackClient L C × World) : FallbackClient L C × World :=
  let (announce, b) := s.1.toBreaker.recordLocalFailure s.1.cloud.isSome r.trip
  ({ s.1 with toBreaker := b },
    { s.2 with log := s.2.log ++
        if announce then [.localFailing b.consecutiveFailures b.recoveryInterval] else [] })

@[simp] theorem recordLocalFailure_run (r : Readings) (s : FallbackClient L C × World) :
    (recordLocalFailure r).run s = .ok () (failed r s) := by
  rcases h : s.1.toBreaker.recordLocalFailure s.1.cloud.isSome r.trip with ⟨announce, b⟩
  cases announce <;>
    simp [recordLocalFailure, failed, setBreaker, h]

/-- The state a recorded local success leaves. -/
def succeeded (s : FallbackClient L C × World) : FallbackClient L C × World :=
  let (announce, b) := s.1.toBreaker.recordLocalSuccess
  ({ s.1 with toBreaker := b },
    { s.2 with log := s.2.log ++ if announce then [.localAnswering] else [] })

@[simp] theorem recordLocalSuccess_run (s : FallbackClient L C × World) :
    recordLocalSuccess.run s = .ok () (succeeded s) := by
  rcases h : s.1.toBreaker.recordLocalSuccess with ⟨announce, b⟩
  cases announce <;>
    simp [recordLocalSuccess, succeeded, setBreaker, h]

/-- The state `_should_try_local` leaves. -/
def decided (r : Readings) (s : FallbackClient L C × World) : FallbackClient L C × World :=
  ({ s.1 with toBreaker := (s.1.toBreaker.shouldTryLocal s.1.cloud.isSome r.check r.probe).2 },
    s.2)

@[simp] theorem shouldTryLocal_run (r : Readings) (s : FallbackClient L C × World) :
    (shouldTryLocal r).run s =
      .ok (s.1.toBreaker.shouldTryLocal s.1.cloud.isSome r.check r.probe).1 (decided r s) := rfl

/-- The state in which no path served the request. -/
def lost (s : FallbackClient L C × World) : FallbackClient L C × World :=
  ({ s.1 with activePath := none }, s.2)

@[simp] theorem setActivePath_run (s : FallbackClient L C × World) :
    (setActivePath none).run s = .ok () (lost s) := rfl

/-- The error of a request the cloud could not serve either. -/
def cloudFailure (localError : Option TransportError) (cloudError : TransportError) : Exn :=
  match localError with
  | none => .transport cloudError
  | some localError => .transport ⟨str "both paths failed -- local: " ++ localError.message ++
      str "; cloud: " ++ cloudError.message⟩

theorem viaCloud_run (cloudName : Str) (callCloud : Method C α)
    (localError : Option TransportError) (s : FallbackClient L C × World) (c : C)
    (h : s.1.cloud = some c) : (viaCloud cloudName callCloud localError).run s =
      match (onCloud c callCloud).run s with
      | .ok a s => .ok a (noted cloudName s)
      | .error (.transport e) s => .error (cloudFailure localError e) (lost s)
      | .error e s => .error e s := by
  simp only [viaCloud, EStateM.run_bind, run_getSelf, h, run_caught]
  cases (onCloud c callCloud).run s with
  | ok a s => simp [-bind_pure_comp]
  | error e s =>
    cases e <;> cases localError <;>
      simp [cloudFailure]

@[simp] theorem run_onCloud (c : C) (m : Method C α) (s : FallbackClient L C × World) :
    (onCloud c m : Method (FallbackClient L C) α).run s =
      match m.run (c, s.2) with
      | .ok a t => .ok a ({ s.1 with cloud := some t.1 }, t.2)
      | .error e t => .error e ({ s.1 with cloud := some t.1 }, t.2) := rfl

/-- The state the local call leaves. -/
def locally (m : Method L α) (s : FallbackClient L C × World) : FallbackClient L C × World :=
  ({ s.1 with local' := (after m (s.1.local', s.2)).1 }, (after m (s.1.local', s.2)).2)

theorem onLocal_run (m : Method L α) (s : FallbackClient L C × World) : (zoom onLocal m).run s =
    match answer m (s.1.local', s.2) with
    | .ok a => .ok a (locally m s)
    | .error e => .error e (locally m s) := by
  simp only [run_zoom, onLocal, run_eq m, locally]
  cases answer m (s.1.local', s.2) <;> rfl

/-- One request, by what the local call comes to. -/
theorem attempt_run (localName cloudName : Str) (r : Readings) (callLocal : Method L α)
    (callCloud : Method C α) (s : FallbackClient L C × World) :
    (attempt localName cloudName r callLocal callCloud).run s =
      if (s.1.toBreaker.shouldTryLocal s.1.cloud.isSome r.check r.probe).1 then
        match answer callLocal (s.1.local', s.2) with
        | .ok a => .ok a (noted localName (succeeded (locally callLocal (decided r s))))
        | .error (.transport e) =>
          match s.1.cloud with
          | none => .error (.transport e) (lost (failed r (locally callLocal (decided r s))))
          | some _ => (viaCloud cloudName callCloud (some e)).run
              (failed r (locally callLocal (decided r s)))
        | .error e => .error e (locally callLocal (decided r s))
      else (viaCloud cloudName callCloud none).run (decided r s) := by
  have hcloud : (failed r (locally callLocal (decided r s))).1.cloud = s.1.cloud := rfl
  have hlocal : (zoom onLocal callLocal).run (decided r s) =
      match answer callLocal (s.1.local', s.2) with
      | .ok a => .ok a (locally callLocal (decided r s))
      | .error e => .error e (locally callLocal (decided r s)) := onLocal_run _ _
  simp only [attempt, EStateM.run_bind, shouldTryLocal_run]
  cases (s.1.toBreaker.shouldTryLocal s.1.cloud.isSome r.check r.probe).1 with
  | false => rfl
  | true =>
    simp only [↓reduceIte, EStateM.run_bind, run_caught, hlocal]
    cases answer callLocal (s.1.local', s.2) with
    | ok a => simp [-bind_pure_comp]
    | error e =>
      cases e with
      | transport e =>
        simp only [EStateM.run_bind, recordLocalFailure_run, run_getSelf, hcloud]
        cases s.1.cloud <;> simp
      | _ => rfl

/-- On the way over the cloud happens what the cloud call does, and it leaves the transport. -/
theorem viaCloud_after (cloudName : Str) (callCloud : Method C α)
    (localError : Option TransportError) (s : FallbackClient L C × World) (c : C)
    (h : s.1.cloud = some c) :
    (after (viaCloud cloudName callCloud localError) s).1.cloud =
        some (after callCloud (c, s.2)).1 ∧
      (after (viaCloud cloudName callCloud localError) s).2.trace =
        (after callCloud (c, s.2)).2.trace := by
  rw [after, after, viaCloud_run cloudName callCloud localError s c h, run_onCloud]
  rcases callCloud.run (c, s.2) with ⟨a, t⟩ | ⟨e, t⟩
  · exact ⟨rfl, rfl⟩
  · cases e <;> exact ⟨rfl, rfl⟩

/-- What the cloud call and `_via_cloud` around it leave alone. -/
theorem viaCloud_keeps_breaker (cloudName : Str) (callCloud : Method C α)
    (localError : Option TransportError) (s : FallbackClient L C × World) :
    (after (viaCloud cloudName callCloud localError) s).1.toBreaker = s.1.toBreaker ∧
      (after (viaCloud cloudName callCloud localError) s).1.cloud.isSome = s.1.cloud.isSome := by
  cases h : s.1.cloud with
  | none =>
    have hrun : (viaCloud cloudName callCloud localError).run s = .error .assertion s := by
      simp [viaCloud, h]
    rw [after, hrun]
    exact ⟨rfl, by rw [h]⟩
  | some c =>
    have hrun := viaCloud_run cloudName callCloud localError s c h
    rw [after, hrun]
    rw [run_onCloud]
    rcases callCloud.run (c, s.2) with ⟨a, t⟩ | ⟨e, t⟩
    · exact ⟨rfl, rfl⟩
    · cases e <;> exact ⟨rfl, rfl⟩

section Attempted

variable (cloudName : Str) (r : Readings) (callLocal : Method L α) (callCloud : Method C α)
  (s : FallbackClient L C × World)

def TriesLocal : Prop :=
  (s.1.toBreaker.shouldTryLocal s.1.cloud.isSome r.check r.probe).1 = true

instance : Decidable (TriesLocal r s) := inferInstanceAs (Decidable (_ = true))

/-- The local call fails with a transport error. -/
def LocalFails : Prop := ∃ e, answer callLocal (s.1.local', s.2) = .error (.transport e)

/-- The world once the local call, if it is made, is over. -/
def worldAfterLocal : World :=
  if TriesLocal r s then (after callLocal (s.1.local', s.2)).2 else s.2

/-- The ways a request goes: it ends with the local call, or with the cloud. Of the world only the
log is touched in between. -/
inductive Attempted : Except Exn α → FallbackClient L C × World → Prop
  | here (h : TriesLocal r s) (hends : LocalFails callLocal s → s.1.cloud = none) (a)
      (ha : answer callLocal (s.1.local', s.2) = a) (t : FallbackClient L C × World)
      (hc : t.1.cloud = s.1.cloud)
      (ht : ∃ log, t.2 = { worldAfterLocal r callLocal s with log := log }) : Attempted a t
  | relayed (h : TriesLocal r s → LocalFails callLocal s) (c) (hc : s.1.cloud = some c)
      (t : FallbackClient L C × World) (htc : t.1.cloud = some c)
      (ht : ∃ log, t.2 = { worldAfterLocal r callLocal s with log := log }) (localError) :
      Attempted (answer (viaCloud cloudName callCloud localError) t)
        (after (viaCloud cloudName callCloud localError) t)

theorem attempt_goes (localName : Str) : Attempted cloudName r callLocal callCloud s
    (answer (attempt localName cloudName r callLocal callCloud) s)
    (after (attempt localName cloudName r callLocal callCloud) s) := by
  have hno : ∀ a, answer callLocal (s.1.local', s.2) = a → (∀ e, a ≠ .error (.transport e)) →
      ¬ LocalFails callLocal s := by
    intro a ha hne h
    obtain ⟨e, he⟩ := h
    exact hne e (ha.symm.trans he)
  rw [answer, after, attempt_run]
  by_cases htries : (s.1.toBreaker.shouldTryLocal s.1.cloud.isSome r.check r.probe).1 = true
  · have hworld : worldAfterLocal r callLocal s = (after callLocal (s.1.local', s.2)).2 :=
      if_pos htries
    rw [if_pos htries]
    rcases ha : answer callLocal (s.1.local', s.2) with e | a
    · cases e with
      | transport e =>
        cases hc : s.1.cloud with
        | none => exact .here htries (fun _ => hc) _ ha _ rfl (hworld ▸ ⟨_, rfl⟩)
        | some c =>
          refine .relayed (fun _ => ⟨e, ha⟩) c hc (failed r (locally callLocal (decided r s))) hc ?_
            (some e)
          rw [hworld]
          exact ⟨_, rfl⟩
      | _ =>
        exact .here htries (fun h => absurd h (hno _ ha (by simp))) _ ha _ rfl (hworld ▸ ⟨_, rfl⟩)
    · exact .here htries (fun h => absurd h (hno _ ha (by simp))) _ ha _ rfl (hworld ▸ ⟨_, rfl⟩)
  · have hworld : worldAfterLocal r callLocal s = s.2 := if_neg htries
    obtain ⟨c, hc⟩ : ∃ c, s.1.cloud = some c := by
      cases hn : s.1.cloud with
      | none =>
        rw [hn] at htries
        exact absurd rfl htries
      | some c => exact ⟨c, rfl⟩
    rw [if_neg htries]
    refine .relayed (fun h => absurd h htries) c hc (decided r s) hc ?_ none
    rw [hworld]
    exact ⟨s.2.log, rfl⟩

end Attempted

/-! ### Requests one after another -/

inductive Request (ωL ωC : Type)
  | query (env : RequestEnv ωL ωC) (attrs : Option (List Int))
  | control (env : RequestEnv ωL ωC) (payload : Payload)

variable {ωL ωC : Type} (l : Transport ωL L) (c : Transport ωC C)

def Request.readings : Request ωL ωC → Readings
  | .query env _ => env.readings
  | .control env _ => env.readings

/-- The client and the world after a request, whether it returned or raised. -/
def serve (s : FallbackClient L C × World) : Request ωL ωC → FallbackClient L C × World
  | .query env attrs => after (query l c env attrs) s
  | .control env payload => after (control l c env payload) s

end FallbackClient

end CozyLife
