import CozyLife.Proofs.Breaker
import CozyLife.Proofs.Containment

/-! Which requests are served: the ones the local path answers, unless it is skipped, and the ones the
cloud answers. -/

namespace CozyLife
open Python Effects

namespace FallbackClient

variable {L C α : Type}

/-- Local is left out: the circuit is open, and its interval is not over yet. -/
def Skips (b : Breaker) (check : ℚ) : Prop :=
  ∃ openedAt, b.circuitOpenedAt = some openedAt ∧ check - openedAt < b.recoveryInterval

/-- The client and the world at the moment a request turns to the cloud, if it does. -/
def turned (r : Readings) (callLocal : Method L α) (s : FallbackClient L C × World) :
    FallbackClient L C × World :=
  if (s.1.toBreaker.shouldTryLocal s.1.cloud.isSome r.check r.probe).1 then
    failed r (locally callLocal (decided r s))
  else decided r s

/-- What the local call would come to. -/
def localAnswer (callLocal : Method L α) (s : FallbackClient L C × World) : Except Exn α :=
  answer callLocal (s.1.local', s.2)

/-- What the call on the cloud transport `c` would come to. -/
def cloudAnswer (r : Readings) (callLocal : Method L α) (callCloud : Method C α) (c : C)
    (s : FallbackClient L C × World) : Except Exn α :=
  answer callCloud (c, (turned r callLocal s).2)

theorem tries_iff {s : FallbackClient L C × World} (hc : s.1.cloud = some c) (r : Readings) :
    (s.1.toBreaker.shouldTryLocal s.1.cloud.isSome r.check r.probe).1 = true ↔
      ¬ Skips s.1.toBreaker r.check := by
  rcases s.1.toBreaker.shouldTryLocal_cases s.1.cloud.isSome r.check r.probe with
    ⟨he, _, openedAt, ho, hlt⟩ | ⟨he, hfree⟩ | ⟨he, openedAt, ho, hdue⟩
  · simp only [he, Bool.false_eq_true, false_iff, not_not]
    exact ⟨openedAt, ho, hlt⟩
  · simp only [he, true_iff]
    intro hskips
    obtain ⟨openedAt, ho, _⟩ := hskips
    rcases hfree with hcloud | hclosed
    · simp [hc] at hcloud
    · simp [hclosed] at ho
  · simp only [he, true_iff]
    intro hskips
    obtain ⟨openedAt', ho', hlt⟩ := hskips
    obtain rfl := Option.some.inj (ho.symm.trans ho')
    exact absurd hlt (not_lt.mpr hdue)

/-- `_via_cloud`, of what the cloud call comes to. -/
def relayed (localError : Option TransportError) : Except Exn α → Except Exn α
  | .ok a => .ok a
  | .error (.transport e) => .error (cloudFailure localError e)
  | .error e => .error e

theorem relayed_ok (localError : Option TransportError) (r : Except Exn α) :
    (∃ a, relayed localError r = .ok a) ↔ ∃ a, r = .ok a := by
  rcases r with e | a
  · cases e <;> simp [relayed]
  · exact .rfl

theorem relayed_contained (localError : Option TransportError) {r : Except Exn α}
    (h : Contained r) : Contained (relayed localError r) := by
  rcases r with e | a
  · have he := h e rfl
    cases e with
    | transport e => cases localError <;> exact (contained_error _).mpr rfl
    | _ => cases he
  · exact contained_ok a

theorem viaCloud_answer (cloudName : Str) (callCloud : Method C α)
    (localError : Option TransportError) (s : FallbackClient L C × World) (c : C)
    (h : s.1.cloud = some c) : answer (viaCloud cloudName callCloud localError) s =
      relayed localError (answer callCloud (c, s.2)) := by
  simp only [answer, viaCloud_run cloudName callCloud localError s c h, run_onCloud]
  rcases callCloud.run (c, s.2) with ⟨a, t⟩ | ⟨e, t⟩
  · rfl
  · cases e <;> rfl

/-- What a request comes to, by what its calls come to. -/
theorem attempt_answer (localName cloudName : Str) (r : Readings) (callLocal : Method L α)
    (callCloud : Method C α) (s : FallbackClient L C × World) (c : C) (h : s.1.cloud = some c) :
    answer (attempt localName cloudName r callLocal callCloud) s =
      match (s.1.toBreaker.shouldTryLocal s.1.cloud.isSome r.check r.probe).1,
        localAnswer callLocal s with
      | true, .ok a => .ok a
      | true, .error (.transport e) =>
        relayed (some e) (cloudAnswer r callLocal callCloud c s)
      | true, .error e => .error e
      | false, _ => relayed none (cloudAnswer r callLocal callCloud c s) := by
  have hdecided : (decided r s).1.cloud = some c := h
  have hfailed : (failed r (locally callLocal (decided r s))).1.cloud = some c := h
  rw [answer, attempt_run, localAnswer, cloudAnswer, turned]
  cases (s.1.toBreaker.shouldTryLocal s.1.cloud.isSome r.check r.probe).1 with
  | false => exact viaCloud_answer cloudName callCloud none _ c hdecided
  | true =>
    cases answer callLocal (s.1.local', s.2) with
    | ok a => rfl
    | error e =>
      cases e with
      | transport e =>
        simp only [↓reduceIte, h]
        exact viaCloud_answer cloudName callCloud (some e) _ c hfailed
      | _ => rfl

/-- Of a client with the cloud transport `c`: the request is served exactly when local is tried and
answers, or local is skipped or fails and the cloud answers. If its calls return or raise transport
errors, so does the request. -/
structure ServedBy (r : Readings) (callLocal : Method L α) (callCloud : Method C α)
    (request : Method (FallbackClient L C) α) (c : C) (s : FallbackClient L C × World) : Prop where
  returns : (∃ a, answer request s = .ok a) ↔
    ¬ Skips s.1.toBreaker r.check ∧ (∃ a, localAnswer callLocal s = .ok a) ∨
      (Skips s.1.toBreaker r.check ∨ ∃ e, localAnswer callLocal s = .error (.transport e)) ∧
        ∃ a, cloudAnswer r callLocal callCloud c s = .ok a
  raises : Contained (localAnswer callLocal s) →
    Contained (cloudAnswer r callLocal callCloud c s) → Contained (answer request s)

theorem attempt_served (localName cloudName : Str) (r : Readings) (callLocal : Method L α)
    (callCloud : Method C α) (s : FallbackClient L C × World) (c : C) (h : s.1.cloud = some c) :
    ServedBy r callLocal callCloud (attempt localName cloudName r callLocal callCloud) c s := by
  have hanswer := attempt_answer localName cloudName r callLocal callCloud s c h
  have htries := tries_iff h r
  cases hv : (s.1.toBreaker.shouldTryLocal s.1.cloud.isSome r.check r.probe).1 with
  | false =>
    rw [hv] at hanswer htries
    have hskips : Skips s.1.toBreaker r.check := by simpa using htries
    refine ⟨?_, fun _ hcloud => ?_⟩
    · simp only [hanswer, relayed_ok, hskips, not_true, false_and, true_or, true_and, false_or]
    · rw [hanswer]
      exact relayed_contained none hcloud
  | true =>
    rw [hv] at hanswer htries
    have htried : ¬ Skips s.1.toBreaker r.check := by simpa using htries
    rcases hl : localAnswer callLocal s with e | a
    · rw [hl] at hanswer
      cases e with
      | transport e =>
        refine ⟨?_, fun _ hcloud => ?_⟩
        · simp [hanswer, relayed_ok, htried, hl]
        · rw [hanswer]
          exact relayed_contained (some e) hcloud
      | _ =>
        refine ⟨by simp [hanswer, htried, hl], fun hlocal _ => ?_⟩
        rw [hl] at hlocal
        rw [hanswer]
        exact hlocal
    · rw [hl] at hanswer
      refine ⟨by simp [hanswer, htried, hl], fun _ _ => ?_⟩
      rw [hanswer]
      exact contained_ok a

variable {ωL ωC : Type} (l : Transport ωL L) (c : Transport ωC C)

/-- In every state requests can lead to, a request is served when local is not being skipped and
answers, and when local is skipped or fails and the cloud answers, and only then. -/
theorem covered (local' : L) (cloud : C) (threshold : Int) (interval : ℚ) (w : World)
    (requests : List (Request ωL ωC)) :
    let s := requests.foldl (serve l c) (initial local' (some cloud) threshold interval, w)
    ∃ relay, s.1.cloud = some relay ∧
      (∀ env attrs, ServedBy env.readings (l.query env.local' attrs) (c.query env.cloud attrs)
        (query l c env attrs) relay s) ∧
      ∀ env payload, ServedBy env.readings (l.control env.local' payload)
        (c.control env.cloud payload) (control l c env payload) relay s := by
  obtain ⟨p, hsound, hmirrors⟩ := run_sound l c local' (some cloud) threshold interval w requests
  have hcloud := hmirrors.cloud.symm.trans hsound.fixed.2.2
  obtain ⟨relay, hrelay⟩ := Option.isSome_iff_exists.mp hcloud
  exact ⟨relay, hrelay, fun _ _ => attempt_served _ _ _ _ _ _ relay hrelay,
    fun _ _ => attempt_served _ _ _ _ _ _ relay hrelay⟩

/-! ### A healthy local path does not help while it is skipped -/

/-- How the calls on a transport come out. -/
structure Script where
  data : Except TransportError (Dict Json)
  accepts : Except TransportError Bool

def scripted {T : Type} : Except TransportError α → Method T α
  | .ok a => pure a
  | .error e => throw (.transport e)

/-- A transport whose calls come out as they are scripted. -/
def Script.transport (name : Str) : Transport Script Unit where
  name := name
  query script _ := scripted script.data
  control script _ := scripted script.accepts
  close := none

def Script.answering : Script := ⟨.ok [], .ok true⟩

def Script.failing : Script := ⟨.error ⟨str "down"⟩, .error ⟨str "down"⟩⟩

/-- Three polls at one moment that only the cloud answers. -/
def outage : List (Request Script Script) :=
  List.replicate 3 (.query ⟨⟨0, 0, 0⟩, .failing, .answering⟩ none)

/-- The listener is back, the relay is gone, and the circuit has a minute behind it. -/
def relayGone : RequestEnv Script Script := ⟨⟨60, 60, 60⟩, .answering, .failing⟩

theorem skipped_local_not_covered :
    let l := Script.transport (str "local")
    let c := Script.transport (str "cloud")
    let s := outage.foldl (serve l c) (initial () (some ()) 3 600, World.initial)
    (∃ a, localAnswer (l.query relayGone.local' none) s = .ok a) ∧
      ∃ e, answer (query l c relayGone none) s = .error (.transport e) := by
  refine ⟨⟨[], rfl⟩, ?_⟩
  have h : (match answer (query (Script.transport (str "local")) (Script.transport (str "cloud"))
      relayGone none) (outage.foldl (serve (Script.transport (str "local"))
        (Script.transport (str "cloud"))) (initial () (some ()) 3 600, World.initial)) with
    | .error e => e.isTransport
    | .ok _ => false) = true := by decide +kernel
  split at h
  · rename_i e he
    cases e with
    | transport e => exact ⟨e, he⟩
    | _ => cases h
  · cases h

end FallbackClient

end CozyLife
