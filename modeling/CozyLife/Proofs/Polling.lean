import CozyLife.Coordinator
import CozyLife.Proofs.Containment

/-! What a run of polls asks for and returns. -/

namespace CozyLife
open Python Effects

namespace CozyLifeCoordinator

variable {K ω : Type}

/-- A query as its client saw it: what it asked for, and what came of it. -/
structure Asked where
  attrs : Option (List Int)
  answer : Except Exn (Dict Json)

/-- A client that keeps a list of the queries made of it. -/
def logged (query : ω → Option (List Int) → Method K (Dict Json)) (env : ω)
    (attrs : Option (List Int)) : Method (K × List Asked) (Dict Json) := fun s =>
  match (query env attrs).run (s.1.1, s.2) with
  | .ok data t => .ok data ((t.1, s.1.2 ++ [⟨attrs, .ok data⟩]), t.2)
  | .error e t => .error e ((t.1, s.1.2 ++ [⟨attrs, .error e⟩]), t.2)

/-- A poll seen from outside. -/
structure Polled where
  asked : List Asked
  result : Except Exn (Dict Json)

variable (query : ω → Option (List Int) → Method K (Dict Json))

/-- The queries a poll makes. -/
def asks (env : PollEnv ω) (s : CozyLifeCoordinator K × World) : List Asked :=
  (after (poll (logged query) env) (⟨(s.1.client, []), s.1.metering⟩, s.2)).1.client.2

def polls : List (PollEnv ω) → CozyLifeCoordinator K × World → List Polled
  | [], _ => []
  | env :: envs, s =>
    ⟨asks query env s, answer (poll query env) s⟩ :: polls envs (after (poll query env) s)

/-- The queries return dicts or raise transport errors. -/
structure Reliable : Prop where
  contained : ∀ env attrs s, Contained (answer (query env attrs) s)
  distinct : ∀ env attrs s data, answer (query env attrs) s = .ok data → Dict.Distinct data

/-- What the queries of a poll come to; the second is not always made. -/
structure Poll where
  wildcard : Except Exn (Dict Json)
  metering : Option (Except Exn (Dict Json))

/-- The wildcard query first, then at most one for the metering group. -/
def Poll.asked (p : Poll) : List Asked :=
  ⟨none, p.wildcard⟩ :: (p.metering.map (fun a => ⟨some METERING_DPIDS, a⟩)).toList

/-- The poll fails with its wildcard query. Otherwise its metering readings, if it has any, overlay
the wildcard reply key by key. -/
def Poll.Returns (p : Poll) (result : Except Exn (Dict Json)) : Prop :=
  match p.wildcard with
  | .error e => result = .error e
  | .ok data => ∃ map, result = .ok map ∧
    match p.metering with
    | some (.ok readings) => ∀ k, map.get k = (readings.get k).or (data.get k)
    | _ => map = data

/-- Polls of a device whose metering has been found to be there or not. -/
def Settled (supported : Bool) (ps : List Poll) : Prop :=
  ∀ p ∈ ps, ∀ data, p.wildcard = .ok data → p.metering.isSome = supported

/-- The first poll whose wildcard query succeeds probes for metering, and what it finds is final. -/
structure ProbedOnce (ps : List Poll) : Prop where
  failed : ∀ p ∈ ps, ∀ e, p.wildcard = .error e → p.metering = none
  probe : ∀ pre p post data, ps = pre ++ p :: post → (∀ q ∈ pre, ∃ e, q.wildcard = .error e) →
    p.wildcard = .ok data → ∃ found, p.metering = some found ∧
      ((∃ e, found = .error e) ∨ found = .ok [] → Settled false post) ∧
      ∀ readings, found = .ok readings → readings ≠ [] → Settled true post

/-! ### One poll -/

/-- The wildcard reply with what the metering query came to. -/
def merged (data : Dict Json) : Except Exn (Dict Json) → Dict Json
  | .ok readings => data.update readings
  | .error _ => data

/-- What a probe leaves noted. -/
def verdict : Except Exn (Dict Json) → List Int
  | .ok readings => if readings = [] then [] else METERING_DPIDS
  | .error _ => []

theorem poll_run (env : PollEnv ω) (s : CozyLifeCoordinator K × World) : (poll query env).run s =
    match (query env.wildcard none).run (s.1.client, s.2) with
    | .error e t => .error e (⟨t.1, s.1.metering⟩, t.2)
    | .ok data t => match s.1.metering with
      | some [] => .ok data (⟨t.1, some []⟩, t.2)
      | none => match (query env.metering (some METERING_DPIDS)).run t with
        | .ok readings t =>
          .ok (merged data (.ok readings)) (⟨t.1, some (verdict (.ok readings))⟩, t.2)
        | .error (.transport _) t => .ok data (⟨t.1, some []⟩, t.2)
        | .error e t => .error e (⟨t.1, none⟩, t.2)
      | some (d :: ds) => match (query env.metering (some (d :: ds))).run t with
        | .ok readings t => .ok (merged data (.ok readings)) (⟨t.1, some (d :: ds)⟩, t.2)
        | .error (.transport _) t => .ok data (⟨t.1, some (d :: ds)⟩, t.2)
        | .error e t => .error e (⟨t.1, some (d :: ds)⟩, t.2) := by
  obtain ⟨⟨client, metering⟩, w⟩ := s
  simp only [poll, EStateM.run_bind, run_zoom, onClient, run_getSelf]
  cases hw : (query env.wildcard none).run (client, w) with
  | error e t => rfl
  | ok data t =>
    rcases metering with _ | _ | ⟨d, ds⟩
    · simp only [EStateM.run_bind, probeMetering, run_caught, run_zoom, onClient]
      rcases hm : (query env.metering (some METERING_DPIDS)).run t with ⟨readings, t'⟩ | ⟨e, t'⟩
      · by_cases hr : readings = []
        · simp [hr, merged, verdict, Dict.update]
        · simp [hr, merged, verdict]
      · cases e <;> simp
    · rfl
    · simp only [EStateM.run_bind, run_caught, run_zoom]
      rcases hm : (query env.metering (some (d :: ds))).run t with ⟨readings, t'⟩ | ⟨e, t'⟩
      · simp [merged]
      · cases e <;> simp

/-- The ways a poll goes when its client raises nothing but transport errors. -/
inductive Goes (env : PollEnv ω) : CozyLifeCoordinator K × World → Poll → Except Exn (Dict Json) →
    CozyLifeCoordinator K × World → Prop
  | failed (client metering w e t)
      (hw : answer (query env.wildcard none) (client, w) = .error e)
      (ht : after (query env.wildcard none) (client, w) = t) :
      Goes env (⟨client, metering⟩, w) ⟨.error e, none⟩ (.error e) (⟨t.1, metering⟩, t.2)
  | absent (client w data t)
      (hw : answer (query env.wildcard none) (client, w) = .ok data)
      (ht : after (query env.wildcard none) (client, w) = t) :
      Goes env (⟨client, some []⟩, w) ⟨.ok data, none⟩ (.ok data) (⟨t.1, some []⟩, t.2)
  | probing (client w data t found t')
      (hw : answer (query env.wildcard none) (client, w) = .ok data)
      (ht : after (query env.wildcard none) (client, w) = t)
      (hm : answer (query env.metering (some METERING_DPIDS)) t = found)
      (ht' : after (query env.metering (some METERING_DPIDS)) t = t') (hc : Contained found) :
      Goes env (⟨client, none⟩, w) ⟨.ok data, some found⟩ (.ok (merged data found))
        (⟨t'.1, some (verdict found)⟩, t'.2)
  | metered (client w data t found t')
      (hw : answer (query env.wildcard none) (client, w) = .ok data)
      (ht : after (query env.wildcard none) (client, w) = t)
      (hm : answer (query env.metering (some METERING_DPIDS)) t = found)
      (ht' : after (query env.metering (some METERING_DPIDS)) t = t') (hc : Contained found) :
      Goes env (⟨client, some METERING_DPIDS⟩, w) ⟨.ok data, some found⟩
        (.ok (merged data found)) (⟨t'.1, some METERING_DPIDS⟩, t'.2)

/-- All that is ever noted of the metering. -/
def Known (metering : Option (List Int)) : Prop :=
  metering = none ∨ metering = some [] ∨ metering = some METERING_DPIDS

theorem poll_goes (hq : Reliable query) (env : PollEnv ω) (s : CozyLifeCoordinator K × World)
    (hs : Known s.1.metering) :
    ∃ p, Goes query env s p (answer (poll query env) s) (after (poll query env) s) := by
  obtain ⟨⟨client, metering⟩, w⟩ := s
  have hcontained := hq.contained env.metering (some METERING_DPIDS)
  simp only [answer, after, poll_run]
  rcases run_cases (query env.wildcard none) (client, w) with
    ⟨data, t, hrun, hw, ht⟩ | ⟨e, t, hrun, hw, ht⟩
  · rw [hrun]
    rcases hs with hs | hs | hs
    · obtain rfl : metering = none := hs
      have hc := hcontained t
      rcases run_cases (query env.metering (some METERING_DPIDS)) t with
        ⟨readings, t', hrun', hm, ht'⟩ | ⟨e, t', hrun', hm, ht'⟩
      · simp only [hrun']
        exact ⟨_, .probing client w data t _ t' hw ht hm ht' (contained_ok _)⟩
      · rw [hm] at hc
        cases e with
        | transport e =>
          simp only [hrun']
          exact ⟨_, .probing client w data t _ t' hw ht hm ht' hc⟩
        | _ => exact absurd (hc _ rfl) (by simp [Exn.isTransport])
    · obtain rfl : metering = some [] := hs
      exact ⟨_, .absent client w data t hw ht⟩
    · obtain rfl : metering = some METERING_DPIDS := hs
      have hc := hcontained t
      rcases run_cases (query env.metering (some METERING_DPIDS)) t with
        ⟨readings, t', hrun', hm, ht'⟩ | ⟨e, t', hrun', hm, ht'⟩
      · have hmetered := Goes.metered client w data t _ t' hw ht hm ht' (contained_ok _)
        simp only [METERING_DPIDS] at hrun' ⊢
        simp only [hrun']
        exact ⟨_, hmetered⟩
      · rw [hm] at hc
        cases e with
        | transport e =>
          have hmetered := Goes.metered client w data t _ t' hw ht hm ht' hc
          simp only [METERING_DPIDS] at hrun' ⊢
          simp only [hrun']
          exact ⟨_, hmetered⟩
        | _ => exact absurd (hc _ rfl) (by simp [Exn.isTransport])
  · rw [hrun]
    exact ⟨_, .failed client metering w e t hw ht⟩

section Steps

variable {query} {env : PollEnv ω} {s s' : CozyLifeCoordinator K × World} {p : Poll}
  {r : Except Exn (Dict Json)}

theorem logged_run (attrs : Option (List Int)) (env : ω) (k : K) (log : List Asked) (w : World) :
    (logged query env attrs).run ((k, log), w) =
      match answer (query env attrs) (k, w) with
      | .ok data => .ok data (((after (query env attrs) (k, w)).1, log ++ [⟨attrs, .ok data⟩]),
          (after (query env attrs) (k, w)).2)
      | .error e => .error e (((after (query env attrs) (k, w)).1, log ++ [⟨attrs, .error e⟩]),
          (after (query env attrs) (k, w)).2) := by
  simp only [logged, answer, after, EStateM.run]
  cases query env attrs (k, w) <;> rfl

/-- The queries a poll makes are those its course says. -/
theorem Goes.asks (h : Goes query env s p r s') : asks query env s = p.asked := by
  rw [CozyLifeCoordinator.asks, after, poll_run, Poll.asked]
  cases h with
  | failed client metering w e t hw ht => simp [logged_run, hw]
  | absent client w data t hw ht => simp [logged_run, hw]
  | probing client w data t found t' hw ht hm ht' hc =>
    subst ht
    rcases found with e | readings
    · cases e with
      | transport e => simp [logged_run, hw, hm]
      | _ => exact absurd (hc _ rfl) (by simp [Exn.isTransport])
    · simp [logged_run, hw, hm]
  | metered client w data t found t' hw ht hm ht' hc =>
    subst ht
    simp only [METERING_DPIDS] at hm ⊢
    rcases found with e | readings
    · cases e with
      | transport e => simp [logged_run, hw, hm]
      | _ => exact absurd (hc _ rfl) (by simp [Exn.isTransport])
    · simp [logged_run, hw, hm]

theorem Goes.returns (hq : Reliable query) (h : Goes query env s p r s') : p.Returns r := by
  cases h with
  | failed => rfl
  | absent client w data t => exact ⟨data, rfl, rfl⟩
  | probing client w data t found t' hw ht hm | metered client w data t found t' hw ht hm =>
    refine ⟨merged data found, rfl, ?_⟩
    cases found with
    | error e => rfl
    | ok readings =>
      intro k
      exact Dict.get_update data k readings (hq.distinct _ _ _ _ hm)

end Steps

/-! ### A run of polls -/

/-- The courses polls take, one after the other, from what is noted of the metering. -/
inductive Course : Option (List Int) → List Poll → Prop
  | done (known) : Course known []
  | failed (e) (h : Course known ps) : Course known (⟨.error e, none⟩ :: ps)
  | absent (data) (h : Course (some []) ps) : Course (some []) (⟨.ok data, none⟩ :: ps)
  | probing (data found) (h : Course (some (verdict found)) ps) :
      Course none (⟨.ok data, some found⟩ :: ps)
  | metered (data found) (h : Course (some METERING_DPIDS) ps) :
      Course (some METERING_DPIDS) (⟨.ok data, some found⟩ :: ps)

theorem Goes.course {query : ω → Option (List Int) → Method K (Dict Json)}
    (h : Goes query env s p r s') (hps : Course s'.1.metering ps) :
    Course s.1.metering (p :: ps) := by
  cases h with
  | failed => exact .failed _ hps
  | absent => exact .absent _ hps
  | probing => exact .probing _ _ hps
  | metered => exact .metered _ _ hps

theorem Goes.known {query : ω → Option (List Int) → Method K (Dict Json)}
    (h : Goes query env s p r s') (hs : Known s.1.metering) : Known s'.1.metering := by
  cases h with
  | failed => exact hs
  | absent => exact .inr (.inl rfl)
  | metered => exact .inr (.inr rfl)
  | probing client w data t found =>
    rcases found with e | readings
    · exact .inr (.inl rfl)
    · simp only [verdict]
      split
      · exact .inr (.inl rfl)
      · exact .inr (.inr rfl)

/-- What is seen of a poll is its queries and what it returns. -/
def Shows (r : Polled) (p : Poll) : Prop := r.asked = p.asked ∧ p.Returns r.result

theorem polls_course (hq : Reliable query) (envs : List (PollEnv ω))
    (s : CozyLifeCoordinator K × World) (hs : Known s.1.metering) :
    ∃ ps, List.Forall₂ Shows (polls query envs s) ps ∧ Course s.1.metering ps := by
  induction envs generalizing s with
  | nil => exact ⟨[], .nil, .done _⟩
  | cons env envs ih =>
    obtain ⟨p, hp⟩ := poll_goes query hq env s hs
    obtain ⟨ps, hps, hcourse⟩ := ih (after (poll query env) s) (hp.known hs)
    exact ⟨p :: ps, .cons ⟨hp.asks, hp.returns hq⟩ hps, hp.course hcourse⟩

theorem course_absent (h : Course known ps) (hn : known = some []) : Settled false ps := by
  induction h with
  | done => simp [Settled]
  | failed e h ih => simpa [Settled] using ih hn
  | absent data h ih => simpa [Settled] using ih hn
  | probing => cases hn
  | metered => simp [METERING_DPIDS] at hn

theorem course_metered (h : Course known ps) (hn : known = some METERING_DPIDS) :
    Settled true ps := by
  induction h with
  | done => simp [Settled]
  | failed e h ih => simpa [Settled] using ih hn
  | absent => simp [METERING_DPIDS] at hn
  | probing => cases hn
  | metered data found h ih => simpa [Settled] using ih hn

theorem course_failed (h : Course known ps) :
    ∀ p ∈ ps, ∀ e, p.wildcard = .error e → p.metering = none := by
  induction h with
  | done => simp
  | failed e h ih => simpa using ih
  | absent data h ih => simpa using ih
  | probing data found h ih => simpa using ih
  | metered data found h ih => simpa using ih

theorem course_probe (h : Course known ps) (hn : known = none) : ProbedOnce ps := by
  refine ⟨course_failed h, ?_⟩
  intro pre p post data hps hpre hp
  induction h generalizing pre with
  | done => simp at hps
  | failed e h ih =>
    cases pre with
    | nil =>
      simp only [List.nil_append, List.cons.injEq] at hps
      rw [← hps.1] at hp
      cases hp
    | cons q pre =>
      simp only [List.cons_append, List.cons.injEq] at hps
      exact ih hn pre hps.2 (fun q hq => hpre q (List.mem_cons_of_mem _ hq))
  | absent => cases hn
  | metered => cases hn
  | probing data' found h =>
    cases pre with
    | nil =>
      simp only [List.nil_append, List.cons.injEq] at hps
      obtain ⟨rfl, rfl⟩ := hps
      refine ⟨found, rfl, ?_, ?_⟩
      · intro hfound
        apply course_absent h
        rcases hfound with ⟨e, rfl⟩ | rfl <;> rfl
      · intro readings hfound hne
        apply course_metered h
        simp [hfound, verdict, hne]
    | cons q pre =>
      simp only [List.cons_append, List.cons.injEq] at hps
      obtain ⟨e, he⟩ := hpre q List.mem_cons_self
      rw [← hps.1] at he
      cases he

/-- Over a whole run of polls: the wildcard query decides whether a poll fails, the first one that
succeeds probes for metering, what it finds is final, and the readings overlay the reply they came
with. -/
theorem metering_run (client : K) (w : World) (envs : List (PollEnv ω)) (hq : Reliable query) :
    ∃ ps, List.Forall₂ Shows (polls query envs (.new client, w)) ps ∧ ProbedOnce ps := by
  obtain ⟨ps, hps, hcourse⟩ := polls_course query hq envs (.new client, w) (.inl rfl)
  exact ⟨ps, hps, course_probe hcourse rfl⟩

/-- A client whose queries give one reading, or fail. -/
def reader (env : Except TransportError Int) (_ : Option (List Int)) : Method Unit (Dict Json) :=
  match env with
  | .ok n => pure [(str "26", .int n)]
  | .error e => throw (.transport e)

theorem reader_reliable : Reliable reader := by
  refine ⟨?_, ?_⟩
  · intro env attrs s
    cases env with
    | ok n => exact contained_ok _
    | error e => exact (contained_error _).mpr rfl
  · intro env attrs s data h
    cases env with
    | ok n =>
      cases h
      simp [Dict.Distinct]
    | error e => cases h

/-- The device is unreachable, then found to have no metering. -/
theorem reader_metering_run : ∃ ps, List.Forall₂ Shows
    (polls reader [⟨.error ⟨str "down"⟩, .ok 1⟩, ⟨.ok 1, .error ⟨str "silent"⟩⟩, ⟨.ok 2, .ok 3⟩]
      (.new (), World.initial)) ps ∧ ProbedOnce ps :=
  metering_run reader () World.initial _ reader_reliable

end CozyLifeCoordinator

end CozyLife
