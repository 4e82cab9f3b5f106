import CozyLife.Proofs.Fallback
import Mathlib.Data.List.Basic
import Mathlib.Tactic.Linarith

/-! The breaker under any number of requests at once. Each method of the breaker runs in one piece;
between two methods of one request, other requests may run theirs. -/

namespace CozyLife
open Python Effects

namespace Breaker

/-- All `_should_try_local` can do. -/
theorem shouldTryLocal_cases (b : Breaker) (cloud : Bool) (check probe : ℚ) :
    (b.shouldTryLocal cloud check probe = (false, b) ∧ cloud = true ∧
      ∃ openedAt, b.circuitOpenedAt = some openedAt ∧ check - openedAt < b.recoveryInterval) ∨
    (b.shouldTryLocal cloud check probe = (true, b) ∧
      (cloud = false ∨ b.circuitOpenedAt = none)) ∨
    (b.shouldTryLocal cloud check probe = (true, { b with circuitOpenedAt := some probe }) ∧
      ∃ openedAt, b.circuitOpenedAt = some openedAt ∧
        b.recoveryInterval ≤ check - openedAt) := by
  cases cloud with
  | false => exact .inr (.inl ⟨rfl, .inl rfl⟩)
  | true =>
    cases h : b.circuitOpenedAt with
    | none => exact .inr (.inl ⟨by simp only [shouldTryLocal, h], .inr rfl⟩)
    | some openedAt =>
      by_cases hd : check - openedAt < b.recoveryInterval
      · exact .inl ⟨by simp only [shouldTryLocal, h, hd, ↓reduceIte], rfl, openedAt, rfl, hd⟩
      · refine .inr (.inr ⟨?_, openedAt, rfl, not_lt.mp hd⟩)
        simp only [shouldTryLocal, h, hd, ↓reduceIte]

/-- A local failure is counted, and opens a closed circuit once there are enough of them and a cloud
to fall back to. -/
theorem recordLocalFailure_cases (b : Breaker) (cloud : Bool) (trip : ℚ) :
    ((b.recordLocalFailure cloud trip).2 = { b with
        consecutiveFailures := b.consecutiveFailures + 1, circuitOpenedAt := some trip } ∧
      b.circuitOpenedAt = none ∧ cloud = true ∧
      b.failureThreshold ≤ (b.consecutiveFailures + 1 : Nat)) ∨
    ((b.recordLocalFailure cloud trip).2 = { b with
        consecutiveFailures := b.consecutiveFailures + 1 } ∧
      ¬ (b.circuitOpenedAt = none ∧ cloud = true ∧
        b.failureThreshold ≤ (b.consecutiveFailures + 1 : Nat))) := by
  by_cases h : b.circuitOpenedAt = none ∧ cloud = true ∧
      b.failureThreshold ≤ (b.consecutiveFailures + 1 : Nat)
  · left
    exact ⟨by simp only [recordLocalFailure, if_pos h], h⟩
  · right
    exact ⟨by simp only [recordLocalFailure, if_neg h], h⟩

end Breaker

/-- How far a request is. -/
inductive Phase
  | idle
  | onLocal
  | onCloud

inductive Recorded
  | failure
  | success

/-- The local failures recorded since the last local success, of records that come latest first. -/
def tally : List Recorded → Nat
  | .failure :: records => tally records + 1
  | _ => 0

/-- An opening of the circuit, or a local attempt that is allowed while it is open, with the reading
that is stored for it. -/
inductive Mark
  | opening (time : ℚ)
  | probe (stored : Option ℚ)
  deriving DecidableEq

def Mark.time : Mark → Option ℚ
  | .opening t => some t
  | .probe stored => stored

def Mark.isProbe : Mark → Bool
  | .opening _ => false
  | .probe _ => true

/-- The most recent opening, of marks that come latest first. -/
def lastOpening : List Mark → Option ℚ
  | [] => none
  | .opening t :: _ => some t
  | .probe _ :: marks => lastOpening marks

/-- A client with all the requests it is serving, and what has been recorded and marked so far,
latest first. -/
structure Pool where
  cloud : Bool
  breaker : Breaker
  phase : Nat → Phase
  records : List Recorded
  marks : List Mark
  assertionFailed : Bool

/-- The steps of request number `i`: `_should_try_local`, how the local call ends, `_via_cloud`. -/
inductive PoolStep
  | begins (i : Nat) (check probe : ℚ)
  | fails (i : Nat) (trip : ℚ)
  | succeeds (i : Nat)
  | escapes (i : Nat)
  | turnsToCloud (i : Nat)

/-- The request that takes the step. -/
def PoolStep.request : PoolStep → Nat
  | .begins i _ _ | .fails i _ | .succeeds i | .escapes i | .turnsToCloud i => i

/-- What a step may read off the clock, in order. -/
def PoolStep.readings : PoolStep → List ℚ
  | .begins _ check probe => [check, probe]
  | .fails _ trip => [trip]
  | _ => []

namespace Pool

def start (threshold : Int) (interval : ℚ) (cloud : Bool) : Pool :=
  ⟨cloud, .initial threshold interval, fun _ => .idle, [], [], false⟩

def enter (p : Pool) (i : Nat) (phase : Phase) : Nat → Phase :=
  fun j => if j = i then phase else p.phase j

/-- Local is tried or not, and the breaker becomes `b`: on an open circuit the attempt is a probe. -/
def probed (p : Pool) (tries : Bool) (b : Breaker) : List Mark :=
  if tries && p.breaker.isOpen then .probe b.circuitOpenedAt :: p.marks else p.marks

/-- The breaker becomes `b`, which may open the circuit. -/
def opened (p : Pool) (b : Breaker) : List Mark :=
  match p.breaker.circuitOpenedAt, b.circuitOpenedAt with
  | none, some t => .opening t :: p.marks
  | _, _ => p.marks

/-- A step of a request that is not there to be taken does nothing. -/
def step (p : Pool) : PoolStep → Pool
  | .begins i check probe => match p.phase i with
    | .idle =>
      let (tries, b) := p.breaker.shouldTryLocal p.cloud check probe
      { p with
        breaker := b
        phase := p.enter i (if tries then .onLocal else .onCloud)
        marks := p.probed tries b }
    | _ => p
  | .fails i trip => match p.phase i with
    | .onLocal =>
      let b := (p.breaker.recordLocalFailure p.cloud trip).2
      { p with
        breaker := b
        phase := p.enter i (if p.cloud then .onCloud else .idle)
        records := .failure :: p.records
        marks := p.opened b }
    | _ => p
  | .succeeds i => match p.phase i with
    | .onLocal => { p with
        breaker := p.breaker.recordLocalSuccess.2
        phase := p.enter i .idle
        records := .success :: p.records }
    | _ => p
  | .escapes i => match p.phase i with
    | .onLocal => { p with phase := p.enter i .idle }
    | _ => p
  | .turnsToCloud i => match p.phase i with
    | .onCloud => { p with
        phase := p.enter i .idle
        assertionFailed := p.assertionFailed || !p.cloud }
    | _ => p

/-- A step of one request leaves the others where they are. -/
theorem step_others {st : PoolStep} {j : Nat} (hj : j ≠ st.request) (p : Pool) :
    (p.step st).phase j = p.phase j := by
  have hothers (phase : Phase) : p.enter st.request phase j = p.phase j := if_neg hj
  cases st <;> simp only [step] <;> split <;> first | exact hothers _ | rfl

/-- The breaker's fields in step with what has been recorded. -/
structure Sound (threshold : Int) (interval : ℚ) (cloud : Bool) (p : Pool) : Prop where
  fixed : p.breaker.failureThreshold = threshold ∧ p.breaker.recoveryInterval = interval ∧
    p.cloud = cloud
  counted : p.breaker.consecutiveFailures = tally p.records
  isOpen : p.breaker.isOpen = true ↔
    p.cloud = true ∧ max 1 threshold ≤ p.breaker.consecutiveFailures
  served : ∀ i, p.phase i = .onCloud → p.cloud = true
  asserted : p.assertionFailed = false

variable {threshold : Int} {interval : ℚ} {cloud : Bool}

theorem enter_onCloud {p : Pool} {phase : Phase} (h : ∀ j, p.phase j = .onCloud → p.cloud = true)
    (hi : phase = .onCloud → p.cloud = true) (j : Nat) (hj : p.enter i phase j = .onCloud) :
    p.cloud = true := by
  unfold enter at hj
  split at hj
  · exact hi hj
  · exact h j hj

theorem begins_sound {p : Pool} (h : Sound threshold interval cloud p) (i : Nat) (check probe : ℚ) :
    Sound threshold interval cloud (p.step (.begins i check probe)) := by
  simp only [step]
  cases p.phase i with
  | onLocal | onCloud => exact h
  | idle =>
    rcases p.breaker.shouldTryLocal_cases p.cloud check probe with
      ⟨he, hcloud, _⟩ | ⟨he, _⟩ | ⟨he, openedAt, ho, _⟩
    · simp only [he]
      exact ⟨h.fixed, h.counted, h.isOpen, enter_onCloud h.served (fun _ => hcloud), h.asserted⟩
    · simp only [he]
      exact ⟨h.fixed, h.counted, h.isOpen, enter_onCloud h.served (fun hp => by simp at hp),
        h.asserted⟩
    · simp only [he]
      refine ⟨h.fixed, h.counted, ?_, enter_onCloud h.served (fun hp => by simp at hp),
        h.asserted⟩
      rw [← h.isOpen]
      simp [Breaker.isOpen, ho]

theorem fails_sound {p : Pool} (h : Sound threshold interval cloud p) (i : Nat) (trip : ℚ) :
    Sound threshold interval cloud (p.step (.fails i trip)) := by
  simp only [step]
  cases p.phase i with
  | idle | onCloud => exact h
  | onLocal =>
    have hphase : ∀ j, p.enter i (if p.cloud then .onCloud else .idle) j = .onCloud →
        p.cloud = true := enter_onCloud h.served (fun hp => by
      cases hc : p.cloud with
      | true => rfl
      | false => simp [hc] at hp)
    have hopen := h.isOpen
    have ht := h.fixed.1
    have htally := h.counted
    rcases p.breaker.recordLocalFailure_cases p.cloud trip with
      ⟨he, hclosed, hcloud, hreached⟩ | ⟨he, hnot⟩
    · refine ⟨by rw [he]; exact h.fixed, by rw [he, htally]; rfl, ?_, hphase, h.asserted⟩
      simp only [he, Breaker.isOpen, Option.isSome_some, true_iff]
      exact ⟨hcloud, by omega⟩
    · refine ⟨by rw [he]; exact h.fixed, by rw [he, htally]; rfl, ?_, hphase, h.asserted⟩
      simp only [he]
      constructor
      · intro ho
        obtain ⟨hcloud, hle⟩ := hopen.mp ho
        exact ⟨hcloud, by omega⟩
      · intro hreached
        obtain ⟨hcloud, hle⟩ := hreached
        by_contra hclosed
        simp only [Breaker.isOpen, Bool.not_eq_true, Option.isSome_eq_false_iff,
          Option.isNone_iff_eq_none] at hclosed
        exact hnot ⟨hclosed, hcloud, by omega⟩

theorem step_sound {p : Pool} (h : Sound threshold interval cloud p) (st : PoolStep) :
    Sound threshold interval cloud (p.step st) := by
  cases st with
  | begins i check probe => exact begins_sound h i check probe
  | fails i trip => exact fails_sound h i trip
  | succeeds i =>
    simp only [step]
    cases p.phase i with
    | idle | onCloud => exact h
    | onLocal =>
      refine ⟨h.fixed, rfl, ?_, enter_onCloud h.served (fun hp => by cases hp), h.asserted⟩
      simp only [Breaker.recordLocalSuccess, Breaker.isOpen]
      constructor
      · intro ho
        cases ho
      · intro hreached
        obtain ⟨_, hle⟩ := hreached
        simp at hle
  | escapes i =>
    simp only [step]
    cases p.phase i with
    | idle | onCloud => exact h
    | onLocal =>
      exact ⟨h.fixed, h.counted, h.isOpen, enter_onCloud h.served (fun hp => by cases hp),
        h.asserted⟩
  | turnsToCloud i =>
    simp only [step]
    cases hp : p.phase i with
    | idle | onLocal => exact h
    | onCloud =>
      refine ⟨h.fixed, h.counted, h.isOpen, enter_onCloud h.served (fun hp => by cases hp), ?_⟩
      simp [h.asserted, h.served i hp]

theorem start_sound (threshold : Int) (interval : ℚ) (cloud : Bool) :
    Sound threshold interval cloud (start threshold interval cloud) := by
  refine ⟨⟨rfl, rfl, rfl⟩, rfl, ?_, fun i h => (by cases h), rfl⟩
  simp [start, Breaker.initial, Breaker.isOpen]

theorem run_sound (threshold : Int) (interval : ℚ) (cloud : Bool) (steps : List PoolStep) :
    Sound threshold interval cloud (steps.foldl step (start threshold interval cloud)) :=
  List.foldlRecOn steps step (start_sound threshold interval cloud)
    (fun _ h st _ => step_sound h st)

/-- The last records are failures, as many as the tally says. -/
theorem tally_failures (records : List Recorded) (n : Nat) (h : n ≤ tally records) :
    records.take n = List.replicate n .failure := by
  induction records generalizing n with
  | nil =>
    obtain rfl : n = 0 := Nat.le_zero.mp h
    rfl
  | cons record records ih =>
    cases n with
    | zero => rfl
    | succ n =>
      cases record with
      | success => exact absurd h (Nat.not_succ_le_zero n)
      | failure => rw [List.take_succ_cons, ih n (Nat.le_of_succ_le_succ h), List.replicate_succ]

/-- The fields of the breaker stay in step: the tally counts the failures since the last success, and
the circuit is open exactly when there is a cloud and the tally has reached the threshold. So the last
attempts have all failed while it is open, a success closes it, local is skipped only while it is open
and its interval is not over, and no request gets to the cloud's part when there is no cloud. -/
theorem breaker_in_step (threshold : Int) (interval : ℚ) (cloud : Bool) (steps : List PoolStep) :
    let p := steps.foldl step (start threshold interval cloud)
    p.breaker.consecutiveFailures = tally p.records ∧
      (p.breaker.isOpen = true ↔ cloud = true ∧ max 1 threshold ≤ tally p.records) ∧
      (p.breaker.isOpen = true →
        p.records.take (max 1 threshold).toNat = List.replicate (max 1 threshold).toNat .failure) ∧
      (∀ i, p.phase i = .onLocal → (p.step (.succeeds i)).breaker.isOpen = false) ∧
      (∀ check probe, (p.breaker.shouldTryLocal p.cloud check probe).1 = false →
        ∃ openedAt, p.breaker.circuitOpenedAt = some openedAt ∧ check - openedAt < interval) ∧
      p.assertionFailed = false := by
  have h := run_sound threshold interval cloud steps
  obtain ⟨-, hinterval, hcloud⟩ := h.fixed
  have hiff := h.isOpen
  rw [h.counted, hcloud] at hiff
  refine ⟨h.counted, hiff, ?_, ?_, ?_, h.asserted⟩
  · intro ho
    have := (hiff.mp ho).2
    apply tally_failures
    omega
  · intro i hi
    simp only [step, hi]
    rfl
  · intro check probe hskip
    rcases Breaker.shouldTryLocal_cases _ _ check probe with
      ⟨_, _, openedAt, ho, hlt⟩ | ⟨he, _⟩ | ⟨he, _⟩
    · exact ⟨openedAt, ho, hinterval ▸ hlt⟩
    · rw [he] at hskip
      cases hskip
    · rw [he] at hskip
      cases hskip

/-! ### Probes -/

/-- What is marked, when the clock still has `later` to read: every mark has a reading, the circuit's
own reading is that of the latest mark, and a probe keeps its distance from all marks before it. -/
structure Spaced (interval : ℚ) (p : Pool) (later : List ℚ) : Prop where
  fixed : p.breaker.recoveryInterval = interval
  cloudy : p.breaker.circuitOpenedAt ≠ none → p.cloud = true
  started : ∀ m ∈ p.marks, ∃ t, m.time = some t
  stored : ∀ t, p.breaker.circuitOpenedAt = some t → p.marks.head?.bind Mark.time = some t
  sorted : p.marks.Pairwise (fun later earlier => ∀ t ∈ later.time, ∀ t' ∈ earlier.time, t' ≤ t)
  spaced : p.marks.Pairwise (fun later earlier => later.isProbe = true →
    ∀ t ∈ later.time, ∀ t' ∈ earlier.time, t' + interval ≤ t)
  past : ∀ m ∈ p.marks, ∀ t' ∈ m.time, ∀ t ∈ later, t' ≤ t

variable {later later' : List ℚ} {m : Mark}

theorem Spaced.le_stored {p : Pool} {t : ℚ} (h : Spaced interval p later)
    (ht : p.breaker.circuitOpenedAt = some t) : ∀ m ∈ p.marks, ∀ t' ∈ m.time, t' ≤ t := by
  have hstored := h.stored t ht
  have hsorted := h.sorted
  cases hm : p.marks with
  | nil => simp
  | cons latest earlier =>
    simp only [hm, List.head?_cons, Option.bind_some] at hstored
    rw [hm] at hsorted
    intro m hmem t' ht'
    rcases List.mem_cons.mp hmem with rfl | hmem
    · rw [hstored] at ht'
      exact (Option.some.inj ht').ge
    · exact List.rel_of_pairwise_cons hsorted hmem t hstored t' ht'

/-- A step that marks nothing and stores nothing new. -/
theorem Spaced.unmarked {p p' : Pool} (h : Spaced interval p later) (hcloud : p'.cloud = p.cloud)
    (hinterval : p'.breaker.recoveryInterval = p.breaker.recoveryInterval)
    (hstored : p'.breaker.circuitOpenedAt = p.breaker.circuitOpenedAt ∨
      p'.breaker.circuitOpenedAt = none) (hmarks : p'.marks = p.marks)
    (hlater : ∀ t ∈ later', t ∈ later) : Spaced interval p' later' where
  fixed := hinterval.trans h.fixed
  cloudy ho := by
    rcases hstored with he | he
    · exact hcloud.trans (h.cloudy (he ▸ ho))
    · exact absurd he ho
  started := hmarks ▸ h.started
  stored t ht := by
    rcases hstored with he | he
    · exact hmarks ▸ h.stored t (he ▸ ht)
    · rw [he] at ht
      cases ht
  sorted := hmarks ▸ h.sorted
  spaced := hmarks ▸ h.spaced
  past m hm t' ht' t ht := h.past m (hmarks ▸ hm) t' ht' t (hlater t ht)

/-- A step that stores a reading and marks it. -/
theorem Spaced.mark {p p' : Pool} {time : ℚ} (h : Spaced interval p later)
    (hinterval : p'.breaker.recoveryInterval = p.breaker.recoveryInterval)
    (hcloud : p'.cloud = true) (hstored : p'.breaker.circuitOpenedAt = some time)
    (htime : m.time = some time) (hmarks : p'.marks = m :: p.marks)
    (hsorted : ∀ m' ∈ p.marks, ∀ t' ∈ m'.time, t' ≤ time)
    (hspaced : m.isProbe = true → ∀ m' ∈ p.marks, ∀ t' ∈ m'.time, t' + interval ≤ time)
    (hlater : ∀ t ∈ later', t ∈ later ∧ time ≤ t) : Spaced interval p' later' where
  fixed := hinterval.trans h.fixed
  cloudy _ := hcloud
  started := by
    rw [hmarks]
    exact List.forall_mem_cons.mpr ⟨⟨time, htime⟩, h.started⟩
  stored t ht := by
    rw [hmarks, List.head?_cons, Option.bind_some, htime]
    exact hstored.symm.trans ht
  sorted := by
    rw [hmarks]
    refine .cons (fun m' hm' t ht => ?_) h.sorted
    obtain rfl := Option.some.inj (htime.symm.trans ht)
    exact hsorted m' hm'
  spaced := by
    rw [hmarks]
    refine .cons (fun m' hm' hp t ht => ?_) h.spaced
    obtain rfl := Option.some.inj (htime.symm.trans ht)
    exact hspaced hp m' hm'
  past m' hm' t' ht' t ht := by
    rw [hmarks] at hm'
    rcases List.mem_cons.mp hm' with rfl | hm'
    · obtain rfl := Option.some.inj (htime.symm.trans ht')
      exact (hlater t ht).2
    · exact h.past m' hm' t' ht' t (hlater t ht).1

theorem begins_spaced {p : Pool} (i : Nat) (check probe : ℚ)
    (h : Spaced interval p (check :: probe :: later)) (hprobe : check ≤ probe)
    (hlater : ∀ t ∈ later, probe ≤ t) :
    Spaced interval (p.step (.begins i check probe)) later := by
  have hsub : ∀ t ∈ later, t ∈ check :: probe :: later := by
    intro t ht
    simp [ht]
  simp only [step]
  cases p.phase i with
  | onLocal | onCloud => exact h.unmarked rfl rfl (.inl rfl) rfl hsub
  | idle =>
    rcases p.breaker.shouldTryLocal_cases p.cloud check probe with
      ⟨he, _⟩ | ⟨he, hfree⟩ | ⟨he, openedAt, ho, hdue⟩
    · simp only [he]
      exact h.unmarked rfl rfl (.inl rfl) rfl hsub
    · have hclosed : p.breaker.circuitOpenedAt = none := by
        rcases hfree with hcloud | hclosed
        · by_contra hopen
          simp [h.cloudy hopen] at hcloud
        · exact hclosed
      simp only [he]
      exact h.unmarked rfl rfl (.inl rfl) (by simp [probed, Breaker.isOpen, hclosed]) hsub
    · have hreached : openedAt + interval ≤ probe := by
        rw [h.fixed] at hdue
        linarith
      have hdistance : ∀ m ∈ p.marks, ∀ t ∈ m.time, t + interval ≤ probe := by
        intro m hm t ht
        have := h.le_stored ho m hm t ht
        linarith
      simp only [he]
      refine h.mark (m := .probe (some probe)) rfl (h.cloudy (by simp [ho])) rfl rfl ?_ ?_
        (fun _ => hdistance) (fun t ht => ⟨hsub t ht, hlater t ht⟩)
      · simp [probed, Breaker.isOpen, ho]
      · intro m hm t ht
        exact h.past m hm t ht probe (by simp)

theorem fails_spaced {p : Pool} (i : Nat) (trip : ℚ) (h : Spaced interval p (trip :: later))
    (hlater : ∀ t ∈ later, trip ≤ t) : Spaced interval (p.step (.fails i trip)) later := by
  have hsub : ∀ t ∈ later, t ∈ trip :: later := by
    intro t ht
    simp [ht]
  simp only [step]
  cases p.phase i with
  | idle | onCloud => exact h.unmarked rfl rfl (.inl rfl) rfl hsub
  | onLocal =>
    rcases p.breaker.recordLocalFailure_cases p.cloud trip with
      ⟨he, hclosed, hcloud, _⟩ | ⟨he, _⟩
    · refine h.mark (m := .opening trip) ?_ hcloud ?_ rfl ?_ ?_ (fun hp => by cases hp)
        (fun t ht => ⟨hsub t ht, hlater t ht⟩)
      · simp only [he]
      · simp only [he]
      · simp [opened, he, hclosed]
      · intro m hm t ht
        exact h.past m hm t ht trip (by simp)
    · refine h.unmarked rfl (by simp only [he]) (.inl (by simp only [he])) ?_ hsub
      cases ho : p.breaker.circuitOpenedAt <;> simp [opened, he, ho]

theorem step_spaced {p : Pool} (st : PoolStep) (h : Spaced interval p (st.readings ++ later))
    (hclock : (st.readings ++ later).Pairwise (· ≤ ·)) : Spaced interval (p.step st) later := by
  cases st with
  | begins i check probe =>
    simp only [PoolStep.readings, List.cons_append, List.nil_append] at h hclock
    obtain ⟨hcheck, hclock⟩ := List.pairwise_cons.mp hclock
    exact begins_spaced i check probe h (hcheck probe (by simp)) (List.pairwise_cons.mp hclock).1
  | fails i trip =>
    simp only [PoolStep.readings, List.cons_append, List.nil_append] at h hclock
    exact fails_spaced i trip h (List.pairwise_cons.mp hclock).1
  | succeeds i =>
    simp only [step]
    cases p.phase i with
    | idle | onCloud => exact h
    | onLocal => exact h.unmarked rfl rfl (.inr rfl) rfl (fun _ ht => ht)
  | escapes i =>
    simp only [step]
    cases p.phase i with
    | idle | onCloud => exact h
    | onLocal => exact h.unmarked rfl rfl (.inl rfl) rfl (fun _ ht => ht)
  | turnsToCloud i =>
    simp only [step]
    cases p.phase i with
    | idle | onLocal => exact h
    | onCloud => exact h.unmarked rfl rfl (.inl rfl) rfl (fun _ ht => ht)

theorem run_spaced (steps : List PoolStep) {p : Pool}
    (h : Spaced interval p (steps.flatMap PoolStep.readings))
    (hclock : (steps.flatMap PoolStep.readings).Pairwise (· ≤ ·)) :
    Spaced interval (steps.foldl step p) [] := by
  induction steps generalizing p with
  | nil => exact h
  | cons st steps ih =>
    rw [List.flatMap_cons] at h hclock
    exact ih (step_spaced st h hclock) (List.pairwise_append.mp hclock).2.1

/-- The reading the circuit keeps is that of the last mark, whichever kind it is. -/
theorem Spaced.tries {p : Pool} (h : Spaced interval p later) (check probe : ℚ)
    (hopening : ∀ t, lastOpening p.marks = some t → t + interval ≤ check)
    (hprobes : ∀ m ∈ p.marks, m.isProbe = true → ∀ t ∈ m.time, t + interval ≤ check) :
    (p.breaker.shouldTryLocal p.cloud check probe).1 = true := by
  rcases p.breaker.shouldTryLocal_cases p.cloud check probe with
    ⟨_, _, openedAt, ho, hlt⟩ | ⟨he, _⟩ | ⟨he, _⟩
  · exfalso
    rw [h.fixed] at hlt
    have hstored := h.stored openedAt ho
    rcases hm : p.marks with _ | ⟨t | stored, marks⟩
    · simp [hm] at hstored
    · obtain rfl : t = openedAt := by simpa [hm, Mark.time] using hstored
      have := hopening t (by rw [hm]; rfl)
      linarith
    · obtain rfl : stored = some openedAt := by simpa [hm, Mark.time] using hstored
      have := hprobes (.probe (some openedAt)) (by simp [hm]) rfl openedAt rfl
      linarith
  · rw [he]
  · rw [he]

/-- Under a clock that does not run backwards, every local attempt on an open circuit stores a reading
as its start, at least the recovery interval after every opening of the circuit and the start of every
such attempt before it, and local is attempted as soon as the last opening and all these starts are
that far back. -/
theorem probes_spaced (threshold : Int) (interval : ℚ) (cloud : Bool) (steps : List PoolStep)
    (hclock : (steps.flatMap PoolStep.readings).Pairwise (· ≤ ·)) :
    let p := steps.foldl step (start threshold interval cloud)
    (∀ m ∈ p.marks, ∃ t, m.time = some t) ∧
      p.marks.Pairwise (fun later earlier => later.isProbe = true →
        ∀ t ∈ later.time, ∀ t' ∈ earlier.time, t' + interval ≤ t) ∧
      ∀ check probe, (∀ t, lastOpening p.marks = some t → t + interval ≤ check) →
        (∀ m ∈ p.marks, m.isProbe = true → ∀ t ∈ m.time, t + interval ≤ check) →
        (p.breaker.shouldTryLocal p.cloud check probe).1 = true := by
  have hstart : Spaced interval (start threshold interval cloud)
      (steps.flatMap PoolStep.readings) :=
    ⟨rfl, fun ho => absurd rfl ho, fun m hm => (by cases hm), fun t ht => (by cases ht), .nil, .nil,
      fun m hm => (by cases hm)⟩
  have h := run_spaced steps hstart hclock
  exact ⟨h.started, h.spaced, h.tries⟩

/-- A probe that fails leaves the circuit open for another interval. -/
def failedProbe : List PoolStep :=
  [.begins 0 0 0, .fails 0 1, .turnsToCloud 0, .begins 1 11 12, .begins 2 13 13, .fails 1 15,
    .turnsToCloud 1, .begins 3 22 22]

theorem failedProbe_spaced :
    (failedProbe.foldl step (start 1 10 true)).marks =
        [.probe (some 22), .probe (some 12), .opening 1] ∧
      (failedProbe.foldl step (start 1 10 true)).marks.Pairwise (fun later earlier =>
        later.isProbe = true → ∀ t ∈ later.time, ∀ t' ∈ earlier.time, t' + 10 ≤ t) :=
  ⟨by decide +kernel, (probes_spaced 1 10 true failedProbe (by decide +kernel)).2.1⟩

end Pool

/-! ### Requests of the client are runs of the pool -/

namespace FallbackClient

variable {L C α : Type}

/-- The steps of a request that runs alone, whose local call, if it makes one, ends so. -/
def requestSteps (i : Nat) (r : Readings) (tries : Bool) (ended : Except Exn α) :
    List PoolStep :=
  .begins i r.check r.probe :: if tries then match ended with
    | .ok _ => [.succeeds i]
    | .error (.transport _) => [.fails i r.trip, .turnsToCloud i]
    | .error _ => [.escapes i]
  else [.turnsToCloud i]

theorem requestSteps_readings (i : Nat) (r : Readings) (tries : Bool) (ended : Except Exn α) :
    ((requestSteps i r tries ended).flatMap PoolStep.readings).Sublist
      [r.check, r.probe, r.trip] := by
  have h : List.Sublist [r.check, r.probe] [r.check, r.probe, r.trip] :=
    List.sublist_append_left [r.check, r.probe] [r.trip]
  cases tries with
  | false => exact h
  | true => rcases ended with (_ | _ | _ | _ | _ | _) | _ <;> first | exact h | exact .refl _

theorem requestSteps_request {i : Nat} {r : Readings} {tries : Bool} {ended : Except Exn α}
    {st : PoolStep} (h : st ∈ requestSteps i r tries ended) : st.request = i := by
  rcases List.mem_cons.mp h with rfl | h
  · rfl
  · cases tries with
    | false =>
      obtain rfl := List.mem_singleton.mp h
      rfl
    | true =>
      rcases ended with (_ | _ | _ | _ | _ | _) | _ <;>
        simp only [↓reduceIte, List.mem_cons, List.not_mem_nil, or_false] at h <;>
        rcases h with rfl | rfl <;> rfl

/-- The breaker of the pool is that of the client, and request `0` has come as far as `phase`. -/
structure Mirrors (p : Pool) (phase : Phase) (s : FallbackClient L C × World) : Prop where
  breaker : p.breaker = s.1.toBreaker
  cloud : p.cloud = s.1.cloud.isSome
  phase : p.phase 0 = phase

variable {p : Pool} {s : FallbackClient L C × World}

theorem Mirrors.begins (h : Mirrors p .idle s) (r : Readings) :
    Mirrors (p.step (.begins 0 r.check r.probe))
      (if (s.1.toBreaker.shouldTryLocal s.1.cloud.isSome r.check r.probe).1 then .onLocal
        else .onCloud) (decided r s) := by
  simp only [Pool.step, h.phase, h.breaker, h.cloud]
  exact ⟨rfl, rfl, rfl⟩

theorem Mirrors.fails (h : Mirrors p .onLocal s) (r : Readings) :
    Mirrors (p.step (.fails 0 r.trip)) (if s.1.cloud.isSome then .onCloud else .idle)
      (failed r s) := by
  simp only [Pool.step, h.phase, h.breaker, h.cloud]
  exact ⟨rfl, rfl, rfl⟩

theorem Mirrors.succeeds (h : Mirrors p .onLocal s) :
    Mirrors (p.step (.succeeds 0)) .idle (succeeded s) := by
  simp only [Pool.step, h.phase, h.breaker]
  exact ⟨rfl, h.cloud, rfl⟩

theorem Mirrors.escapes (h : Mirrors p .onLocal s) : Mirrors (p.step (.escapes 0)) .idle s := by
  simp only [Pool.step, h.phase]
  exact ⟨h.breaker, h.cloud, rfl⟩

theorem Mirrors.turnsToCloud (h : Mirrors p .onCloud s) (cloudName : Str)
    (callCloud : Method C α) (localError : Option TransportError) :
    Mirrors (p.step (.turnsToCloud 0)) .idle
      (after (viaCloud cloudName callCloud localError) s) := by
  obtain ⟨hb, hc⟩ := viaCloud_keeps_breaker cloudName callCloud localError s
  simp only [Pool.step, h.phase]
  exact ⟨h.breaker.trans hb.symm, h.cloud.trans hc.symm, rfl⟩

/-- A request that is over does not turn to the cloud. -/
theorem Mirrors.stays (h : Mirrors p .idle s) : Mirrors (p.step (.turnsToCloud 0)) .idle s := by
  simp only [Pool.step, h.phase]
  exact h

/-- The steps of a request that runs alone take the pool where the request takes the client. -/
theorem attempt_mirrors (h : Mirrors p .idle s) (localName cloudName : Str) (r : Readings)
    (callLocal : Method L α) (callCloud : Method C α) :
    ∃ steps : List PoolStep,
      (steps.flatMap PoolStep.readings).Sublist [r.check, r.probe, r.trip] ∧
      Mirrors (steps.foldl Pool.step p) .idle
        (after (attempt localName cloudName r callLocal callCloud) s) := by
  refine ⟨_, requestSteps_readings 0 r
    (s.1.toBreaker.shouldTryLocal s.1.cloud.isSome r.check r.probe).1
    (answer callLocal (s.1.local', s.2)), ?_⟩
  have hbegun := h.begins r
  rw [after, attempt_run]
  cases hv : (s.1.toBreaker.shouldTryLocal s.1.cloud.isSome r.check r.probe).1 with
  | false =>
    simp only [hv, Bool.false_eq_true, ↓reduceIte] at hbegun
    exact hbegun.turnsToCloud cloudName callCloud none
  | true =>
    simp only [hv, ↓reduceIte] at hbegun
    have hlocal : Mirrors (p.step (.begins 0 r.check r.probe)) .onLocal
        (locally callLocal (decided r s)) := ⟨hbegun.breaker, hbegun.cloud, hbegun.phase⟩
    cases answer callLocal (s.1.local', s.2) with
    | ok a =>
      have hend := hlocal.succeeds
      exact ⟨hend.breaker, hend.cloud, hend.phase⟩
    | error e =>
      cases e with
      | transport e =>
        have hfailed := hlocal.fails r
        cases hc : s.1.cloud with
        | none =>
          have hnone : (locally callLocal (decided r s)).1.cloud.isSome = false := by
            simp [locally, decided, hc]
          simp only [hnone, Bool.false_eq_true, ↓reduceIte] at hfailed
          have hend := hfailed.stays
          exact ⟨hend.breaker, hend.cloud, hend.phase⟩
        | some c =>
          have hsome : (locally callLocal (decided r s)).1.cloud.isSome = true := by
            simp [locally, decided, hc]
          simp only [hsome, ↓reduceIte] at hfailed
          exact hfailed.turnsToCloud cloudName callCloud (some e)
      | _ => exact hlocal.escapes

/-! ### Runs of requests -/

variable {ωL ωC : Type} (l : Transport ωL L) (c : Transport ωC C)

theorem serve_mirrors (h : Mirrors p .idle s) (request : Request ωL ωC) :
    ∃ steps : List PoolStep,
      (steps.flatMap PoolStep.readings).Sublist (request.readings.inOrder) ∧
      Mirrors (steps.foldl Pool.step p) .idle (serve l c s request) := by
  cases request with
  | query env attrs => exact attempt_mirrors h l.name c.name env.readings _ _
  | control env payload => exact attempt_mirrors h l.name c.name env.readings _ _

/-- Requests served one after another are one run of the pool, which reads the clock no more often
than they do. -/
theorem run_mirrors (requests : List (Request ωL ωC)) (h : Mirrors p .idle s) :
    ∃ steps : List PoolStep, (steps.flatMap PoolStep.readings).Sublist
        (requests.flatMap (fun request => request.readings.inOrder)) ∧
      Mirrors (steps.foldl Pool.step p) .idle (requests.foldl (serve l c) s) := by
  induction requests generalizing p s with
  | nil => exact ⟨[], .slnil, h⟩
  | cons request requests ih =>
    obtain ⟨first, hfirst, h⟩ := serve_mirrors l c h request
    obtain ⟨rest, hrest, h⟩ := ih h
    refine ⟨first ++ rest, ?_, ?_⟩
    · rw [List.flatMap_append, List.flatMap_cons]
      exact hfirst.append hrest
    · rw [List.foldl_append]
      exact h

/-- The breaker of every client that has served requests is one that a pool keeps in step. -/
theorem run_sound (local' : L) (cloud : Option C) (threshold : Int) (interval : ℚ) (w : World)
    (requests : List (Request ωL ωC)) :
    ∃ p, Pool.Sound threshold interval cloud.isSome p ∧ Mirrors p .idle
      (requests.foldl (serve l c) (initial local' cloud threshold interval, w)) := by
  obtain ⟨steps, _, h⟩ := run_mirrors l c requests
    (p := Pool.start threshold interval cloud.isSome)
    (s := (initial local' cloud threshold interval, w)) ⟨rfl, rfl, rfl⟩
  exact ⟨_, Pool.run_sound threshold interval cloud.isSome steps, h⟩

end FallbackClient

end CozyLife
