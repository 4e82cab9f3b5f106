import CozyLife.Lib.Effects
import Mathlib.Data.List.Induction
import Mathlib.Data.Nat.Find
import Mathlib.Logic.Function.Basic
import Mathlib.Order.MinMax
import Mathlib.Tactic.Choose

/-! Programs that run side by side on a state they share: their steps, every way these can fall
between one another, and the rules for reasoning about all of them. -/

namespace Threads
open Effects

variable {ε ε' σ τ α β : Type}

/-- A program as its steps. A step waits until the state is `ready` for it, and nothing falls into
it. -/
inductive Thread (ε σ α : Type) : Type 1
  | done (r : Except ε α)
  | step {β : Type} (ready : σ → Bool) (m : EStateM ε σ β) (next : Except ε β → Thread ε σ α)

namespace Thread

def bind : Thread ε σ α → (α → Thread ε σ β) → Thread ε σ β
  | done (.ok a), f => f a
  | done (.error e), _ => done (.error e)
  | step ready m next, f => step ready m (fun x => bind (next x) f)

instance : Monad (Thread ε σ) where
  pure a := done (.ok a)
  bind := bind

def raise (e : ε) : Thread ε σ α := done (.error e)

/-- One step that waits until the state is `ready`. -/
def await (ready : σ → Bool) (m : EStateM ε σ α) : Thread ε σ α := step ready m done

/-- One step. -/
def act (m : EStateM ε σ α) : Thread ε σ α := await (fun _ => true) m

/-- `try: t`, with the exception handed over as a value. -/
def caught : Thread ε σ α → Thread ε σ (Except ε α)
  | done r => done (.ok r)
  | step ready m next => step ready m (fun x => caught (next x))

/-- `try: t finally: cleanup`. -/
def ensuring (t : Thread ε σ α) (cleanup : Thread ε σ Unit) : Thread ε σ α := do
  let r ← caught t
  cleanup
  done r

/-! ### Threads alone -/

/-- How a thread ends with no other beside it; none when it waits for ever. -/
def alone : Thread ε σ α → σ → Option (Except ε α × σ)
  | done r, s => some (r, s)
  | step ready m next, s => if ready s then alone (next (answer m s)) (after m s) else none

theorem alone_await (ready : σ → Bool) (m : EStateM ε σ α) {s : σ} (h : ready s = true) :
    alone (await ready m) s = some (answer m s, after m s) := by
  simp only [await, alone, h, ↓reduceIte]

theorem alone_bind (t : Thread ε σ α) (f : α → Thread ε σ β) (s : σ) : alone (t >>= f) s =
    match alone t s with
    | none => none
    | some (.ok a, s') => alone (f a) s'
    | some (.error e, s') => some (.error e, s') := by
  induction t generalizing s with
  | done r => cases r <;> rfl
  | step ready m next ih =>
    by_cases h : ready s = true
    · have hleft : alone (step ready m next >>= f) s =
          alone (next (answer m s) >>= f) (after m s) := if_pos h
      have hright : alone (step ready m next) s = alone (next (answer m s)) (after m s) := if_pos h
      rw [hleft, hright]
      exact ih _ _
    · have hleft : alone (step ready m next >>= f) s = none := if_neg h
      have hright : alone (step ready m next) s = none := if_neg h
      rw [hleft, hright]

theorem alone_caught (t : Thread ε σ α) (s : σ) :
    alone (caught t) s = (alone t s).map (fun p => (.ok p.1, p.2)) := by
  induction t generalizing s with
  | done r => rfl
  | step ready m next ih =>
    by_cases h : ready s = true
    · have hleft : alone (caught (step ready m next)) s =
          alone (caught (next (answer m s))) (after m s) := if_pos h
      have hright : alone (step ready m next) s = alone (next (answer m s)) (after m s) := if_pos h
      rw [hleft, hright]
      exact ih _ _
    · have hleft : alone (caught (step ready m next)) s = none := if_neg h
      have hright : alone (step ready m next) s = none := if_neg h
      rw [hleft, hright]
      rfl

/-- Alone from `s`, the thread ends as the program does from `u`, with its exceptions seen through
`up`, and leaves states that `R` relates. -/
def EndsAs (up : ε' → ε) (R : σ → τ → Prop) (t : Thread ε σ α) (s : σ) (m : EStateM ε' τ α) (u : τ) :
    Prop :=
  ∃ s', alone t s = some ((answer m u).mapError up, s') ∧ R s' (after m u)

section EndsAs

variable {up : ε' → ε} {R : σ → τ → Prop} {t : Thread ε σ α} {m : EStateM ε' τ α} {s s' : σ}
  {u u' : τ}

theorem endsAs_pure (a : α) (h : R s u) : EndsAs up R (pure a) s (pure a) u := ⟨s, rfl, h⟩

theorem endsAs_raise (e : ε') (h : R s u) :
    EndsAs up R (raise (up e) : Thread ε σ α) s (throw e) u := ⟨s, rfl, h⟩

theorem EndsAs.bind {f : α → Thread ε σ β} {g : α → EStateM ε' τ β} (ht : EndsAs up R t s m u)
    (hf : ∀ a s u, R s u → EndsAs up R (f a) s (g a) u) : EndsAs up R (t >>= f) s (m >>= g) u := by
  obtain ⟨s', halone, hR⟩ := ht
  rw [EndsAs, alone_bind, halone, answer_bind, after_bind]
  cases hr : answer m u with
  | ok a => exact hf a _ _ hR
  | error e => exact ⟨s', rfl, hR⟩

/-- The handler is given what the program raises, seen through `up`. -/
theorem EndsAs.caught {f : Except ε α → Thread ε σ β} {g : Except ε' α → EStateM ε' τ β}
    (ht : EndsAs up R t s m u)
    (hf : ∀ (r : Except ε' α) s u, R s u → EndsAs up R (f (r.mapError up)) s (g r) u) :
    EndsAs up R (Thread.caught t >>= f) s (Effects.caught m >>= g) u := by
  obtain ⟨s', halone, hR⟩ := ht
  obtain ⟨s'', hrest, hR'⟩ := hf (answer m u) s' _ hR
  refine ⟨s'', ?_, hR'⟩
  rw [alone_bind, alone_caught, halone]
  exact hrest

/-- A step of the thread and one of the program that are known. -/
theorem EndsAs.step {α' : Type} {t : Thread ε σ α} {m : EStateM ε' τ α'} {f : α → Thread ε σ β}
    {g : α' → EStateM ε' τ β} {a : α} {a' : α'} (ht : alone t s = some (.ok a, s'))
    (hm : m.run u = .ok a' u') (h : EndsAs up R (f a) s' (g a') u') :
    EndsAs up R (t >>= f) s (m >>= g) u := by
  obtain ⟨s'', halone, hR⟩ := h
  refine ⟨s'', ?_, ?_⟩
  · rw [alone_bind, ht, answer_bind, answer, after, hm]
    exact halone
  · rw [after_bind, answer, after, hm]
    exact hR

/-- A step of the thread that the program does without. -/
theorem EndsAs.extra {t : Thread ε σ α} {f : α → Thread ε σ β} {m : EStateM ε' τ β} {a : α}
    (ht : alone t s = some (.ok a, s')) (h : EndsAs up R (f a) s' m u) :
    EndsAs up R (t >>= f) s m u := by
  obtain ⟨s'', halone, hR⟩ := h
  refine ⟨s'', ?_, hR⟩
  rw [alone_bind, ht]
  exact halone

/-- A program on a part of the state. -/
theorem EndsAs.zoom {R : σ → τ' → Prop} {l : Lens τ' τ} {v : τ'}
    (h : EndsAs up (fun s u => R s (l.set u v)) t s m (l.get v)) :
    EndsAs up R t s (Effects.zoom l m) v := by
  obtain ⟨s', halone, hR⟩ := h
  refine ⟨s', ?_, ?_⟩
  · rw [halone, answer_zoom]
  · rw [after_zoom]
    exact hR

end EndsAs

end Thread

/-! ### Threads side by side -/

open Thread

/-- A thread for every number, on a state they share. -/
structure Parallel (ε σ α : Type) where
  state : σ
  threads : Nat → Thread ε σ α

namespace Parallel

/-- Thread `i` takes its step, if it has one and the state is ready for it. -/
def turn (p : Parallel ε σ α) (i : Nat) : Parallel ε σ α :=
  match p.threads i with
  | .done _ => p
  | .step ready m next =>
    if ready p.state then
      ⟨after m p.state, Function.update p.threads i (next (answer m p.state))⟩
    else p

/-- All that a turn of thread `i` can do. -/
inductive Took (p : Parallel ε σ α) (i : Nat) : Parallel ε σ α → Prop
  | nothing : Took p i p
  | step {β : Type} {ready : σ → Bool} {m : EStateM ε σ β} {next : Except ε β → Thread ε σ α}
      (hi : p.threads i = .step ready m next) (hready : ready p.state = true) :
      Took p i ⟨after m p.state, Function.update p.threads i (next (answer m p.state))⟩

theorem turn_took (p : Parallel ε σ α) (i : Nat) : p.Took i (p.turn i) := by
  unfold turn
  split
  · exact .nothing
  · rename_i ready m next hi
    split
    · exact .step hi ‹_›
    · exact .nothing

/-- The threads take their steps in this order. -/
def run (schedule : List Nat) (p : Parallel ε σ α) : Parallel ε σ α := schedule.foldl turn p

/-- How thread `i` has ended, if it has. -/
def ended (p : Parallel ε σ α) (i : Nat) : Option (Except ε α) :=
  match p.threads i with
  | .done r => some r
  | .step _ _ _ => none

theorem ended_some {p : Parallel ε σ α} {i : Nat} {r : Except ε α} :
    p.ended i = some r ↔ p.threads i = .done r := by
  unfold ended
  cases p.threads i with
  | done r' => simp only [Option.some.injEq, Thread.done.injEq]
  | step ready m next => simp only [reduceCtorEq]

end Parallel

/-- What threads count on: `inv` holds between any two steps, `guar i` is what the steps of thread
`i` keep to, and where thread `i` has to wait the state `waits`. -/
structure Rules (σ : Type) where
  inv : σ → Prop
  guar : Nat → σ → σ → Prop
  waits : Nat → σ → Prop

/-- What threads other than `i` do leaves `P` true. -/
def Rules.Stable (R : Rules σ) (i : Nat) (P : σ → Prop) : Prop :=
  ∀ j s s', j ≠ i → R.inv s → R.inv s' → R.guar j s s' → P s → P s'

/-- Thread `t`, as number `i` and from a state where `P` holds, keeps to the rules whatever steps
others take in between, and ends as `Q` says. -/
def Sound (R : Rules σ) (i : Nat) (Q : Except ε α → σ → Prop) :
    Thread ε σ α → (σ → Prop) → Prop
  | .done r, P => R.Stable i P ∧ ∀ s, R.inv s → P s → Q r s
  | .step (β := β) ready m next, P => R.Stable i P ∧
      (∀ s, R.inv s → P s → ready s = true ∨ R.waits i s) ∧
      ∃ M : Except ε β → σ → Prop,
        (∀ s, R.inv s → P s → ready s = true →
          R.inv (after m s) ∧ R.guar i s (after m s) ∧ M (answer m s) (after m s)) ∧
        ∀ x, Sound R i Q (next x) (M x)

section Sound

variable {R : Rules σ} {i : Nat} {P P' : σ → Prop} {Q Q' : Except ε α → σ → Prop}
  {t : Thread ε σ α}

theorem Rules.Stable.and (h : R.Stable i P) (h' : R.Stable i P') :
    R.Stable i (fun s => P s ∧ P' s) :=
  fun j s s' hj hs hs' hg hp => ⟨h j s s' hj hs hs' hg hp.1, h' j s s' hj hs hs' hg hp.2⟩

theorem Rules.Stable.const (p : Prop) : R.Stable i (fun _ => p) := fun _ _ _ _ _ _ _ hp => hp

theorem Rules.Stable.exists {ι : Sort*} {P : ι → σ → Prop} (h : ∀ x, R.Stable i (P x)) :
    R.Stable i (fun s => ∃ x, P x s) := by
  rintro j s s' hj hs hs' hg ⟨x, hx⟩
  exact ⟨x, h x j s s' hj hs hs' hg hx⟩

theorem Sound.stable (h : Sound R i Q t P) : R.Stable i P := by
  cases t with
  | done r => exact h.1
  | step ready m next => exact h.1

theorem Sound.pre (h : Sound R i Q t P) (hP : R.Stable i P') (himp : ∀ s, R.inv s → P' s → P s) :
    Sound R i Q t P' := by
  cases t with
  | done r => exact ⟨hP, fun s hs hp => h.2 s hs (himp s hs hp)⟩
  | step ready m next =>
    obtain ⟨_, hready, M, hstep, hnext⟩ := h
    exact ⟨hP, fun s hs hp => hready s hs (himp s hs hp), M,
      fun s hs hp => hstep s hs (himp s hs hp), hnext⟩

theorem Sound.post (h : Sound R i Q t P) (himp : ∀ r s, R.inv s → Q r s → Q' r s) :
    Sound R i Q' t P := by
  induction t generalizing P with
  | done r => exact ⟨h.1, fun s hs hp => himp r s hs (h.2 s hs hp)⟩
  | step ready m next ih =>
    obtain ⟨hP, hready, M, hstep, hnext⟩ := h
    exact ⟨hP, hready, M, hstep, fun x => ih x (hnext x)⟩

theorem sound_done (r : Except ε α) (hP : R.Stable i P) (h : ∀ s, R.inv s → P s → Q r s) :
    Sound R i Q (.done r) P := ⟨hP, h⟩

theorem sound_pure {a : α} (hP : R.Stable i P) (h : ∀ s, R.inv s → P s → Q (.ok a) s) :
    Sound R i Q (pure a : Thread ε σ α) P := ⟨hP, h⟩

theorem sound_raise {e : ε} (hP : R.Stable i P) (h : ∀ s, R.inv s → P s → Q (.error e) s) :
    Sound R i Q (raise e : Thread ε σ α) P := ⟨hP, h⟩

theorem sound_await {ready : σ → Bool} {m : EStateM ε σ α} (hP : R.Stable i P)
    (hQ : ∀ r, R.Stable i (Q r)) (hready : ∀ s, R.inv s → P s → ready s = true ∨ R.waits i s)
    (hstep : ∀ s, R.inv s → P s → ready s = true →
      R.inv (after m s) ∧ R.guar i s (after m s) ∧ Q (answer m s) (after m s)) :
    Sound R i Q (await ready m) P :=
  ⟨hP, hready, Q, hstep, fun r => ⟨hQ r, fun _ _ h => h⟩⟩

theorem sound_act {m : EStateM ε σ α} (hP : R.Stable i P) (hQ : ∀ r, R.Stable i (Q r))
    (hstep : ∀ s, R.inv s → P s →
      R.inv (after m s) ∧ R.guar i s (after m s) ∧ Q (answer m s) (after m s)) :
    Sound R i Q (act m) P :=
  sound_await hP hQ (fun _ _ _ => .inl rfl) (fun s hs hp _ => hstep s hs hp)

/-- What is only known to be there may be named. -/
theorem Sound.elim {ι : Sort*} {P : ι → σ → Prop} (h : ∀ x, Sound R i Q t (P x)) :
    Sound R i Q t (fun s => ∃ x, P x s) := by
  induction t generalizing P with
  | done r =>
    refine ⟨Rules.Stable.exists (fun x => (h x).stable), ?_⟩
    rintro s hs ⟨x, hx⟩
    exact (h x).2 s hs hx
  | step ready m next ih =>
    refine ⟨Rules.Stable.exists (fun x => (h x).stable), ?_, ?_⟩
    · rintro s hs ⟨x, hx⟩
      exact (h x).2.1 s hs hx
    · choose M hstep hnext using fun x => (h x).2.2
      refine ⟨fun r s => ∃ x, M x r s, ?_, fun r => ih r (fun x => hnext x r)⟩
      rintro s hs ⟨x, hx⟩ hready
      obtain ⟨hinv, hguar, hM⟩ := hstep x s hs hx hready
      exact ⟨hinv, hguar, x, hM⟩

theorem Sound.const {p : Prop} (h : p → Sound R i Q t P) :
    Sound R i Q t (fun s => p ∧ P s) := by
  have helim : Sound R i Q t (fun s => ∃ _ : p, P s) := Sound.elim h
  simpa only [exists_prop] using helim

theorem Sound.bind {f : α → Thread ε σ β} {S : Except ε β → σ → Prop} (ht : Sound R i Q t P)
    (hf : ∀ a, Sound R i S (f a) (Q (.ok a)))
    (he : ∀ e s, R.inv s → Q (.error e) s → S (.error e) s) : Sound R i S (t >>= f) P := by
  induction t generalizing P with
  | done r =>
    cases r with
    | ok a => exact (hf a).pre ht.1 ht.2
    | error e => exact ⟨ht.1, fun s hs hp => he e s hs (ht.2 s hs hp)⟩
  | step ready m next ih =>
    obtain ⟨hP, hready, M, hstep, hnext⟩ := ht
    exact ⟨hP, hready, M, hstep, fun x => ih x (hnext x)⟩

theorem Sound.caught (ht : Sound R i Q t P) :
    Sound R i (fun r s => ∃ x, r = .ok x ∧ Q x s) (Thread.caught t) P := by
  induction t generalizing P with
  | done r => exact ⟨ht.1, fun s hs hp => ⟨r, rfl, ht.2 s hs hp⟩⟩
  | step ready m next ih =>
    obtain ⟨hP, hready, M, hstep, hnext⟩ := ht
    exact ⟨hP, hready, M, hstep, fun x => ih x (hnext x)⟩

theorem Sound.done_bind {f : α → Thread ε σ β} {S : Except ε β → σ → Prop} {a : α}
    (h : Sound R i S (f a) P) : Sound R i S (Thread.done (.ok a) >>= f) P := h

/-- A `try` with its handler. -/
theorem Sound.handled {f : Except ε α → Thread ε σ β} {S : Except ε β → σ → Prop}
    (ht : Sound R i Q t P) (hf : ∀ r, Sound R i S (f r) (Q r)) :
    Sound R i S (Thread.caught t >>= f) P := by
  refine ht.caught.bind (fun r => (hf r).pre ?_ ?_) ?_
  · rintro j s s' hj hs hs' hg ⟨x, hx, hq⟩
    exact ⟨x, hx, (hf x).stable j s s' hj hs hs' hg (by cases hx; exact hq)⟩
  · rintro s _ ⟨x, hx, hq⟩
    cases hx
    exact hq
  · rintro e s _ ⟨x, hx, _⟩
    cases hx

/-- What no step of any thread takes away stays beside. -/
theorem Sound.frame {F : σ → Prop} (h : Sound R i Q t P)
    (hF : ∀ j s s', R.inv s → R.inv s' → R.guar j s s' → F s → F s') :
    Sound R i (fun r s => Q r s ∧ F s) t (fun s => P s ∧ F s) := by
  have hstable : R.Stable i F := fun j s s' _ hs hs' hg => hF j s s' hs hs' hg
  induction t generalizing P with
  | done r => exact ⟨h.1.and hstable, fun s hs hp => ⟨h.2 s hs hp.1, hp.2⟩⟩
  | step ready m next ih =>
    obtain ⟨hP, hready, M, hstep, hnext⟩ := h
    refine ⟨hP.and hstable, fun s hs hp => hready s hs hp.1, fun r s => M r s ∧ F s, ?_,
      fun r => ih r (hnext r)⟩
    intro s hs hp hr
    obtain ⟨hinv, hguar, hM⟩ := hstep s hs hp.1 hr
    exact ⟨hinv, hguar, hM, hF i s _ hs hinv hguar hp.2⟩

/-- A thread that is known to return. -/
theorem Sound.bind_some {f : α → Thread ε σ β} {S : Except ε β → σ → Prop} {F : α → σ → Prop}
    (ht : Sound R i (fun r s => ∃ a, r = .ok a ∧ F a s) t P) (hf : ∀ a, Sound R i S (f a) (F a)) :
    Sound R i S (t >>= f) P := by
  refine ht.bind (fun b => Sound.elim (fun a => Sound.const (fun hb => ?_))) ?_
  · cases hb
    exact hf b
  · rintro e s _ ⟨a, he, _⟩
    cases he

/-- A thread that is known to return `a`. -/
theorem Sound.bind_ok {f : α → Thread ε σ β} {S : Except ε β → σ → Prop} {a : α}
    (ht : Sound R i (fun r s => r = .ok a ∧ P' s) t P) (hf : Sound R i S (f a) P') :
    Sound R i S (t >>= f) P := by
  refine ht.bind (fun b => Sound.const (fun hb => ?_)) ?_
  · cases hb
    exact hf
  · rintro e s _ ⟨he, _⟩
    cases he

/-- A thread that is known to raise `e`. -/
theorem Sound.bind_error {f : α → Thread ε σ β} {S : Except ε β → σ → Prop} {e : ε}
    (ht : Sound R i (fun r s => r = .error e ∧ P' s) t P)
    (he : ∀ s, R.inv s → P' s → S (.error e) s) : Sound R i S (t >>= f) P := by
  refine ht.bind (fun a => Sound.const (fun ha => ?_)) ?_
  · cases ha
  · rintro e' s hs ⟨he', hp⟩
    cases he'
    exact he s hs hp

/-- A `try` around a thread that is known to end as `r`. -/
theorem Sound.handled_as {f : Except ε α → Thread ε σ β} {S : Except ε β → σ → Prop}
    {r : Except ε α} (ht : Sound R i (fun x s => x = r ∧ P' s) t P) (hf : Sound R i S (f r) P') :
    Sound R i S (Thread.caught t >>= f) P :=
  ht.handled (fun _ => Sound.const (fun hx => hx ▸ hf))

theorem Sound.ensuring {cleanup : Thread ε σ Unit} {S : Except ε α → σ → Prop}
    (ht : Sound R i Q t P)
    (hc : ∀ r, Sound R i (fun x s => x = .ok () ∧ S r s) cleanup (Q r))
    (hS : ∀ r, R.Stable i (S r)) : Sound R i S (Thread.ensuring t cleanup) P := by
  refine ht.handled (fun r => (hc r).bind (fun _ => ?_) ?_)
  · exact sound_done r ((Rules.Stable.const _).and (hS r)) (fun s _ h => h.2)
  · rintro e s _ ⟨hx, _⟩
    cases hx

end Sound

/-- Every thread keeps to the rules, and what it needs now holds. -/
def Parallel.Kept (R : Rules σ) (Q : Nat → Except ε α → σ → Prop) (p : Parallel ε σ α) : Prop :=
  R.inv p.state ∧ ∀ i, ∃ P : σ → Prop, P p.state ∧ Sound R i (Q i) (p.threads i) P

section Kept

variable {R : Rules σ} {Q : Nat → Except ε α → σ → Prop} {p : Parallel ε σ α}

theorem Parallel.Kept.turn (h : p.Kept R Q) (i : Nat) : (p.turn i).Kept R Q := by
  obtain ⟨hinv, hthreads⟩ := h
  obtain ⟨P, hP, hsound⟩ := hthreads i
  have htook := p.turn_took i
  generalize p.turn i = p' at htook
  cases htook with
  | nothing => exact ⟨hinv, hthreads⟩
  | step hi hready =>
    rw [hi] at hsound
    obtain ⟨_, _, M, hstep, hnext⟩ := hsound
    obtain ⟨hinv', hguar, hM⟩ := hstep p.state hinv hP hready
    refine ⟨hinv', fun j => ?_⟩
    by_cases hj : j = i
    · subst hj
      refine ⟨M _, hM, ?_⟩
      simp only [Function.update_self]
      exact hnext _
    · obtain ⟨P', hP', hsound'⟩ := hthreads j
      -- what `j` needs is left true by the step of `i`
      have hstable := hsound'.stable i _ _ (Ne.symm hj) hinv hinv' hguar hP'
      refine ⟨P', hstable, ?_⟩
      simp only [Function.update_of_ne hj]
      exact hsound'

theorem Parallel.Kept.run (h : p.Kept R Q) (schedule : List Nat) : (p.run schedule).Kept R Q := by
  induction schedule generalizing p with
  | nil => exact h
  | cons i schedule ih => exact ih (h.turn i)

/-- A thread that is over has ended as it should. -/
theorem Parallel.Kept.ended (h : p.Kept R Q) {i : Nat} {r : Except ε α} (hi : p.ended i = some r) :
    Q i r p.state := by
  obtain ⟨P, hP, hsound⟩ := h.2 i
  rw [ended_some.mp hi] at hsound
  exact hsound.2 _ h.1 hP

/-- A thread that is not over has its step, or waits. -/
theorem Parallel.Kept.goes_on (h : p.Kept R Q) {i : Nat} {β : Type} {ready : σ → Bool}
    {m : EStateM ε σ β} {next : Except ε β → Thread ε σ α} (hi : p.threads i = .step ready m next) :
    ready p.state = true ∨ R.waits i p.state := by
  obtain ⟨P, hP, hsound⟩ := h.2 i
  rw [hi] at hsound
  exact hsound.2.1 _ h.1 hP

theorem Parallel.Kept.guar (h : p.Kept R Q) (i : Nat) :
    p.turn i = p ∨ R.guar i p.state (p.turn i).state := by
  obtain ⟨P, hP, hsound⟩ := h.2 i
  have htook := p.turn_took i
  generalize p.turn i = p' at htook
  cases htook with
  | nothing => exact .inl rfl
  | step hi hready =>
    rw [hi] at hsound
    obtain ⟨_, _, M, hstep, _⟩ := hsound
    exact .inr (hstep p.state h.1 hP hready).2.1

end Kept

/-! ### What the turns of a thread add up to -/

section Adding

variable {R : Rules σ} {Q : Nat → Except ε α → σ → Prop} {p : Parallel ε σ α} {γ : Type}

/-- What turns of thread `i`, in the order they come, add to a list of its own. -/
structure Parallel.Adding (p : Parallel ε σ α) (f : σ → List γ) (adds : σ → List γ → Prop) (i : Nat)
    (schedule : List Nat) (turns : List (Nat × List γ)) : Prop where
  sorted : turns.Pairwise (·.1 < ·.1)
  own : ∀ t ∈ turns, schedule[t.1]? = some i
  adds : ∀ t ∈ turns, adds (p.run (schedule.take t.1)).state t.2
  all : f (p.run schedule).state = f p.state ++ turns.flatMap (·.2)

/-- A list that only the turns of thread `i` add to is what these have added. -/
theorem Parallel.Kept.adding {f : σ → List γ} {adds : σ → List γ → Prop} {i : Nat} (h : p.Kept R Q)
    (hothers : ∀ j s s', j ≠ i → R.guar j s s' → f s' = f s)
    (hown : ∀ s s', R.guar i s s' → ∃ xs, f s' = f s ++ xs ∧ adds s xs) (schedule : List Nat) :
    ∃ turns, p.Adding f adds i schedule turns := by
  induction schedule using List.reverseRecOn with
  | nil =>
    exact ⟨[], .nil, List.forall_mem_nil _, List.forall_mem_nil _, (List.append_nil _).symm⟩
  | append_singleton schedule j ih =>
    obtain ⟨turns, hsorted, hturns, hadds, hall⟩ := ih
    have hrun : p.run (schedule ++ [j]) = (p.run schedule).turn j := by
      simp only [Parallel.run, List.foldl_append, List.foldl_cons, List.foldl_nil]
    have hbelow (t : Nat × List γ) (ht : t ∈ turns) : t.1 < schedule.length :=
      (List.getElem?_eq_some_iff.mp (hturns t ht)).1
    have hturns' (t : Nat × List γ) (ht : t ∈ turns) : (schedule ++ [j])[t.1]? = some i := by
      rw [List.getElem?_append_left (hbelow t ht)]
      exact hturns t ht
    have hadds' (t : Nat × List γ) (ht : t ∈ turns) :
        adds (p.run ((schedule ++ [j]).take t.1)).state t.2 := by
      rw [List.take_append_of_le_length (hbelow t ht).le]
      exact hadds t ht
    -- the last turn adds nothing, or is one of thread `i`
    have hlast : f ((p.run schedule).turn j).state = f (p.run schedule).state ∨ j = i ∧
        ∃ xs, f ((p.run schedule).turn j).state = f (p.run schedule).state ++ xs ∧
          adds (p.run schedule).state xs := by
      rcases (h.run schedule).guar j with hsame | hguar
      · exact .inl (by rw [hsame])
      · by_cases hj : j = i
        · exact .inr ⟨hj, hown _ _ (hj ▸ hguar)⟩
        · exact .inl (hothers j _ _ hj hguar)
    rcases hlast with hsame | ⟨rfl, xs, hmore, hxs⟩
    · exact ⟨turns, hsorted, hturns', hadds', by rw [hrun, hsame, hall]⟩
    · refine ⟨turns ++ [(schedule.length, xs)], ?_, ?_, ?_, ?_⟩
      · refine List.pairwise_append.mpr ⟨hsorted, List.pairwise_singleton _ _, ?_⟩
        intro t ht t' ht'
        rw [List.mem_singleton.mp ht']
        exact hbelow t ht
      · refine List.forall_mem_append.mpr ⟨hturns', List.forall_mem_singleton.mpr ?_⟩
        exact List.getElem?_concat_length
      · refine List.forall_mem_append.mpr ⟨hadds', List.forall_mem_singleton.mpr ?_⟩
        rwa [List.take_left]
      · rw [hrun, hmore, hall, List.flatMap_append, List.flatMap_singleton, List.append_assoc]

end Adding

/-! ### Threads that end -/

namespace Parallel

variable {p : Parallel ε σ α} {i j : Nat}

/-- Thread `i` has a step that the state is ready for. -/
def Able (p : Parallel ε σ α) (i : Nat) : Prop :=
  match p.threads i with
  | .done _ => False
  | .step ready _ _ => ready p.state = true

theorem turn_unable (h : ¬ p.Able i) : p.turn i = p := by
  have htook := p.turn_took i
  generalize p.turn i = p' at htook
  cases htook with
  | nothing => rfl
  | step hi hready =>
    refine absurd ?_ h
    simpa only [Able, hi] using hready

theorem turn_other (h : j ≠ i) : (p.turn i).threads j = p.threads j := by
  have htook := p.turn_took i
  generalize p.turn i = p' at htook
  cases htook with
  | nothing => rfl
  | step hi hready => exact Function.update_of_ne h _ _

/-- The first `k` turns that a schedule without end gives. -/
def reach (f : Nat → Nat) (p : Parallel ε σ α) (k : Nat) : Parallel ε σ α :=
  p.run ((List.range k).map f)

variable {f : Nat → Nat} {k l : Nat}

theorem reach_succ : p.reach f (k + 1) = (p.reach f k).turn (f k) := by
  simp only [reach, run, List.range_succ, List.map_append, List.foldl_append, List.map_cons,
    List.map_nil, List.foldl_cons, List.foldl_nil]

/-- A thread that has no step of its own between two turns is the same at both. -/
theorem reach_same (hkl : k ≤ l) (h : ∀ m, k ≤ m → m < l → ¬ (f m = i ∧ (p.reach f m).Able i)) :
    (p.reach f l).threads i = (p.reach f k).threads i := by
  induction l, hkl using Nat.le_induction with
  | base => rfl
  | succ l hkl ih =>
    rw [reach_succ, ← ih (fun m hm hml => h m hm (Nat.lt_succ_of_lt hml))]
    by_cases hf : f l = i
    · have hunable : ¬ (p.reach f l).Able (f l) := by
        rw [hf]
        exact fun hable => h l hkl (Nat.lt_succ_self l) ⟨hf, hable⟩
      rw [turn_unable hunable]
    · exact turn_other (Ne.symm hf)

/-- From turn `k` on the thread has no step of its own, or there is a first one. -/
theorem next_step (p : Parallel ε σ α) (f : Nat → Nat) (i k : Nat) :
    (∀ m, k ≤ m → f m = i → ¬ (p.reach f m).Able i) ∨
      ∃ l, f l = i ∧ (p.reach f l).Able i ∧ (p.reach f l).threads i = (p.reach f k).threads i := by
  classical
  by_cases hsteps : ∃ m, k ≤ m ∧ f m = i ∧ (p.reach f m).Able i
  · obtain ⟨hk, hf, hable⟩ := Nat.find_spec hsteps
    exact .inr ⟨Nat.find hsteps, hf, hable,
      reach_same hk (fun m hm hlt h => Nat.find_min hsteps hlt ⟨hm, h⟩)⟩
  · exact .inl (fun m hm hf hable => hsteps ⟨m, hm, hf, hable⟩)

/-- A thread has only so many steps. -/
theorem settles (p : Parallel ε σ α) (f : Nat → Nat) (i : Nat) :
    ∃ N, ∀ m, N ≤ m → f m = i → ¬ (p.reach f m).Able i := by
  suffices hsettles : ∀ (t : Thread ε σ α) k, (p.reach f k).threads i = t →
      ∃ N, ∀ m, N ≤ m → f m = i → ¬ (p.reach f m).Able i from hsettles _ 0 rfl
  intro t
  induction t with
  | done r =>
    intro k hk
    rcases next_step p f i k with hnone | ⟨l, _, hable, hsame⟩
    · exact ⟨k, hnone⟩
    · simp only [Able, hsame, hk] at hable
  | step ready m next ih =>
    intro k hk
    rcases next_step p f i k with hnone | ⟨l, hf, hable, hsame⟩
    · exact ⟨k, hnone⟩
    · rw [hk] at hsame
      have hready : ready (p.reach f l).state = true := by simpa only [Able, hsame] using hable
      refine ih (answer m (p.reach f l).state) (l + 1) ?_
      simp only [reach_succ, hf, turn, hsame, if_pos hready, Function.update_self]

end Parallel

/-- Threads that wait are `free`, and wait for one that is not. -/
structure Rules.Locks (R : Rules σ) (free : Nat → σ → Prop) : Prop where
  stable : ∀ i, R.Stable i (free i)
  waits : ∀ i s, R.waits i s → free i s ∧ ∃ j, ¬ free j s

section Ends

variable {R : Rules σ} {Q : Nat → Except ε α → σ → Prop} {p : Parallel ε σ α}
  {free : Nat → σ → Prop} {n : Nat} {f : Nat → Nat}

theorem Parallel.Kept.reach (h : p.Kept R Q) (k : Nat) : (p.reach f k).Kept R Q := h.run _

/-- What is not free has a step. -/
theorem Parallel.Kept.able (h : p.Kept R Q) (hlocks : R.Locks free)
    (hdone : ∀ i x s, Q i x s → free i s) {j : Nat} (hj : ¬ free j p.state) : p.Able j := by
  cases ht : p.threads j with
  | done r => exact absurd (hdone j r _ (h.ended (ended_some.mpr ht))) hj
  | step ready m next =>
    have hready : ready p.state = true := by
      rcases h.goes_on ht with hready | hwaits
      · exact hready
      · exact absurd (hlocks.waits j _ hwaits).1 hj
    simpa only [Parallel.Able, ht] using hready

/-- A thread that gets no turn stays free. -/
theorem Parallel.Kept.idle (h : p.Kept R Q) (hlocks : R.Locks free) {j : Nat} (hf : ∀ k, f k ≠ j)
    (hj : free j p.state) (k : Nat) : free j (p.reach f k).state := by
  induction k with
  | zero => exact hj
  | succ k ih =>
    rw [reach_succ]
    rcases (h.reach k).guar (f k) with hsame | hguar
    · rw [hsame]
      exact ih
    · exact hlocks.stable j _ _ _ (hf k) (h.reach k).1 ((h.reach k).turn (f k)).1 hguar ih

/-- Threads that get their turns again and again all end: some of them hold what the others wait for,
and go on. -/
theorem Parallel.Kept.ends (h : p.Kept R Q) (hlocks : R.Locks free)
    (hdone : ∀ i x s, Q i x s → free i s) (hidle : ∀ i, n ≤ i → free i p.state)
    (hf : ∀ k, f k < n) (hfair : ∀ i < n, ∀ k, ∃ m, k ≤ m ∧ f m = i) :
    ∃ N, ∀ i < n, ∃ x, (p.reach f N).ended i = some x := by
  -- after turn `N` none of them has a step any more
  obtain ⟨N, hN⟩ : ∃ N, ∀ i < n, ∀ m, N ≤ m → f m = i → ¬ (p.reach f m).Able i := by
    clear hidle hf hfair
    induction n with
    | zero => exact ⟨0, fun i hi => absurd hi (Nat.not_lt_zero i)⟩
    | succ n ih =>
      obtain ⟨N, hN⟩ := ih
      obtain ⟨N', hN'⟩ := p.settles f n
      refine ⟨max N N', fun i hi m hm => ?_⟩
      rcases Nat.lt_succ_iff_lt_or_eq.mp hi with hi | rfl
      · exact hN i hi m (le_of_max_le_left hm)
      · exact hN' m (le_of_max_le_right hm)
  have hstill (k : Nat) (hk : N ≤ k) : p.reach f k = p.reach f N := by
    induction k, hk using Nat.le_induction with
    | base => rfl
    | succ k hk ih => rw [reach_succ, turn_unable (hN (f k) (hf k) k hk rfl), ih]
  have hunable (i : Nat) (hi : i < n) : ¬ (p.reach f N).Able i := by
    obtain ⟨m, hm, hfm⟩ := hfair i hi N
    have hunable := hN i hi m hm hfm
    rwa [hstill m hm] at hunable
  refine ⟨N, fun i hi => ?_⟩
  cases ht : (p.reach f N).threads i with
  | done r => exact ⟨r, ended_some.mpr ht⟩
  | step ready m next =>
    exfalso
    have hready : ¬ ready (p.reach f N).state = true := by
      simpa only [Able, ht] using hunable i hi
    have hwaits := ((h.reach N).goes_on ht).resolve_left hready
    obtain ⟨_, j, hj⟩ := hlocks.waits i _ hwaits
    by_cases hjn : j < n
    · exact hunable j hjn ((h.reach N).able hlocks hdone hj)
    · have hjf (k : Nat) : f k ≠ j := ((hf k).trans_le (Nat.le_of_not_lt hjn)).ne
      exact hj (h.idle hlocks hjf (hidle j (Nat.le_of_not_lt hjn)) N)

end Ends

/-! ### Threads one after another -/

/-- The state after the first `n` programs, one after another. -/
def oneByOne (m : Nat → EStateM ε σ α) (s : σ) : Nat → σ
  | 0 => s
  | n + 1 => after (m n) (oneByOne m s n)

/-- The rules of thread `i` when there is no other. -/
def Rules.solo (i : Nat) : Rules σ where
  inv _ := True
  guar j _ _ := j = i
  waits _ _ := False

theorem Rules.solo_stable {i : Nat} {P : σ → Prop} : (Rules.solo i).Stable i P :=
  fun _ _ _ hj _ _ hguar _ => absurd hguar hj

theorem Sound.alone {i : Nat} {Q : Except ε α → σ → Prop} {t : Thread ε σ α} {P : σ → Prop} {s : σ}
    (h : Sound (Rules.solo i) i Q t P) (hP : P s) : ∃ x s', alone t s = some (x, s') ∧ Q x s' := by
  induction t generalizing P s with
  | done r => exact ⟨r, s, rfl, h.2 s trivial hP⟩
  | step ready m next ih =>
    obtain ⟨_, hready, M, hstep, hnext⟩ := h
    have hs : ready s = true := (hready s trivial hP).resolve_right id
    obtain ⟨x, s', halone, hQ⟩ := ih _ (hnext _) (hstep s trivial hP hs).2.2
    refine ⟨x, s', ?_, hQ⟩
    rw [← halone]
    exact if_pos hs

namespace Parallel

variable {p : Parallel ε σ α} {i : Nat}

theorem alone_turn (p : Parallel ε σ α) (i : Nat) :
    alone ((p.turn i).threads i) (p.turn i).state = alone (p.threads i) p.state := by
  have htook := p.turn_took i
  generalize p.turn i = p' at htook
  cases htook with
  | nothing => rfl
  | step hi hready =>
    simp only [hi, Function.update_self]
    exact (if_pos hready).symm

/-- Turns that all go to thread `i`. -/
theorem run_alone (p : Parallel ε σ α) (i k : Nat) :
    alone ((p.run (List.replicate k i)).threads i) (p.run (List.replicate k i)).state =
        alone (p.threads i) p.state ∧
      ∀ j, j ≠ i → (p.run (List.replicate k i)).threads j = p.threads j := by
  induction k generalizing p with
  | zero => exact ⟨rfl, fun _ _ => rfl⟩
  | succ k ih =>
    obtain ⟨halone, hothers⟩ := ih (p.turn i)
    exact ⟨halone.trans (alone_turn p i), fun j hj => (hothers j hj).trans (turn_other hj)⟩

theorem run_others (p : Parallel ε σ α) {schedule : List Nat} {j : Nat} (h : j ∉ schedule) :
    (p.run schedule).threads j = p.threads j := by
  induction schedule generalizing p with
  | nil => rfl
  | cons i schedule ih =>
    obtain ⟨hi, hrest⟩ := List.ne_and_not_mem_of_not_mem_cons h
    exact (ih (p.turn i) hrest).trans (turn_other hi)

/-- A thread that has ended in turns of its own has ended as it does alone. -/
theorem alone_ended {k : Nat} {r : Except ε α} (h : (p.run (List.replicate k i)).ended i = some r) :
    alone (p.threads i) p.state = some (r, (p.run (List.replicate k i)).state) := by
  rw [← (run_alone p i k).1, ended_some.mp h]
  rfl

/-- Turns that go to the threads one after another, `turns i` of them to thread `i`. -/
def inTurn (turns : Nat → Nat) (n : Nat) : List Nat :=
  (List.range n).flatMap (fun i => List.replicate (turns i) i)

theorem run_inTurn_succ (p : Parallel ε σ α) (turns : Nat → Nat) (n : Nat) :
    p.run (inTurn turns (n + 1)) = (p.run (inTurn turns n)).run (List.replicate (turns n) n) := by
  simp only [inTurn, run, List.range_succ, List.flatMap_append, List.flatMap_singleton,
    List.foldl_append]

theorem run_inTurn_later (p : Parallel ε σ α) (turns : Nat → Nat) (n : Nat) :
    (p.run (inTurn turns n)).threads n = p.threads n := by
  refine run_others p (fun hmem => ?_)
  obtain ⟨i, hi, hn⟩ := List.mem_flatMap.mp hmem
  have hlt : i < n := List.mem_range.mp hi
  exact hlt.ne (List.eq_of_mem_replicate hn).symm

/-- Threads that get their turns one after another do what the programs do that they end as. -/
theorem inTurn_ends {up : ε' → ε} {R : σ → τ → Prop} {m : Nat → EStateM ε' τ α} {u : τ}
    {turns : Nat → Nat} {n : Nat} (hstart : R p.state u)
    (hends : ∀ i s u, R s u → EndsAs up R (p.threads i) s (m i) u)
    (hover : ∀ i < n, ((p.run (inTurn turns n)).ended i).isSome = true) :
    R (p.run (inTurn turns n)).state (oneByOne m u n) ∧ ∀ i < n,
      (p.run (inTurn turns n)).ended i = some ((answer (m i) (oneByOne m u i)).mapError up) := by
  induction n with
  | zero => exact ⟨hstart, fun i hi => absurd hi (Nat.not_lt_zero i)⟩
  | succ n ih =>
    rw [run_inTurn_succ] at hover ⊢
    generalize hq : p.run (inTurn turns n) = q at ih hover ⊢
    have hearlier (i : Nat) (hi : i < n) :
        (q.run (List.replicate (turns n) n)).ended i = q.ended i := by
      simp only [ended, (run_alone q n (turns n)).2 i hi.ne]
    obtain ⟨hR, hbefore⟩ := ih (fun i hi => by
      rw [← hearlier i hi]
      exact hover i (Nat.lt_succ_of_lt hi))
    obtain ⟨x, hx⟩ := Option.isSome_iff_exists.mp (hover n (Nat.lt_succ_self n))
    have halone := alone_ended hx
    rw [← hq, run_inTurn_later, hq] at halone
    obtain ⟨s, hends', hR'⟩ := hends n q.state _ hR
    rw [halone] at hends'
    cases hends'
    refine ⟨hR', fun i hi => ?_⟩
    rcases Nat.lt_succ_iff_lt_or_eq.mp hi with hi | rfl
    · rw [hearlier i hi]
      exact hbefore i hi
    · exact hx

end Parallel

-- proofs about threads go by the rules above
attribute [irreducible] Sound

end Threads
