import Mathlib.Tactic.TypeStar

/-! Programs with a state and exceptions, where a state change made before an exception stays made,
and the rules for reasoning about them. The programs are core's `EStateM`. -/

namespace Effects

variable {ε σ τ α β : Type}

/-- What a program returns or raises. -/
def answer (m : EStateM ε σ α) (s : σ) : Except ε α :=
  match m.run s with
  | .ok a _ => .ok a
  | .error e _ => .error e

/-- The state a program leaves, whether it returned or raised. -/
def after (m : EStateM ε σ α) (s : σ) : σ :=
  match m.run s with
  | .ok _ s' => s'
  | .error _ s' => s'

/-- `try: m`, with the exception handed over as a value. -/
def caught (m : EStateM ε σ α) : EStateM ε σ (Except ε α) := fun s => .ok (answer m s) (after m s)

def rethrow : Except ε α → EStateM ε σ α
  | .ok a => pure a
  | .error e => throw e

/-- `try: m finally: cleanup`, for a cleanup that does not raise. -/
def ensuring (m : EStateM ε σ α) (cleanup : EStateM ε σ Unit) : EStateM ε σ α := do
  let r ← caught m
  cleanup
  rethrow r

/-- A part of a state that can be read and replaced. -/
structure Lens (σ τ : Type) where
  get : σ → τ
  set : τ → σ → σ
  get_set : ∀ t s, get (set t s) = t
  set_get : ∀ s, set (get s) s = s

/-- Run a program on a part of the state. -/
def zoom (l : Lens σ τ) (m : EStateM ε τ α) : EStateM ε σ α := fun s =>
  match m.run (l.get s) with
  | .ok a t => .ok a (l.set t s)
  | .error e t => .error e (l.set t s)

/-! ### Equations -/

section Equations

variable (m : EStateM ε σ α) (f : α → EStateM ε σ β) (s : σ)

theorem answer_bind : answer (m >>= f) s =
    match answer m s with
    | .ok a => answer (f a) (after m s)
    | .error e => .error e := by
  simp only [answer, after, EStateM.run_bind]
  cases m.run s <;> rfl

theorem after_bind : after (m >>= f) s =
    match answer m s with
    | .ok a => after (f a) (after m s)
    | .error _ => after m s := by
  simp only [answer, after, EStateM.run_bind]
  cases m.run s <;> rfl

@[simp] theorem after_zoom (l : Lens σ τ) (m : EStateM ε τ α) :
    after (zoom l m) s = l.set (after m (l.get s)) s := by
  simp only [after, zoom, EStateM.run]
  cases m (l.get s) <;> rfl

@[simp] theorem answer_zoom (l : Lens σ τ) (m : EStateM ε τ α) :
    answer (zoom l m) s = answer m (l.get s) := by
  simp only [answer, zoom, EStateM.run]
  cases m (l.get s) <;> rfl

end Equations

/-! ### Runs -/

section Runs

variable (m : EStateM ε σ α) (s : σ)

/-- Core has this for programs that return nothing. -/
@[simp] theorem run_throw (e : ε) : (throw e : EStateM ε σ α).run s = .error e s := rfl

@[simp] theorem run_caught : (caught m).run s =
    match m.run s with
    | .ok a s' => .ok (.ok a) s'
    | .error e s' => .ok (.error e) s' := by
  simp only [EStateM.run, caught, answer, after]
  cases m s <;> rfl

@[simp] theorem rethrow_ok (a : α) : (rethrow (.ok a) : EStateM ε σ α) = pure a := rfl

@[simp] theorem rethrow_error (e : ε) : (rethrow (.error e) : EStateM ε σ α) = throw e := rfl

@[simp] theorem run_zoom (l : Lens σ τ) (m : EStateM ε τ α) : (zoom l m).run s =
    match m.run (l.get s) with
    | .ok a t => .ok a (l.set t s)
    | .error e t => .error e (l.set t s) := rfl

theorem run_eq : m.run s =
    match answer m s with
    | .ok a => .ok a (after m s)
    | .error e => .error e (after m s) := by
  simp only [answer, after]
  cases m.run s <;> rfl

/-- A run, what it comes to and the state it leaves. -/
theorem run_cases : (∃ a s', m.run s = .ok a s' ∧ answer m s = .ok a ∧ after m s = s') ∨
    ∃ e s', m.run s = .error e s' ∧ answer m s = .error e ∧ after m s = s' := by
  rcases h : m.run s with ⟨a, s'⟩ | ⟨e, s'⟩
  · exact .inl ⟨a, s', rfl, by rw [answer, h], by rw [after, h]⟩
  · exact .inr ⟨e, s', rfl, by rw [answer, h], by rw [after, h]⟩

end Runs

/-! ### Triples -/

/-- From a state where `P` holds, `m` ends with an answer and a state that `Q` relates. -/
def Triple (P : σ → Prop) (m : EStateM ε σ α) (Q : Except ε α → σ → Prop) : Prop :=
  ∀ s, P s → Q (answer m s) (after m s)

section Triples

variable {P P' : σ → Prop} {m : EStateM ε σ α} {Q R : Except ε α → σ → Prop}

theorem Triple.bind {f : α → EStateM ε σ β} {S : Except ε β → σ → Prop}
    (hm : Triple P m Q) (hf : ∀ a, Triple (Q (.ok a)) (f a) S)
    (he : ∀ e s, Q (.error e) s → S (.error e) s) : Triple P (m >>= f) S := by
  intro s hs
  have h := hm s hs
  rw [answer_bind, after_bind]
  cases hr : answer m s with
  | ok a => rw [hr] at h; exact hf a _ h
  | error e => rw [hr] at h; exact he e _ h

end Triples

/-! ### Invariants -/

/-- `m` keeps `I`, also when it raises. -/
def Keeps (I : σ → Prop) (m : EStateM ε σ α) : Prop := Triple I m (fun _ => I)

section Keeps

variable {I : σ → Prop} {m : EStateM ε σ α}

theorem keeps_pure (a : α) : Keeps I (pure a : EStateM ε σ α) := fun _ h => h

theorem keeps_throw (e : ε) : Keeps I (throw e : EStateM ε σ α) := fun _ h => h

theorem Keeps.bind {f : α → EStateM ε σ β} (hm : Keeps I m) (hf : ∀ a, Keeps I (f a)) :
    Keeps I (m >>= f) :=
  Triple.bind hm hf (fun _ _ h => h)

theorem Keeps.caught (hm : Keeps I m) : Keeps I (Effects.caught m) := fun s h => hm s h

theorem Keeps.zoom {l : Lens σ τ} {J : τ → Prop} {m : EStateM ε τ α} (hm : Keeps J m)
    (hget : ∀ s, I s → J (l.get s)) (hset : ∀ s t, I s → J t → I (l.set t s)) :
    Keeps I (Effects.zoom l m) := by
  intro s hs
  rw [after_zoom]
  exact hset s _ hs (hm _ (hget s hs))

end Keeps

end Effects
