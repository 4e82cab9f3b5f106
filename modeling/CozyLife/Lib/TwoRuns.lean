import CozyLife.Lib.Effects
import Mathlib.Data.List.Forall2

/-! Two programs run side by side: what cannot be told apart from outside when part of the state, or
of the program, differs. -/

namespace Effects

variable {ε ε' σ σ' τ τ' α α' β β' : Type}

section Lists

variable {R : α → α' → Prop} {xs : List α} {ys : List α'}

theorem get?_alike (h : List.Forall₂ R xs ys) (i : Nat) : Option.Rel R xs[i]? ys[i]? := by
  induction h generalizing i with
  | nil => exact .none
  | cons ha _ ih =>
    cases i with
    | zero => exact .some ha
    | succ i => exact ih i

theorem set_alike (h : List.Forall₂ R xs ys) (ha : R a a') {i : Nat} :
    List.Forall₂ R (xs.set i a) (ys.set i a') := by
  induction h generalizing i with
  | nil => exact .nil
  | cons hb hrest ih =>
    cases i with
    | zero => exact .cons ha hrest
    | succ i => exact .cons hb ih

theorem eraseIdx_alike (h : List.Forall₂ R xs ys) (i : Nat) :
    List.Forall₂ R (xs.eraseIdx i) (ys.eraseIdx i) := by
  induction h generalizing i with
  | nil => exact .nil
  | cons hb hrest ih =>
    cases i with
    | zero => exact hrest
    | succ i => exact .cons hb (ih i)

end Lists

/-- Both returned, values that `A` relates, or both raised the same. -/
inductive Ends (A : α → α' → Prop) : Except ε α → Except ε α' → Prop
  | ok (h : A a a') : Ends A (.ok a) (.ok a')
  | error (e : ε) : Ends A (.error e) (.error e)

theorem Ends.eq {x y : Except ε α} (h : Ends Eq x y) : x = y := by
  cases h with
  | ok h => rw [h]
  | error e => rfl

theorem Ends.refl (x : Except ε α) : Ends Eq x x := by
  cases x with
  | ok a => exact .ok rfl
  | error e => exact .error e

theorem Ends.mono {A B : α → α' → Prop} {x : Except ε α} {y : Except ε α'} (h : Ends A x y)
    (hle : ∀ a a', A a a' → B a a') : Ends B x y := by
  cases h with
  | ok h => exact .ok (hle _ _ h)
  | error e => exact .error e

theorem Ends.of_eq {x y : Except ε α} (h : x = y) : Ends Eq x y := h ▸ .refl x

/-- From states that `R` relates two programs end alike, in states that `R` relates. -/
def Matches (R : σ → σ' → Prop) (A : α → α' → Prop) (m : EStateM ε σ α) (m' : EStateM ε σ' α') :
    Prop :=
  ∀ s s', R s s' → Ends A (answer m s) (answer m' s') ∧ R (after m s) (after m' s')

section Matches

variable {R : σ → σ' → Prop} {A : α → α' → Prop} {B : β → β' → Prop} {m : EStateM ε σ α}
  {m' : EStateM ε σ' α'}

theorem alike_pure (h : A a a') : Matches R A (pure a : EStateM ε σ α) (pure a') :=
  fun _ _ hs => ⟨.ok h, hs⟩

theorem alike_same (m : EStateM ε σ α) : Matches Eq Eq m m := by
  rintro s _ rfl
  exact ⟨.refl _, rfl⟩

theorem alike_throw (e : ε) : Matches R A (throw e : EStateM ε σ α) (throw e) :=
  fun _ _ hs => ⟨.error e, hs⟩

theorem alike_get : Matches R R (get : EStateM ε σ σ) get := fun _ _ hs => ⟨.ok hs, hs⟩

theorem alike_modify {f : σ → σ} {f' : σ' → σ'} (h : ∀ s s', R s s' → R (f s) (f' s')) :
    Matches R Eq (modify f : EStateM ε σ Unit) (modify f') :=
  fun s s' hs => ⟨.ok rfl, h s s' hs⟩

theorem Matches.bind {f : α → EStateM ε σ β} {f' : α' → EStateM ε σ' β'} (hm : Matches R A m m')
    (hf : ∀ a a', A a a' → Matches R B (f a) (f' a')) : Matches R B (m >>= f) (m' >>= f') := by
  intro s s' hs
  obtain ⟨hends, hafter⟩ := hm s s' hs
  rw [answer_bind, answer_bind, after_bind, after_bind]
  generalize answer m s = x at hends
  generalize answer m' s' = y at hends
  cases hends with
  | ok h => exact hf _ _ h _ _ hafter
  | error e => exact ⟨.error e, hafter⟩

theorem Matches.caught (hm : Matches R A m m') :
    Matches R (Ends A) (Effects.caught m) (Effects.caught m') := by
  intro s s' hs
  obtain ⟨hends, hafter⟩ := hm s s' hs
  exact ⟨.ok hends, hafter⟩

theorem alike_rethrow {x : Except ε α} {y : Except ε α'} (h : Ends A x y) :
    Matches R A (rethrow x : EStateM ε σ α) (rethrow y) := by
  cases h with
  | ok h => exact alike_pure h
  | error e => exact alike_throw e

/-- Parts that are kept alike inside states that are. -/
theorem Matches.zoom {l : Lens σ τ} {l' : Lens σ' τ'} {Q : τ → τ' → Prop} {m : EStateM ε τ α}
    {m' : EStateM ε τ' α'} (hm : Matches Q A m m') (hget : ∀ s s', R s s' → Q (l.get s) (l'.get s'))
    (hset : ∀ s s' t t', R s s' → Q t t' → R (l.set t s) (l'.set t' s')) :
    Matches R A (Effects.zoom l m) (Effects.zoom l' m') := by
  intro s s' hs
  obtain ⟨hends, hafter⟩ := hm _ _ (hget s s' hs)
  rw [answer_zoom, answer_zoom, after_zoom, after_zoom]
  exact ⟨hends, hset s s' _ _ hs hafter⟩

theorem Matches.mono {A' : α → α' → Prop} (hm : Matches R A m m') (h : ∀ a a', A a a' → A' a a') :
    Matches R A' m m' := by
  intro s s' hs
  obtain ⟨hends, hafter⟩ := hm s s' hs
  exact ⟨hends.mono h, hafter⟩

end Matches

end Effects
