import CozyLife.Lib.Threads

/-! Threads that take in one step what others take in several. A run of theirs is one of the others,
in which nothing falls between those steps. -/

namespace Threads
open Effects Thread

variable {ε σ α β : Type}

/-- The second thread takes the steps of the first, some of them several at once. -/
inductive Pieces {ε σ α : Type} : Thread ε σ α → Thread ε σ α → Prop
  | done (r : Except ε α) : Pieces (.done r) (.done r)
  | step {β : Type} {ready : σ → Bool} {m : EStateM ε σ β} {next next' : Except ε β → Thread ε σ α}
      (h : ∀ x, Pieces (next x) (next' x)) : Pieces (.step ready m next) (.step ready m next')
  | whole {β : Type} {t : Thread ε σ β} {m : EStateM ε σ β} {f g : β → Thread ε σ α}
      (ht : ∀ s, alone t s = some (answer m s, after m s)) (h : ∀ a, Pieces (f a) (g a)) :
      Pieces (t >>= f) (act m >>= g)

theorem Thread.bind_assoc {γ : Type} (t : Thread ε σ α) (f : α → Thread ε σ β)
    (g : β → Thread ε σ γ) : t >>= f >>= g = t >>= fun a => f a >>= g := by
  induction t with
  | done r => cases r <;> rfl
  | step ready m next ih =>
    exact congrArg (Thread.step ready m) (funext fun x => ih x)

theorem Pieces.refl (t : Thread ε σ α) : Pieces t t := by
  induction t with
  | done r => exact .done r
  | step ready m next ih => exact .step ih

theorem Pieces.bind {t t' : Thread ε σ α} {f g : α → Thread ε σ β} (ht : Pieces t t')
    (h : ∀ a, Pieces (f a) (g a)) : Pieces (t >>= f) (t' >>= g) := by
  induction ht with
  | done r =>
    cases r with
    | ok a => exact h a
    | error e => exact .done (.error e)
  | step _ ih => exact .step (ih)
  | whole ht _ ih =>
    rw [Thread.bind_assoc, Thread.bind_assoc]
    exact .whole ht ih

/-- A thread in larger steps for every one in smaller steps, and the same state. -/
structure Parallel.Pieces (p q : Parallel ε σ α) : Prop where
  state : p.state = q.state
  threads : ∀ i, Threads.Pieces (p.threads i) (q.threads i)

/-- Turns of one thread only, until a part of it that ends alone is over. -/
theorem Parallel.run_whole {p : Parallel ε σ α} {i : Nat} {t : Thread ε σ β}
    {f : β → Thread ε σ α} {x : Except ε β} {s : σ} (hi : p.threads i = t >>= f)
    (h : alone t p.state = some (x, s)) :
    ∃ n, p.run (List.replicate n i) = ⟨s, Function.update p.threads i (.done x >>= f)⟩ := by
  induction t generalizing p with
  | done r =>
    obtain ⟨rfl, rfl⟩ := Prod.mk.inj (Option.some.inj h)
    refine ⟨0, ?_⟩
    rw [← hi, Function.update_eq_self]
    rfl
  | step ready m next ih =>
    have hready : ready p.state = true := by
      by_contra hnot
      rw [alone, if_neg hnot] at h
      cases h
    rw [alone, if_pos hready] at h
    let q : Parallel ε σ α := ⟨after m p.state,
      Function.update p.threads i (next (answer m p.state) >>= f)⟩
    have hturn : p.turn i = q := by
      have hstep : p.threads i = .step ready m (fun x => next x >>= f) := hi
      simp only [turn, hstep, if_pos hready]
      rfl
    have hq : q.threads i = next (answer m p.state) >>= f := Function.update_self ..
    obtain ⟨n, hn⟩ := ih _ hq h
    refine ⟨n + 1, ?_⟩
    rw [List.replicate_succ, run, List.foldl_cons, hturn]
    rw [run] at hn
    rw [hn, Function.update_idem]

theorem Parallel.Pieces.turn {p q : Parallel ε σ α} (h : p.Pieces q) (i : Nat) :
    ∃ schedule, (p.run schedule).Pieces (q.turn i) := by
  have hi := h.threads i
  -- thread `i` is known after its turn, and the others are as they were
  have hafter {s : σ} {t t' : Thread ε σ α} (ht : Threads.Pieces t t') :
      Parallel.Pieces ⟨s, Function.update p.threads i t⟩ ⟨s, Function.update q.threads i t'⟩ := by
    refine ⟨rfl, fun j => ?_⟩
    by_cases hj : j = i
    · subst hj
      simpa only [Function.update_self] using ht
    · simpa only [Function.update_of_ne hj] using h.threads j
  generalize hp : p.threads i = t, hq : q.threads i = t' at hi
  cases hi with
  | done r =>
    refine ⟨[], ?_⟩
    simp only [Parallel.turn, hq]
    exact h
  | @step _ ready m next next' hnext =>
    refine ⟨[i], ?_⟩
    simp only [Parallel.run, List.foldl_cons, List.foldl_nil, Parallel.turn, hp, hq, h.state]
    by_cases hready : ready q.state = true
    · simp only [if_pos hready]
      exact hafter (hnext _)
    · simp only [if_neg hready]
      exact h
  | @whole _ t m f g ht hnext =>
    obtain ⟨n, hn⟩ := Parallel.run_whole hp (ht p.state)
    have hturn : q.turn i = ⟨after m q.state,
        Function.update q.threads i (.done (answer m q.state) >>= g)⟩ := by
      have hstep : q.threads i = .step (fun _ => true) m (fun x => .done x >>= g) := hq
      simp only [Parallel.turn, hstep, ↓reduceIte]
    refine ⟨List.replicate n i, ?_⟩
    rw [hn, hturn, h.state]
    refine hafter ?_
    cases answer m q.state with
    | ok a => exact hnext a
    | error e => exact .done (.error e)

/-- Every run in larger steps is one in smaller steps. -/
theorem Parallel.Pieces.run {p q : Parallel ε σ α} (h : p.Pieces q) (schedule : List Nat) :
    ∃ schedule', (p.run schedule').Pieces (q.run schedule) := by
  induction schedule generalizing p q with
  | nil => exact ⟨[], h⟩
  | cons i schedule ih =>
    obtain ⟨first, hfirst⟩ := h.turn i
    obtain ⟨rest, hrest⟩ := ih hfirst
    refine ⟨first ++ rest, ?_⟩
    rw [Parallel.run, List.foldl_append]
    exact hrest

theorem Parallel.Pieces.ended {p q : Parallel ε σ α} (h : p.Pieces q) {i : Nat} {r : Except ε α}
    (hi : q.ended i = some r) : p.ended i = some r := by
  have hpieces := h.threads i
  rw [Parallel.ended_some] at hi ⊢
  generalize p.threads i = t, q.threads i = t' at hi hpieces
  cases hpieces with
  | done => exact hi
  | step | whole => cases hi

/-! ### Threads that only do so much -/

namespace Thread

variable {R : σ → σ → Prop}

/-- Every step of the thread leaves a state that `R` allows. -/
def Within (R : σ → σ → Prop) : Thread ε σ α → Prop
  | done _ => True
  | step _ m next => (∀ s, R s (after m s)) ∧ ∀ x, Within R (next x)

theorem within_done (r : Except ε α) : Within R (.done r : Thread ε σ α) := trivial

theorem within_pure (a : α) : Within R (pure a : Thread ε σ α) := trivial

theorem within_raise (e : ε) : Within R (raise e : Thread ε σ α) := trivial

theorem within_await {ready : σ → Bool} {m : EStateM ε σ α} (h : ∀ s, R s (after m s)) :
    Within R (await ready m) := ⟨h, fun _ => trivial⟩

theorem within_act {m : EStateM ε σ α} (h : ∀ s, R s (after m s)) : Within R (act m) :=
  within_await h

theorem Within.bind {t : Thread ε σ α} {f : α → Thread ε σ β} (ht : Within R t)
    (hf : ∀ a, Within R (f a)) : Within R (t >>= f) := by
  induction t with
  | done r =>
    cases r with
    | ok a => exact hf a
    | error e => trivial
  | step ready m next ih => exact ⟨ht.1, fun x => ih x (ht.2 x)⟩

theorem Within.caught {t : Thread ε σ α} (ht : Within R t) : Within R (caught t) := by
  induction t with
  | done r => trivial
  | step ready m next ih => exact ⟨ht.1, fun x => ih x (ht.2 x)⟩

theorem Within.ensuring {t : Thread ε σ α} {cleanup : Thread ε σ Unit} (ht : Within R t)
    (hc : Within R cleanup) : Within R (ensuring t cleanup) :=
  ht.caught.bind (fun _ => hc.bind (fun _ => within_done _))

end Thread

end Threads
