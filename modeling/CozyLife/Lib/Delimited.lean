import Mathlib.Data.List.Basic

/-! Streams of records, each closed by the same two-symbol terminator. Nothing is assumed about the
two symbols, and a record may contain either of them alone. -/

namespace Delimited

variable {α : Type} [DecidableEq α] (x y : α)

/-- Cut a stream at its first terminator. -/
def cut : List α → Option (List α × List α)
  | a :: b :: rest =>
    if a = x ∧ b = y then some ([], rest)
    else (cut (b :: rest)).map (fun p => (a :: p.1, p.2))
  | _ => none

variable {x y} {s t l r : List α}

/-- The cut stream is the record, the terminator and the rest. -/
theorem cut_eq (h : cut x y s = some (l, r)) : s = l ++ x :: y :: r := by
  fun_induction cut x y s generalizing l with
  | case1 a b rest hab =>
    obtain ⟨rfl, rfl⟩ := hab
    simp only [Option.some.injEq, Prod.mk.injEq] at h
    obtain ⟨rfl, rfl⟩ := h
    rfl
  | case2 a b rest hab ih =>
    obtain ⟨⟨l', r'⟩, hc, he⟩ := Option.map_eq_some_iff.mp h
    simp only [Prod.mk.injEq] at he
    obtain ⟨rfl, rfl⟩ := he
    rw [ih hc]
    rfl
  | case3 => cases h

theorem cut_length (h : cut x y s = some (l, r)) : r.length < s.length := by
  rw [cut_eq h]
  simp only [List.length_append, List.length_cons]
  omega

/-- What arrives later does not move the first terminator. -/
theorem cut_append (h : cut x y s = some (l, r)) (t : List α) :
    cut x y (s ++ t) = some (l, r ++ t) := by
  fun_induction cut x y s generalizing l with
  | case1 a b rest hab =>
    simp only [Option.some.injEq, Prod.mk.injEq] at h
    obtain ⟨rfl, rfl⟩ := h
    simp [cut, hab]
  | case2 a b rest hab ih =>
    obtain ⟨⟨l', r'⟩, hc, he⟩ := Option.map_eq_some_iff.mp h
    simp only [Prod.mk.injEq] at he
    obtain ⟨rfl, rfl⟩ := he
    have hi := ih hc
    simp only [List.cons_append] at hi ⊢
    simp [cut, hab, hi]
  | case3 => cases h

/-- What follows the first terminator does not matter for where it is. -/
theorem cut_replace (h : cut x y s = some (l, r)) (t : List α) :
    cut x y (l ++ x :: y :: t) = some (l, t) := by
  fun_induction cut x y s generalizing l with
  | case1 a b rest hab =>
    simp only [Option.some.injEq, Prod.mk.injEq] at h
    obtain ⟨rfl, rfl⟩ := h
    simp [cut]
  | case2 a b rest hab ih =>
    obtain ⟨⟨l', r'⟩, hc, he⟩ := Option.map_eq_some_iff.mp h
    simp only [Prod.mk.injEq] at he
    obtain ⟨rfl, rfl⟩ := he
    have hi := ih hc
    have hs := cut_eq hc
    -- the second symbol is the same as before, so no terminator starts at the first one
    cases l' with
    | nil =>
      obtain rfl := (List.cons.inj hs).1
      simp_all [cut]
    | cons b' l' =>
      obtain rfl := (List.cons.inj hs).1
      simp_all [cut]
  | case3 => cases h

/-- The terminator behind a record without its first symbol is the first one. -/
theorem cut_of_not_mem (h : x ∉ l) (r : List α) : cut x y (l ++ x :: y :: r) = some (l, r) := by
  induction l with
  | nil => simp [cut]
  | cons a l ih =>
    rw [List.mem_cons, not_or] at h
    have hl := ih h.2
    cases l with
    | nil =>
      rw [List.nil_append] at hl
      simp [cut, Ne.symm h.1]
    | cons b l =>
      rw [List.cons_append] at hl
      rw [List.cons_append, List.cons_append, cut, if_neg (fun hab => h.1 hab.1.symm), hl]
      rfl

variable (x y)

/-- The complete records of a stream, and the tail that no terminator closes yet. -/
def split (s : List α) : List (List α) × List α :=
  match _h : cut x y s with
  | none => ([], s)
  | some (l, r) => (l :: (split r).1, (split r).2)
termination_by s.length
decreasing_by all_goals exact cut_length _h

def records (s : List α) : List (List α) := (split x y s).1

def tail (s : List α) : List α := (split x y s).2

variable {x y}

theorem split_none (h : cut x y s = none) : split x y s = ([], s) := by
  rw [split]
  split
  · rfl
  · simp_all

theorem split_some (h : cut x y s = some (l, r)) :
    split x y s = (l :: (split x y r).1, (split x y r).2) := by
  rw [split]
  split <;> simp_all

theorem records_none (h : cut x y s = none) : records x y s = [] := by
  rw [records, split_none h]

theorem records_some (h : cut x y s = some (l, r)) : records x y s = l :: records x y r := by
  rw [records, split_some h, records]

theorem tail_none (h : cut x y s = none) : tail x y s = s := by rw [tail, split_none h]

theorem tail_some (h : cut x y s = some (l, r)) : tail x y s = tail x y r := by
  rw [tail, split_some h, tail]

/-- Induction along the cuts of a stream. -/
theorem cut_induction {motive : List α → Prop} (stop : ∀ s, cut x y s = none → motive s)
    (step : ∀ s l r, cut x y s = some (l, r) → motive r → motive s) (s : List α) : motive s := by
  cases hc : cut x y s with
  | none => exact stop s hc
  | some p => exact step s p.1 p.2 hc (cut_induction stop step p.2)
termination_by s.length
decreasing_by exact cut_length (l := p.1) hc

/-- Only the unfinished tail of a stream matters for what follows it: this is why it does not matter
where a stream is cut into chunks. -/
theorem records_append (s t : List α) :
    records x y (s ++ t) = records x y s ++ records x y (tail x y s ++ t) := by
  induction s using cut_induction (x := x) (y := y) with
  | stop s h => rw [records_none h, tail_none h, List.nil_append]
  | step s l r h ih =>
    rw [records_some (cut_append h t), records_some h, tail_some h, ih, List.cons_append]

theorem tail_append (s t : List α) : tail x y (s ++ t) = tail x y (tail x y s ++ t) := by
  induction s using cut_induction (x := x) (y := y) with
  | stop s h => rw [tail_none h]
  | step s l r h ih => rw [tail_some (cut_append h t), tail_some h, ih]

/-- The records, each with its terminator, and the tail make up the stream again. -/
theorem join_split (s : List α) :
    (records x y s).flatMap (fun l => l ++ [x, y]) ++ tail x y s = s := by
  induction s using cut_induction (x := x) (y := y) with
  | stop s h => rw [records_none h, tail_none h]; rfl
  | step s l r h ih =>
    rw [records_some h, tail_some h, List.flatMap_cons, List.append_assoc, ih, cut_eq h]
    simp

/-- Records without the first symbol of the terminator are found again. -/
theorem split_join (ls : List (List α)) (h : ∀ l ∈ ls, x ∉ l) :
    records x y (ls.flatMap (fun l => l ++ [x, y])) = ls ∧
      tail x y (ls.flatMap (fun l => l ++ [x, y])) = [] := by
  induction ls with
  | nil => exact ⟨records_none rfl, tail_none rfl⟩
  | cons l ls ih =>
    obtain ⟨hl, hls⟩ := List.forall_mem_cons.mp h
    have hcut := cut_of_not_mem (y := y) hl (ls.flatMap (fun l => l ++ [x, y]))
    rw [List.flatMap_cons, List.append_assoc]
    exact ⟨(records_some hcut).trans (by rw [(ih hls).1]), (tail_some hcut).trans (ih hls).2⟩

end Delimited
