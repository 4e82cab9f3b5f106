import Mathlib.Data.List.Nodup

/-! Keeping the first element of each key, in the order of a list. -/

namespace Firsts

variable {α κ : Type} [DecidableEq κ]

/-- The elements whose key is neither in `seen` nor that of an earlier element. -/
def firstsBy (key : α → κ) : List κ → List α → List α
  | _, [] => []
  | seen, x :: xs =>
    if key x ∈ seen then firstsBy key seen xs else x :: firstsBy key (key x :: seen) xs

/-- `x` is the first element of its key. -/
def Earliest (key : α → κ) (xs : List α) (x : α) : Prop :=
  ∃ before after, xs = before ++ x :: after ∧ ∀ y ∈ before, key y ≠ key x

/-- `x` is met before any element that has the key of `x'`. -/
def Precedes (key : α → κ) (xs : List α) (x x' : α) : Prop :=
  ∃ before after, xs = before ++ x :: after ∧ ∀ y ∈ before ++ [x], key y ≠ key x'

variable (key : α → κ) {seen : List κ} {xs : List α} {x : α}

theorem firstsBy_unseen (h : x ∈ firstsBy key seen xs) : key x ∉ seen := by
  induction xs generalizing seen with
  | nil => cases h
  | cons y ys ih =>
    simp only [firstsBy] at h
    split at h
    · exact ih h
    · rename_i hy
      rcases List.mem_cons.mp h with rfl | h
      · exact hy
      · exact fun hx => ih h (List.mem_cons_of_mem _ hx)

theorem firstsBy_nodup : ((firstsBy key seen xs).map key).Nodup := by
  induction xs generalizing seen with
  | nil => exact List.nodup_nil
  | cons x xs ih =>
    simp only [firstsBy]
    split
    · exact ih
    · rw [List.map_cons, List.nodup_cons]
      constructor
      · intro hx
        obtain ⟨y, hy, he⟩ := List.mem_map.mp hx
        apply firstsBy_unseen key hy
        rw [he]
        exact List.mem_cons_self
      · exact ih

theorem mem_firstsBy : x ∈ firstsBy key seen xs ↔ key x ∉ seen ∧ Earliest key xs x := by
  induction xs generalizing seen with
  | nil =>
    constructor
    · intro h
      cases h
    · rintro ⟨-, before, after, he, -⟩
      cases before <;> cases he
  | cons y ys ih =>
    simp only [firstsBy]
    constructor
    · intro h
      split at h
      · rename_i hy
        obtain ⟨hx, before, after, rfl, hb⟩ := ih.mp h
        refine ⟨hx, y :: before, after, rfl, ?_⟩
        exact List.forall_mem_cons.mpr ⟨fun he => hx (he ▸ hy), hb⟩
      · rename_i hy
        rcases List.mem_cons.mp h with rfl | h
        · exact ⟨hy, [], ys, rfl, by simp⟩
        · obtain ⟨hx, before, after, rfl, hb⟩ := ih.mp h
          rw [List.mem_cons, not_or] at hx
          refine ⟨hx.2, y :: before, after, rfl, ?_⟩
          exact List.forall_mem_cons.mpr ⟨Ne.symm hx.1, hb⟩
    · rintro ⟨hx, before, after, he, hb⟩
      cases before with
      | nil =>
        obtain ⟨rfl, rfl⟩ := List.cons.inj he
        rw [if_neg hx]
        exact List.mem_cons_self
      | cons z before =>
        obtain ⟨rfl, rfl⟩ := List.cons.inj he
        obtain ⟨hy, hb⟩ := List.forall_mem_cons.mp hb
        have hearliest : Earliest key (before ++ x :: after) x := ⟨before, after, rfl, hb⟩
        split
        · exact ih.mpr ⟨hx, hearliest⟩
        · apply List.mem_cons_of_mem
          exact ih.mpr ⟨by simp [hx, Ne.symm hy], hearliest⟩

/-- They are kept in the order in which their keys first appear. -/
theorem firstsBy_order : (firstsBy key seen xs).Pairwise (Precedes key xs) := by
  induction xs generalizing seen with
  | nil => exact List.Pairwise.nil
  | cons y ys ih =>
    -- a later order stays one behind an element of another key
    have hlater : ∀ seen', (∀ x ∈ firstsBy key seen' ys, key y ≠ key x) →
        (firstsBy key seen' ys).Pairwise (Precedes key (y :: ys)) := by
      intro seen' hne
      have horder : (firstsBy key seen' ys).Pairwise (Precedes key ys) := ih
      apply horder.imp_of_mem
      intro a b ha hb h
      obtain ⟨before, after, rfl, hbefore⟩ := h
      refine ⟨y :: before, after, rfl, ?_⟩
      exact List.forall_mem_cons.mpr ⟨hne b hb, hbefore⟩
    simp only [firstsBy]
    split
    · rename_i hy
      apply hlater
      intro x hx he
      exact firstsBy_unseen key hx (he ▸ hy)
    · have hne : ∀ x ∈ firstsBy key (key y :: seen) ys, key y ≠ key x := by
        intro x hx he
        apply firstsBy_unseen key hx
        rw [← he]
        exact List.mem_cons_self
      rw [List.pairwise_cons]
      constructor
      · intro x hx
        refine ⟨[], ys, rfl, ?_⟩
        simpa using hne x hx
      · exact hlater _ hne

/-- An element whose key was seen before it changes nothing. -/
theorem firstsBy_insert {before after : List α} (h : key x ∈ seen ∨ ∃ y ∈ before, key y = key x) :
    firstsBy key seen (before ++ x :: after) = firstsBy key seen (before ++ after) := by
  induction before generalizing seen with
  | nil =>
    rcases h with h | ⟨y, hy, -⟩
    · simp only [List.nil_append, firstsBy, h, ↓reduceIte]
    · cases hy
  | cons z before ih =>
    simp only [List.cons_append, firstsBy]
    by_cases hz : key z ∈ seen
    · rw [if_pos hz, if_pos hz]
      apply ih
      rcases h with h | ⟨y, hy, he⟩
      · exact .inl h
      · rcases List.mem_cons.mp hy with rfl | hy
        · exact .inl (he ▸ hz)
        · exact .inr ⟨y, hy, he⟩
    · rw [if_neg hz, if_neg hz]
      congr 1
      apply ih
      rcases h with h | ⟨y, hy, he⟩
      · exact .inl (List.mem_cons_of_mem _ h)
      · rcases List.mem_cons.mp hy with rfl | hy
        · exact .inl (he ▸ List.mem_cons_self)
        · exact .inr ⟨y, hy, he⟩

end Firsts
