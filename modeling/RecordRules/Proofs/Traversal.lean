import Mathlib.Data.List.Forall2

/-!
# Traversals that stop at the first error

Clauses are read, conditions resolved and operands taken one after the other, and the first that
fails decides the error. Such a traversal is `List.mapM`, and what it comes to is said here once:

* `mapM_eq_ok_iff`: it succeeds with the results of all its steps;
* `mapM_eq_error_iff`: it fails with the error of the first step that fails;
* `exists_mapM_iff`: it succeeds exactly when every step does.
-/

namespace RecordRules

variable {α β ε : Type}

/-! ## 1. Single results -/

section Results

variable {x : Except ε α} {e : ε}

/-- A result that is no error is there. -/
theorem exists_ok_iff : (∃ a, x = .ok a) ↔ ∀ e, x ≠ .error e := by
  cases x with
  | error e => exact ⟨fun ⟨_, h⟩ => (by cases h), fun h => absurd rfl (h e)⟩
  | ok a => exact ⟨fun _ _ h => (by cases h), fun _ => ⟨a, rfl⟩⟩

theorem isOk_iff : x.isOk = true ↔ ∃ a, x = .ok a := by
  cases x with
  | error e => exact ⟨fun h => (by cases h), fun ⟨_, h⟩ => (by cases h)⟩
  | ok a => exact ⟨fun _ => ⟨a, rfl⟩, fun _ => rfl⟩

/-- What is made of a result changes no error. -/
theorem map_eq_error_iff {f : α → β} : x.map f = .error e ↔ x = .error e := by
  cases x with
  | error d => exact ⟨fun h => (by cases h; rfl), fun h => (by cases h; rfl)⟩
  | ok a => exact ⟨fun h => (by cases h), fun h => (by cases h)⟩

/-- What is made of a result is there when the result is. -/
theorem map_eq_ok_iff {f : α → β} {b : β} : x.map f = .ok b ↔ ∃ a, x = .ok a ∧ b = f a := by
  cases x with
  | error d => exact ⟨fun h => (by cases h), fun ⟨_, h, _⟩ => (by cases h)⟩
  | ok a =>
      constructor
      · rintro ⟨⟩
        exact ⟨a, rfl, rfl⟩
      · rintro ⟨_, ⟨⟩, rfl⟩
        rfl

end Results

/-! ## 2. Results in order -/

section Traversal

variable {f : α → Except ε β}

theorem mapM_cons_of_ok {a : α} {b : β} (h : f a = .ok b) (as : List α) :
    (a :: as).mapM f = (as.mapM f).map (b :: ·) := by
  rw [List.mapM_cons, h]
  cases as.mapM f <;> rfl

theorem mapM_cons_of_error {a : α} {e : ε} (h : f a = .error e) (as : List α) :
    (a :: as).mapM f = .error e := by
  rw [List.mapM_cons, h]
  rfl

/-- **A traversal succeeds with the results of its steps.** -/
theorem mapM_eq_ok_iff : ∀ {as : List α} {bs : List β},
    as.mapM f = .ok bs ↔ List.Forall₂ (fun a b => f a = .ok b) as bs
  | [], bs => by
      rw [List.forall₂_nil_left_iff, List.mapM_nil, eq_comm]
      exact Except.ok.injEq bs [] ▸ Iff.rfl
  | a :: as, bs => by
      rw [List.forall₂_cons_left_iff]
      cases ha : f a with
      | error e =>
          rw [mapM_cons_of_error ha]
          exact ⟨fun h => (by cases h), fun ⟨_, _, h, _⟩ => (by cases h)⟩
      | ok b =>
          rw [mapM_cons_of_ok ha]
          constructor
          · intro h
            cases hs : as.mapM f with
            | error e => rw [hs] at h; cases h
            | ok cs =>
                rw [hs] at h
                cases h
                exact ⟨b, cs, rfl, mapM_eq_ok_iff.mp hs, rfl⟩
          · rintro ⟨c, cs, hc, hcs, rfl⟩
            cases hc
            rw [mapM_eq_ok_iff.mpr hcs]
            rfl

/-- **A traversal fails with the error of the first step that fails.** -/
theorem mapM_eq_error_iff {e : ε} : ∀ {as : List α},
    as.mapM f = .error e ↔
      ∃ front a back, as = front ++ a :: back ∧ (∀ x ∈ front, ∃ b, f x = .ok b) ∧
        f a = .error e
  | [] => by
      refine ⟨fun h => (by cases h), ?_⟩
      rintro ⟨front, a, back, h, -⟩
      exact absurd h.symm (List.append_ne_nil_of_right_ne_nil front (List.cons_ne_nil a back))
  | a :: as => by
      simp only [List.cons_eq_append_iff]
      cases ha : f a with
      | error d =>
          rw [mapM_cons_of_error ha]
          constructor
          · rintro h
            cases h
            exact ⟨[], a, as, Or.inl ⟨rfl, rfl⟩, fun _ h => absurd h List.not_mem_nil, ha⟩
          · rintro ⟨front, c, back, ⟨rfl, h⟩ | ⟨rest, rfl, rfl⟩, hfront, hc⟩
            · cases h
              rw [ha] at hc
              cases hc
              rfl
            · obtain ⟨b, hb⟩ := hfront a List.mem_cons_self
              rw [ha] at hb
              cases hb
      | ok b =>
          rw [mapM_cons_of_ok ha, map_eq_error_iff, mapM_eq_error_iff]
          constructor
          · rintro ⟨front, c, back, rfl, hfront, hc⟩
            exact ⟨a :: front, c, back, Or.inr ⟨front, rfl, rfl⟩,
              List.forall_mem_cons.mpr ⟨⟨b, ha⟩, hfront⟩, hc⟩
          · rintro ⟨front, c, back, ⟨rfl, h⟩ | ⟨rest, rfl, rfl⟩, hfront, hc⟩
            · cases h
              rw [ha] at hc
              cases hc
            · exact ⟨rest, c, back, rfl, (List.forall_mem_cons.mp hfront).2, hc⟩

/-- The result of every step is among the results. -/
theorem exists_mem_of_mapM {as : List α} {bs : List β} (h : as.mapM f = .ok bs) :
    ∀ a ∈ as, ∃ b ∈ bs, f a = .ok b := by
  have hsteps := mapM_eq_ok_iff.mp h
  clear h
  induction hsteps with
  | nil => exact fun a ha => absurd ha List.not_mem_nil
  | @cons a b as bs hstep _ ih =>
      refine List.forall_mem_cons.mpr ⟨⟨b, List.mem_cons_self, hstep⟩, fun x hx => ?_⟩
      obtain ⟨y, hy, hxy⟩ := ih x hx
      exact ⟨y, List.mem_cons_of_mem b hy, hxy⟩

/-- **A traversal succeeds exactly when all its steps do.** -/
theorem exists_mapM_iff {as : List α} :
    (∃ bs, as.mapM f = .ok bs) ↔ ∀ a ∈ as, ∃ b, f a = .ok b := by
  constructor
  · rintro ⟨bs, h⟩ a ha
    obtain ⟨b, -, hb⟩ := exists_mem_of_mapM h a ha
    exact ⟨b, hb⟩
  · intro hall
    cases h : as.mapM f with
    | ok bs => exact ⟨bs, rfl⟩
    | error e =>
        obtain ⟨front, a, back, rfl, -, ha⟩ := mapM_eq_error_iff.mp h
        obtain ⟨b, hb⟩ := hall a (List.mem_append_right front List.mem_cons_self)
        rw [ha] at hb
        cases hb

end Traversal

end RecordRules
