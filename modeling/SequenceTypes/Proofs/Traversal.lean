/-! Computations that may fail, taken apart: what a success of a composed computation says about its
parts. Conversions walk through sequences with `mapM`, which stops at the first failure. -/

namespace SequenceTypes.Traversal

variable {α β ε : Type}

theorem map_eq_ok_iff {x : Except ε α} {f : α → β} {b : β} :
    x.map f = .ok b ↔ ∃ a, x = .ok a ∧ f a = b := by
  cases x <;> simp [Except.map]

theorem bind_eq_ok_iff {x : Except ε α} {f : α → Except ε β} {b : β} :
    (x >>= f) = .ok b ↔ ∃ a, x = .ok a ∧ f a = .ok b := by
  cases x <;> simp [bind, Except.bind]

theorem map_eq_error_iff {x : Except ε α} {f : α → β} {e : ε} : x.map f = .error e ↔ x = .error e := by
  cases x <;> simp [Except.map]

theorem bind_eq_error_iff {x : Except ε α} {f : α → Except ε β} {e : ε} :
    (x >>= f) = .error e ↔ x = .error e ∨ ∃ a, x = .ok a ∧ f a = .error e := by
  cases x <;> simp [bind, Except.bind]

theorem isOk_iff_exists {x : Except ε α} : x.isOk ↔ ∃ a, x = .ok a := by
  cases x <;> simp [Except.isOk, Except.toBool]

theorem mapM_cons_eq_ok_iff {f : α → Except ε β} {x : α} {xs : List α} {ys : List β} :
    (x :: xs).mapM f = .ok ys ↔ ∃ z zs, f x = .ok z ∧ xs.mapM f = .ok zs ∧ ys = z :: zs := by
  rw [List.mapM_cons, bind_eq_ok_iff]
  constructor
  · rintro ⟨z, hz, hrest⟩
    obtain ⟨zs, hzs, heq⟩ := bind_eq_ok_iff.1 hrest
    cases heq
    exact ⟨z, zs, hz, hzs, rfl⟩
  · rintro ⟨z, zs, hz, hzs, rfl⟩
    exact ⟨z, hz, bind_eq_ok_iff.2 ⟨zs, hzs, rfl⟩⟩

theorem map_mapM_cons {γ : Type} (f : α → Except ε β) (g : List β → γ) (x : α) (xs : List α) :
    ((x :: xs).mapM f).map g = f x >>= fun y => (xs.mapM f).map fun ys => g (y :: ys) := by
  rw [List.mapM_cons]
  cases f x with
  | error e => rfl
  | ok y => cases xs.mapM f <;> rfl

theorem mapError_map {δ : Type} (x : Except ε α) (f : α → β) (g : ε → δ) :
    (x.map f).mapError g = (x.mapError g).map f := by
  cases x <;> rfl

theorem mapError_bind {δ : Type} (x : Except ε α) (f : α → Except ε β) (g : ε → δ) :
    (x >>= f).mapError g = x.mapError g >>= fun a => (f a).mapError g := by
  cases x <;> rfl

theorem mapError_mapM {δ : Type} (f : α → Except ε β) (g : ε → δ) (xs : List α) :
    (xs.mapM f).mapError g = xs.mapM fun x => (f x).mapError g := by
  induction xs with
  | nil => rfl
  | cons x xs ih =>
      rw [List.mapM_cons, List.mapM_cons, mapError_bind, ← ih]
      apply bind_congr
      intro y
      exact mapError_bind (xs.mapM f) _ g

/-- Two computations that agree up to a view of their failures yield the same, or both fail and the
failures look the same. -/
theorem outcomes_of_mapError_eq {δ : Type} {x y : Except ε α} {g : ε → δ}
    (h : x.mapError g = y.mapError g) :
    (∃ a, x = .ok a ∧ y = .ok a) ∨ ∃ e e', x = .error e ∧ y = .error e' ∧ g e = g e' := by
  cases x with
  | ok a =>
      cases y with
      | ok b =>
          cases h
          exact Or.inl ⟨a, rfl, rfl⟩
      | error e => cases h
  | error e =>
      cases y with
      | ok b => cases h
      | error e' => exact Or.inr ⟨e, e', rfl, rfl, Except.error.inj h⟩

/-- Every result of a successful traversal is the result of one of the elements. -/
theorem exists_of_mem_mapM {f : α → Except ε β} {xs : List α} {ys : List β} (h : xs.mapM f = .ok ys)
    {y : β} (hy : y ∈ ys) : ∃ x ∈ xs, f x = .ok y := by
  induction xs generalizing ys with
  | nil =>
      cases h
      cases hy
  | cons x xs ih =>
      obtain ⟨z, zs, hz, hzs, rfl⟩ := mapM_cons_eq_ok_iff.1 h
      rcases List.mem_cons.1 hy with rfl | hy
      · exact ⟨x, List.mem_cons_self, hz⟩
      · obtain ⟨w, hw, hfw⟩ := ih hzs hy
        exact ⟨w, List.mem_cons_of_mem x hw, hfw⟩

/-- A traversal in which nothing fails is a map. -/
theorem mapM_eq_ok_of_forall {f : α → Except ε β} {g : α → β} {xs : List α}
    (h : ∀ x ∈ xs, f x = .ok (g x)) : xs.mapM f = .ok (xs.map g) := by
  induction xs with
  | nil => rfl
  | cons x xs ih =>
      have htail := ih fun y hy => h y (List.mem_cons_of_mem x hy)
      exact mapM_cons_eq_ok_iff.2 ⟨g x, xs.map g, h x List.mem_cons_self, htail, rfl⟩

theorem mapM_congr {f g : α → Except ε β} {xs : List α} (h : ∀ x ∈ xs, f x = g x) :
    xs.mapM f = xs.mapM g := by
  induction xs with
  | nil => rfl
  | cons x xs ih =>
      rw [List.mapM_cons, List.mapM_cons, h x List.mem_cons_self,
        ih fun y hy => h y (List.mem_cons_of_mem x hy)]

/-- A successful traversal keeps the length, and each result is the one of the element in its place. -/
theorem getElem?_of_mapM {f : α → Except ε β} {xs : List α} {ys : List β} (h : xs.mapM f = .ok ys) :
    ys.length = xs.length ∧ ∀ n (hn : n < xs.length), ∃ y, ys[n]? = some y ∧ f xs[n] = .ok y := by
  induction xs generalizing ys with
  | nil =>
      cases h
      exact ⟨rfl, fun n hn => absurd hn (Nat.not_lt_zero n)⟩
  | cons x xs ih =>
      obtain ⟨z, zs, hz, hzs, rfl⟩ := mapM_cons_eq_ok_iff.1 h
      obtain ⟨hlength, hplace⟩ := ih hzs
      refine ⟨congrArg (· + 1) hlength, fun n hn => ?_⟩
      cases n with
      | zero => exact ⟨z, rfl, hz⟩
      | succ n => exact hplace n (Nat.lt_of_succ_lt_succ hn)

/-- A traversal fails with the failure of the first element that fails. -/
theorem first_failure_of_mapM {f : α → Except ε β} {xs : List α} {e : ε} (h : xs.mapM f = .error e) :
    ∃ before x after, xs = before ++ x :: after ∧ (∀ y ∈ before, (f y).isOk) ∧ f x = .error e := by
  induction xs with
  | nil => cases h
  | cons x xs ih =>
      rw [List.mapM_cons] at h
      cases hx : f x with
      | error c =>
          rw [hx] at h
          cases h
          exact ⟨[], x, xs, rfl, by simp, hx⟩
      | ok z =>
          have hrest : xs.mapM f = .error e := by
            rw [hx] at h
            cases hxs : xs.mapM f with
            | error c =>
                rw [hxs] at h
                cases h
                rfl
            | ok zs =>
                rw [hxs] at h
                cases h
          obtain ⟨before, y, after, rfl, hbefore, hy⟩ := ih hrest
          refine ⟨x :: before, y, after, rfl, fun w hw => ?_, hy⟩
          rcases List.mem_cons.1 hw with rfl | hw
          · rw [hx]
            rfl
          · exact hbefore w hw

theorem isOk_mapM_iff {f : α → Except ε β} {xs : List α} :
    (xs.mapM f).isOk ↔ ∀ x ∈ xs, (f x).isOk := by
  cases h : xs.mapM f with
  | error e =>
      obtain ⟨before, x, after, rfl, _, hx⟩ := first_failure_of_mapM h
      refine iff_of_false (by simp [Except.isOk, Except.toBool]) fun hall => ?_
      have hok := hall x (by simp)
      rw [hx] at hok
      cases hok
  | ok ys =>
      refine iff_of_true rfl fun x hx => ?_
      obtain ⟨n, hn, rfl⟩ := List.getElem_of_mem hx
      obtain ⟨y, _, hy⟩ := (getElem?_of_mapM h).2 n hn
      rw [hy]
      rfl

theorem mapM_of_first_failure {f : α → Except ε β} {before after : List α} {x : α} {e : ε}
    (hbefore : ∀ y ∈ before, (f y).isOk) (hx : f x = .error e) :
    (before ++ x :: after).mapM f = .error e := by
  obtain ⟨ys, hys⟩ := isOk_iff_exists.1 (isOk_mapM_iff.2 hbefore)
  rw [List.mapM_append, hys, List.mapM_cons, hx]
  rfl

end SequenceTypes.Traversal
