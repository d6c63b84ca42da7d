import Mathlib.Data.List.Forall2

/-!
Results that may be errors, taken apart.

The operations of the library are sequences of steps in `Except`. The lemmas here say what a sequence did from
how it ended: it ended well exactly if every step did, and it ended in an error exactly if some step did after
all earlier ones went well. A statement about an operation peels its steps off with them, so that the bodies
of `bind` and `map` are opened here and nowhere else.
-/

set_option autoImplicit false

namespace TopicGuard.Outcome

variable {ε α β : Type}

theorem bind_eq_ok_iff {x : Except ε α} {f : α → Except ε β} {b : β} :
    x >>= f = .ok b ↔ ∃ a, x = .ok a ∧ f a = .ok b := by
  cases x with
  | error e => simp [bind, Except.bind]
  | ok a => simp [bind, Except.bind]

theorem bind_eq_error_iff {x : Except ε α} {f : α → Except ε β} {e : ε} :
    x >>= f = .error e ↔ x = .error e ∨ ∃ a, x = .ok a ∧ f a = .error e := by
  cases x with
  | error e => simp [bind, Except.bind]
  | ok a => simp [bind, Except.bind]

/-- Where the first step ends well, an error is that of the second. -/
theorem bind_eq_error_iff_of_ok {x : Except ε α} {f : α → Except ε β} {a : α} {e : ε} (h : x = .ok a) :
    x >>= f = .error e ↔ f a = .error e := by
  rw [h]
  exact Iff.rfl

/-- Where the second step never fails, an error is that of the first. -/
theorem bind_eq_error_iff_of_ne {x : Except ε α} {f : α → Except ε β} {e : ε} (h : ∀ a, f a ≠ .error e) :
    x >>= f = .error e ↔ x = .error e := by
  rw [bind_eq_error_iff, or_iff_left]
  rintro ⟨a, -, ha⟩
  exact h a ha

theorem map_eq_ok_iff {x : Except ε α} {f : α → β} {b : β} :
    x.map f = .ok b ↔ ∃ a, x = .ok a ∧ f a = b := by
  cases x with
  | error e => simp [Except.map]
  | ok a => simp [Except.map]

theorem map_eq_error_iff {x : Except ε α} {f : α → β} {e : ε} : x.map f = .error e ↔ x = .error e := by
  cases x with
  | error e => simp [Except.map]
  | ok a => simp [Except.map]

/-- Something ends well exactly if it does without its value. -/
theorem exists_ok_iff {x : Except ε α} : (∃ a, x = .ok a) ↔ x.map (fun _ => ()) = .ok () := by
  simp [map_eq_ok_iff]

/-- A step whose value is dropped before the next one. -/
theorem map_unit_bind {x : Except ε α} {f : Unit → Except ε β} :
    (x.map fun _ => ()) >>= f = x >>= fun _ => f () := by
  cases x <;> rfl

theorem toOption_eq_some_iff {x : Except ε α} {a : α} : x.toOption = some a ↔ x = .ok a := by
  cases x with
  | error e => simp [Except.toOption]
  | ok b => simp [Except.toOption]

/-- Another wording of its errors does not change whether and how something ends well. -/
theorem mapError_eq_ok_iff {ε' : Type} {x : Except ε α} {f : ε → ε'} {a : α} :
    x.mapError f = .ok a ↔ x = .ok a := by
  cases x with
  | error e => simp [Except.mapError]
  | ok a => simp [Except.mapError]

theorem mapError_eq_error_iff {ε' : Type} {x : Except ε α} {f : ε → ε'} {e : ε'} :
    x.mapError f = .error e ↔ ∃ e₀, x = .error e₀ ∧ f e₀ = e := by
  cases x with
  | error e₀ => simp [Except.mapError]
  | ok a => simp [Except.mapError]

/-- A step that fails as another one does, in one wording, still fails as that one does in a wording put over it. -/
theorem mapError_eq_error_iff_of {ε₀ ε' : Type} {x : Except ε α} {y : Except ε₀ β} {g : ε₀ → ε} {f : ε → ε'} {e : ε'}
    (h : ∀ e, x = .error e ↔ ∃ e₀, y = .error e₀ ∧ g e₀ = e) :
    x.mapError f = .error e ↔ ∃ e₀, y = .error e₀ ∧ f (g e₀) = e := by
  rw [mapError_eq_error_iff]
  simp only [h]
  constructor
  · rintro ⟨_, ⟨e₀, he₀, rfl⟩, rfl⟩
    exact ⟨e₀, he₀, rfl⟩
  · rintro ⟨e₀, he₀, rfl⟩
    exact ⟨_, ⟨e₀, he₀, rfl⟩, rfl⟩

/-- A check that stops with an error under a condition. -/
theorem check_eq_ok_iff {p : Prop} [Decidable p] {e : ε} {x : Except ε α} {a : α} :
    (if p then .error e else x) = .ok a ↔ ¬ p ∧ x = .ok a := by
  by_cases hp : p
  · simp [hp]
  · simp [hp]

/-- A traversal ends well exactly if every element does, and then holds what they gave. -/
theorem mapM_eq_ok_iff {f : α → Except ε β} {xs : List α} {ys : List β} :
    xs.mapM f = .ok ys ↔ List.Forall₂ (fun x y => f x = .ok y) xs ys := by
  induction xs generalizing ys with
  | nil =>
    rw [List.mapM_nil, List.forall₂_nil_left_iff]
    exact ⟨fun h => by cases h; rfl, fun h => by rw [h]; rfl⟩
  | cons x xs ih =>
    rw [List.mapM_cons, bind_eq_ok_iff, List.forall₂_cons_left_iff]
    refine exists_congr fun y => ?_
    rw [bind_eq_ok_iff]
    constructor
    · rintro ⟨hy, ys', hys, h⟩
      cases h
      exact ⟨ys', hy, ih.mp hys, rfl⟩
    · rintro ⟨ys', hy, hys, rfl⟩
      exact ⟨hy, ys', ih.mpr hys, rfl⟩

/-- In lists related pairwise, every element of one is related to some element of the other. -/
theorem exists_mem_of_forall₂ {R : α → β → Prop} {xs : List α} {ys : List β}
    (h : List.Forall₂ R xs ys) {x : α} (hx : x ∈ xs) : ∃ y ∈ ys, R x y := by
  induction h with
  | nil => cases hx
  | @cons z y _ ys hz _ ih =>
    rcases List.mem_cons.mp hx with rfl | hx
    · exact ⟨y, List.mem_cons_self, hz⟩
    · obtain ⟨y', hy', hr⟩ := ih hx
      exact ⟨y', List.mem_cons_of_mem y hy', hr⟩

/-- A traversal that ends in an error ends in the error of some element. -/
theorem exists_error_of_mapM {f : α → Except ε β} {xs : List α} {e : ε}
    (h : xs.mapM f = .error e) : ∃ x ∈ xs, f x = .error e := by
  induction xs with
  | nil => cases h
  | cons x xs ih =>
    rw [List.mapM_cons, bind_eq_error_iff] at h
    rcases h with hx | ⟨y, -, h⟩
    · exact ⟨x, List.mem_cons_self, hx⟩
    · rcases bind_eq_error_iff.mp h with hxs | ⟨ys, -, h⟩
      · obtain ⟨z, hz, he⟩ := ih hxs
        exact ⟨z, List.mem_cons_of_mem x hz, he⟩
      · cases h

theorem forM_eq_ok_iff {ι : Type*} {f : ι → Except ε Unit} {xs : List ι} :
    forM xs f = .ok () ↔ ∀ x ∈ xs, f x = .ok () := by
  induction xs with
  | nil => simp [pure, Except.pure]
  | cons x xs ih =>
    rw [List.forM_cons, bind_eq_ok_iff, List.forall_mem_cons]
    constructor
    · rintro ⟨_, hx, hxs⟩
      exact ⟨hx, ih.mp hxs⟩
    · rintro ⟨hx, hxs⟩
      exact ⟨(), hx, ih.mpr hxs⟩

/-- A list of checks ends in the error of the first element that does not pass. -/
theorem forM_eq_error_iff {ι : Type*} {f : ι → Except ε Unit} {xs : List ι} {e : ε} :
    forM xs f = .error e ↔
      ∃ before x after, xs = before ++ x :: after ∧ (∀ y ∈ before, f y = .ok ()) ∧ f x = .error e := by
  induction xs with
  | nil =>
    rw [List.forM_nil]
    constructor
    · intro h
      cases h
    · rintro ⟨before, x, after, hsplit, -⟩
      simp at hsplit
  | cons x xs ih =>
    rw [List.forM_cons, bind_eq_error_iff]
    constructor
    · rintro (hx | ⟨_, hx, hxs⟩)
      · exact ⟨[], x, xs, rfl, by simp, hx⟩
      · obtain ⟨before, y, after, rfl, hbefore, hy⟩ := ih.mp hxs
        exact ⟨x :: before, y, after, rfl, List.forall_mem_cons.mpr ⟨hx, hbefore⟩, hy⟩
    · rintro ⟨before, y, after, hsplit, hbefore, hy⟩
      cases before with
      | nil =>
        cases hsplit
        exact Or.inl hy
      | cons z before =>
        cases hsplit
        rw [List.forall_mem_cons] at hbefore
        exact Or.inr ⟨(), hbefore.1, ih.mpr ⟨before, y, after, rfl, hbefore.2, hy⟩⟩

/-- Without their errors, a traversal is the traversal in `Option`. -/
theorem mapM_toOption {f : α → Except ε β} {xs : List α} :
    (xs.mapM f).toOption = xs.mapM fun x => (f x).toOption := by
  induction xs with
  | nil => rfl
  | cons x xs ih =>
    rw [List.mapM_cons, List.mapM_cons, ← ih]
    cases f x with
    | error e => rfl
    | ok y => cases xs.mapM f <;> rfl

end TopicGuard.Outcome
