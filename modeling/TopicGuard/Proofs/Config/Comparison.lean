import TopicGuard.Proofs.Config.Layering
import TopicGuard.Proofs.Config.Variables

/-!
Layers that come from different places, compared.

Two layers are compared setting by setting, by any relation between what the one says and what the other says
(`Layer.Related`). A relation that is kept where settings go over each other is a comparison (`IsComparison`), and then
it is enough to compare sources: what is told about each setting for environments (`Layer.related_ofEnvironment`), and
the sources one by one for what they say together (`Source.related_merge`). A source that cannot be loaded has to have
the same fault as the one that it is compared with.
-/

set_option autoImplicit false

namespace TopicGuard

/-! ## Outcomes -/

namespace Outcome

variable {ε α β γ δ : Type} {R : α → β → Prop} {x : Except ε α} {y : Except ε β}

/-- The same error, or values that are related. -/
inductive Related {ε α β : Type} (R : α → β → Prop) : Except ε α → Except ε β → Prop where
  | ok {a : α} {b : β} (h : R a b) : Related R (.ok a) (.ok b)
  | error (e : ε) : Related R (.error e) (.error e)

/-- A result is related to itself if every value is. -/
theorem Related.of_eq {R : α → α → Prop} (hrefl : ∀ a, R a a) (x : Except ε α) : Related R x x := by
  cases x with
  | error e => exact .error e
  | ok a => exact .ok (hrefl a)

/-- A result that is related to an error is the same error. -/
theorem Related.eq_error {e : ε} (h : Related R (.error e) y) : y = .error e := by
  cases h
  rfl

theorem Related.mono {S : α → β → Prop} (h : Related R x y) (himp : ∀ a b, R a b → S a b) : Related S x y := by
  cases h with
  | ok h => exact .ok (himp _ _ h)
  | error e => exact .error e

/-- Steps that take related values to related results take related results to related results. -/
theorem Related.bind {S : γ → δ → Prop} {f : α → Except ε γ} {g : β → Except ε δ} (h : Related R x y)
    (hstep : ∀ a b, R a b → Related S (f a) (g b)) : Related S (x >>= f) (y >>= g) := by
  cases h with
  | ok h => exact hstep _ _ h
  | error e => exact .error e

/-- After a step that both runs take. -/
theorem Related.of_step {S : γ → δ → Prop} {f : α → Except ε γ} {g : α → Except ε δ} (x : Except ε α)
    (hstep : ∀ a, Related S (f a) (g a)) : Related S (x >>= f) (x >>= g) := by
  cases x with
  | error e => exact .error e
  | ok a => exact hstep a

/-- Steps that cannot tell related values apart make related results equal. -/
theorem Related.bind_eq {f : α → Except ε γ} {g : β → Except ε γ} (h : Related R x y)
    (hstep : ∀ a b, R a b → f a = g b) : x.bind f = y.bind g := by
  cases h with
  | ok h => exact hstep _ _ h
  | error e => rfl

theorem Related.mapError {ε' : Type} (h : Related R x y) (f : ε → ε') : Related R (x.mapError f) (y.mapError f) := by
  cases h with
  | ok h => exact .ok h
  | error e => exact .error (f e)

/-- Related results end well together, or in the same error. -/
theorem Related.discard_eq (h : Related R x y) : x.map (fun _ => ()) = y.map fun _ => () := by
  cases h <;> rfl

/-- Results that fail alike are related if their values are. -/
theorem related_of_discard_eq (hdiscard : x.map (fun _ => ()) = y.map fun _ => ())
    (h : ∀ a b, x = .ok a → y = .ok b → R a b) : Related R x y := by
  cases hx : x with
  | error e =>
    rw [hx] at hdiscard
    rw [map_eq_error_iff.mp hdiscard.symm]
    exact .error e
  | ok a =>
    rw [hx] at hdiscard
    obtain ⟨b, hb, -⟩ := map_eq_ok_iff.mp hdiscard.symm
    rw [hb]
    exact .ok (h a b hx hb)

end Outcome

namespace Config

open Outcome (Related)

/-- A relation between what is said about a setting in two places. -/
abbrev Setting.Relation := (α : Type) → Setting α → Option α → Option α → Prop

/-- The relation holds where nothing is said, and it is kept where settings go over each other. -/
structure Setting.IsComparison (R : Setting.Relation) : Prop where
  none {α : Type} (s : Setting α) : R α s none none
  or {α : Type} {s : Setting α} {o o' base base' : Option α} (h : R α s o o') (hbase : R α s base base') :
    R α s (o.or base) (o'.or base')

variable {R : Setting.Relation} {read read' : FileReader}

/-! ## Layers -/

namespace Layer

open Setting (told)

variable {l l' base base' : Layer} {env env' : Environment}

/-- What the layers say about each setting is related. -/
def Related (R : Setting.Relation) (l l' : Layer) : Prop :=
  ∀ (α : Type) (s : Setting α), R α s (get s l) (get s l')

theorem Related.empty (hR : Setting.IsComparison R) : Related R {} {} := by
  intro α s
  rw [get_empty]
  exact hR.none s

/-- Layers stay related when related layers are put over them. -/
theorem Related.overlay (hR : Setting.IsComparison R) (hbase : Related R base base') (h : Related R l l') :
    Related R (base.overlay l) (base'.overlay l') := by
  intro α s
  rw [get_overlay, get_overlay]
  exact hR.or (h α s) (hbase α s)

/-- Layers are related if what the environments tell about each setting is related. -/
theorem related_ofEnvironment
    (h : ∀ (α : Type) (s : Setting α), Outcome.Related (R α s) (told env read s) (told env' read' s)) :
    Outcome.Related (Related R) (ofEnvironment env read) (ofEnvironment env' read') := by
  -- The same settings can be told in both environments, so the first of which nothing can be told is the same.
  have hcheck (s : Σ α : Type, Setting α) : Setting.check env read s = Setting.check env' read' s :=
    (h s.1 s.2).discard_eq
  refine Outcome.related_of_discard_eq ?_ fun l l' hl hl' α s => ?_
  · rw [ofEnvironment_discard, ofEnvironment_discard, funext hcheck]
  · have hs := h α s
    rw [told_of_ofEnvironment hl, told_of_ofEnvironment hl'] at hs
    cases hs with
    | ok hs => exact hs

end Layer

/-! ## Sources -/

namespace Source

variable {sources sources' : List Source} {source source' : Source} {base base' : Layer}

/-- The sources have the same place in the order, and what they say is related. -/
structure Related (R : Setting.Relation) (read read' : FileReader) (source source' : Source) : Prop where
  precedence_eq : source.precedence = source'.precedence
  layer : Outcome.Related (Layer.Related R) (source.layer read) (source'.layer read')

/-- Sources that are related, one by one, are merged into related layers. -/
theorem related_mergeAll (hR : Setting.IsComparison R) (h : List.Forall₂ (Related R read read') sources sources')
    (hbase : Layer.Related R base base') :
    Outcome.Related (Layer.Related R) (mergeAll read sources base) (mergeAll read' sources' base') := by
  induction h generalizing base base' with
  | nil => exact .ok hbase
  | cons hsource hsources ih =>
    rw [mergeAll_cons, mergeAll_cons]
    exact hsource.layer.bind fun l l' hl => ih (hbase.overlay hR hl)

theorem Related.refl (hrefl : ∀ (α : Type) (s : Setting α) (o : Option α), R α s o o) (source : Source) :
    Related R read read source source :=
  ⟨rfl, .of_eq (fun l α s => hrefl α s (Layer.get s l)) _⟩

/-- Sorting keeps sources beside each other. -/
theorem related_sorted (h : List.Forall₂ (Related R read read') sources sources') :
    List.Forall₂ (Related R read read') (sorted sources) (sorted sources') := by
  -- As one list of pairs, which can be sorted by either side.
  obtain ⟨pairs, rfl, rfl, hpairs⟩ : ∃ pairs : List (Source × Source), pairs.map Prod.fst = sources
      ∧ pairs.map Prod.snd = sources' ∧ ∀ pair ∈ pairs, Related R read read' pair.1 pair.2 := by
    refine ⟨sources.zip sources', List.map_fst_zip (Nat.le_of_eq h.length_eq),
      List.map_snd_zip (Nat.le_of_eq h.length_eq.symm), ?_⟩
    intro pair hpair
    exact (List.forall₂_iff_zip.mp h).2 hpair
  have hsorted (side : Source × Source → Source)
      (hside : ∀ pair ∈ pairs, (side pair).precedence = pair.1.precedence) :
      sorted (pairs.map side)
        = (pairs.mergeSort fun a b => decide (a.1.precedence ≤ b.1.precedence)).map side := by
    refine (List.map_mergeSort fun a ha b hb => ?_).symm
    rw [hside a ha, hside b hb]
  rw [hsorted Prod.fst fun _ _ => rfl, hsorted Prod.snd fun pair hpair => (hpairs pair hpair).precedence_eq.symm,
    List.forall₂_map_left_iff, List.forall₂_map_right_iff, List.forall₂_same]
  intro pair hpair
  exact hpairs pair (List.mem_mergeSort.mp hpair)

/-- Sources that are related one by one are related together. -/
theorem related_merge (hR : Setting.IsComparison R) (h : List.Forall₂ (Related R read read') sources sources') :
    Outcome.Related (Layer.Related R) (merge read sources) (merge read' sources') :=
  related_mergeAll hR (related_sorted h) (.empty hR)

end Source

end Config

end TopicGuard
