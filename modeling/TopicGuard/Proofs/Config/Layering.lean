import TopicGuard.Config.Source
import TopicGuard.Proofs.Config.Setting
import TopicGuard.Proofs.Order

/-!
Settings come from the last source that says something.

Sources are laid over each other in the stable order of their precedence. Setting by setting this is a search from the
end (`Source.get_mergeAll`): a setting is that of the last source which sets it, whatever else this or any other source
says. Faults are searched from the front (`Source.mergeAll_eq_error`). What is loaded therefore depends on the order of
the sources only as far as they have the same precedence (`load_congr`), and not on sources which say nothing
(`load_of_padded`).
-/

set_option autoImplicit false

namespace TopicGuard.Config

open Layer (get)

namespace Source

variable {α : Type} {read : FileReader} {sources sources' ordered : List Source} {source : Source} {base base' : Layer}

/-- What a source tells about a setting, if it can be loaded. -/
def tells (read : FileReader) (s : Setting α) (source : Source) : Option α :=
  (source.layer read).toOption.bind (get s)

/-- The source can be loaded. -/
def Loads (read : FileReader) (source : Source) : Prop :=
  ∃ layer, source.layer read = .ok layer

/-- The fault of a source that cannot be loaded. -/
def fault? (read : FileReader) (source : Source) : Option Fault :=
  match source.layer read with
  | .error fault => some fault
  | .ok _ => none

/-- The source can be loaded and sets nothing. -/
def IsSilent (read : FileReader) (source : Source) : Prop :=
  ∃ layer, source.layer read = .ok layer ∧ ∀ {α : Type} (s : Setting α), get s layer = none

/-- The second list is the first with silent sources put in, anywhere. -/
inductive Padded (read : FileReader) : List Source → List Source → Prop where
  | nil : Padded read [] []
  | keep {sources sources' : List Source} (source : Source) (h : Padded read sources sources') :
    Padded read (source :: sources) (source :: sources')
  | insert {sources sources' : List Source} {source : Source} (hsilent : IsSilent read source)
    (h : Padded read sources sources') : Padded read sources (source :: sources')

theorem isSome_fault? : (fault? read source).isSome = true ↔ ¬ source.Loads read := by
  rw [fault?, Loads]
  cases source.layer read with
  | error fault => simp
  | ok layer => simp

/-- The layers of some sources over each other and over another layer, in the order of the list. -/
def mergeAll (read : FileReader) (sources : List Source) (base : Layer) : Except Fault Layer :=
  sources.foldlM (fun base source => return base.overlay (← source.layer read)) base

/-- Merging takes the sources in the one stable order that there is. -/
theorem merge_eq (h : IsStableOrder precedence sources ordered) : merge read sources = mergeAll read ordered {} := by
  rw [merge, sorted, ← isStableOrder_iff.mp h]
  rfl

/-! ## Layers over each other -/

theorem mergeAll_cons (source : Source) (sources : List Source) (base : Layer) :
    mergeAll read (source :: sources) base
      = (source.layer read).bind fun layer => mergeAll read sources (base.overlay layer) := by
  rw [mergeAll, List.foldlM_cons]
  cases source.layer read <;> rfl

/-- If every source can be loaded, they can be merged. -/
theorem exists_mergeAll (h : ∀ source ∈ sources, Loads read source) (base : Layer) :
    ∃ merged, mergeAll read sources base = .ok merged := by
  induction sources generalizing base with
  | nil => exact ⟨base, rfl⟩
  | cons source sources ih =>
    obtain ⟨⟨layer, hlayer⟩, hsources⟩ := List.forall_mem_cons.mp h
    obtain ⟨merged, hmerged⟩ := ih hsources (base.overlay layer)
    refine ⟨merged, ?_⟩
    rw [mergeAll_cons, hlayer]
    exact hmerged

/-- Only sources that can all be loaded can be merged. -/
theorem loads_of_mergeAll {merged : Layer} (h : mergeAll read sources base = .ok merged) :
    ∀ source ∈ sources, Loads read source := by
  induction sources generalizing base with
  | nil => simp
  | cons source sources ih =>
    rw [mergeAll_cons] at h
    cases hlayer : source.layer read with
    | error fault =>
      rw [hlayer] at h
      cases h
    | ok layer =>
      rw [hlayer] at h
      exact List.forall_mem_cons.mpr ⟨⟨layer, hlayer⟩, ih h⟩

/-- The first source that cannot be loaded ends it all. -/
theorem mergeAll_eq_error {fault : Fault} (h : sources.findSome? (fault? read) = some fault) (base : Layer) :
    mergeAll read sources base = .error fault := by
  induction sources generalizing base with
  | nil => cases h
  | cons source sources ih =>
    rw [List.findSome?_cons, fault?] at h
    rw [mergeAll_cons]
    cases hlayer : source.layer read with
    | error fault' =>
      rw [hlayer] at h
      cases h
      rfl
    | ok layer =>
      rw [hlayer] at h
      exact ih h (base.overlay layer)

/-- A setting is that of the last layer which sets it. -/
theorem get_mergeAll {merged : Layer} (h : mergeAll read sources base = .ok merged) (s : Setting α) :
    get s merged = (sources.filterMap (tells read s)).getLast?.or (get s base) := by
  -- Over any layer at the bottom: the first source goes over it, and the others over both.
  induction sources generalizing base with
  | nil =>
    cases h
    rfl
  | cons source sources ih =>
    rw [mergeAll_cons] at h
    cases hlayer : source.layer read with
    | error fault =>
      rw [hlayer] at h
      cases h
    | ok layer =>
      rw [hlayer] at h
      have htells : tells read s source = get s layer := by
        rw [tells, hlayer]
        rfl
      rw [ih h, Layer.get_overlay, List.filterMap_cons, htells]
      cases get s layer with
      | none => rfl
      | some a =>
        rw [List.getLast?_cons]
        cases (sources.filterMap (tells read s)).getLast? <;> rfl

/-! ## Silent sources -/

/-- Layers that say the same, or the same fault. -/
inductive Agree : Except Fault Layer → Except Fault Layer → Prop where
  | ok {l l' : Layer} (h : ∀ {α : Type} (s : Setting α), get s l = get s l') : Agree (.ok l) (.ok l')
  | error (fault : Fault) : Agree (.error fault) (.error fault)

/-- Layers that agree on every setting are completed alike. -/
theorem Agree.resolve_eq {a b : Except Fault Layer} (h : Agree a b) : a.bind Layer.resolve = b.bind Layer.resolve := by
  cases h with
  | ok h => exact Layer.resolve_congr h
  | error fault => rfl

open Classical in
/-- The sources that are not silent. -/
noncomputable def speaking (read : FileReader) (sources : List Source) : List Source :=
  sources.filter fun source => ¬ IsSilent read source

theorem speaking_cons_of_isSilent (h : IsSilent read source) (sources : List Source) :
    speaking read (source :: sources) = speaking read sources := by
  rw [speaking, List.filter_cons_of_neg (by simpa using h), speaking]

theorem speaking_cons_of_not_isSilent (h : ¬ IsSilent read source) (sources : List Source) :
    speaking read (source :: sources) = source :: speaking read sources := by
  rw [speaking, List.filter_cons_of_pos (by simpa using h), speaking]

/-- Silent sources can be left out. -/
theorem agree_speaking (sources : List Source) (h : ∀ {α : Type} (s : Setting α), get s base = get s base') :
    Agree (mergeAll read sources base) (mergeAll read (speaking read sources) base') := by
  -- A silent source makes another layer of the one at the bottom, so the two at the bottom need not be the same as long
  -- as they say the same.
  induction sources generalizing base base' with
  | nil => exact .ok h
  | cons source sources ih =>
    rw [mergeAll_cons]
    by_cases hsilent : IsSilent read source
    · obtain ⟨layer, hlayer, hnone⟩ := id hsilent
      rw [speaking_cons_of_isSilent hsilent, hlayer]
      refine ih fun s => ?_
      rw [Layer.get_overlay, hnone, Option.none_or, h]
    · rw [speaking_cons_of_not_isSilent hsilent, mergeAll_cons]
      cases source.layer read with
      | error fault => exact .error fault
      | ok layer =>
        refine ih fun s => ?_
        rw [Layer.get_overlay, Layer.get_overlay, h]

theorem Padded.speaking_eq (h : Padded read sources sources') : speaking read sources' = speaking read sources := by
  induction h with
  | nil => rfl
  | keep source h ih =>
    by_cases hsilent : IsSilent read source
    · rw [speaking_cons_of_isSilent hsilent, speaking_cons_of_isSilent hsilent, ih]
    · rw [speaking_cons_of_not_isSilent hsilent, speaking_cons_of_not_isSilent hsilent, ih]
  | insert hsilent h ih => rw [speaking_cons_of_isSilent hsilent, ih]

end Source

/-! ## Loading -/

variable {read : FileReader} {sources sources' ordered : List Source}

/-- Loading merges the sources in their order and completes the result. -/
theorem load_eq (h : IsStableOrder Source.precedence sources ordered) :
    load read sources = (Source.mergeAll read ordered {}).bind Layer.resolve := by
  rw [load, Source.merge_eq h]
  rfl

/-- Reordering sources changes nothing as long as those of the same precedence keep their order. -/
theorem load_congr (h : ∀ p, (sources'.filter fun s => s.precedence = p) = sources.filter fun s => s.precedence = p) :
    load read sources' = load read sources := by
  have hordered : IsStableOrder Source.precedence sources (Source.sorted sources) := isStableOrder_mergeSort _ _
  -- One list is the order of both.
  have hordered' : IsStableOrder Source.precedence sources' (Source.sorted sources) :=
    ⟨hordered.sorted, fun p => (hordered.filter_eq p).trans (h p).symm⟩
  rw [load_eq hordered, load_eq hordered']

/-- Sources that say nothing can be left out. -/
theorem load_speaking (sources : List Source) : load read (Source.speaking read sources) = load read sources := by
  have hordered : IsStableOrder Source.precedence sources (Source.sorted sources) := isStableOrder_mergeSort _ _
  have hspeaking : IsStableOrder Source.precedence (Source.speaking read sources)
      (Source.speaking read (Source.sorted sources)) :=
    -- What is left of an order is the order of what is left.
    hordered.filter _
  rw [load_eq hordered, load_eq hspeaking]
  exact (Source.agree_speaking _ fun s => rfl).resolve_eq.symm

/-- Sources that say nothing make no difference wherever they are put in. -/
theorem load_of_padded (h : Source.Padded read sources sources') : load read sources' = load read sources := by
  rw [← load_speaking sources', h.speaking_eq, load_speaking]

/-- Sources are laid over each other field by field, in the stable order of their precedence.

If all of them can be loaded, what is completed says about each setting what the last source says that sets it, and
nothing if none does. If some cannot, the fault is that of the first one. So the order of the list matters only among
sources of the same precedence, and sources that set nothing do not matter at all. -/
theorem load_layered (read : FileReader) (sources ordered : List Source)
    (hordered : IsStableOrder Source.precedence sources ordered) :
    ((∀ source ∈ sources, source.Loads read) → ∃ merged, Source.merge read sources = .ok merged
        ∧ load read sources = merged.resolve
        ∧ ∀ {α : Type} (s : Setting α), get s merged = (ordered.filterMap (Source.tells read s)).getLast?)
      ∧ ((∃ source ∈ sources, ¬ source.Loads read) → ∃ fault, ordered.findSome? (Source.fault? read) = some fault
        ∧ load read sources = .error fault)
      ∧ (∀ sources', (∀ p, (sources'.filter fun s => s.precedence = p) = sources.filter fun s => s.precedence = p) →
          load read sources' = load read sources)
      ∧ ∀ sources', Source.Padded read sources sources' → load read sources' = load read sources := by
  refine ⟨fun hloads => ?_, fun ⟨source, hmem, hfails⟩ => ?_, fun sources' => load_congr,
    fun sources' => load_of_padded⟩
  · have hloads' : ∀ source ∈ ordered, source.Loads read := fun source hmem => hloads source (hordered.mem_iff.mp hmem)
    obtain ⟨merged, hmerged⟩ := Source.exists_mergeAll hloads' {}
    refine ⟨merged, ?_, ?_, fun s => ?_⟩
    · rw [Source.merge_eq hordered, hmerged]
    · rw [load_eq hordered, hmerged]
      rfl
    · rw [Source.get_mergeAll hmerged, Layer.get_empty, Option.or_none]
  · have hsome : (ordered.findSome? (Source.fault? read)).isSome := by
      rw [List.findSome?_isSome_iff]
      exact ⟨source, hordered.mem_iff.mpr hmem, Source.isSome_fault?.mpr hfails⟩
    obtain ⟨fault, hfault⟩ := Option.isSome_iff_exists.mp hsome
    refine ⟨fault, hfault, ?_⟩
    rw [load_eq hordered, Source.mergeAll_eq_error hfault]
    rfl

/-- Two files of the same precedence, and variables over them that come first in the list and only mention the
section. -/
theorem load_layered_two_files :
    let read : FileReader := fun _ => .error .missing
    let first : Source := .custom "first" 20 (.ok { store := some { userQuery := some "q", maxConnections := some 4 } })
    let second : Source := .custom "second" 20 (.ok { store := some { maxConnections := some 8 } })
    let upper : Source := .custom "variables" 50 (.ok { store := some {} })
    let broken : Source := .custom "broken" 30 (.error .missingKey)
    (∃ merged, Source.merge read [upper, first, second] = .ok merged
        ∧ load read [upper, first, second] = merged.resolve
        ∧ get .userQuery merged = some "q" ∧ get .maxConnections merged = some 8 ∧ get .host merged = none)
      ∧ load read [first, upper, second] = load read [upper, first, second]
      ∧ load read [upper, first, .usual, second] = load read [upper, first, second]
      ∧ load read [upper, broken, first] = .error .missingKey := by
  intro read first second upper broken
  have hloads (name : String) (p : Nat) (layer : Layer) : (Source.custom name p (.ok layer)).Loads read := ⟨layer, rfl⟩
  have h20 : first.precedence = 20 ∧ second.precedence = 20 := ⟨rfl, rfl⟩
  have h30 : broken.precedence = 30 := rfl
  have h50 : upper.precedence = 50 := rfl
  have hordered : IsStableOrder Source.precedence [upper, first, second] [first, second, upper] := by
    refine ⟨by simp [h20, h50], fun p => ?_⟩
    -- The two files are in the order they had; the variables are alone.
    by_cases hp : p = 20 <;> simp [List.filter_cons, h20, h50, hp, eq_comm]
  have hbroken : IsStableOrder Source.precedence [upper, broken, first] [first, broken, upper] := by
    refine ⟨by simp [h20, h30, h50], fun p => ?_⟩
    by_cases hp : p = 20 <;> by_cases hp' : p = 30 <;> simp [List.filter_cons, h20, h30, h50, hp, hp', eq_comm]
  obtain ⟨hmerged, -, hreordered, hpadded⟩ := load_layered read _ _ hordered
  obtain ⟨-, hfault, -, -⟩ := load_layered read _ _ hbroken
  refine ⟨?_, hreordered _ fun p => ?_, hpadded _ ?_, ?_⟩
  · obtain ⟨merged, hmerge, hload, hget⟩ := hmerged (by simp [first, second, upper, hloads])
    exact ⟨merged, hmerge, hload, hget .userQuery, hget .maxConnections, hget .host⟩
  · by_cases hp : p = 20 <;> simp [List.filter_cons, h20, h50, hp, eq_comm]
  · exact .keep _ (.keep _ (.insert ⟨{}, rfl, Layer.get_empty⟩ (.keep _ .nil)))
  · obtain ⟨fault, hfirst, hload⟩ := hfault ⟨broken, by simp, fun ⟨layer, h⟩ => by cases h⟩
    cases hfirst
    exact hload

end TopicGuard.Config
