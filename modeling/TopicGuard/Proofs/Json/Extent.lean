import TopicGuard.Proofs.Json.Cuts

/-!
Where a value ends.

Every reader of values cuts its text (`cuts_of_le`), and in front of the cut stands the last character of the value: for
an array or an object a bracket or a brace (`isSuffix_of_value`). So the text of a value other than a number allows
nothing behind it but blanks (`ofBytes?_append`), and no part at the front of a text is an array or an object already
(`eq_of_isPrefix_of_ofBytes?`).

A single call is described by `ReadsValue`, `ReadsItems` and `ReadsMembers`, which have a case for each thing that a
reader can find. What holds of all calls is an induction on the fuel with these cases.
-/

set_option autoImplicit false

namespace TopicGuard.Json.Raw

variable {c : Char} {e : Option Char} {s t rest : Scalars} {fuel : Nat} {x : Raw}

/-! ## Single calls -/

variable {xs : List Raw} {ms : List (Literal × Raw)} {key : Literal}

/-- What one call finds at the front of a text without blanks, by what the calls inside it find. -/
inductive ReadsValue (fuel : Nat) : Scalars → Raw → Scalars → Prop where
  | null (rest : Scalars) : ReadsValue fuel (some 'n' :: some 'u' :: some 'l' :: some 'l' :: rest) .null rest
  | yes (rest : Scalars) : ReadsValue fuel (some 't' :: some 'r' :: some 'u' :: some 'e' :: rest) (.bool true) rest
  | no (rest : Scalars) :
    ReadsValue fuel (some 'f' :: some 'a' :: some 'l' :: some 's' :: some 'e' :: rest) (.bool false) rest
  | string {s rest : Scalars} {ps : Literal} (h : literal s = some (ps, rest)) :
    ReadsValue fuel (some '"' :: s) (.string ps) rest
  | noItems {s rest : Scalars} (h : skipBlanks s = some ']' :: rest) :
    ReadsValue fuel (some '[' :: s) (.array []) rest
  | items {s s' rest : Scalars} {e : Option Char} {xs : List Raw} (hs : skipBlanks s = e :: s') (he : e ≠ some ']')
    (h : items fuel (e :: s') = some (xs, rest)) : ReadsValue fuel (some '[' :: s) (.array xs) rest
  | noMembers {s rest : Scalars} (h : skipBlanks s = some '\x7d' :: rest) :
    ReadsValue fuel (some '\x7b' :: s) (.object []) rest
  | members {s s' rest : Scalars} {e : Option Char} {ms : List (Literal × Raw)} (hs : skipBlanks s = e :: s')
    (he : e ≠ some '\x7d') (h : members fuel (e :: s') = some (ms, rest)) :
    ReadsValue fuel (some '\x7b' :: s) (.object ms) rest
  | number {c : Char} {s rest : Scalars} {n : Numeral} (hc : Leads c) (h : numeral (some c :: s) = some (n, rest)) :
    ReadsValue fuel (some c :: s) (.number n) rest

/-- What one call finds after the bracket or the comma in front of an item. -/
inductive ReadsItems (fuel : Nat) (s : Scalars) : List Raw → Scalars → Prop where
  | last {x : Raw} {r rest : Scalars} (h : value fuel s = some (x, r)) (hr : skipBlanks r = some ']' :: rest) :
    ReadsItems fuel s [x] rest
  | more {x : Raw} {xs : List Raw} {r r' rest : Scalars} (h : value fuel s = some (x, r))
    (hr : skipBlanks r = some ',' :: r') (hxs : items fuel r' = some (xs, rest)) : ReadsItems fuel s (x :: xs) rest

/-- A key, a colon and a value. -/
inductive ReadsMember (fuel : Nat) (s : Scalars) (key : Literal) (x : Raw) (rest : Scalars) : Prop where
  | intro {s₁ s₂ s₃ : Scalars} (hs : skipBlanks s = some '"' :: s₁) (hkey : literal s₁ = some (key, s₂))
    (hcolon : skipBlanks s₂ = some ':' :: s₃) (hx : value fuel s₃ = some (x, rest))

/-- What one call finds after the brace or the comma in front of a member. -/
inductive ReadsMembers (fuel : Nat) (s : Scalars) : List (Literal × Raw) → Scalars → Prop where
  | last {key : Literal} {x : Raw} {r rest : Scalars} (h : ReadsMember fuel s key x r)
    (hr : skipBlanks r = some '\x7d' :: rest) : ReadsMembers fuel s [(key, x)] rest
  | more {key : Literal} {x : Raw} {ms : List (Literal × Raw)} {r r' rest : Scalars} (h : ReadsMember fuel s key x r)
    (hr : skipBlanks r = some ',' :: r') (hms : members fuel r' = some (ms, rest)) :
    ReadsMembers fuel s ((key, x) :: ms) rest

theorem cons_of_items (h : items fuel s = some (xs, rest)) : ∃ e s', s = e :: s' := by
  match fuel, s with
  | _, e :: s => exact ⟨e, s, rfl⟩
  | 1, [] => cases h
  | _ + 2, [] => cases h

theorem cons_of_members (h : members fuel s = some (ms, rest)) : ∃ e s', s = e :: s' := by
  match fuel, s with
  | _, e :: s => exact ⟨e, s, rfl⟩
  | _ + 1, [] => cases h

/-- Blanks in front of a value do not matter. -/
theorem value_skipBlanks (fuel : Nat) (s : Scalars) : value (fuel + 1) (skipBlanks s) = value (fuel + 1) s := by
  rw [value, value, skipBlanks_skipBlanks]

/-- With fuel, a value is read exactly in one of the ways of `ReadsValue`. -/
theorem value_eq_some_iff : value (fuel + 1) s = some (x, rest) ↔ ReadsValue fuel (skipBlanks s) x rest := by
  constructor
  · intro h
    rw [value] at h
    -- One case for each pattern of the reader.
    split at h
    · next hs =>
      cases h
      rw [hs]
      exact .null rest
    · next hs =>
      cases h
      rw [hs]
      exact .yes rest
    · next hs =>
      cases h
      rw [hs]
      exact .no rest
    · next hs =>
      rw [hs]
      obtain ⟨⟨ps, rest'⟩, hread, heq⟩ := Option.map_eq_some_iff.mp h
      cases heq
      exact .string hread
    · next s' hs =>
      rw [hs]
      split at h
      · next hs' =>
        cases h
        exact .noItems hs'
      · next hend =>
        obtain ⟨⟨xs, rest'⟩, hread, heq⟩ := Option.map_eq_some_iff.mp h
        cases heq
        obtain ⟨e, r, hr⟩ := cons_of_items hread
        exact .items hr (fun he => hend r (by rw [hr, he])) (hr ▸ hread)
    · next s' hs =>
      rw [hs]
      split at h
      · next hs' =>
        cases h
        exact .noMembers hs'
      · next hend =>
        obtain ⟨⟨ms, rest'⟩, hread, heq⟩ := Option.map_eq_some_iff.mp h
        cases heq
        obtain ⟨e, r, hr⟩ := cons_of_members hread
        exact .members hr (fun he => hend r (by rw [hr, he])) (hr ▸ hread)
    · obtain ⟨⟨n, rest'⟩, hread, heq⟩ := Option.map_eq_some_iff.mp h
      cases heq
      obtain ⟨c, s', hs, hc⟩ := leads_of_numeral hread
      rw [hs] at hread ⊢
      exact .number hc hread
  · -- The reader may as well begin behind the blanks, where a single call has its first character.
    rw [← value_skipBlanks]
    generalize skipBlanks s = s
    rintro (_ | _ | _ | h | h | ⟨hs, he, h⟩ | h | ⟨hs, he, h⟩ | ⟨hc, h⟩)
    · rfl
    · rfl
    · rfl
    · change (literal _).map _ = _
      rw [h]
      rfl
    · rw [value, skipBlanks_of_not_blank rfl]
      simp only [h]
    · rw [value, skipBlanks_of_not_blank rfl]
      simp only [hs]
      split
      · next heq => exact absurd (List.cons.inj heq).1 he
      · rw [h]
        rfl
    · rw [value, skipBlanks_of_not_blank rfl]
      simp only [h]
    · rw [value, skipBlanks_of_not_blank rfl]
      simp only [hs]
      split
      · next heq => exact absurd (List.cons.inj heq).1 he
      · rw [h]
        rfl
    · rw [value_of_leads hc, h]
      rfl

/-- With fuel, items are read exactly in one of the ways of `ReadsItems`. -/
theorem items_eq_some_iff : items (fuel + 1) s = some (xs, rest) ↔ ReadsItems fuel s xs rest := by
  rw [items, Option.bind_eq_bind, Option.bind_eq_some_iff]
  constructor
  · rintro ⟨⟨x, r⟩, hx, h⟩
    dsimp only at h
    split at h
    · next hr =>
      obtain ⟨⟨xs', rest'⟩, hxs, heq⟩ := Option.bind_eq_some_iff.mp h
      cases heq
      exact .more hx hr hxs
    · next hr =>
      cases h
      exact .last hx hr
    · cases h
  · rintro (⟨hx, hr⟩ | ⟨hx, hr, hxs⟩)
    · refine ⟨_, hx, ?_⟩
      simp only [hr]
      rfl
    · refine ⟨_, hx, ?_⟩
      simp only [hr, hxs, Option.bind_eq_bind, Option.bind_some]
      rfl

/-- With fuel, members are read exactly in one of the ways of `ReadsMembers`. -/
theorem members_eq_some_iff : members (fuel + 1) s = some (ms, rest) ↔ ReadsMembers fuel s ms rest := by
  rw [members]
  constructor
  · intro h
    split at h
    · next hs =>
      obtain ⟨⟨key, s₂⟩, hkey, h⟩ := Option.bind_eq_some_iff.mp h
      dsimp only at h
      split at h
      · next hcolon =>
        obtain ⟨⟨x, r⟩, hx, h⟩ := Option.bind_eq_some_iff.mp h
        have hmember := ReadsMember.intro hs hkey hcolon hx
        dsimp only at h
        split at h
        · next hr =>
          obtain ⟨⟨ms', rest'⟩, hms, heq⟩ := Option.bind_eq_some_iff.mp h
          cases heq
          exact .more hmember hr hms
        · next hr =>
          cases h
          exact .last hmember hr
        · cases h
      · cases h
    · cases h
  · rintro (⟨⟨hs, hkey, hcolon, hx⟩, hr⟩ | ⟨⟨hs, hkey, hcolon, hx⟩, hr, hms⟩)
    · simp only [hs, hkey, hcolon, hx, hr, Option.bind_eq_bind, Option.bind_some]
      rfl
    · simp only [hs, hkey, hcolon, hx, hr, hms, Option.bind_eq_bind, Option.bind_some]
      rfl

/-! ## Values -/

variable {fuel' : Nat}

/-- With the second fuel, values are cut that are read with the first. A numeral needs something to follow it. -/
def CutsValues (fuel fuel' : Nat) : Prop :=
  ∀ ⦃s rest : Scalars⦄ ⦃x : Raw⦄, value fuel s = some (x, rest) → (rest = [] → ∀ n, x ≠ .number n) →
    Cuts (value fuel') s x rest

/-- With the second fuel, items are cut that are read with the first. -/
def CutsItems (fuel fuel' : Nat) : Prop :=
  ∀ ⦃s rest : Scalars⦄ ⦃xs : List Raw⦄, items fuel s = some (xs, rest) → Cuts (items fuel') s xs rest

/-- With the second fuel, members are cut that are read with the first. -/
def CutsMembers (fuel fuel' : Nat) : Prop :=
  ∀ ⦃s rest : Scalars⦄ ⦃ms : List (Literal × Raw)⦄, members fuel s = some (ms, rest) →
    Cuts (members fuel') s ms rest

/-- Where something is left, numerals are no exception. -/
theorem CutsValues.cuts (h : CutsValues fuel fuel') (hread : value fuel s = some (x, rest)) (hrest : rest ≠ []) :
    Cuts (value fuel') s x rest :=
  h hread fun hnil => absurd hnil hrest

theorem ReadsValue.ne_nil (h : ReadsValue fuel s x rest) : s ≠ [] := by
  cases h <;> exact List.cons_ne_nil _ _

/-- One call reads the same whatever comes after the text, if the calls inside it do. -/
theorem ReadsValue.append (h : ReadsValue fuel s x rest) (hrest : rest = [] → ∀ n, x ≠ .number n)
    (hitems : CutsItems fuel fuel') (hmembers : CutsMembers fuel fuel') :
    rest <:+ s ∧ ∀ t, ReadsValue fuel' (s ++ t) x (rest ++ t) := by
  cases h with
  | null => exact ⟨List.suffix_append [_, _, _, _] _, fun t => .null _⟩
  | yes => exact ⟨List.suffix_append [_, _, _, _] _, fun t => .yes _⟩
  | no => exact ⟨List.suffix_append [_, _, _, _, _] _, fun t => .no _⟩
  | string h =>
    have hcut := cuts_literal h
    exact ⟨hcut.isSuffix.trans (List.suffix_cons _ _), fun t => .string (hcut.append t)⟩
  | noItems h =>
    exact ⟨(isSuffix_of_skipBlanks h).trans (List.suffix_cons _ _), fun t => .noItems (skipBlanks_append t h)⟩
  | items hs he h =>
    have hcut := hitems h
    have hfront := hs ▸ skipBlanks_isSuffix _
    exact ⟨hcut.isSuffix.trans (hfront.trans (List.suffix_cons _ _)),
      fun t => .items (skipBlanks_append t hs) he (hcut.append t)⟩
  | noMembers h =>
    exact ⟨(isSuffix_of_skipBlanks h).trans (List.suffix_cons _ _), fun t => .noMembers (skipBlanks_append t h)⟩
  | members hs he h =>
    have hcut := hmembers h
    have hfront := hs ▸ skipBlanks_isSuffix _
    exact ⟨hcut.isSuffix.trans (hfront.trans (List.suffix_cons _ _)),
      fun t => .members (skipBlanks_append t hs) he (hcut.append t)⟩
  | number hc h =>
    -- A numeral has no end of its own.
    have hcut := cuts_numeral h fun hnil => hrest hnil _ rfl
    exact ⟨hcut.isSuffix, fun t => .number hc (hcut.append t)⟩

/-- A step of the induction over the fuel: values are cut if the items and members in them are. -/
theorem cutsValues_succ (hitems : CutsItems fuel fuel') (hmembers : CutsMembers fuel fuel') :
    CutsValues (fuel + 1) (fuel' + 1) := by
  intro s rest x h hrest
  have hreads := value_eq_some_iff.mp h
  obtain ⟨e, s', hs⟩ := List.exists_cons_of_ne_nil hreads.ne_nil
  obtain ⟨hsuffix, happend⟩ := hreads.append hrest hitems hmembers
  -- The text is not all blank, so the addition comes behind its first character.
  refine ⟨hsuffix.trans (skipBlanks_isSuffix s), fun t => value_eq_some_iff.mpr ?_⟩
  rw [skipBlanks_append t hs, ← List.cons_append, ← hs]
  exact happend t

/-- The step for items, of which each is a value and the rest are items again. -/
theorem cutsItems_succ (hvalues : CutsValues fuel fuel') (hitems : CutsItems fuel fuel') :
    CutsItems (fuel + 1) (fuel' + 1) := by
  intro s rest xs h
  cases items_eq_some_iff.mp h with
  | last hx hr =>
    have hcut := hvalues.cuts hx (ne_nil_of_skipBlanks hr)
    exact ⟨(isSuffix_of_skipBlanks hr).trans hcut.isSuffix,
      fun t => items_eq_some_iff.mpr (.last (hcut.append t) (skipBlanks_append t hr))⟩
  | more hx hr hxs =>
    have hcut := hvalues.cuts hx (ne_nil_of_skipBlanks hr)
    have hcut' := hitems hxs
    exact ⟨hcut'.isSuffix.trans ((isSuffix_of_skipBlanks hr).trans hcut.isSuffix),
      fun t => items_eq_some_iff.mpr (.more (hcut.append t) (skipBlanks_append t hr) (hcut'.append t))⟩

/-- A member does not change with what is put behind its text. -/
theorem ReadsMember.append (h : ReadsMember fuel s key x rest) (hrest : rest ≠ []) (hvalues : CutsValues fuel fuel') :
    rest <:+ s ∧ ∀ t, ReadsMember fuel' (s ++ t) key x (rest ++ t) := by
  obtain ⟨hs, hkey, hcolon, hx⟩ := h
  have hcutkey := cuts_literal hkey
  have hcut := hvalues.cuts hx hrest
  refine ⟨?_, fun t => .intro (skipBlanks_append t hs) (hcutkey.append t) (skipBlanks_append t hcolon) (hcut.append t)⟩
  exact hcut.isSuffix.trans ((isSuffix_of_skipBlanks hcolon).trans (hcutkey.isSuffix.trans (isSuffix_of_skipBlanks hs)))

/-- The step for members, of which each has a value and the rest are members again. -/
theorem cutsMembers_succ (hvalues : CutsValues fuel fuel') (hmembers : CutsMembers fuel fuel') :
    CutsMembers (fuel + 1) (fuel' + 1) := by
  intro s rest ms h
  cases members_eq_some_iff.mp h with
  | last hmember hr =>
    obtain ⟨hsuffix, happend⟩ := hmember.append (ne_nil_of_skipBlanks hr) hvalues
    exact ⟨(isSuffix_of_skipBlanks hr).trans hsuffix,
      fun t => members_eq_some_iff.mpr (.last (happend t) (skipBlanks_append t hr))⟩
  | more hmember hr hms =>
    obtain ⟨hsuffix, happend⟩ := hmember.append (ne_nil_of_skipBlanks hr) hvalues
    have hcut := hmembers hms
    exact ⟨hcut.isSuffix.trans ((isSuffix_of_skipBlanks hr).trans hsuffix),
      fun t => members_eq_some_iff.mpr (.more (happend t) (skipBlanks_append t hr) (hcut.append t))⟩

/-- All readers cut, with the fuel that they were given or with more. -/
theorem cuts_of_le (h : fuel ≤ fuel') : CutsValues fuel fuel' ∧ CutsItems fuel fuel' ∧ CutsMembers fuel fuel' := by
  -- The fuel of the call that succeeded is positive, and then so is the other one.
  induction fuel generalizing fuel' with
  | zero => exact ⟨nofun, nofun, nofun⟩
  | succ fuel ih =>
    obtain ⟨fuel', rfl⟩ : ∃ f, fuel' = f + 1 := ⟨fuel' - 1, by omega⟩
    obtain ⟨hvalues, hitems, hmembers⟩ := @ih fuel' (by omega)
    exact ⟨cutsValues_succ hitems hmembers, cutsItems_succ hvalues hitems, cutsMembers_succ hvalues hmembers⟩

/-! ## Ends -/

/-- The last character of an array that is not empty is its bracket. -/
theorem isSuffix_of_items (h : items fuel s = some (xs, rest)) : some ']' :: rest <:+ s := by
  -- The last item is followed by the bracket, and any other by items that are.
  induction fuel generalizing s xs with
  | zero => cases h
  | succ fuel ih =>
    have hvalues := (cuts_of_le (Nat.le_refl fuel)).1
    cases items_eq_some_iff.mp h with
    | last hx hr =>
      have hcut := hvalues.cuts hx (ne_nil_of_skipBlanks hr)
      exact (hr ▸ skipBlanks_isSuffix _).trans hcut.isSuffix
    | more hx hr hxs =>
      have hcut := hvalues.cuts hx (ne_nil_of_skipBlanks hr)
      exact (ih hxs).trans ((isSuffix_of_skipBlanks hr).trans hcut.isSuffix)

/-- The last character of an object that is not empty is its brace. -/
theorem isSuffix_of_members (h : members fuel s = some (ms, rest)) : some '\x7d' :: rest <:+ s := by
  induction fuel generalizing s ms with
  | zero => cases h
  | succ fuel ih =>
    have hvalues := (cuts_of_le (Nat.le_refl fuel)).1
    cases members_eq_some_iff.mp h with
    | last hmember hr =>
      have hsuffix := (hmember.append (ne_nil_of_skipBlanks hr) hvalues).1
      exact (hr ▸ skipBlanks_isSuffix _).trans hsuffix
    | more hmember hr hms =>
      have hsuffix := (hmember.append (ne_nil_of_skipBlanks hr) hvalues).1
      exact (ih hms).trans ((isSuffix_of_skipBlanks hr).trans hsuffix)

/-- The value is an array or an object. -/
def IsContainer : Raw → Prop
  | .array _ | .object _ => True
  | _ => False

/-- The last entry of a container is a character, its bracket or its brace. -/
theorem isSuffix_of_value (h : value fuel s = some (x, rest)) (hx : x.IsContainer) :
    ∃ c, some c :: rest <:+ s := by
  obtain ⟨fuel, rfl⟩ : ∃ f, fuel = f + 1 := by
    cases fuel with
    | zero => cases h
    | succ fuel => exact ⟨fuel, rfl⟩
  have hreads := value_eq_some_iff.mp h
  -- Only the four cases of containers are left.
  suffices hend : ∃ c, some c :: rest <:+ skipBlanks s by
    obtain ⟨c, hc⟩ := hend
    exact ⟨c, hc.trans (skipBlanks_isSuffix s)⟩
  generalize skipBlanks s = s at hreads
  cases hreads with
  | null | yes | no | string | number => exact hx.elim
  | noItems h => exact ⟨_, (h ▸ skipBlanks_isSuffix _).trans (List.suffix_cons _ _)⟩
  | items hs he h =>
    exact ⟨_, (isSuffix_of_items h).trans ((hs ▸ skipBlanks_isSuffix _).trans (List.suffix_cons _ _))⟩
  | noMembers h => exact ⟨_, (h ▸ skipBlanks_isSuffix _).trans (List.suffix_cons _ _)⟩
  | members hs he h =>
    exact ⟨_, (isSuffix_of_members h).trans ((hs ▸ skipBlanks_isSuffix _).trans (List.suffix_cons _ _))⟩

/-! ## Texts -/

/-- A text is a value if one can be read and nothing but blanks is left. -/
theorem parse_eq_some_iff :
    parse s = some x ↔ ∃ rest, value (2 * s.length + 2) s = some (x, rest) ∧ skipBlanks rest = [] := by
  rw [parse, Option.bind_eq_bind, Option.bind_eq_some_iff]
  constructor
  · rintro ⟨⟨y, rest⟩, hread, h⟩
    dsimp only at h
    cases hrest : skipBlanks rest with
    | nil =>
      rw [hrest] at h
      cases h
      exact ⟨rest, hread, hrest⟩
    | cons e r =>
      rw [hrest] at h
      cases h
  · rintro ⟨rest, hread, hrest⟩
    refine ⟨_, hread, ?_⟩
    dsimp only
    rw [hrest]
    rfl

/-- Behind a value other than a number, blanks change nothing and nothing else can stand. -/
theorem parse_append (h : parse s = some x) (hx : ∀ n, x ≠ .number n) (t : Scalars) :
    parse (s ++ t) = if skipBlanks t = [] then some x else none := by
  obtain ⟨rest, hread, hrest⟩ := parse_eq_some_iff.mp h
  have hfuel : 2 * s.length + 2 ≤ 2 * (s ++ t).length + 2 := by
    rw [List.length_append]
    omega
  -- The longer text is read with more fuel, which finds the same.
  have hread' := ((cuts_of_le hfuel).1 hread fun _ => hx).append t
  rw [parse, hread', Option.bind_eq_bind, Option.bind_some]
  dsimp only
  rw [skipBlanks_append_of_nil hrest]
  cases skipBlanks t <;> rfl

/-- A text that begins as numbers do is a number, or nothing. -/
theorem exists_number_of_parse (hc : Leads c) (h : parse (some c :: s) = some x) : ∃ n, x = .number n := by
  obtain ⟨rest, hread, -⟩ := parse_eq_some_iff.mp h
  rw [value_of_leads hc, Option.map_eq_some_iff] at hread
  obtain ⟨⟨n, rest'⟩, -, heq⟩ := hread
  exact ⟨n, (Prod.mk.inj heq).1.symm⟩

/-! ## Bytes -/

/-- The bytes of the four blanks. -/
def IsBlankByte (b : UInt8) : Prop :=
  b = 0x20 ∨ b = 0x09 ∨ b = 0x0A ∨ b = 0x0D

theorem isBlankByte_of_isBlank {b : UInt8} (h : isBlank c = true) (hb : c.toNat = b.toNat) : IsBlankByte b := by
  have hbyte (n : UInt8) (hn : b.toNat = n.toNat) : b = n := UInt8.toNat_inj.mp hn
  simp only [isBlank, Bool.or_eq_true, beq_iff_eq] at h
  rcases h with ((rfl | rfl) | rfl) | rfl
  · exact .inl (hbyte 0x20 hb.symm)
  · exact .inr (.inl (hbyte 0x09 hb.symm))
  · exact .inr (.inr (.inl (hbyte 0x0A hb.symm)))
  · exact .inr (.inr (.inr (hbyte 0x0D hb.symm)))

theorem toNat_lt_of_isBlank (h : isBlank c = true) : c.toNat < 0x80 := by
  simp only [isBlank, Bool.or_eq_true, beq_iff_eq] at h
  rcases h with ((rfl | rfl) | rfl) | rfl <;> decide

/-- A text of blanks has no other bytes. -/
theorem isBlankByte_of_skipBlanks {u : Bytes} (h : skipBlanks (Utf8.scalars u) = []) : ∀ b ∈ u, IsBlankByte b := by
  induction u with
  | nil => exact List.forall_mem_nil _
  | cons b u ih =>
    cases hfront : Utf8.front? (b :: u) with
    | none =>
      rw [Utf8.scalars_of_front?_eq_none hfront] at h
      cases h
    | some front =>
      obtain ⟨c, rest⟩ := front
      rw [Utf8.scalars_of_front?_eq_some hfront] at h
      cases hblank : isBlank c with
      | false =>
        rw [skipBlanks_of_not_blank hblank] at h
        cases h
      | true =>
        rw [skipBlanks_cons_of_blank hblank] at h
        -- A blank is ASCII, so one byte is gone.
        obtain ⟨hc, rfl⟩ := Utf8.front?_of_lt hfront (toNat_lt_of_isBlank hblank)
        exact List.forall_mem_cons.mpr ⟨isBlankByte_of_isBlank hblank hc, ih h⟩

/-- Behind the text of a value other than a number there can only be blanks. -/
theorem ofBytes?_append {x : Json} {u : Bytes} (hx : ∀ n, x ≠ .number n) (hu : ¬ ∀ b ∈ u, IsBlankByte b) :
    ofBytes? (Utf8.encodeChars (renderChars x) ++ u) = none := by
  have hparts (n : Numeral) : ofJson x ≠ .number n := by
    cases x with
    | number m => exact absurd rfl (hx m)
    | _ => nofun
  rw [ofBytes?, Utf8.scalars_encodeChars_append, parse_append (parse_renderChars x) hparts,
    if_neg fun hblank => hu (isBlankByte_of_skipBlanks hblank)]

/-- A text that ends with a stray byte has no container at its end. -/
theorem not_isSuffix_of_stray {n : Nat} (h : s = t ++ List.replicate (n + 1) none) (hrest : skipBlanks rest = []) :
    ¬ some c :: rest <:+ s := by
  intro hsuffix
  have hstray : [none] <:+ s := by
    rw [h, List.replicate_succ', ← List.append_assoc]
    exact List.suffix_append _ _
  -- Of two ends of one text, the shorter is an end of the longer.
  have hmem := (List.suffix_of_suffix_length_le hstray hsuffix (by simp)).subset (List.mem_singleton_self _)
  rcases List.mem_cons.mp hmem with heq | hmem
  · cases heq
  · exact none_not_mem_of_skipBlanks hrest hmem

/-- No part at the front of the text of a value is a container, other than the whole text. -/
theorem eq_of_isPrefix_of_ofBytes? {x : Json} {y : Raw} {p : Bytes} (hp : p <+: Utf8.encodeChars (renderChars x))
    (h : ofBytes? p = some y) (hy : y.IsContainer) : p = Utf8.encodeChars (renderChars x) := by
  obtain ⟨cs₁, cs₂, n, htext, hscalars, hwhole⟩ := Utf8.scalars_of_isPrefix hp
  obtain ⟨rest, hread, hrest⟩ := parse_eq_some_iff.mp h
  -- The part is not cut inside a character, since no stray byte stands at the end of a container or in blanks.
  obtain rfl : n = 0 := by
    obtain ⟨c, hsuffix⟩ := isSuffix_of_value hread hy
    cases n with
    | zero => rfl
    | succ n => exact absurd hsuffix (not_isSuffix_of_stray hscalars hrest)
  rw [List.replicate_zero, List.append_nil] at hscalars
  -- So the whole text begins with the same container, and nothing of the text is left.
  have hnumber (n : Numeral) : y ≠ .number n := by
    rintro rfl
    exact hy
  have hfuel : 2 * (Utf8.scalars p).length + 2 ≤ 2 * (renderChars x).length + 2 := by
    rw [hscalars, htext, List.length_map, List.length_append]
    omega
  have hpart := ((cuts_of_le hfuel).1 hread fun _ => hnumber).append (cs₂.map some)
  have htotal := value_renderChars x (2 * (renderChars x).length + 2) [] (by omega) trivial
  rw [hscalars, ← List.map_append, ← htext] at hpart
  rw [List.append_nil, hpart] at htotal
  have hleft : rest ++ cs₂.map some = [] := (Prod.mk.inj (Option.some.inj htotal)).2
  obtain rfl : cs₂ = [] := List.map_eq_nil_iff.mp (List.append_eq_nil_iff.mp hleft).2
  rw [htext, List.append_nil]
  exact hwhole rfl

end TopicGuard.Json.Raw
