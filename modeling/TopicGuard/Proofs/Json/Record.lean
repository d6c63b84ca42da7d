import TopicGuard.Json.Record
import TopicGuard.Proofs.Json.Writing

/-!
Records are read from the members that name their fields.

A written object gives a field the values of all members whose key is one of the field's names (`Layout.given`). A
record is read from the object exactly if no field is given two values, and then it has the values that are given
(`Layout.lookup_of_ofMembers?`, `Layout.exists_ofMembers?`). Other members are passed over, whatever they are.
-/

set_option autoImplicit false

namespace TopicGuard.Json.Layout

variable {l : Layout} {name key : String} {x : Json} {members : List (String × Json)} {fields : List (String × Raw)}

/-- The values that the members of an object give to a field, under any of its names. -/
def given (l : Layout) (name : String) (members : List (String × Json)) : List Json :=
  (members.filter fun m => l.principal? m.1 = some name).map Prod.snd

theorem given_cons_of_eq (h : l.principal? key = some name) :
    l.given name ((key, x) :: members) = x :: l.given name members := by
  rw [given, List.filter_cons_of_pos (by simpa using h), List.map_cons, given]

theorem given_cons_of_ne (h : l.principal? key ≠ some name) :
    l.given name ((key, x) :: members) = l.given name members := by
  rw [given, List.filter_cons_of_neg (by simpa using h), given]

theorem any_eq_isSome_lookup (fields : List (String × Raw)) (name : String) :
    (fields.any fun f => f.1 == name) = (fields.lookup name).isSome := by
  induction fields with
  | nil => rfl
  | cons f fields ih =>
    rw [List.any_cons, List.lookup_cons, ih, Bool.beq_comm]
    cases name == f.1 <;> rfl

/-- A member more is passed over, or gives its value to a field that has none yet. -/
theorem ofMembers?_cons : l.ofMembers? (Raw.membersOfJson ((key, x) :: members))
    = (l.ofMembers? (Raw.membersOfJson members)).bind fun fields =>
        match l.principal? key with
        | none => some fields
        | some name => if (fields.lookup name).isSome then none else some ((name, Raw.ofJson x) :: fields) := by
  rw [Raw.membersOfJson, ofMembers?, text?_ofString, Option.bind_eq_bind, Option.bind_some]
  congr 1
  funext fields
  cases l.principal? key with
  | none => rfl
  | some name =>
    simp only [any_eq_isSome_lookup]
    cases (fields.lookup name).isSome <;> rfl

/-- A record has the values that are given to its fields, at most one each. -/
theorem lookup_of_ofMembers? (h : l.ofMembers? (Raw.membersOfJson members) = some fields) (name : String) :
    (fields.lookup name).toList = (l.given name members).map Raw.ofJson := by
  -- The record is made from the last member to the first, so the induction speaks of the members behind this one.
  induction members generalizing fields with
  | nil =>
    cases h
    rfl
  | cons m members ih =>
    obtain ⟨key, x⟩ := m
    rw [ofMembers?_cons, Option.bind_eq_some_iff] at h
    obtain ⟨fields', hread, h⟩ := h
    have htail := ih hread
    split at h
    · next hnone =>
      cases h
      rw [given_cons_of_ne (by rw [hnone]; nofun), htail]
    · next name' hsome =>
      split at h
      · cases h
      · next hfree =>
        cases h
        rw [List.lookup_cons]
        by_cases heq : name = name'
        · subst heq
          -- No other member gives the field a value.
          rw [Option.not_isSome_iff_eq_none.mp hfree] at htail
          rw [given_cons_of_eq hsome, List.map_cons, ← htail, beq_self_eq_true]
          rfl
        · rw [given_cons_of_ne (by rw [hsome]; exact fun h => heq (Option.some.inj h).symm), ← htail,
            beq_false_of_ne heq]

/-- A record is read wherever no field is given two values. -/
theorem exists_ofMembers? (h : ∀ name, (l.given name members).length ≤ 1) :
    ∃ fields, l.ofMembers? (Raw.membersOfJson members) = some fields := by
  induction members with
  | nil => exact ⟨[], rfl⟩
  | cons m members ih =>
    obtain ⟨key, x⟩ := m
    have htail (name : String) : (l.given name members).length ≤ 1 := by
      refine Nat.le_trans ?_ (h name)
      by_cases heq : l.principal? key = some name
      · rw [given_cons_of_eq heq, List.length_cons]
        exact Nat.le_succ _
      · exact Nat.le_of_eq (by rw [given_cons_of_ne heq])
    obtain ⟨fields, hread⟩ := ih htail
    rw [ofMembers?_cons, hread, Option.bind_some]
    cases hkey : l.principal? key with
    | none => exact ⟨fields, rfl⟩
    | some name =>
      -- The value of this member is the only one that the field is given.
      have hgiven := h name
      rw [given_cons_of_eq hkey, List.length_cons] at hgiven
      have hnone : l.given name members = [] := List.eq_nil_of_length_eq_zero (by omega)
      have hfree := lookup_of_ofMembers? hread name
      rw [hnone, List.map_nil, Option.toList_eq_nil_iff] at hfree
      refine ⟨(name, Raw.ofJson x) :: fields, ?_⟩
      simp only [hfree, Option.isSome_none, Bool.false_eq_true, if_false]

end TopicGuard.Json.Layout
