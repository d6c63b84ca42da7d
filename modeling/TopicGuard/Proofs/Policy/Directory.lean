import TopicGuard.Grant
import TopicGuard.Proofs.Policy.Question
import TopicGuard.Token.Verifier
import TopicGuard.Topic.Placeholder

/-!
Policies.

A directory is a policy without a place: who is known, who is a superuser, and what is granted to whom. What it says
about a token (`Directory.verdict`) mentions neither a database nor a server, so each of them can be said to follow it.
-/

set_option autoImplicit false

namespace TopicGuard.Policy

/-- Who is known, who is a superuser, and what is granted to whom. -/
structure Directory where
  isKnown : String → Bool
  isSuperuser : String → Bool
  grants : String → List Grant

namespace Directory

variable {d : Directory} {verifier : Token.Verifier} {now : Instant} {token identity : String} {q : Question}

/-- What the policy says to a question about an identity. For a topic, some grant at the requested level or above has a
filter whose expansion for the client covers the topic. -/
def allows (d : Directory) (identity : String) : Question → Bool
  | .authenticate => d.isKnown identity
  | .isPrivileged => d.isSuperuser identity
  | .checkAccess topic clientId requested =>
    (d.grants identity).any fun g => g.level.includes requested &&
      match Substitution.expand ⟨identity, clientId⟩ g.filter with
      | .error _ => false
      | .ok e => Filter.covers e.text topic

/-- What the policy says to a question about a token: no unless the token is verified and in its validity window. -/
def verdict (d : Directory) (verifier : Token.Verifier) (now : Instant) (token : String) (q : Question) : Bool :=
  match verifier.verify .enforce now token with
  | .error _ => false
  | .ok claims => d.allows claims.identity q

theorem allows_checkAccess_iff {topic clientId : String} {requested : AccessLevel} :
    d.allows identity (.checkAccess topic clientId requested) = true ↔
      ∃ g ∈ d.grants identity, requested ≤ g.level
        ∧ ∃ e, Substitution.expand ⟨identity, clientId⟩ g.filter = .ok e ∧ Filter.covers e.text topic = true := by
  rw [allows, List.any_eq_true]
  refine exists_congr fun g => and_congr_right fun _ => ?_
  rw [Bool.and_eq_true, AccessLevel.includes, decide_eq_true_iff]
  refine and_congr_right fun _ => ?_
  cases Substitution.expand ⟨identity, clientId⟩ g.filter with
  | error cause => simp
  | ok e => simp

/-- What is allowed at a level is allowed at every lower level. -/
theorem allows_of_le {topic clientId : String} {requested lower : AccessLevel} (hle : lower ≤ requested)
    (h : d.allows identity (.checkAccess topic clientId requested) = true) :
    d.allows identity (.checkAccess topic clientId lower) = true := by
  rw [allows_checkAccess_iff] at h ⊢
  obtain ⟨g, hg, hlevel, he⟩ := h
  exact ⟨g, hg, Int64.le_trans hle hlevel, he⟩

theorem verdict_of_error {r : Token.Rejection} (h : verifier.verify .enforce now token = .error r) :
    d.verdict verifier now token q = false := by
  unfold verdict
  rw [h]

theorem verdict_of_ok {claims : Token.Claims} (h : verifier.verify .enforce now token = .ok claims) :
    d.verdict verifier now token q = d.allows claims.identity q := by
  unfold verdict
  rw [h]

end Directory

end TopicGuard.Policy
