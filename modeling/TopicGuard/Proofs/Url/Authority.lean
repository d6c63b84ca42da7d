import Mathlib.Data.List.TakeWhile
import Mathlib.Tactic.ByContra
import TopicGuard.Proofs.Outcome
import TopicGuard.Url

/-!
Which part of an address says where it leads.

The text behind the scheme is cleaned, the slashes at its front are skipped, and the authority goes from there up to the
next slash, question mark or hash sign (`authorityOf`). Everything about the origin is read from it
(`origin_parseWith`).

A slash closes what stands before it: nothing behind it is cleaned into it or out of it (`clean_append`). So a text that
names anything at all, that is, has a character that is neither ignored nor a slash, has settled the authority by the
time a slash follows, whatever comes after (`authorityOf_append`). A text that names nothing is skipped together with
the slash, and then it is what follows that says where the address leads (`authorityOf_append_of_not_names`).

Of the authority itself nothing is used here but that it is read by a function of the scheme and of this text. So
everything holds for any reader of hosts, whatever names it knows.
-/

set_option autoImplicit false

namespace TopicGuard.Url

variable {readHost : HostReader} {scheme : Scheme} {front : List Char}

/-! ## The authority as a text -/

/-- The text that the origin is read from. -/
def authorityOf (afterColon : List Char) : List Char :=
  ((clean afterColon).dropWhile isSlash).takeWhile fun c => !endsAuthority c

/-- The text has a character that is neither ignored nor a slash. -/
def Names (cs : List Char) : Prop :=
  ∃ c ∈ cs, isIgnored c = false ∧ isSlash c = false

instance (cs : List Char) : Decidable (Names cs) :=
  List.decidableBEx _ cs

theorem names_append {cs ds : List Char} : Names (cs ++ ds) ↔ Names cs ∨ Names ds := by
  unfold Names
  simp only [List.mem_append, or_and_right, exists_or]

/-- The origin is read from the authority, and nothing else can make an address unreadable. -/
theorem origin_parseWith (readHost : HostReader) (scheme : Scheme) (cs : List Char) :
    (parseWith readHost scheme cs).map Url.origin = parseAuthority readHost scheme (authorityOf cs) := by
  unfold parseWith
  show Except.map Url.origin (parseAuthority readHost scheme (authorityOf cs) >>= _) = _
  cases parseAuthority readHost scheme (authorityOf cs) with
  | error cause => rfl
  | ok origin => rfl

/-- The scheme of an origin is the one that it was read with. -/
theorem scheme_of_parseAuthority {authority : List Char} {origin : Origin}
    (h : parseAuthority readHost scheme authority = .ok origin) : origin.scheme = scheme := by
  unfold parseAuthority at h
  obtain ⟨host, -, h⟩ := Outcome.bind_eq_ok_iff.mp h
  obtain ⟨port, -, h⟩ := Outcome.bind_eq_ok_iff.mp h
  cases h
  rfl

/-! ## What a slash closes -/

/-- Only the part behind a slash is trimmed, for a slash is no blank. -/
theorem trim_append (kept rest : List Char) :
    ((kept ++ '/' :: rest).reverse.dropWhile fun c => decide (c.toNat ≤ 0x20)).reverse
      = kept ++ '/' :: (rest.reverse.dropWhile fun c => decide (c.toNat ≤ 0x20)).reverse := by
  have hreverse : (kept ++ '/' :: rest).reverse = rest.reverse ++ '/' :: kept.reverse := by simp
  rw [hreverse, List.dropWhile_append, List.dropWhile_cons_of_neg (by decide)]
  by_cases hblank : (rest.reverse.dropWhile fun c => decide (c.toNat ≤ 0x20)).isEmpty = true
  · rw [if_pos hblank, List.isEmpty_iff.mp hblank]
    simp
  · rw [if_neg hblank]
    simp

theorem clean_append (front rest : List Char) :
    clean (front ++ '/' :: rest) = (front.filter fun c => !isIgnored c) ++ '/' :: clean rest := by
  unfold clean
  rw [List.filter_append, List.filter_cons_of_pos (by decide), trim_append]

/-- A text that names something has settled the authority when a slash follows. -/
theorem authorityOf_append (h : Names front) (rest : List Char) :
    authorityOf (front ++ '/' :: rest)
      = ((front.filter fun c => !isIgnored c).dropWhile isSlash).takeWhile fun c => !endsAuthority c := by
  obtain ⟨c, hc, hkept, hslash⟩ := h
  have hleft : ((front.filter fun c => !isIgnored c).dropWhile isSlash).isEmpty = false := by
    rw [List.isEmpty_eq_false_iff, Ne, List.dropWhile_eq_nil_iff]
    intro hall
    have hmem : c ∈ front.filter fun c => !isIgnored c := by
      rw [List.mem_filter, hkept]
      exact ⟨hc, rfl⟩
    rw [hall c hmem] at hslash
    cases hslash
  unfold authorityOf
  -- The slashes end inside the text, and the authority ends at the slash behind it at the latest.
  rw [clean_append, List.dropWhile_append, if_neg (by simp [hleft]), List.takeWhile_append,
    List.takeWhile_cons_of_neg (by decide), List.append_nil]
  split
  · next hlength => exact ((List.takeWhile_prefix _).eq_of_length hlength).symm
  · rfl

/-- One that names nothing leaves the authority to what follows the slash. -/
theorem authorityOf_append_of_not_names (h : ¬ Names front) (rest : List Char) :
    authorityOf (front ++ '/' :: rest) = authorityOf rest := by
  have hslashes : ∀ c ∈ front.filter fun c => !isIgnored c, isSlash c = true := by
    intro c hc
    rw [List.mem_filter, Bool.not_eq_true'] at hc
    by_contra hslash
    exact h ⟨c, hc.1, hc.2, Bool.of_not_eq_true hslash⟩
  unfold authorityOf
  rw [clean_append, List.dropWhile_append_of_pos hslashes, List.dropWhile_cons_of_pos (by decide)]

/-- Behind a text that names something nothing makes a difference to the origin, or to whether there is one. -/
theorem origin_parseWith_append (readHost : HostReader) (scheme : Scheme) (h : Names front) (rest : List Char) :
    (parseWith readHost scheme (front ++ '/' :: rest)).map Url.origin
      = (parseWith readHost scheme (front ++ ['/'])).map Url.origin := by
  rw [origin_parseWith, origin_parseWith, authorityOf_append h, authorityOf_append h]

/-- Behind a text that names nothing the origin is read from what follows the slash. -/
theorem origin_parseWith_of_not_names (readHost : HostReader) (scheme : Scheme) (h : ¬ Names front)
    (rest : List Char) :
    (parseWith readHost scheme (front ++ '/' :: rest)).map Url.origin
      = parseAuthority readHost scheme (authorityOf rest) := by
  rw [origin_parseWith, authorityOf_append_of_not_names h]

end TopicGuard.Url
