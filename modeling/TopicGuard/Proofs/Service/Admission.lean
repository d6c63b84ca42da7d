import TopicGuard.Proofs.Service.Directory
import TopicGuard.Proofs.Token.Signing

/-!
Why a service that verifies tokens refuses one.

A token is not admitted if it is rejected here, and also if it cannot stand in a header. Where tokens are verified the
second reason never applies alone: a token that is accepted is written in letters, decimal digits, hyphens, low lines
and dots (`isTokenChar_of_verify`), each of which is one byte of a header value. So such a service answers with a no and
sends nothing exactly if verification fails, at every point of a run before the closing (`refused_iff_rejected`).
-/

set_option autoImplicit false

namespace TopicGuard.Service

open Policy (Question)

variable {v : Token.Verifier} {s : Service} {now : Instant} {token : String} {q : Question}

/-! ## The characters of a token -/

/-- The character is a letter or a decimal digit of ASCII, a hyphen, a low line or a dot. -/
def IsTokenChar (c : Char) : Prop :=
  c.isAlphanum = true ∨ c = '-' ∨ c = '_' ∨ c = '.'

/-- A token that is accepted has no other characters. -/
theorem isTokenChar_of_verify {expiry : Token.Expiry} {claims : Token.Claims}
    (h : v.verify expiry now token = .ok claims) : ∀ c ∈ token.toList, IsTokenChar c := by
  intro c hc
  unfold IsTokenChar
  rcases Token.isDigit_of_verify h hc with hdigit | hdot
  · rcases Base64.isDigit_url_iff.mp hdigit with halphanum | hhyphen | hline
    · exact .inl halphanum
    · exact .inr (.inl hhyphen)
    · exact .inr (.inr (.inl hline))
  · exact .inr (.inr (.inr hdot))

/-- Each character of an ASCII text is one byte. -/
theorem encode_of_lt {text : String} (h : ∀ c ∈ text.toList, c.toNat < 0x80) :
    Utf8.encode text = text.toList.map fun c => c.toNat.toUInt8 := by
  unfold Utf8.encode Utf8.encodeChars
  rw [List.map_eq_flatMap]
  apply List.flatMap_congr
  intro c hc
  exact Utf8.encodeChar_of_lt (h c hc)

theorem encode_of_verify {expiry : Token.Expiry} {claims : Token.Claims}
    (h : v.verify expiry now token = .ok claims) :
    Utf8.encode token = token.toList.map fun c => c.toNat.toUInt8 := by
  apply encode_of_lt
  intro c hc
  have hvisible := Token.toNat_mem_of_verify h hc
  omega

/-! ## Refusals -/

/-- A service that verifies tokens admits exactly those that are accepted. -/
theorem admits_eq_false_iff (hs : s.verifier = some v) :
    s.admits now token = false ↔ ∃ r, v.verify .enforce now token = .error r := by
  cases hv : v.verify .enforce now token with
  | error r => exact iff_of_true (admits_of_verify_error hs hv) ⟨r, rfl⟩
  | ok claims =>
    rw [admits_of_verify_ok hs hv]
    simp

/-- A token that is accepted, under whichever verifier and whether or not the validity window counts, consists of
letters and decimal digits of ASCII, hyphens, low lines and dots; so it can stand in a header, and there its bytes are
its characters.

Hence, for a service that verifies tokens, at every point of every run before the closing, and however the world
replies: the answer to a question is a no without a request exactly if the token is rejected, and about a token that is
accepted exactly one request is sent, with the token in its header. -/
theorem refused_iff_rejected (v : Token.Verifier) :
    (∀ expiry now token claims, v.verify expiry now token = .ok claims →
        (∀ c ∈ token.toList, IsTokenChar c)
          ∧ isHeaderValue token = true
          ∧ Utf8.encode token = token.toList.map fun c => c.toNat.toUInt8)
      ∧ ∀ (s : Service), s.verifier = some v →
          ∀ (World : Type) (respond : Request → StateM World Reply) (w : World) (before : List Call),
            .close ∉ before → ∀ now token q,
              let st := (s.run respond ⟨false, w, []⟩ before).2
              ∃ answer st', s.step respond st (.ask now token q) = (some answer, st')
                ∧ (answer = .ok false ∧ st'.sent = st.sent ↔ ∃ r, v.verify .enforce now token = .error r)
                ∧ ((∃ claims, v.verify .enforce now token = .ok claims) →
                    st'.sent = st.sent ++ [s.requestFor token q] ∧ (s.requestFor token q).authorization = token) := by
  constructor
  · intro expiry now token claims h
    exact ⟨isTokenChar_of_verify h, isHeaderValue_of_verify h, encode_of_verify h⟩
  · intro s hs World respond w before hclose now token q st
    have hopen : st.closed = false := by
      rw [← Bool.not_eq_true, closed_run_iff]
      simp [hclose]
    by_cases hadmits : s.admits now token = true
    · have haccepted : ¬ ∃ r, v.verify .enforce now token = .error r := by
        rw [← admits_eq_false_iff hs, hadmits]
        exact Bool.noConfusion
      refine ⟨_, _, step_of_admits hopen hadmits, iff_of_false ?_ haccepted, fun _ => ⟨rfl, rfl⟩⟩
      -- The request makes the record longer.
      rintro ⟨-, hsent⟩
      simp at hsent
    · rw [Bool.not_eq_true] at hadmits
      obtain ⟨r, hr⟩ := (admits_eq_false_iff hs).mp hadmits
      refine ⟨_, _, step_of_not_admits hopen hadmits, iff_of_true ⟨rfl, rfl⟩ ⟨r, hr⟩, ?_⟩
      rintro ⟨claims, hclaims⟩
      rw [hr] at hclaims
      cases hclaims

/-- A text with a line break is refused and not sent, and the signed token that comes after it is sent as it is. -/
theorem refused_iff_rejected_after_line_break :
    let v : Token.Verifier := .ofSecret "k" "username" 0
    let url : Url := ⟨⟨.http, "", .ipv4 0x7F000001, none⟩, [], none, none⟩
    let s : Service := ⟨⟨url, url, url⟩, .json, .text, .ofSeconds 5, some v⟩
    let respond : Request → StateM Unit Reply := fun _ => pure (.response 200 (.ok wordForYes))
    let token := Token.sign (.object [("username", .string "u")]) "k"
    let early : List Call := [.ask .epoch "a.b\n" .authenticate]
    let st := (s.run respond ⟨false, (), []⟩ early).2
    isHeaderValue token = true ∧ st.sent = []
      ∧ ∃ answer st', s.step respond st (.ask .epoch token .isPrivileged) = (some answer, st')
        ∧ st'.sent = [⟨url, token, encode .json .none⟩] := by
  intro v url s respond token early st
  have hv : v.verify .enforce .epoch token = .ok ⟨"u", none, none, [], none, none, none⟩ :=
    Token.verify_sign_name (by decide)
  have hrejected : v.verify .enforce .epoch "a.b\n" = .error (.malformed .shape) := by decide +kernel
  obtain ⟨hwritten, hrefused⟩ := refused_iff_rejected v
  have hunsent : st.sent = [] := by
    obtain ⟨answer, st', hstep, hiff, -⟩ :=
      hrefused s rfl Unit respond () [] (by simp) .epoch "a.b\n" .authenticate
    have hst : st = st' := congrArg Prod.snd hstep
    rw [hst]
    exact (hiff.mpr ⟨_, hrejected⟩).2
  obtain ⟨answer, st', hstep, -, hsent⟩ :=
    hrefused s rfl Unit respond () early (by simp [early]) .epoch token .isPrivileged
  refine ⟨(hwritten _ _ _ _ hv).2.1, hunsent, answer, st', hstep, ?_⟩
  have hadded : st'.sent = st.sent ++ [s.requestFor token .isPrivileged] := (hsent ⟨_, hv⟩).1
  rw [hadded, hunsent]
  rfl

end TopicGuard.Service
