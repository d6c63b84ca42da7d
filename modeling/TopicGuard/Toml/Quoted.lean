import TopicGuard.Toml.Scalar

/-!
Quoted texts of TOML documents.

Each reader begins behind the opening quotation marks and ends behind the closing ones. Texts in double marks
have escapes, texts in single marks have none; three marks on either side let a text run over several lines,
where every line break counts as a line feed.
-/

set_option autoImplicit false

namespace TopicGuard.Toml

/-- A character that may stand for itself in a text or a comment: no control but the tab. -/
def isPrintable (c : Char) : Bool :=
  c == '\t' || (0x20 ≤ c.toNat && c.toNat ≠ 0x7F)

/-- A blank within a line. -/
def isSpace (c : Char) : Bool :=
  c == ' ' || c == '\t'

/-! ## Escapes -/

/-- The character with a code point, unless it is half a surrogate pair or out of range. -/
def scalar? (n : Nat) : Option Char :=
  if n < 0xD800 ∨ (0xDFFF < n ∧ n < 0x110000) then some (Char.ofNat n) else none

/-- The character that so many hexadecimal digits name, with what follows. -/
def codePoint? (width : Nat) (cs : List Char) : Option (Char × List Char) := do
  let ds ← (cs.take width).mapM (digit? 16)
  let c ← scalar? (ofDigits 16 ds)
  if ds.length = width then some (c, cs.drop width) else none

/-- The character that an escape behind its backslash stands for, with what follows. -/
def escape? : List Char → Option (Char × List Char)
  | 'b' :: cs => some ('\x08', cs)
  | 't' :: cs => some ('\t', cs)
  | 'n' :: cs => some ('\n', cs)
  | 'f' :: cs => some ('\x0c', cs)
  | 'r' :: cs => some ('\r', cs)
  | '"' :: cs => some ('"', cs)
  | '\\' :: cs => some ('\\', cs)
  | 'u' :: cs => codePoint? 4 cs
  | 'U' :: cs => codePoint? 8 cs
  | _ => none

theorem length_codePoint?_le {width : Nat} {cs rest : List Char} {c : Char}
    (h : codePoint? width cs = some (c, rest)) : rest.length ≤ cs.length := by
  simp only [codePoint?, bind, Option.bind_eq_some_iff] at h
  obtain ⟨_, -, _, -, h⟩ := h
  split at h
  · obtain ⟨-, rfl⟩ := Prod.mk.inj (Option.some.inj h)
    simp
  · cases h

theorem length_escape?_lt {cs rest : List Char} {c : Char} (h : escape? cs = some (c, rest)) :
    rest.length < cs.length := by
  unfold escape? at h
  split at h
  case h_10 => cases h
  case h_8 | h_9 =>
    have hle := length_codePoint?_le h
    simp only [List.length_cons]
    omega
  all_goals
    obtain ⟨-, rfl⟩ := Prod.mk.inj (Option.some.inj h)
    simp

/-! ## Texts on one line -/

/-- A text in double marks. -/
def basic? : List Char → Option (List Char × List Char)
  | [] => none
  | '"' :: cs => some ([], cs)
  | '\\' :: cs =>
    match _h : escape? cs with
    | none => none
    | some (c, rest) => (basic? rest).map fun (text, rest) => (c :: text, rest)
  | c :: cs =>
    if isPrintable c then (basic? cs).map fun (text, rest) => (c :: text, rest) else none
termination_by cs => cs.length
decreasing_by
  · have := length_escape?_lt _h; simp only [List.length_cons]; omega
  · simp

/-- A text in single marks. -/
def literal? : List Char → Option (List Char × List Char)
  | [] => none
  | '\'' :: cs => some ([], cs)
  | c :: cs =>
    if isPrintable c then (literal? cs).map fun (text, rest) => (c :: text, rest) else none

/-! ## Texts over several lines -/

/-- The rest behind a line break at the front. -/
def afterBreak? : List Char → Option (List Char)
  | '\n' :: cs => some cs
  | '\r' :: '\n' :: cs => some cs
  | _ => none

/-- The rest without blanks and line breaks at the front. -/
def skipBlank : List Char → List Char
  | '\r' :: '\n' :: cs => skipBlank cs
  | c :: cs => if isSpace c || c == '\n' then skipBlank cs else c :: cs
  | [] => []

theorem length_skipBlank_le (cs : List Char) : (skipBlank cs).length ≤ cs.length := by
  fun_induction skipBlank cs with
  | case1 cs ih => simp only [List.length_cons]; omega
  | case2 c cs _ _ ih => simp only [List.length_cons]; omega
  | case3 => simp
  | case4 => simp

theorem length_afterBreak?_lt {cs rest : List Char} (h : afterBreak? cs = some rest) :
    rest.length < cs.length := by
  unfold afterBreak? at h
  split at h <;> simp_all only [Option.some.injEq, List.length_cons, reduceCtorEq]
  all_goals omega

/-- The rest behind a line that ends in a backslash, if this is one. -/
def afterFold? (cs : List Char) : Option (List Char) :=
  (afterBreak? (cs.dropWhile isSpace)).map skipBlank

theorem length_dropWhile_isSpace_le (cs : List Char) :
    (cs.dropWhile isSpace).length ≤ cs.length :=
  (List.dropWhile_suffix isSpace).length_le

theorem length_afterFold?_lt {cs rest : List Char} (h : afterFold? cs = some rest) :
    rest.length < cs.length := by
  simp only [afterFold?, Option.map_eq_some_iff] at h
  obtain ⟨mid, hmid, rfl⟩ := h
  have := length_afterBreak?_lt hmid
  have := length_skipBlank_le mid
  have := length_dropWhile_isSpace_le cs
  omega

/-- What stands behind three closing marks. Up to two more marks in front of them belong to the text. -/
def closing (mark : Char) : List Char → List Char × List Char
  | [] => ([], [])
  | c :: cs =>
    if c = mark then
      match cs with
      | [] => ([mark], [])
      | d :: ds => if d = mark then ([mark, mark], ds) else ([mark], d :: ds)
    else ([], c :: cs)

/-- A text in three double marks. -/
def multiBasic? : List Char → Option (List Char × List Char)
  | [] => none
  | '"' :: '"' :: '"' :: cs => some (closing '"' cs)
  | '\r' :: '\n' :: cs => (multiBasic? cs).map fun (text, rest) => ('\n' :: text, rest)
  | '\\' :: cs =>
    match _h : afterFold? cs with
    | some rest => multiBasic? rest
    | none =>
      match _h : escape? cs with
      | none => none
      | some (c, rest) => (multiBasic? rest).map fun (text, rest) => (c :: text, rest)
  | c :: cs =>
    if isPrintable c || c == '\n' then
      (multiBasic? cs).map fun (text, rest) => (c :: text, rest)
    else none
termination_by cs => cs.length
decreasing_by
  · simp only [List.length_cons]; omega
  · have := length_afterFold?_lt _h; simp only [List.length_cons]; omega
  · have := length_escape?_lt _h; simp only [List.length_cons]; omega
  · simp

/-- A text in three single marks. -/
def multiLiteral? : List Char → Option (List Char × List Char)
  | [] => none
  | '\'' :: '\'' :: '\'' :: cs => some (closing '\'' cs)
  | '\r' :: '\n' :: cs => (multiLiteral? cs).map fun (text, rest) => ('\n' :: text, rest)
  | c :: cs =>
    if isPrintable c || c == '\n' then
      (multiLiteral? cs).map fun (text, rest) => (c :: text, rest)
    else none

/-- The rest behind a line break at the front of a text over several lines, which is not part of it. -/
def afterFirstBreak (cs : List Char) : List Char :=
  (afterBreak? cs).getD cs

/-- A text in quotation marks of any kind. -/
def quoted? : List Char → Option (List Char × List Char)
  | '"' :: '"' :: '"' :: cs => multiBasic? (afterFirstBreak cs)
  | '\'' :: '\'' :: '\'' :: cs => multiLiteral? (afterFirstBreak cs)
  | '"' :: cs => basic? cs
  | '\'' :: cs => literal? cs
  | _ => none

end TopicGuard.Toml
