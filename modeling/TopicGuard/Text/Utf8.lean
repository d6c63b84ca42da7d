/-!
UTF-8.

Bytes are read as a list with one entry per character: `some c` for a well-formed sequence, `none` for a
byte that belongs to none. No byte below 0x80 is ever part of a longer sequence, so a reader of ASCII
syntax can work on the entries and leave it to each text to refuse a `none` inside it.
-/

set_option autoImplicit false

namespace TopicGuard

/-- A sequence of octets. -/
abbrev Bytes := List UInt8

namespace Utf8

/-! ## Writing -/

/-- The one to four bytes of a character. -/
def encodeChar (c : Char) : Bytes :=
  let n := c.toNat
  if n < 0x80 then [n.toUInt8]
  else if n < 0x800 then [(0xC0 + n / 0x40).toUInt8, (0x80 + n % 0x40).toUInt8]
  else if n < 0x10000 then
    [(0xE0 + n / 0x1000).toUInt8, (0x80 + n / 0x40 % 0x40).toUInt8, (0x80 + n % 0x40).toUInt8]
  else
    [(0xF0 + n / 0x40000).toUInt8, (0x80 + n / 0x1000 % 0x40).toUInt8,
      (0x80 + n / 0x40 % 0x40).toUInt8, (0x80 + n % 0x40).toUInt8]

/-- The bytes of a list of characters. -/
def encodeChars (cs : List Char) : Bytes :=
  cs.flatMap encodeChar

/-- The bytes of a text. -/
def encode (s : String) : Bytes :=
  encodeChars s.toList

/-! ## Reading -/

/-- The six bits that a continuation byte carries. -/
def continuation? (b : UInt8) : Option Nat :=
  if 0x80 ≤ b.toNat && b.toNat < 0xC0 then some (b.toNat - 0x80) else none

/-- The character with code point `n`, unless `n` is below `least` (an overlong form), a surrogate or out
of range. -/
def scalar? (least n : Nat) : Option Char :=
  if least ≤ n && (n < 0xD800 || (0xDFFF < n && n < 0x110000)) then some (Char.ofNat n) else none

/-- The character of a two-byte sequence. -/
def two? (a b : UInt8) : Option Char := do
  guard (0xC0 ≤ a.toNat && a.toNat < 0xE0)
  let x ← continuation? b
  scalar? 0x80 ((a.toNat - 0xC0) * 0x40 + x)

/-- The character of a three-byte sequence. -/
def three? (a b c : UInt8) : Option Char := do
  guard (0xE0 ≤ a.toNat && a.toNat < 0xF0)
  let x ← continuation? b
  let y ← continuation? c
  scalar? 0x800 ((a.toNat - 0xE0) * 0x1000 + x * 0x40 + y)

/-- The character of a four-byte sequence. -/
def four? (a b c d : UInt8) : Option Char := do
  guard (0xF0 ≤ a.toNat && a.toNat < 0xF8)
  let x ← continuation? b
  let y ← continuation? c
  let z ← continuation? d
  scalar? 0x10000 ((a.toNat - 0xF0) * 0x40000 + x * 0x1000 + y * 0x40 + z)

/-- The character at the front of a sequence of bytes, with what follows it. -/
def front? : Bytes → Option (Char × Bytes)
  | [] => none
  | a :: rest =>
    if a.toNat < 0x80 then some (Char.ofNat a.toNat, rest)
    else match rest with
      | [] => none
      | b :: r₂ =>
        match two? a b with
        | some ch => some (ch, r₂)
        | none => match r₂ with
          | [] => none
          | c :: r₃ =>
            match three? a b c with
            | some ch => some (ch, r₃)
            | none => match r₃ with
              | [] => none
              | d :: r₄ => (four? a b c d).map fun ch => (ch, r₄)

theorem length_front?_lt {bs rest : Bytes} {c : Char} (h : front? bs = some (c, rest)) :
    rest.length < bs.length := by
  unfold front? at h
  repeat' split at h
  all_goals first
    | (simp at h; done)
    | (simp only [Option.some.injEq, Prod.mk.injEq] at h; obtain ⟨-, rfl⟩ := h; simp only [List.length_cons]; omega)
    | (simp only [Option.map_eq_some_iff, Prod.mk.injEq] at h
       obtain ⟨_, -, -, rfl⟩ := h; simp only [List.length_cons]; omega)

/-- One entry per character, and a `none` for every byte outside a well-formed sequence. -/
def scalars : Bytes → List (Option Char)
  | [] => []
  | b :: bs =>
    match _h : front? (b :: bs) with
    | some (c, rest) => some c :: scalars rest
    | none => none :: scalars bs
termination_by bs => bs.length
decreasing_by
  · exact length_front?_lt _h
  · simp

/-- All entries as characters, if none is missing. -/
def allScalars? : List (Option Char) → Option (List Char)
  | [] => some []
  | some c :: rest => (allScalars? rest).map (c :: ·)
  | none :: _ => none

/-- The text that the bytes spell, if they are UTF-8 throughout. -/
def decode? (bs : Bytes) : Option String :=
  (allScalars? (scalars bs)).map String.ofList

/-- The text that the bytes spell, with the replacement character for each byte that spells nothing. -/
def decodeLossy (bs : Bytes) : String :=
  String.ofList ((scalars bs).map fun c => c.getD '\uFFFD')

end Utf8

end TopicGuard
