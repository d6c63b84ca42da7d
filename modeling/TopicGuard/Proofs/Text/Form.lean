import TopicGuard.Proofs.Text.Base64
import TopicGuard.Proofs.Text.Utf8
import TopicGuard.Text.Percent

/-!
Forms read what they wrote.

A name or a value is written in a few characters only (`IsWritten`), and the marks between pairs and inside a pair are
none of them. So a form falls apart at its marks into what was put together, and each name and each value is read back
on its own (`decodePart_encodePart`). The reader turns plus signs into spaces before it looks for percent signs; a plus
sign that is part of the text has been written by its byte, and stays one.
-/

set_option autoImplicit false

namespace TopicGuard.Form

variable {c : Char} {cs rest : List Char}

/-! ## Bytes -/

theorem value?_digit : ∀ n < 16, Percent.value? (Percent.digit n) = some n := by
  decide

theorem digit_ne_plus : ∀ n < 16, Percent.digit n ≠ '+' := by
  decide

/-- A byte is read back from the two digits behind its percent sign. -/
theorem decode_encodeByte (b : UInt8) (rest : List Char) :
    Percent.decode (Percent.encodeByte b ++ rest) = b :: Percent.decode rest := by
  have hb : b.toNat < 0x100 := b.toNat_lt
  have hvalue : (b.toNat / 16 * 16 + b.toNat % 16).toUInt8 = b := Base64.toUInt8_eq (by omega)
  have hhigh := value?_digit (b.toNat / 16) (by omega)
  have hlow := value?_digit (b.toNat % 16) (by omega)
  rw [Percent.encodeByte, List.cons_append, List.cons_append, List.cons_append, List.nil_append, Percent.decode]
  simp only [hhigh, hlow, hvalue]

/-- Bytes that are written with percent signs are read back, whatever follows. -/
theorem decode_encodeBytes (bs : Bytes) (rest : List Char) :
    Percent.decode (bs.flatMap Percent.encodeByte ++ rest) = bs ++ Percent.decode rest := by
  induction bs with
  | nil => rfl
  | cons b bs ih => rw [List.flatMap_cons, List.append_assoc, decode_encodeByte, ih, List.cons_append]

/-- A character other than the percent sign stands for itself. -/
theorem decode_cons (h : c ≠ '%') : Percent.decode (c :: rest) = Utf8.encodeChar c ++ Percent.decode rest := by
  rw [Percent.decode]
  intro _ _ _ hc
  exact absurd hc h

/-! ## Parts -/

/-- The character can stand in a written part. -/
def IsWritten (c : Char) : Prop :=
  isPlain c = true ∨ c = '+' ∨ c = '%'

instance (c : Char) : Decidable (IsWritten c) :=
  inferInstanceAs (Decidable (_ ∨ _))

theorem isPlain_digit : ∀ n < 16, isPlain (Percent.digit n) = true := by
  decide

theorem isWritten_of_mem_encodeByte {b : UInt8} (h : c ∈ Percent.encodeByte b) : IsWritten c := by
  have hb : b.toNat < 0x100 := b.toNat_lt
  simp only [Percent.encodeByte, List.mem_cons, List.not_mem_nil, or_false] at h
  rcases h with rfl | rfl | rfl
  · exact .inr (.inr rfl)
  · exact .inl (isPlain_digit _ (by omega))
  · exact .inl (isPlain_digit _ (by omega))

/-- How one character is written. -/
def encodeOne (c : Char) : List Char :=
  if c = ' ' then ['+']
  else if isPlain c then [c]
  else (Utf8.encodeChar c).flatMap Percent.encodeByte

theorem encodePart_eq (cs : List Char) : encodePart cs = cs.flatMap encodeOne := rfl

/-- An encoded part is made of plain characters, plus signs and percent signs. -/
theorem isWritten_of_mem_encodePart (h : c ∈ encodePart cs) : IsWritten c := by
  rw [encodePart_eq, List.mem_flatMap] at h
  obtain ⟨d, -, h⟩ := h
  unfold encodeOne at h
  by_cases hspace : d = ' '
  · rw [if_pos hspace] at h
    exact .inr (.inl (List.mem_singleton.mp h))
  rw [if_neg hspace] at h
  by_cases hplain : isPlain d = true
  · rw [if_pos hplain] at h
    rw [List.mem_singleton.mp h]
    exact .inl hplain
  · rw [if_neg hplain] at h
    obtain ⟨b, -, hb⟩ := List.mem_flatMap.mp h
    exact isWritten_of_mem_encodeByte hb

/-- What the reader makes of the characters before it looks for percent signs. -/
def spaced (cs : List Char) : List Char :=
  cs.map fun c => if c = '+' then ' ' else c

/-- No plus sign is among the characters of written bytes, so none becomes a space. -/
theorem spaced_encodeBytes (bs : Bytes) :
    spaced (bs.flatMap Percent.encodeByte) = bs.flatMap Percent.encodeByte := by
  have hbyte (b : UInt8) : spaced (Percent.encodeByte b) = Percent.encodeByte b := by
    have hb : b.toNat < 0x100 := b.toNat_lt
    have hhigh := digit_ne_plus (b.toNat / 16) (by omega)
    have hlow := digit_ne_plus (b.toNat % 16) (by omega)
    simp [spaced, Percent.encodeByte, hhigh, hlow]
  induction bs with
  | nil => rfl
  | cons b bs ih =>
    have hsplit : spaced ((b :: bs).flatMap Percent.encodeByte)
        = spaced (Percent.encodeByte b) ++ spaced (bs.flatMap Percent.encodeByte) := by
      rw [List.flatMap_cons, spaced, List.map_append]
      rfl
    rw [hsplit, hbyte, ih, List.flatMap_cons]

/-- One written character is read as its bytes. -/
theorem decode_spaced_encodeOne (c : Char) (rest : List Char) :
    Percent.decode (spaced (encodeOne c) ++ rest) = Utf8.encodeChar c ++ Percent.decode rest := by
  unfold encodeOne
  by_cases hspace : c = ' '
  · subst hspace
    exact decode_cons (by decide)
  rw [if_neg hspace]
  by_cases hplain : isPlain c = true
  · -- Neither mark of the reader is plain.
    have hplus : c ≠ '+' := by
      rintro rfl
      cases hplain
    have hpercent : c ≠ '%' := by
      rintro rfl
      cases hplain
    have hspaced : spaced [c] = [c] := by
      simp [spaced, hplus]
    rw [if_pos hplain, hspaced]
    exact decode_cons hpercent
  · rw [if_neg hplain, spaced_encodeBytes, decode_encodeBytes]

/-- A part is read back as the bytes of its text. -/
theorem decode_spaced_encodePart (cs : List Char) :
    Percent.decode (spaced (encodePart cs)) = Utf8.encodeChars cs := by
  induction cs with
  | nil => rfl
  | cons c cs ih =>
    have hsplit : spaced (encodePart (c :: cs)) = spaced (encodeOne c) ++ spaced (encodePart cs) := by
      rw [encodePart_eq, List.flatMap_cons, spaced, List.map_append]
      rfl
    rw [hsplit, decode_spaced_encodeOne, ih]
    rfl

/-- A name or a value is read back. -/
theorem decodePart_encodePart (s : String) : decodePart (encodePart s.toList) = some s := by
  have hbytes : Percent.decode (spaced (encodePart s.toList)) = Utf8.encode s := decode_spaced_encodePart s.toList
  change Utf8.decode? (Percent.decode (spaced (encodePart s.toList))) = _
  rw [hbytes, Utf8.decode?_encode]

/-! ## Pairs -/

/-- A pair that was written is read back. -/
theorem parsePair_renderPair (pair : String × String) : parsePair (renderPair pair) = some pair := by
  have hname : ∀ c ∈ encodePart pair.1.toList, decide (c ≠ '=') = true := by
    intro c hc
    rw [decide_eq_true_iff]
    rintro rfl
    exact absurd (isWritten_of_mem_encodePart hc) (by decide)
  have hafter : (renderPair pair).dropWhile (· ≠ '=') = '=' :: encodePart pair.2.toList := by
    rw [renderPair, List.dropWhile_append_of_pos hname]
    rfl
  have hbefore : (renderPair pair).takeWhile (· ≠ '=') = encodePart pair.1.toList := by
    rw [renderPair, List.takeWhile_append_of_pos hname]
    exact List.append_nil _
  rw [parsePair, hbefore, hafter, List.drop_one, List.tail_cons, decodePart_encodePart, decodePart_encodePart]
  rfl

/-! ## Forms -/

variable {mark : Char}

/-- A text without the mark is not split. -/
theorem splitAt_of_not_mem (h : mark ∉ cs) : splitAt mark cs = [cs] := by
  induction cs with
  | nil => rfl
  | cons c cs ih =>
    rw [List.mem_cons, not_or] at h
    rw [splitAt, if_neg (Ne.symm h.1), ih h.2]

/-- The first mark is where a text falls apart first. -/
theorem splitAt_append (h : mark ∉ cs) : splitAt mark (cs ++ mark :: rest) = cs :: splitAt mark rest := by
  induction cs with
  | nil => rw [List.nil_append, splitAt, if_pos rfl]
  | cons c cs ih =>
    rw [List.mem_cons, not_or] at h
    rw [List.cons_append, splitAt, if_neg (Ne.symm h.1), ih h.2]

theorem ampersand_not_mem_renderPair (pair : String × String) : '&' ∉ renderPair pair := by
  have hpart (cs : List Char) : '&' ∉ encodePart cs := by
    intro h
    exact absurd (isWritten_of_mem_encodePart h) (by decide)
  rw [renderPair, List.mem_append, List.mem_cons, not_or, not_or]
  exact ⟨hpart _, by decide, hpart _⟩

/-- Pairs are split where they were joined. -/
theorem splitAt_intercalate {pair : String × String} {pairs : List (String × String)} :
    splitAt '&' (['&'].intercalate ((pair :: pairs).map renderPair)) = (pair :: pairs).map renderPair := by
  induction pairs generalizing pair with
  | nil =>
    have hone : ['&'].intercalate [renderPair pair] = renderPair pair := List.append_nil _
    rw [List.map_singleton, hone, splitAt_of_not_mem (ampersand_not_mem_renderPair pair)]
  | cons next pairs ih =>
    have hmore : ['&'].intercalate ((pair :: next :: pairs).map renderPair)
        = renderPair pair ++ '&' :: ['&'].intercalate ((next :: pairs).map renderPair) := by
      simp [List.intercalate]
    rw [hmore, splitAt_append (ampersand_not_mem_renderPair pair), ih]
    rfl

/-- A form is read back, with its pairs in order. -/
theorem parse_render (pairs : List (String × String)) : parse (render pairs) = some pairs := by
  unfold parse render
  rw [String.toList_ofList]
  cases pairs with
  | nil => rfl
  | cons pair pairs =>
    have hfilter : ((pair :: pairs).map renderPair).filter (fun part => !part.isEmpty)
        = (pair :: pairs).map renderPair := by
      rw [List.filter_eq_self]
      intro part hpart
      -- A pair has its equals sign at least.
      obtain ⟨pair, -, rfl⟩ := List.mem_map.mp hpart
      simp [renderPair]
    have hpairs (pairs : List (String × String)) : (pairs.map renderPair).mapM parsePair = some pairs := by
      induction pairs with
      | nil => rfl
      | cons pair pairs ih =>
        rw [List.map_cons, List.mapM_cons, parsePair_renderPair, ih]
        rfl
    rw [splitAt_intercalate, hfilter, hpairs]

end TopicGuard.Form
