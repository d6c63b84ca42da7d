import TopicGuard.Proofs.Config.Variables
import TopicGuard.Proofs.Number.Numeral
import TopicGuard.Proofs.Text.Blank

/-!
What the text of a variable denotes.

The text of a number, a mode or a truth value denotes a value by itself, whatever reads it (`Kind.Denotes`). Numbers
and modes are read as what they denote, and a text that denotes nothing is refused with the name of its variable
(`Refuses`). A truth value is never refused: every text that is not a spelling of true is read as false, and white
space around a spelling is not taken off. So the exact condition under which all variables are taken at their word is
about the truth values alone (`IsPlain`).
-/

set_option autoImplicit false

namespace TopicGuard.Config

open Outcome (mapError_eq_error_iff)

variable {α : Type} {env : Environment} {read : FileReader} {name text : String}

/-! ## Kinds -/

namespace Kind

/-- The text, without white space around it, denotes the value. A name may be in any case. A text or a secret denotes
itself, with all its white space. -/
def Denotes : {α : Type} → Kind α → String → α → Prop
  | _, .text, text, s => text = s
  | _, .secret, text, s => text = s.exposed
  | _, .backend, text, k => Service.normalizeName text = k.name
  | _, .uint16, text, n => Numeral.Writes (Text.trim text) n.toNat
  | _, .uint32, text, n => Numeral.Writes (Text.trim text) n.toNat
  | _, .uint64, text, n => Numeral.Writes (Text.trim text) n.toNat
  | _, .bool, text, b => Service.normalizeName text ∈ if b then ["true", "1"] else ["false", "0"]
  | _, .paramsMode, text, m => Service.normalizeName text = m.name
  | _, .responseMode, text, m => Service.normalizeName text = m.name

/-- The kinds whose values are not texts. -/
def IsTyped : {α : Type} → Kind α → Prop
  | _, .text | _, .secret => False
  | _, _ => True

/-- The kind of truth values. -/
def IsTruth : {α : Type} → Kind α → Prop
  | _, .bool => True
  | _, _ => False

/-- What a value is called where its text is refused, if not every text is taken. -/
def noun? : {α : Type} → Kind α → Option String
  | _, .text | _, .secret | _, .bool => none
  | _, .backend => some "backend mode"
  | _, .uint16 => some "u16"
  | _, .uint32 => some "u32"
  | _, .uint64 => some "u64"
  | _, .paramsMode => some "params mode"
  | _, .responseMode => some "response mode"

/-- The value that a text without white space around it is read as. -/
def parse? : {α : Type} → Kind α → String → Option α
  | _, .text, s => some s
  | _, .secret, s => some ⟨s⟩
  | _, .backend, s => (BackendKind.parse s).toOption
  | _, .uint16, s => (Numeral.natural? (Numeral.greatest 16) s).map Nat.toUInt16
  | _, .uint32, s => (Numeral.natural? (Numeral.greatest 32) s).map Nat.toUInt32
  | _, .uint64, s => (Numeral.natural? (Numeral.greatest 64) s).map Nat.toUInt64
  | _, .bool, s => some (truthOf s)
  | _, .paramsMode, s => (Service.ParamsMode.parse s).toOption
  | _, .responseMode, s => (Service.ResponseMode.parse s).toOption

/-- Why nothing can be told about a value: the text of its variable denotes none, or it is a secret that cannot be
loaded. -/
inductive Refuses (env : Environment) (read : FileReader) (name : String) : {α : Type} → Kind α → Fault → Prop where
  | text {α : Type} {k : Kind α} {noun text : String} (hnoun : k.noun? = some noun)
    (hset : env.nonEmpty? name = some text) (hnone : ∀ x, ¬ k.Denotes text x) :
    Refuses env read name k (.variableText name noun text)
  | secret {cause : SecretFault} (h : env.secret? read name = .error cause) :
    Refuses env read name .secret (.secret cause)

end Kind

/-! ## Names -/

/-- A search by name finds exactly the entry with that name, if every entry is found by its own. -/
theorem find?_name_eq_some_iff {entries : List α} {nameOf : α → String}
    (h : ∀ x, entries.find? (fun y => nameOf y == nameOf x) = some x) {x : α} :
    entries.find? (fun y => nameOf y == name) = some x ↔ name = nameOf x := by
  constructor
  · intro hx
    have hname := List.find?_some hx
    exact (beq_iff_eq.mp hname).symm
  · rintro rfl
    exact h x

theorem normalizeName_trim (s : String) : Service.normalizeName (Text.trim s) = Service.normalizeName s := by
  rw [Service.normalizeName, Text.trim_trim, Service.normalizeName]

theorem toOption_parse_backend {k : BackendKind} :
    (BackendKind.parse text).toOption = some k ↔ Service.normalizeName text = k.name := by
  have hfind : (BackendKind.parse text).toOption = BackendKind.ofName? (Service.normalizeName text) := by
    unfold BackendKind.parse Service.normalizeName
    dsimp only
    cases BackendKind.ofName? ((Text.trim text).map Char.toLower) <;> rfl
  rw [hfind]
  exact find?_name_eq_some_iff fun k => by cases k <;> rfl

theorem toOption_parse_paramsMode {m : Service.ParamsMode} :
    (Service.ParamsMode.parse text).toOption = some m ↔ Service.normalizeName text = m.name := by
  have hfind : (Service.ParamsMode.parse text).toOption
      = Service.ParamsMode.ofName? (Service.normalizeName text) := by
    unfold Service.ParamsMode.parse
    cases Service.ParamsMode.ofName? (Service.normalizeName text) <;> rfl
  rw [hfind]
  exact find?_name_eq_some_iff fun m => by cases m <;> rfl

theorem toOption_parse_responseMode {m : Service.ResponseMode} :
    (Service.ResponseMode.parse text).toOption = some m ↔ Service.normalizeName text = m.name := by
  have hfind : (Service.ResponseMode.parse text).toOption
      = Service.ResponseMode.ofName? (Service.normalizeName text) := by
    unfold Service.ResponseMode.parse
    cases Service.ResponseMode.ofName? (Service.normalizeName text) <;> rfl
  rw [hfind]
  exact find?_name_eq_some_iff fun m => by cases m <;> rfl

/-! ## Numbers -/

/-- Numbers of some width are read as the numbers that are written. -/
theorem map_natural?_eq_some_iff {bound : Nat} (ofNat : Nat → α) (toNat : α → Nat)
    (hofNat : ∀ x, ofNat (toNat x) = x) (htoNat : ∀ n ≤ bound, toNat (ofNat n) = n) (hbound : ∀ x, toNat x ≤ bound)
    {x : α} :
    (Numeral.natural? bound text).map ofNat = some x ↔ Numeral.Writes text (toNat x) := by
  rw [Option.map_eq_some_iff]
  simp only [Numeral.natural?_eq_some_iff]
  constructor
  · rintro ⟨n, ⟨hn, hle⟩, rfl⟩
    rw [htoNat n hle]
    exact hn
  · intro hx
    exact ⟨toNat x, ⟨hx, hbound x⟩, hofNat x⟩

namespace Kind

variable {k : Kind α} {noun : String}

theorem ofVariable_of_noun? (h : k.noun? = some noun) :
    k.ofVariable env read name = parsedVariable env noun k.parse? name := by
  cases k <;> cases h <;> rfl

/-- Of a kind that refuses texts, exactly the texts that denote a value are read as it. -/
theorem parse?_eq_some_iff (h : k.noun? = some noun) {x : α} :
    k.parse? (Text.trim text) = some x ↔ k.Denotes text x := by
  cases k with
  | text | secret | bool => cases h
  | backend => exact toOption_parse_backend.trans (by rw [normalizeName_trim, Denotes])
  | paramsMode => exact toOption_parse_paramsMode.trans (by rw [normalizeName_trim, Denotes])
  | responseMode => exact toOption_parse_responseMode.trans (by rw [normalizeName_trim, Denotes])
  | uint16 =>
    rw [parse?, Denotes]
    exact map_natural?_eq_some_iff Nat.toUInt16 UInt16.toNat (fun _ => UInt16.ofNat_toNat)
      (fun _ hn => UInt16.toNat_ofNat_of_lt' (Nat.lt_of_le_of_lt hn (by decide)))
      (fun x => Nat.le_sub_one_of_lt x.toNat_lt)
  | uint32 =>
    rw [parse?, Denotes]
    exact map_natural?_eq_some_iff Nat.toUInt32 UInt32.toNat (fun _ => UInt32.ofNat_toNat)
      (fun _ hn => UInt32.toNat_ofNat_of_lt' (Nat.lt_of_le_of_lt hn (by decide)))
      (fun x => Nat.le_sub_one_of_lt x.toNat_lt)
  | uint64 =>
    rw [parse?, Denotes]
    exact map_natural?_eq_some_iff Nat.toUInt64 UInt64.toNat (fun _ => UInt64.ofNat_toNat)
      (fun _ hn => UInt64.toNat_ofNat_of_lt' (Nat.lt_of_le_of_lt hn (by decide)))
      (fun x => Nat.le_sub_one_of_lt x.toNat_lt)

end Kind

/-! ## Truth values -/

/-- A spelling of true without white space around it, or a spelling of false. -/
def IsPlain (text : String) : Prop :=
  text.map Char.toLower = "true" ∨ text = "1" ∨ Service.normalizeName text ∈ ["false", "0"]

theorem truthOf_eq_true_iff : truthOf text = true ↔ text.map Char.toLower = "true" ∨ text = "1" := by
  rw [truthOf, Bool.or_eq_true, beq_iff_eq, beq_iff_eq]

theorem normalizeName_of_truthOf (h : truthOf text = true) : Service.normalizeName text ∈ ["true", "1"] := by
  rw [Service.normalizeName]
  rcases truthOf_eq_true_iff.mp h with htrue | rfl
  · have hword : "true".toList.all (fun c => !Text.isBlank c) = true := by
      decide
    have hvisible : ∀ c ∈ (text.map Char.toLower).toList, Text.isBlank c = false := by
      rw [htrue]
      simpa using hword
    rw [Text.trim_eq_of_toLower hvisible, htrue]
    exact List.mem_cons_self
  · decide +kernel

/-- A text denotes the truth value that it is read as exactly if it is plain. -/
theorem denotes_truthOf_iff : Kind.bool.Denotes text (truthOf text) ↔ IsPlain text := by
  rw [Kind.Denotes, IsPlain, ← or_assoc, ← truthOf_eq_true_iff]
  cases htruth : truthOf text with
  | true => simpa using normalizeName_of_truthOf htruth
  | false => simp

/-! ## Variables -/

namespace Kind

variable {k : Kind α} {noun : String} {fault : Fault} {o : Option α}

theorem ofVariable_of_set (hnoun : k.noun? = some noun) (hset : env.nonEmpty? name = some text) :
    k.ofVariable env read name =
      match k.parse? (Text.trim text) with
      | some x => .ok (some x)
      | none => .error (.variableText name noun text) := by
  cases hparse : k.parse? (Text.trim text) <;> simp only [ofVariable_of_noun? hnoun, parsedVariable, hset, hparse]

/-- A variable that is set is taken as what its text denotes, unless it is a truth value that is not plain. -/
theorem denotes_of_ofVariable (htyped : k.IsTyped) (hset : env.nonEmpty? name = some text)
    (h : k.ofVariable env read name = .ok o) : (∃ x, o = some x ∧ k.Denotes text x) ↔ (k.IsTruth → IsPlain text) := by
  cases hnoun : k.noun? with
  | some noun =>
    have htruth : ¬ k.IsTruth := by
      cases k with
      | bool => cases hnoun
      | _ => exact id
    rw [ofVariable_of_set hnoun hset] at h
    split at h
    · next x hx =>
      cases h
      exact ⟨fun _ hk => absurd hk htruth, fun _ => ⟨x, rfl, (parse?_eq_some_iff hnoun).mp hx⟩⟩
    · cases h
  | none =>
    cases k with
    | text | secret => exact htyped.elim
    | bool =>
      rw [ofVariable, boolVariable, hset] at h
      cases h
      rw [← denotes_truthOf_iff]
      exact ⟨fun ⟨x, hx, hdenotes⟩ _ => by cases hx; exact hdenotes, fun hplain => ⟨_, rfl, hplain trivial⟩⟩
    | _ => cases hnoun

/-- Nothing can be told about a value exactly if its text is refused, or the secret. -/
theorem ofVariable_eq_error_iff : k.ofVariable env read name = .error fault ↔ k.Refuses env read name fault := by
  constructor
  · intro h
    cases hnoun : k.noun? with
    | some noun =>
      cases hset : env.nonEmpty? name with
      | none =>
        rw [ofVariable_of_noun? hnoun, parsedVariable, hset] at h
        cases h
      | some text =>
        rw [ofVariable_of_set hnoun hset] at h
        split at h
        · cases h
        · next hnone =>
          cases h
          refine .text hnoun hset fun x hx => ?_
          rw [(parse?_eq_some_iff hnoun).mpr hx] at hnone
          cases hnone
    | none =>
      cases k with
      | text | bool => cases h
      | secret =>
        obtain ⟨cause, hcause, rfl⟩ := mapError_eq_error_iff.mp h
        exact .secret hcause
      | _ => cases hnoun
  · intro h
    cases h with
    | text hnoun hset hnone =>
      rw [ofVariable_of_set hnoun hset,
        Option.eq_none_iff_forall_ne_some.mpr fun x hx => hnone x ((parse?_eq_some_iff hnoun).mp hx)]
    | secret hcause => exact mapError_eq_error_iff.mpr ⟨_, hcause, rfl⟩

end Kind

namespace Layer

open Setting (told check)

variable {l : Layer} {fault : Fault}

theorem check_eq_ok_iff {s : Σ α : Type, Setting α} :
    check env read s = .ok () ↔ ∀ fault, ¬ s.2.kind.Refuses env read s.2.variableName fault := by
  simp only [← Kind.ofVariable_eq_error_iff]
  unfold check told
  cases s.2.kind.ofVariable env read s.2.variableName <;> simp [Except.map]

/-- For every environment, and whatever the files: the variable of a number, a mode or a truth value that is set and not
empty is taken as a value that its text denotes, with the one exception of a truth value whose text is not plain. There
is no layer exactly if a variable is refused, and the fault is that of the first one that is: a number or a mode is
refused if and only if its text denotes none, with its variable in the fault, and a secret if it cannot be loaded.

Truth values are never refused. So the certificate of a service goes unchecked exactly if the variable for it has a text
that is no spelling of true, be it one of false or not. -/
theorem ofEnvironment_denotes_iff (env : Environment) (read : FileReader) :
    (∀ l, ofEnvironment env read = .ok l → ∀ {α : Type} (s : Setting α) (text : String), s.kind.IsTyped →
        env.nonEmpty? s.variableName = some text →
          ((∃ x, get s l = some x ∧ s.kind.Denotes text x) ↔ (s.kind.IsTruth → IsPlain text)))
      ∧ (∀ fault, ofEnvironment env read = .error fault ↔
          ∃ before s after, Setting.all = before ++ s :: after
            ∧ (∀ s' ∈ before, ∀ fault', ¬ s'.2.kind.Refuses env read s'.2.variableName fault')
            ∧ s.2.kind.Refuses env read s.2.variableName fault)
      ∧ ∀ l, ofEnvironment env read = .ok l →
          (get .verifyPeer l = some false ↔
            ∃ text, env.nonEmpty? "VIGIL_REMOTE_VERIFY_PEER" = some text
              ∧ ¬ (text.map Char.toLower = "true" ∨ text = "1")) := by
  refine ⟨?_, ?_, ?_⟩
  · intro l hl α s text htyped hset
    exact Kind.denotes_of_ofVariable htyped hset (told_of_ofEnvironment hl s)
  · intro fault
    rw [ofEnvironment_eq_error_iff]
    simp only [check_eq_ok_iff, ← Kind.ofVariable_eq_error_iff, told]
  · intro l hl
    have hpeer := told_of_ofEnvironment hl .verifyPeer
    rw [told, Setting.kind, Kind.ofVariable, Except.ok.injEq, boolVariable] at hpeer
    rw [← hpeer, Option.map_eq_some_iff]
    simp only [← truthOf_eq_true_iff, Bool.not_eq_true]
    rfl

/-- A mode in other letters, a port with a sign and zeros in front, and a spelling of true with a space in front, which
is read as false. Of two numbers that cannot be read, the one that is read first is the fault. -/
theorem ofEnvironment_denotes_spaced :
    let read : FileReader := fun _ => .error .missing
    let env : Environment := fun name =>
      if name = "VIGIL_BACKEND_MODE" then some "ReMote\t"
      else if name = "VIGIL_REMOTE_PORT" then some "+0443"
      else if name = "VIGIL_REMOTE_VERIFY_PEER" then some " true" else none
    let broken : Environment := fun name =>
      if name = "VIGIL_REMOTE_PORT" then some "65536"
      else if name = "VIGIL_LOCAL_MAX_CONNECTIONS" then some "-1" else none
    let l : Layer := {
      backend := some { kind := some .service }
      token := some {}
      store := some {}
      service := some { port := some 443, verifyPeer := some false } }
    ofEnvironment env read = .ok l
      ∧ (∃ k, get .backend l = some k ∧ Kind.backend.Denotes "ReMote\t" k)
      ∧ (∃ n, get .port l = some n ∧ Kind.uint16.Denotes "+0443" n)
      ∧ (¬ ∃ b, get .verifyPeer l = some b ∧ Kind.bool.Denotes " true" b)
      ∧ ofEnvironment broken read = .error (.variableText "VIGIL_LOCAL_MAX_CONNECTIONS" "u32" "-1") := by
  intro read env broken l
  have hl : ofEnvironment env read = .ok l := by
    decide +kernel
  have htaken {α : Type} (s : Setting α) (text : String) := (ofEnvironment_denotes_iff env read).1 l hl s text
  refine ⟨hl, (htaken .backend _ trivial rfl).mpr False.elim, (htaken .port _ trivial rfl).mpr False.elim, ?_, ?_⟩
  · have hplain : ¬ IsPlain " true" := by
      unfold IsPlain
      decide +kernel
    exact fun h => hplain ((htaken .verifyPeer " true" trivial rfl).mp h trivial)
  · refine ((ofEnvironment_denotes_iff broken read).2.1 _).mpr
      ⟨Setting.all.take 9, ⟨_, .maxConnections⟩, Setting.all.drop 10, rfl, ?_, .text rfl rfl fun n hn => ?_⟩
    · simp only [Setting.all, List.take_succ_cons, List.take_zero, List.forall_mem_cons, ← check_eq_ok_iff]
      exact ⟨rfl, rfl, rfl, rfl, rfl, rfl, rfl, rfl, rfl, List.forall_mem_nil _⟩
    · have hnumber := (Kind.parse?_eq_some_iff (rfl : Kind.uint32.noun? = some "u32")).mpr hn
      have hnone : Kind.uint32.parse? (Text.trim "-1") = none := by
        decide +kernel
      rw [hnone] at hnumber
      cases hnumber

/-- Not every variable is taken as a value that its text denotes: a word that is no truth value turns off the check of
certificates. -/
theorem not_forall_ofEnvironment_denotes :
    ¬ ∀ (env : Environment) (read : FileReader) (l : Layer), ofEnvironment env read = .ok l →
      ∀ {α : Type} (s : Setting α) (text : String), s.kind.IsTyped → env.nonEmpty? s.variableName = some text →
        ∃ x, get s l = some x ∧ s.kind.Denotes text x := by
  intro h
  let env : Environment := fun name => if name = "VIGIL_REMOTE_VERIFY_PEER" then some "yes" else none
  obtain ⟨x, hx, hdenotes⟩ := h env (fun _ => .error .missing) _ rfl .verifyPeer "yes" trivial rfl
  cases hx
  have hnot : Service.normalizeName "yes" ∉ if truthOf "yes" then ["true", "1"] else ["false", "0"] := by
    decide +kernel
  exact hnot hdenotes

end Layer

end TopicGuard.Config
