import TopicGuard.Proofs.Config.Denotation
import TopicGuard.Proofs.Config.Layering

/-!
Layers as environments.

A layer can be written as an environment: for each setting that it sets, the variable of that setting holds the text
of the value, and there is no other variable (`Layer.environment`). The layer that is read from there says the same
about every setting (`load_environment`), so nothing depends on whether settings stand in a file or in variables. Only
an empty text cannot be written, since a variable that is empty is not set.
-/

set_option autoImplicit false

namespace TopicGuard.Config

variable {α : Type} {env : Environment} {read : FileReader} {name : String} {l : Layer}

/-! ## Values as texts -/

namespace Kind

variable {k : Kind α} {x : α}

/-- The text of a value. -/
def spell : {α : Type} → Kind α → α → String
  | _, .text, s => s
  | _, .secret, s => s.exposed
  | _, .backend, k => k.name
  | _, .uint16, n => toString n.toNat
  | _, .uint32, n => toString n.toNat
  | _, .uint64, n => toString n.toNat
  | _, .bool, b => if b then "true" else "false"
  | _, .paramsMode, m => m.name
  | _, .responseMode, m => m.name

theorem trim_toString (n : Nat) : Text.trim (toString n) = toString n := by
  refine Text.trim_eq_self fun c hc => ?_
  rw [Nat.toString_eq_repr, Nat.toList_repr] at hc
  have hdigit := Numeral.isDigit_iff.mp (Numeral.isDigit_of_mem_toDigits hc)
  have hleast : 0x30 ≤ c.toNat := hdigit.1
  have hgreatest : c.toNat ≤ 0x39 := hdigit.2
  exact Text.isBlank_eq_false (by omega) (by omega)

/-- The text of a value denotes it. -/
theorem denotes_spell (k : Kind α) (x : α) : k.Denotes (k.spell x) x := by
  have hnumber (n : Nat) : Numeral.Writes (Text.trim (toString n)) n := by
    rw [trim_toString]
    exact Numeral.writes_toString n
  cases k with
  | text | secret => rfl
  | uint16 | uint32 | uint64 => exact hnumber _
  | backend | paramsMode | responseMode | bool =>
    unfold Denotes spell
    cases x <;> decide +kernel

theorem toString_ne_empty (n : Nat) : toString n ≠ "" := by
  intro h
  have hnil : (toString n).toList = [] := by
    rw [h]
    rfl
  rw [Nat.toString_eq_repr, Nat.toList_repr] at hnil
  exact Nat.toDigits_ne_nil hnil

/-- An empty text, or an empty secret. -/
def IsEmptyText : {α : Type} → Kind α → α → Prop
  | _, .text, s => s = ""
  | _, .secret, s => s.exposed = ""
  | _, _, _ => False

/-- The text of a number, a mode or a truth value is never empty. -/
theorem spell_ne_empty (h : ¬ k.IsEmptyText x) : k.spell x ≠ "" := by
  cases k with
  | text | secret => exact h
  | uint16 | uint32 | uint64 => exact toString_ne_empty _
  | backend | paramsMode | responseMode | bool => cases x <;> decide

theorem truthOf_spell (b : Bool) : truthOf (Kind.bool.spell b) = b := by
  cases b <;> decide +kernel

/-- A variable with the text of a value is taken as the value. -/
theorem ofVariable_of_spelled (hne : k.spell x ≠ "") (hset : env name = some (k.spell x))
    (hfile : env (Environment.fileVariable name) = none) : k.ofVariable env read name = .ok (some x) := by
  have hnonEmpty : env.nonEmpty? name = some (k.spell x) := by
    rw [Environment.nonEmpty?, hset, Option.filter_some, if_pos (by simpa using hne)]
  cases hnoun : k.noun? with
  | some noun => rw [ofVariable_of_set hnoun hnonEmpty, (parse?_eq_some_iff hnoun).mpr (denotes_spell k x)]
  | none =>
    cases k with
    | text => exact congrArg Except.ok hnonEmpty
    | secret =>
      rw [ofVariable, Environment.secret?, hfile, hnonEmpty]
      rfl
    | bool =>
      rw [ofVariable, boolVariable, hnonEmpty, Option.map_some, truthOf_spell]
    | _ => cases hnoun

theorem ofVariable_of_unset (hunset : env name = none) (hfile : env (Environment.fileVariable name) = none) :
    k.ofVariable env read name = .ok none := by
  have hnone : env.nonEmpty? name = none := by
    rw [Environment.nonEmpty?, hunset, Option.filter_none]
  cases hnoun : k.noun? with
  | some noun => rw [ofVariable_of_noun? hnoun, parsedVariable, hnone]
  | none =>
    cases k with
    | text => exact congrArg Except.ok hnone
    | secret =>
      rw [ofVariable, Environment.secret?, hfile, hnone]
      rfl
    | bool =>
      rw [ofVariable, boolVariable, hnone]
      rfl
    | _ => cases hnoun

end Kind

/-! ## Layers as environments -/

namespace Layer

open Setting (told)

/-- The environment with the variable of each setting that the layer sets, and no other. -/
def environment (l : Layer) : Environment := fun name =>
  (Setting.ofVariableName? name).bind fun s => (get s.2 l).map s.2.kind.spell

theorem environment_variableName (s : Setting α) : l.environment s.variableName = (get s l).map s.kind.spell := by
  rw [environment, Setting.ofVariableName?_variableName]
  rfl

/-- No setting has the variable that names the file of another one's secret. -/
theorem environment_fileVariable (s : Setting α) :
    l.environment (Environment.fileVariable s.variableName) = none := by
  have hnone : Setting.ofVariableName? (Environment.fileVariable s.variableName) = none := by
    cases s <;> decide
  rw [environment, hnone]
  rfl

/-- None of the layer's texts is empty, its secret included. -/
def HasNoEmptyText (l : Layer) : Prop :=
  ∀ {α : Type} (s : Setting α) (x : α), get s l = some x → ¬ s.kind.IsEmptyText x

/-- The environment of a layer tells about each setting what the layer says. -/
theorem told_environment (h : l.HasNoEmptyText) (s : Setting α) : told l.environment read s = .ok (get s l) := by
  have hset : l.environment s.variableName = (get s l).map s.kind.spell := environment_variableName s
  have hfile : l.environment (Environment.fileVariable s.variableName) = none := environment_fileVariable s
  cases hx : get s l with
  | none =>
    rw [hx] at hset
    exact Kind.ofVariable_of_unset hset hfile
  | some x =>
    rw [hx] at hset
    exact Kind.ofVariable_of_spelled (Kind.spell_ne_empty (h s x hx)) hset hfile

end Layer

/-! ## Loading -/

/-- A single source is loaded by completing what it says. -/
theorem load_singleton (read : FileReader) (source : Source) :
    load read [source] = (source.layer read).bind Layer.resolve := by
  have hordered : IsStableOrder Source.precedence [source] [source] :=
    ⟨List.pairwise_singleton _ _, fun _ => rfl⟩
  rw [load_eq hordered, Source.mergeAll_cons]
  cases source.layer read with
  | error fault => rfl
  | ok layer =>
    refine Layer.resolve_congr fun s => ?_
    rw [Layer.get_overlay, Layer.get_empty, Option.or_none]

/-- Settings may stand in variables as well as anywhere else. A layer without empty texts is read from its environment,
whatever the files, as a layer that says the same about each setting. So the environment leads to the same settings, or
to the same fault, as a file in which the layer stands, and as any other source that says what the layer says. -/
theorem load_environment (l : Layer) (h : l.HasNoEmptyText) (read : FileReader) :
    ∃ l', Layer.ofEnvironment l.environment read = .ok l'
      ∧ (∀ {α : Type} (s : Setting α), Layer.get s l' = Layer.get s l)
      ∧ ∀ (read' : FileReader) (source : Source), source.layer read' = .ok l →
          load read [.environment l.environment] = load read' [source] := by
  have htold {α : Type} (s : Setting α) : Setting.told l.environment read s = .ok (Layer.get s l) :=
    Layer.told_environment h s
  obtain ⟨l', hl'⟩ := Layer.exists_ofEnvironment_iff.mpr fun s => ⟨_, htold s⟩
  have hsame {α : Type} (s : Setting α) : Layer.get s l' = Layer.get s l := by
    exact Except.ok.inj ((Layer.told_of_ofEnvironment hl' s).symm.trans (htold s))
  refine ⟨l', hl', hsame, ?_⟩
  intro read' source hsource
  rw [load_singleton, load_singleton, hsource, Source.layer, hl']
  exact Layer.resolve_congr hsame

/-- A document with a secret that begins with a space, the greatest port, and a mode. -/
theorem load_environment_of_document :
    let text : String := "token = \x7b secret = ' s' \x7d\n[remote]\nport = 65535\nverify_peer = false\n"
      ++ "response_mode = 'status'"
    let files : FileReader := fun path => if path = "vigil.toml" then .ok (Utf8.encode text) else .error .missing
    let l : Layer := {
      token := some { secret := some ⟨" s"⟩ }
      service := some { port := some 65535, verifyPeer := some false, responseMode := some .status } }
    Source.layerOfFile files "vigil.toml" = .ok l ∧ l.HasNoEmptyText
      ∧ l.environment "VIGIL_TOKEN_SECRET" = some " s" ∧ l.environment "VIGIL_REMOTE_PORT" = some "65535"
      ∧ ∀ read : FileReader,
          (∃ l', Layer.ofEnvironment l.environment read = .ok l' ∧ Layer.get .port l' = some 65535
            ∧ Layer.get .responseMode l' = some .status ∧ Layer.get .secret l' = some ⟨" s"⟩)
          ∧ load read [.environment l.environment] = load files [.file "vigil.toml"] := by
  intro text files l
  have hfile : Source.layerOfFile files "vigil.toml" = .ok l := by
    decide +kernel
  have htexts : l.HasNoEmptyText := by
    intro α s x hs
    cases s with
    | secret =>
      cases hs
      exact (by decide : " s" ≠ "")
    | port | verifyPeer | responseMode => exact id
    | _ => cases hs
  refine ⟨hfile, htexts, by decide +kernel, by decide +kernel, fun read => ?_⟩
  obtain ⟨l', hl', hsame, hload⟩ := load_environment l htexts read
  exact ⟨⟨l', hl', hsame .port, hsame .responseMode, hsame .secret⟩, hload files (.file "vigil.toml") hfile⟩

end TopicGuard.Config
