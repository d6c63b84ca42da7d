import TopicGuard.Program.Arguments
import TopicGuard.Proofs.Number.Numeral
import TopicGuard.Proofs.Outcome
import TopicGuard.Proofs.Service.Wire

/-!
Arguments that are spelled out are read back.

Every option can be written as one word with its value behind an equals sign, whatever the value is: it may be empty,
hold further equals signs or begin with a dash. `Arguments.words` spells arguments in that way, and reading these words
gives the arguments again (`parse_words`). What they leave open is filled in from the environment, and only that.
-/

set_option autoImplicit false

namespace TopicGuard.Program

open TopicGuard.Outcome (bind_eq_ok_iff)

/-! ## Spelling -/

/-- An option and its value in one word. -/
def Name.spell (name : Name) (value : String) : String :=
  "--" ++ name.long ++ "=" ++ value

/-- The words of a command. -/
def Command.words : Command → List String
  | .authenticate => ["authenticate"]
  | .superuser => ["superuser"]
  | .access topic clientId level =>
    ["acl", Name.topic.spell topic, Name.clientId.spell clientId, Name.level.spell level.render]

/-- The words of arguments: the options that are set, and the command. -/
def Arguments.words (a : Arguments) : List String :=
  (a.config.map Name.config.spell).toList ++ (a.token.map Name.token.spell).toList ++ a.command.words

/-- The path of a configuration is not empty, and a level is at least that to read. -/
structure Arguments.IsSpellable (a : Arguments) : Prop where
  config : a.config ≠ some ""
  level : ∀ topic clientId level, a.command = .access topic clientId level → 1 ≤ level.toInt

/-! ## One option -/

variable {place : Place} {name : Name} {value : String} {values : List (Name × String)} {rest : List String}

theorem toList_spell : (name.spell value).toList = '-' :: '-' :: (name.long.toList ++ '=' :: value.toList) := by
  unfold Name.spell
  simp

theorem cutEquals_long : cutEquals (name.long.toList ++ '=' :: value.toList) = (name.long, some value) := by
  cases name <;> simp [cutEquals, Name.long]

/-- A word with dashes is no command. -/
theorem command?_spell : place.command? (name.spell value) = none := by
  unfold Place.command? CommandWord.ofString?
  split
  · rw [List.find?_eq_none]
    intro word _ h
    have hspelling := congrArg String.toList (beq_iff_eq.mp h)
    rw [toList_spell] at hspelling
    cases word <;> cases hspelling
  · rfl

theorem readLong_long (hoption : place.option? name.long = some name) (hnew : values.lookup name = none)
    (hcheck : name.check value = .ok ()) :
    readLong place ⟨values, none⟩ (name.long.toList ++ '=' :: value.toList) = .ok ⟨(name, value) :: values, none⟩ := by
  have hhelp : name.long ≠ "help" ∧ name.long ≠ "version" := by
    cases name <;> decide
  have haccept : Progress.accept ⟨values, none⟩ name value = .ok ⟨(name, value) :: values, none⟩ := by
    unfold Progress.accept Progress.value?
    simp only [hnew, hcheck]
    rfl
  unfold readLong
  rw [cutEquals_long]
  dsimp only
  rw [if_neg hhelp.1, if_neg (by simp [hhelp.2]), hoption]
  exact haccept

/-- An option that is allowed in a place, and not yet there, is read with its value. -/
theorem readWords_spell (hoption : place.option? name.long = some name) (hnew : values.lookup name = none)
    (hcheck : name.check value = .ok ()) :
    readWords place ⟨values, none⟩ (name.spell value :: rest)
      = readWords place ⟨(name, value) :: values, none⟩ rest := by
  rw [readWords.eq_def]
  simp only [Progress.awaiting?, command?_spell, toList_spell]
  have hread := readLong_long hoption hnew hcheck
  obtain ⟨c, cs, hcs⟩ : ∃ c cs, name.long.toList ++ '=' :: value.toList = c :: cs :=
    List.exists_cons_of_ne_nil (by simp)
  rw [hcs] at hread ⊢
  change (readLong place ⟨values, none⟩ (c :: cs) >>= fun p => readWords place p rest) = _
  rw [hread]
  rfl

/-! ## All words -/

variable {a : Arguments} {command : Command}

theorem level?_render {level : AccessLevel} (h : 1 ≤ level.toInt) : Name.level? level.render = some level := by
  unfold Name.level? AccessLevel.render
  rw [Numeral.integer?_toString]
  change (guard (1 ≤ level.toInt) >>= fun _ => AccessLevel.ofInt? level.toInt) = some level
  rw [Service.ofInt?_toInt]
  simp [h]

/-- The words behind a command's name give the command, without a token of its own. -/
theorem readCommand_words (hlevel : ∀ topic clientId level, command = .access topic clientId level → 1 ≤ level.toInt) :
    ∃ word rest, command.words = CommandWord.spelling word :: rest ∧ readCommand word rest = .ok (command, none) := by
  cases command with
  | authenticate => exact ⟨.authenticate, [], rfl, rfl⟩
  | superuser => exact ⟨.superuser, [], rfl, rfl⟩
  | access topic clientId level =>
    have hvalue := level?_render (hlevel topic clientId level rfl)
    have hcheck : Name.check .level level.render = .ok () := by
      unfold Name.check
      rw [hvalue]
      rfl
    refine ⟨.access, _, rfl, ?_⟩
    unfold readCommand
    rw [if_neg (by decide)]
    rw [readWords_spell rfl rfl rfl, readWords_spell rfl rfl rfl, readWords_spell rfl rfl hcheck]
    change Except.ok (Command.access topic clientId ((Name.level? level.render).getD .read), none) = _
    rw [hvalue]
    rfl

/-- Reading the words before a command goes on to the command once their options are through. -/
theorem readWords_command {word : CommandWord} :
    readWords .outer ⟨values, none⟩ (word.spelling :: rest) = .ok (⟨values, none⟩, some (word, rest)) := by
  rw [readWords.eq_def]
  cases word <;> rfl

theorem check_config {path : String} (h : path ≠ "") : Name.check .config path = .ok () :=
  if_neg (by simpa using h)

/-- The words of arguments are read up to the command, with the values of the options before it. -/
theorem readWords_words (hconfig : a.config ≠ some "") {word : CommandWord}
    (hwords : a.command.words = word.spelling :: rest) :
    ∃ values, readWords .outer {} a.words = .ok (⟨values, none⟩, some (word, rest))
      ∧ values.lookup .config = a.config ∧ values.lookup .token = a.token := by
  unfold Arguments.words
  rw [hwords]
  cases hc : a.config with
  | none =>
    cases ht : a.token with
    | none => exact ⟨_, readWords_command, rfl, rfl⟩
    | some token => exact ⟨_, (readWords_spell rfl rfl rfl).trans readWords_command, rfl, rfl⟩
  | some path =>
    rw [hc, ne_eq, Option.some.injEq] at hconfig
    have hpath := check_config hconfig
    cases ht : a.token with
    | none => exact ⟨_, (readWords_spell rfl rfl hpath).trans readWords_command, rfl, rfl⟩
    | some token =>
      exact ⟨_, (readWords_spell rfl rfl hpath).trans
        ((readWords_spell rfl rfl rfl).trans readWords_command), rfl, rfl⟩

/-- The words of arguments give the arguments again; what they leave open is what the environment says. -/
theorem parse_words (env : Environment) (a : Arguments) (h : a.IsSpellable)
    (henv : a.config = none → env configVariable ≠ some "") :
    Arguments.parse env a.words
      = .ok ⟨a.config.or (env configVariable), a.token.or (env tokenVariable), a.command⟩ := by
  obtain ⟨word, rest, hwords, hcommand⟩ := readCommand_words h.level
  obtain ⟨values, hread, hconfig, htoken⟩ := readWords_words h.config hwords
  have hinner : (some (word, rest)).mapM (fun x => readCommand x.1 x.2) = .ok (some (a.command, none)) := by
    change some <$> readCommand word rest = _
    rw [hcommand]
    rfl
  unfold Arguments.parse
  refine bind_eq_ok_iff.mpr ⟨_, hread, bind_eq_ok_iff.mpr ⟨_, hinner, bind_eq_ok_iff.mpr ⟨⟨values, none⟩, rfl, ?_⟩⟩⟩
  unfold Progress.value?
  rw [hconfig, htoken]
  cases hpath : a.config with
  | some path => rfl
  | none =>
    cases hvariable : env configVariable with
    | none => rfl
    | some path =>
      have hne : path ≠ "" := by
        rintro rfl
        exact henv hpath hvariable
      exact bind_eq_ok_iff.mpr ⟨(), check_config hne, rfl⟩

end TopicGuard.Program
