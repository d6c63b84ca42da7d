import TopicGuard.Proofs.Config.Comparison

/-!
Secrets in an environment.

A secret stands in a variable or in a file, and `Holds` says which text it then is. A variable that is empty holds no
secret, but a file always does: if there is nothing in the file, or only a line break, then the secret is the empty text
(`holds_empty_iff`). An environment that holds no secret can do without the two variables (`Config.load_withoutSecret`),
while an empty secret goes over those below like any other (`Config.get_secret_of_holds`).
-/

set_option autoImplicit false

namespace TopicGuard

namespace Environment

variable {env : Environment} {read : FileReader} {name text : String}

/-- The text of a secret: the file without one line break at its end, or else the variable if it is not empty. -/
inductive Holds (env : Environment) (read : FileReader) (name : String) : String → Prop where
  | broken {path text : String} (hpath : env (fileVariable name) = some path) (hne : path ≠ "")
    (hread : read.readText path = .ok (text ++ "\n")) : Holds env read name text
  | unbroken {path text : String} (hpath : env (fileVariable name) = some path) (hne : path ≠ "")
    (hread : read.readText path = .ok text) (hlast : text.toList.getLast? ≠ some '\n') : Holds env read name text
  | direct {text : String} (hfile : env (fileVariable name) = none) (hset : env name = some text) (hne : text ≠ "") :
    Holds env read name text

/-- The file of the secret has nothing in it, or a single line break. -/
def HasHollowFile (env : Environment) (read : FileReader) (name : String) : Prop :=
  ∃ path, env (fileVariable name) = some path ∧ path ≠ ""
    ∧ (read.readText path = .ok "" ∨ read.readText path = .ok "\n")

/-- The environment without the secret of tokens, in either form. -/
def withoutSecret (env : Environment) : Environment := fun name =>
  if name = Config.secretVariable ∨ name = fileVariable Config.secretVariable then none else env name

/-! ## What an environment holds -/

theorem toList_append_break (s : String) : (s ++ "\n").toList = s.toList ++ ['\n'] :=
  String.toList_append

theorem withoutLastBreak_append_break (s : String) : withoutLastBreak (s ++ "\n") = s := by
  have htext := toList_append_break s
  rw [withoutLastBreak, if_pos (by rw [htext, List.getLast?_concat]), htext, List.dropLast_concat, String.ofList_toList]

theorem withoutLastBreak_of_getLast? (h : text.toList.getLast? ≠ some '\n') : withoutLastBreak text = text :=
  if_neg h

/-- A text is a secret with a line break behind it, or it does not end in one and is the secret itself. -/
theorem eq_append_break_or (text : String) :
    text = withoutLastBreak text ++ "\n" ∨ text.toList.getLast? ≠ some '\n' := by
  by_cases hlast : text.toList.getLast? = some '\n'
  · left
    obtain ⟨front, hfront⟩ := List.getLast?_eq_some_iff.mp hlast
    have htext : text = String.ofList front ++ "\n" := by
      rw [← String.toList_inj, toList_append_break, String.toList_ofList, hfront]
    rw [htext, withoutLastBreak_append_break]
  · exact .inr hlast

theorem nonEmpty?_eq_some_iff : env.nonEmpty? name = some text ↔ env name = some text ∧ text ≠ "" := by
  rw [nonEmpty?, Option.filter_eq_some_iff]
  simp

theorem nonEmpty?_eq_none_iff : env.nonEmpty? name = none ↔ env name = none ∨ env name = some "" := by
  rw [nonEmpty?, Option.filter_eq_none_iff]
  cases env name <;> simp

theorem secret?_of_file {path : String} (hpath : env (fileVariable name) = some path) (hne : path ≠ "")
    (hread : read.readText path = .ok text) : env.secret? read name = .ok (some ⟨withoutLastBreak text⟩) := by
  rw [secret?, hpath]
  dsimp only
  rw [if_neg (by simpa using hne), hread]

theorem secret?_of_no_file (h : env (fileVariable name) = none) :
    env.secret? read name = .ok ((env.nonEmpty? name).map Secret.mk) := by
  rw [secret?, h]

/-- A secret is found exactly if the environment holds its text. -/
theorem secret?_eq_some_iff : env.secret? read name = .ok (some ⟨text⟩) ↔ env.Holds read name text := by
  constructor
  · intro h
    cases hfile : env (fileVariable name) with
    | none =>
      rw [secret?_of_no_file hfile, Except.ok.injEq, Option.map_eq_some_iff] at h
      obtain ⟨value, hvalue, hsecret⟩ := h
      cases hsecret
      obtain ⟨hset, hne⟩ := nonEmpty?_eq_some_iff.mp hvalue
      exact .direct hfile hset hne
    | some path =>
      rw [secret?, hfile] at h
      obtain ⟨hne, h⟩ := Outcome.check_eq_ok_iff.mp h
      split at h
      · next content hread =>
        cases h
        rcases eq_append_break_or content with hbreak | hlast
        · exact .broken hfile (by simpa using hne) (hread.trans (congrArg Except.ok hbreak))
        · rw [withoutLastBreak_of_getLast? hlast]
          exact .unbroken hfile (by simpa using hne) hread hlast
      · cases h
  · intro h
    cases h with
    | broken hpath hne hread => rw [secret?_of_file hpath hne hread, withoutLastBreak_append_break]
    | unbroken hpath hne hread hlast =>
      rw [secret?_of_file hpath hne hread, withoutLastBreak_of_getLast? hlast]
    | direct hfile hset hne =>
      rw [secret?_of_no_file hfile, nonEmpty?_eq_some_iff.mpr ⟨hset, hne⟩]
      rfl

/-- No secret is found, and no fault either, exactly if there is no file and the variable is not set or empty. -/
theorem secret?_eq_none_iff :
    env.secret? read name = .ok none ↔ env (fileVariable name) = none ∧ (env name = none ∨ env name = some "") := by
  rw [← nonEmpty?_eq_none_iff]
  cases hfile : env (fileVariable name) with
  | none => simp [secret?_of_no_file hfile]
  | some path =>
    -- A file gives a secret or a fault, but never nothing.
    rw [secret?, hfile]
    dsimp only
    split
    · simp
    · split <;> simp

/-- Only a file can hold an empty secret. -/
theorem holds_empty_iff : env.Holds read name "" ↔ env.HasHollowFile read name := by
  constructor
  · intro h
    cases h with
    | broken hpath hne hread => exact ⟨_, hpath, hne, .inr hread⟩
    | unbroken hpath hne hread hlast => exact ⟨_, hpath, hne, .inl hread⟩
    | direct hfile hset hne => exact absurd rfl hne
  · rintro ⟨path, hpath, hne, hread | hread⟩
    · exact .unbroken hpath hne hread (by decide)
    · exact .broken hpath hne hread

end Environment

/-! ## Loading -/

namespace Config

open Layer (get)

variable {env env' : Environment} {read read' : FileReader}

namespace Setting

variable {α : Type} {s : Setting α}

/-- Not the secret. -/
def IsPublic : {α : Type} → Setting α → Prop
  | _, .secret => False
  | _, _ => True

theorem IsPublic.variableName_ne (hs : s.IsPublic) :
    s.variableName ≠ secretVariable ∧ s.variableName ≠ Environment.fileVariable secretVariable := by
  cases s with
  | secret => exact hs.elim
  | _ => exact ⟨by decide, by decide⟩

/-- Of anything but the secret, nothing more is read than its variable. -/
theorem IsPublic.told_congr (hs : s.IsPublic) (h : env s.variableName = env' s.variableName) :
    s.told env read = s.told env' read' := by
  have hset : env.nonEmpty? s.variableName = env'.nonEmpty? s.variableName := by
    rw [Environment.nonEmpty?, Environment.nonEmpty?, h]
  unfold told
  cases s with
  | secret => exact hs.elim
  | _ => simp only [kind, Kind.ofVariable, uint16Variable, uint32Variable, uint64Variable, parsedVariable,
      boolVariable, hset]

theorem told_secret_eq_ok_iff {o : Option (Secret String)} :
    told env read .secret = .ok o ↔ env.secret? read secretVariable = .ok o :=
  Outcome.mapError_eq_ok_iff

/-- An environment without a secret says the same if the variables of the secret are left out. -/
theorem told_withoutSecret (h : env.secret? read secretVariable = .ok none) (s : Setting α) :
    s.told env.withoutSecret read = s.told env read := by
  by_cases hs : s.IsPublic
  · refine hs.told_congr (if_neg ?_)
    simpa using hs.variableName_ne
  · cases s with
    | secret =>
      rw [told_secret_eq_ok_iff.mpr h, told_secret_eq_ok_iff, Environment.secret?_eq_none_iff]
      exact ⟨if_pos (.inr rfl), .inl (if_pos (.inl rfl))⟩
    | _ => exact absurd trivial hs

end Setting

variable {sources sources' front back : List Source} {merged : Layer}

/-- Nothing depends on the variables of a secret if there is none. -/
theorem load_withoutSecret (h : env.secret? read secretVariable = .ok none)
    (hordered : IsStableOrder Source.precedence sources (front ++ .environment env :: back))
    (hordered' : IsStableOrder Source.precedence sources' (front ++ .environment env.withoutSecret :: back)) :
    load read sources = load read sources' := by
  let same : Setting.Relation := fun _ _ o o' => o = o'
  have hsame : Setting.IsComparison same := ⟨fun _ => rfl, fun h hbase => by rw [h, hbase]⟩
  have hrefl (source : Source) : Source.Related same read read source source := .refl (fun _ _ _ => rfl) source
  have henv : Source.Related same read read (.environment env) (.environment env.withoutSecret) := by
    refine ⟨rfl, Layer.related_ofEnvironment fun α s => ?_⟩
    rw [Setting.told_withoutSecret h]
    exact .of_eq (fun _ => rfl) _
  have hlists : List.Forall₂ (Source.Related same read read) (front ++ .environment env :: back)
      (front ++ .environment env.withoutSecret :: back) :=
    List.rel_append (List.forall₂_same.mpr fun source _ => hrefl source)
      (.cons henv (List.forall₂_same.mpr fun source _ => hrefl source))
  rw [load_eq hordered, load_eq hordered']
  exact (Source.related_mergeAll hsame hlists (.empty hsame)).bind_eq fun l l' hl => Layer.resolve_congr fun s => hl _ s

/-- What an environment tells when it is loaded among other sources. -/
theorem tells_environment {α : Type} {s : Setting α} {o : Option α} (hmem : .environment env ∈ sources)
    (hmerged : Source.mergeAll read sources {} = .ok merged) (h : s.told env read = .ok o) :
    Source.tells read s (.environment env) = o := by
  obtain ⟨l, hl⟩ := Source.loads_of_mergeAll hmerged _ hmem
  rw [Source.tells, hl]
  exact Except.ok.inj ((Layer.told_of_ofEnvironment hl s).symm.trans h)

/-- Beside an environment without a secret, the secret is the one of the other sources. -/
theorem get_secret_of_none (hordered : IsStableOrder Source.precedence sources (front ++ .environment env :: back))
    (hmerged : Source.merge read sources = .ok merged) (h : env.secret? read secretVariable = .ok none) :
    get .secret merged = ((front ++ back).filterMap (Source.tells read .secret)).getLast? := by
  rw [Source.merge_eq hordered] at hmerged
  have htells : Source.tells read .secret (.environment env) = none :=
    tells_environment (by simp) hmerged (Setting.told_secret_eq_ok_iff.mpr h)
  rw [Source.get_mergeAll hmerged, Layer.get_empty, Option.or_none, List.filterMap_append, List.filterMap_cons, htells,
    List.filterMap_append]

/-- A secret that an environment holds goes over those of the sources below, whatever its text. -/
theorem get_secret_of_holds {text : String}
    (hordered : IsStableOrder Source.precedence sources (front ++ .environment env :: back))
    (hmerged : Source.merge read sources = .ok merged) (h : env.Holds read secretVariable text)
    (hback : ∀ source ∈ back, Source.tells read .secret source = none) : get .secret merged = some ⟨text⟩ := by
  rw [Source.merge_eq hordered] at hmerged
  have htells : Source.tells read .secret (.environment env) = some ⟨text⟩ :=
    tells_environment (by simp) hmerged (Setting.told_secret_eq_ok_iff.mpr (Environment.secret?_eq_some_iff.mpr h))
  rw [Source.get_mergeAll hmerged, Layer.get_empty, Option.or_none, List.filterMap_append, List.filterMap_cons, htells,
    List.filterMap_eq_nil_iff.mpr hback]
  exact List.getLast?_concat

end Config

end TopicGuard
