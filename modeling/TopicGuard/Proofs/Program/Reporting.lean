import TopicGuard.Program
import TopicGuard.Proofs.Config.Layering
import TopicGuard.Proofs.Engine.Parity
import TopicGuard.Proofs.Token.Signing

/-!
What a run of the program reports.

A run with a command goes through three stages: the configuration is loaded, an engine is made, and the engine is asked
one question, after which it is closed. Only the last stage can reach the outside, and only its answer can become a
verdict. A run that does not come that far says nothing and ends with its own exit code (`run_of_no_engine`); one that
does says what the engine answered and leaves the world as the engine left it (`run_of_engine`).

The words of a verdict are those of a yes and a no only, since a fault is announced as one (`ofVerdict_fault`). So
whoever looks at the output, or at the exit code, can tell the three apart (`run_reports`).
-/

set_option autoImplicit false

namespace TopicGuard.Program

open Policy (Question)
open TopicGuard.Outcome (toOption_eq_some_iff)

/-- The question of a command. -/
def Command.question : Command → Question
  | .authenticate => .authenticate
  | .superuser => .isPrivileged
  | .access topic clientId level => .checkAccess topic clientId level

variable {World : Type} {words : List String} {env : Environment} {a : Arguments} {read : FileReader}
  {connector : Connector} {outside : Outside (StateM World)} {now : Instant} {w : World} {e : Engine}

/-- What the arguments ask of an engine: the question of the command, about the token that is given or, without one,
about the empty text. -/
def Arguments.ask (a : Arguments) (outside : Outside (StateM World)) (now : Instant) (e : Engine) :
    StateM World Policy.Verdict :=
  e.decision outside now (a.token.getD "") a.command.question

theorem decide_eq_ask : decide e outside now (a.token.getD "") a.command = a.ask outside now e := by
  unfold Arguments.ask
  cases a.command <;> rfl

/-- An engine that is used once gives the answer to its question and is closed afterwards; closing changes nothing
outside. -/
theorem useOnce_eq :
    useOnce e outside now (a.token.getD "") a.command w
      = (((a.ask outside now e w).1, e.close), (a.ask outside now e w).2) := by
  rw [← decide_eq_ask]
  rfl

/-! ## Outcomes -/

namespace Outcome

/-- A fault is announced as one, whatever its wording. -/
theorem ofVerdict_fault (fault : Policy.Fault) :
    (ofVerdict (.error fault)).exitCode = 2
      ∧ (ofVerdict (.error fault)).output ≠ "allow" ∧ (ofVerdict (.error fault)).output ≠ "deny" := by
  have hhead : (ofVerdict (.error fault)).output.toList.head? = some 'f' := by
    simp only [ofVerdict, String.toList_append, List.head?_append]
    rfl
  refine ⟨rfl, ?_, ?_⟩
  · intro h
    rw [h] at hhead
    exact absurd hhead (by decide)
  · intro h
    rw [h] at hhead
    exact absurd hhead (by decide)

theorem unusable_fault : unusable.exitCode = 2 ∧ unusable.output ≠ "allow" ∧ unusable.output ≠ "deny" := by
  decide

/-- The word of a yes belongs to a yes, and so does its exit code; the same for a no. -/
theorem ofVerdict_eq_iff (verdict : Policy.Verdict) :
    (ofVerdict verdict = ⟨0, "allow"⟩ ↔ verdict = .ok true)
      ∧ (ofVerdict verdict = ⟨1, "deny"⟩ ↔ verdict = .ok false) := by
  cases verdict with
  | ok allowed => cases allowed <;> simp [ofVerdict]
  | error fault => simp [ofVerdict]

end Outcome

/-! ## Runs -/

/-- The configuration of a run can be loaded, and the engine is made from it. -/
def Makes (a : Arguments) (env : Environment) (read : FileReader) (connector : Connector) (e : Engine) : Prop :=
  ∃ settings, Config.load read (sources a env) = .ok settings ∧ Engine.ofSettings settings read connector = .ok e

theorem engine?_eq_some_iff : engine? a env read connector = some e ↔ Makes a env read connector e := by
  unfold engine? Makes
  rw [Option.bind_eq_bind, Option.bind_eq_some_iff]
  simp only [toOption_eq_some_iff]

theorem Makes.unique {e' : Engine} (h : Makes a env read connector e) (h' : Makes a env read connector e') : e' = e :=
  Option.some.inj ((engine?_eq_some_iff.mpr h').symm.trans (engine?_eq_some_iff.mpr h))

/-- The engine of a run, if there is one, answers its question with this verdict. -/
def Answers (a : Arguments) (env : Environment) (read : FileReader) (connector : Connector)
    (outside : Outside (StateM World)) (now : Instant) (w : World) (verdict : Policy.Verdict) : Prop :=
  ∃ e, Makes a env read connector e ∧ (a.ask outside now e w).1 = verdict

theorem Makes.answers_iff {verdict : Policy.Verdict} (h : Makes a env read connector e) :
    Answers a env read connector outside now w verdict ↔ (a.ask outside now e w).1 = verdict := by
  constructor
  · rintro ⟨e', he', hverdict⟩
    rw [← h.unique he']
    exact hverdict
  · intro hverdict
    exact ⟨e, h, hverdict⟩

theorem run_of_engine (hparse : Arguments.parse env words = .ok a) (h : Makes a env read connector e) :
    run words env read connector outside now w = (.ofVerdict (a.ask outside now e w).1, (a.ask outside now e w).2) := by
  have hrun : run words env read connector outside now
      = (useOnce e outside now (a.token.getD "") a.command >>= fun used => pure (.ofVerdict used.1)) := by
    unfold run runCommand
    simp only [hparse, engine?_eq_some_iff.mpr h]
  rw [hrun]
  change (fun used : (Policy.Verdict × Engine) × World => (Outcome.ofVerdict used.1.1, used.2))
    (useOnce e outside now (a.token.getD "") a.command w) = _
  rw [useOnce_eq]

theorem run_of_no_engine (hparse : Arguments.parse env words = .ok a) (h : ∀ e, ¬ Makes a env read connector e) :
    run words env read connector outside now w = (.unusable, w) := by
  have hnone : engine? a env read connector = none := by
    rw [Option.eq_none_iff_forall_ne_some]
    intro e he
    exact h e (engine?_eq_some_iff.mp he)
  unfold run runCommand
  simp only [hparse, hnone]
  rfl

/-- For arguments that name a command: a run says "allow" with exit code 0 exactly if its engine is made and answers
yes, "deny" with exit code 1 exactly if it answers no, and ends with exit code 2 and another output in every other case.
Without an engine there is no output and nothing outside is asked; with one, what is asked is what the engine asks. -/
theorem run_reports (words : List String) (env : Environment) (a : Arguments)
    (hparse : Arguments.parse env words = .ok a) (read : FileReader) (connector : Connector) (World : Type)
    (outside : Outside (StateM World)) (now : Instant) (w : World) :
    let reported := run words env read connector outside now w
    (reported.1 = ⟨0, "allow"⟩ ↔ Answers a env read connector outside now w (.ok true))
      ∧ (reported.1 = ⟨1, "deny"⟩ ↔ Answers a env read connector outside now w (.ok false))
      ∧ ((∀ allowed, ¬ Answers a env read connector outside now w (.ok allowed)) →
          reported.1.exitCode = 2 ∧ reported.1.output ≠ "allow" ∧ reported.1.output ≠ "deny")
      ∧ ((∀ e, ¬ Makes a env read connector e) → reported = (⟨2, ""⟩, w))
      ∧ ∀ e, Makes a env read connector e → reported.2 = (a.ask outside now e w).2 := by
  intro reported
  by_cases hmade : ∃ e, Makes a env read connector e
  · obtain ⟨e, he⟩ := hmade
    have hreported : reported = (.ofVerdict (a.ask outside now e w).1, (a.ask outside now e w).2) :=
      run_of_engine hparse he
    obtain ⟨hallow, hdeny⟩ := Outcome.ofVerdict_eq_iff (a.ask outside now e w).1
    rw [hreported, he.answers_iff, he.answers_iff]
    refine ⟨hallow, hdeny, ?_, ?_, ?_⟩
    · intro hnone
      cases hverdict : (a.ask outside now e w).1 with
      | ok allowed => exact absurd (he.answers_iff.mpr hverdict) (hnone allowed)
      | error fault => exact Outcome.ofVerdict_fault fault
    · intro hnone
      exact absurd he (hnone e)
    · intro e' he'
      rw [he.unique he']
  · have hnone : ∀ e, ¬ Makes a env read connector e := not_exists.mp hmade
    have hanswers (verdict : Policy.Verdict) : ¬ Answers a env read connector outside now w verdict := by
      rintro ⟨e, he, -⟩
      exact hnone e he
    have hreported : reported = (.unusable, w) := run_of_no_engine hparse hnone
    obtain ⟨hcode, hallow, hdeny⟩ := Outcome.unusable_fault
    rw [hreported]
    refine ⟨?_, ?_, fun _ => ⟨hcode, hallow, hdeny⟩, fun _ => rfl, fun e he => absurd he (hnone e)⟩
    · exact iff_of_false (fun h => hallow (congrArg Outcome.output h)) (hanswers _)
    · exact iff_of_false (fun h => hdeny (congrArg Outcome.output h)) (hanswers _)

/-- A store that is set up by variables alone, and a token that is given by one. The identity has a room of its own, so
the program says "allow" after one query. Where the database cannot be opened it says nothing, without a query. -/
theorem run_reports_own_room :
    let token := Token.sign (.object [("username", .string "u")]) "k"
    let env : Environment := fun name => [("VIGIL_TOKEN", token), ("VIGIL_TOKEN_SECRET", "k"),
      ("VIGIL_LOCAL_DATABASE_URL", "sqlite:rooms.db"), ("VIGIL_LOCAL_USER_QUERY", "users"),
      ("VIGIL_LOCAL_ACL_QUERY", "grants")].lookup name
    let words := ["acl", "--topic", "rooms/u", "--acc=2"]
    let read : FileReader := fun _ => .error .missing
    let outside : Outside (StateM Nat) :=
      ⟨fun _ n => (.rows [[.text "rooms/%u", .integer 2]], n + 1), fun _ n => (.lapse .broken, n + 1)⟩
    let present : Connector := ⟨fun _ => .ok (), fun _ => .ok ()⟩
    let missing : Connector := ⟨fun _ => .error "unable to open database file", fun _ => .ok ()⟩
    run words env read present outside .epoch 0 = (⟨0, "allow"⟩, 1)
      ∧ run words env read missing outside .epoch 0 = (⟨2, ""⟩, 0) := by
  intro token env words read outside present missing
  let a : Arguments := ⟨none, some token, .access "rooms/u" defaultClientId 2⟩
  let settings : Store.Settings :=
    ⟨"sqlite:rooms.db", 10, .ofSeconds 5, ⟨"users", none, "grants"⟩, false, false⟩
  let verifier : Token.Verifier := ⟨.hs256, .shared (Utf8.encode "k"), "username", none, none, 0⟩
  let store : Store := ⟨verifier, settings.templates, .ofSeconds 5, false, false⟩
  have hparse : Arguments.parse env words = .ok a := rfl
  have hload : Config.load read (sources a env)
      = .ok ⟨⟨.hs256, some (.secret ⟨"k"⟩), "username", none, none, 0⟩, .store settings⟩ := by
    rw [Config.load_eq ⟨by decide, fun _ => rfl⟩]
    decide +kernel
  have hvalid : settings.validate = .ok () := by decide +kernel
  have hmakes : Makes a env read present (.ofStore store) :=
    ⟨_, hload, Engine.ofSettings_store_eq_ok_iff.mpr
      ⟨verifier, _, rfl, rfl, Store.ofSettings_eq_ok_iff.mpr ⟨hvalid, rfl⟩, rfl⟩⟩
  have hv : verifier.verify .enforce .epoch token = .ok ⟨"u", none, none, [], none, none, none⟩ :=
    Token.verify_sign_name (by decide)
  have hjudge : store.judgeAccess ⟨"u", defaultClientId⟩ "rooms/u" 2 (.rows [[.text "rooms/%u", .integer 2]])
      = .ok true := by
    decide +kernel
  have hask : a.ask outside .epoch (.ofStore store) 0 = (.ok true, 1) := by
    change (Engine.ofStore store).runStore outside (store.consult .enforce .epoch token _ _) 0 = _
    rw [Store.consult_of_ok hv]
    change ((store.judgeAccess ⟨"u", defaultClientId⟩ "rooms/u" 2 (.rows _)).mapError Store.Fault.toPolicy, 1) = _
    rw [hjudge]
    rfl
  obtain ⟨hallow, -, -, -, hafter⟩ := run_reports words env a hparse read present Nat outside .epoch 0
  obtain ⟨-, -, -, hnone, -⟩ := run_reports words env a hparse read missing Nat outside .epoch 0
  refine ⟨Prod.ext (hallow.mpr ⟨_, hmakes, congrArg Prod.fst hask⟩)
    ((hafter _ hmakes).trans (congrArg Prod.snd hask)), hnone ?_⟩
  rintro e' ⟨settings', hload', he'⟩
  obtain rfl := Except.ok.inj (hload'.symm.trans hload)
  obtain ⟨_, _, _, hopen, -⟩ := Engine.ofSettings_store_eq_ok_iff.mp he'
  cases hopen

end TopicGuard.Program
