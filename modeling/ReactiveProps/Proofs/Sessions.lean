import Mathlib.Data.List.Induction
import Mathlib.Logic.Function.Basic
import ReactiveProps.Analysis.Session
import ReactiveProps.Proofs.ParseCache
import ReactiveProps.Proofs.Strictness

/-!
# Sessions have no hidden memory

What a session answers depends on the configuration, on the current analyzer and on what is asked,
and these can be read off the steps taken. Nothing else that a session keeps can be told from its
answers: neither its handlers, nor its parse cache, nor what failed before.
-/
namespace ReactiveProps.Analysis

open Typing

theorem Grammar.name_injective : Function.Injective Grammar.name := by
  intro grammar other same
  have named := Grammar.ofName?_name grammar
  rw [same, Grammar.ofName?_name, Option.some.injEq] at named
  exact named.symm

namespace Session

variable {parser : Parser} {session : Session}

/-- Every handler has a number that stands for its grammar, and the cache is right about these
grammars. -/
structure SoundFor (parser : Parser) (grammarOf : Nat → Grammar) (session : Session) : Prop where
  handlers : ∀ name handler, session.handlers.get? name = some handler →
    handler.id < session.nextHandler ∧ grammarOf handler.id = handler.grammar ∧
      handler.grammar.name = name
  cache : session.cache.Sound parser grammarOf session.nextHandler

def Sound (parser : Parser) (session : Session) : Prop :=
  ∃ grammarOf, session.SoundFor parser grammarOf

theorem sound_start (configuration : Configuration) : (start configuration).Sound parser :=
  ⟨fun _ => .typescript, nofun, ParseCache.sound_empty⟩

theorem Sound.renew (sound : session.Sound parser) (resolver : Option Resolver)
    (strict : Option Bool) : (session.renew resolver strict).Sound parser := by
  obtain ⟨grammarOf, right⟩ := sound
  exact ⟨grammarOf, nofun, right.cache⟩

theorem Sound.set (sound : session.Sound parser) (sectionName key : String) (value : Value) :
    (session.set sectionName key value).Sound parser := by
  obtain ⟨grammarOf, right⟩ := sound
  exact ⟨grammarOf, right.handlers, right.cache⟩

theorem Sound.reset (sound : session.Sound parser) : session.reset.Sound parser := by
  obtain ⟨grammarOf, right⟩ := sound
  exact ⟨grammarOf, right.handlers, right.cache⟩

/-- The handler for a grammar is one of that grammar, also when it has to be made. -/
theorem Sound.handler (sound : session.Sound parser) (grammar : Grammar) :
    ∃ grammarOf, (session.handler grammar).2.SoundFor parser grammarOf ∧
      (session.handler grammar).1.id < (session.handler grammar).2.nextHandler ∧
      (session.handler grammar).1.grammar = grammar ∧
      grammarOf (session.handler grammar).1.id = grammar := by
  obtain ⟨grammarOf, right⟩ := sound
  unfold Session.handler
  cases held : session.handlers.get? grammar.name with
  | some handler =>
    obtain ⟨made, stands, named⟩ := right.handlers _ _ held
    have same : handler.grammar = grammar := Grammar.name_injective named
    exact ⟨grammarOf, right, made, same, stands.trans same⟩
  | none =>
    have others : ∀ id < session.nextHandler,
        Function.update grammarOf session.nextHandler grammar id = grammarOf id :=
      fun id made => Function.update_of_ne (Nat.ne_of_lt made) _ _
    refine ⟨Function.update grammarOf session.nextHandler grammar, ⟨?_, ?_⟩,
      Nat.lt_succ_self _, rfl, Function.update_self ..⟩
    · intro name handler listed
      simp only [OrderedMap.get?_insert] at listed
      by_cases new : name = grammar.name
      · rw [if_pos new, Option.some.injEq] at listed
        subst listed
        exact ⟨Nat.lt_succ_self _, Function.update_self .., new.symm⟩
      · rw [if_neg new] at listed
        obtain ⟨made, stands, named⟩ := right.handlers _ _ listed
        exact ⟨Nat.lt_succ_of_lt made, (others _ made).trans stands, named⟩
    · exact right.cache.extend (Nat.le_succ _) others

theorem configuration_handler (grammar : Grammar) :
    (session.handler grammar).2.configuration = session.configuration ∧
      (session.handler grammar).2.analyzer = session.analyzer := by
  unfold Session.handler
  cases session.handlers.get? grammar.name <;> exact ⟨rfl, rfl⟩

/-- Handlers and cache make no difference to what a job is parsed to. -/
theorem Sound.parsed (sound : session.Sound parser) (job : Job) :
    (session.parsed parser job).1 = job.parsed parser ∧
      (session.parsed parser job).2.Sound parser := by
  unfold Session.parsed Job.parsed
  cases job.grammar with
  | error error => exact ⟨rfl, sound⟩
  | ok grammar =>
    obtain ⟨grammarOf, right, made, same, stands⟩ := sound.handler grammar
    obtain ⟨given, kept⟩ :=
      Handler.parse_eq right.cache made (stands.trans same.symm) job.code
    refine ⟨?_, grammarOf, right.handlers, kept⟩
    rw [same] at given
    exact given

variable (parser session) in
theorem configuration_parsed (job : Job) :
    (session.parsed parser job).2.configuration = session.configuration ∧
      (session.parsed parser job).2.analyzer = session.analyzer := by
  unfold Session.parsed
  cases job.grammar with
  | error error => exact ⟨rfl, rfl⟩
  | ok grammar => exact configuration_handler grammar

theorem Sound.analyze (sound : session.Sound parser) (job : Job) :
    (session.analyze parser job).1 =
        Analysis.analyze parser session.analyzer session.configuration.settings job ∧
      (session.analyze parser job).2.Sound parser := by
  obtain ⟨given, kept⟩ := sound.parsed job
  have unchanged := configuration_parsed parser session job
  unfold Session.analyze Analysis.analyze
  rw [← given]
  generalize session.parsed parser job = step at kept unchanged ⊢
  obtain ⟨outcome, next⟩ := step
  obtain ⟨configuration, analyzer⟩ := unchanged
  cases outcome with
  | error error => exact ⟨rfl, kept⟩
  | ok parsed =>
    rw [← configuration, ← analyzer]
    exact ⟨rfl, kept⟩

variable (parser session) in
theorem configuration_analyze (job : Job) :
    (session.analyze parser job).2.configuration = session.configuration ∧
      (session.analyze parser job).2.analyzer = session.analyzer := by
  have unchanged := configuration_parsed parser session job
  unfold Session.analyze
  generalize session.parsed parser job = step at unchanged ⊢
  obtain ⟨outcome, next⟩ := step
  cases outcome with
  | error error => exact unchanged
  | ok parsed => exact unchanged

end Session

inductive Step
  /-- Goes on with a new analyzer. -/
  | renew (resolver : Option Resolver) (strict : Option Bool)
  | set (sectionName key : String) (value : Value)
  | reset
  | analyze (job : Job)
  /-- Analyzes a module and looks for an element in it. -/
  | element (job : Job) (name : String)

inductive Answer
  | done
  | strictness (strict : Bool)
  | analyzed (outcome : Logged Module)
  | found (events : List Event) (result : Except AnalysisError (Option ElementDeclaration))

namespace Session

variable (parser : Parser)

def step (session : Session) : Step → Answer × Session
  | .renew resolver strict =>
    let next := session.renew resolver strict
    (.strictness next.analyzer.strict, next)
  | .set sectionName key value => (.done, session.set sectionName key value)
  | .reset => (.done, session.reset)
  | .analyze job =>
    let (outcome, next) := session.analyze parser job
    (.analyzed outcome, next)
  | .element job name =>
    let (outcome, next) := session.analyze parser job
    (.found outcome.events (outcome.result.map fun module => module.element? name), next)

def after (session : Session) (steps : List Step) : Session :=
  steps.foldl (fun session step => (session.step parser step).2) session

def answers (session : Session) : List Step → List Answer
  | [] => []
  | step :: rest => (session.step parser step).1 :: (session.step parser step).2.answers rest

theorem getElem?_answers (session : Session) (steps : List Step) (i : Nat) :
    (session.answers parser steps)[i]? =
      steps[i]?.map fun step => ((session.after parser (steps.take i)).step parser step).1 := by
  induction steps generalizing session i with
  | nil => rfl
  | cons first rest ih =>
    cases i with
    | zero => rfl
    | succ i =>
      rw [answers, List.getElem?_cons_succ, List.getElem?_cons_succ, ih]
      rfl

end Session

/-! ### What the steps so far say

A history is a list of steps, the newest first. -/

namespace Step

def resets : Step → Bool
  | reset => true
  | _ => false

def writes? (sectionName key : String) : Step → Option Value
  | set otherSection otherKey value =>
    if (sectionName, key) = (otherSection, otherKey) then some value else none
  | _ => none

end Step

/-- The last value set for a key since the last reset, else its default. -/
def valueIn (history : List Step) (sectionName key : String) : Option Value :=
  ((history.takeWhile fun step => !step.resets).findSome? (Step.writes? sectionName key)).or
    (Configuration.default.get? (sectionName, key))

def skipsIn (history : List Step) : Bool :=
  ((valueIn history "analysis" "skip_failed_classes").getD (.bool true)).truthy

/-- The analyzer made last. What was set later makes no difference to it. -/
def analyzerIn : List Step → Analyzer
  | [] => ⟨syntactic, false⟩
  | .renew resolver strict :: earlier =>
    ⟨resolver.getD syntactic, strict.getD (!skipsIn earlier)⟩
  | _ :: earlier => analyzerIn earlier

def Follows (configuration : Configuration) (history : List Step) : Prop :=
  ∀ sectionName key, configuration.get? (sectionName, key) = valueIn history sectionName key

section Follows

variable {configuration other : Configuration} {history : List Step}

theorem valueIn_of_idle {step : Step} (keeps : step.resets = false)
    (silent : ∀ sectionName key, step.writes? sectionName key = none) :
    valueIn (step :: history) = valueIn history := by
  funext sectionName key
  rw [valueIn, valueIn, List.takeWhile_cons, keeps, Bool.not_false, if_pos rfl,
    List.findSome?_cons, silent]

theorem follows_set (follows : Follows configuration history) (sectionName key : String)
    (value : Value) :
    Follows (configuration.set sectionName key value)
      (.set sectionName key value :: history) := by
  intro otherSection otherKey
  have before : valueIn (.set sectionName key value :: history) otherSection otherKey =
      if (otherSection, otherKey) = (sectionName, key) then some value
      else valueIn history otherSection otherKey := by
    simp only [valueIn, List.takeWhile_cons, Step.resets, Bool.not_false, if_true,
      List.findSome?_cons, Step.writes?]
    split <;> simp_all
  rw [Configuration.set, OrderedMap.get?_insert, before, follows otherSection otherKey]

theorem follows_reset : Follows .default (.reset :: history) := fun _ _ => rfl

theorem lookup_eq_of_follows (follows : Follows configuration history)
    (followsToo : Follows other history) (sectionName key : String) (fallback : Value) :
    configuration.lookup sectionName key fallback = other.lookup sectionName key fallback := by
  rw [Configuration.lookup, Configuration.lookup, follows, followsToo]

theorem settings_eq_of_follows (follows : Follows configuration history)
    (followsToo : Follows other history) : configuration.settings = other.settings := by
  have same (key : String) : configuration.analysis key = other.analysis key :=
    lookup_eq_of_follows follows followsToo _ _ _
  simp only [Configuration.settings, same]

theorem strictByDefault_of_follows (follows : Follows configuration history) :
    configuration.strictByDefault = !skipsIn history := by
  rw [Configuration.strictByDefault, Configuration.lookup, follows, skipsIn]

end Follows

namespace Session

variable {parser : Parser} {session : Session} {history : List Step}

/-- A session is in the state that a history leads to, as far as it can be told. -/
structure Remembers (parser : Parser) (history : List Step) (session : Session) : Prop where
  sound : session.Sound parser
  configuration : Follows session.configuration history
  analyzer : session.analyzer = analyzerIn history

theorem remembers_start : (start .default).Remembers parser [] where
  sound := sound_start .default
  configuration := fun _ _ => rfl
  analyzer := by
    have skips : Configuration.default.strictByDefault = false := by decide
    rw [start, Analyzer.new, skips]
    rfl

/-- An analysis leaves everything as it was that a history speaks of. -/
theorem Remembers.analyze (remembers : session.Remembers parser history) (job : Job)
    {later : List Step} (values : valueIn later = valueIn history)
    (analyzer : analyzerIn later = analyzerIn history) :
    (session.analyze parser job).2.Remembers parser later := by
  have unchanged := configuration_analyze parser session job
  refine ⟨(remembers.sound.analyze job).2, ?_, ?_⟩
  · rw [unchanged.1, Follows, values]
    exact remembers.configuration
  · rw [unchanged.2, analyzer]
    exact remembers.analyzer

theorem Remembers.step (remembers : session.Remembers parser history) (step : Step) :
    (session.step parser step).2.Remembers parser (step :: history) := by
  cases step with
  | renew resolver strict =>
    refine ⟨remembers.sound.renew resolver strict, ?_, ?_⟩
    · rw [Follows, valueIn_of_idle rfl fun _ _ => rfl]
      exact remembers.configuration
    · have skips := strictByDefault_of_follows remembers.configuration
      simp only [Session.step, Session.renew, Analyzer.new, analyzerIn, skips]
  | set sectionName key value =>
    exact ⟨remembers.sound.set sectionName key value,
      follows_set remembers.configuration sectionName key value, remembers.analyzer⟩
  | reset => exact ⟨remembers.sound.reset, follows_reset, remembers.analyzer⟩
  | analyze job => exact remembers.analyze job (valueIn_of_idle rfl fun _ _ => rfl) rfl
  | element job name => exact remembers.analyze job (valueIn_of_idle rfl fun _ _ => rfl) rfl

theorem remembers_after (parser : Parser) (steps : List Step) :
    ((start .default).after parser steps).Remembers parser steps.reverse := by
  induction steps using List.reverseRecOn with
  | nil => exact remembers_start
  | append_singleton steps step ih =>
    rw [after, List.foldl_append, List.reverse_append]
    exact ih.step step

/-- The answer of a session that was started just now, with an analyzer made just now. -/
def freshAnswer (parser : Parser) (configuration : Configuration) (analyzer : Analyzer)
    (step : Step) : Answer :=
  (((start configuration).renew (some analyzer.resolver) (some analyzer.strict)).step
    parser step).1

theorem step_eq_of_sound {other : Session} (sound : session.Sound parser)
    (soundToo : other.Sound parser) (analyzer : session.analyzer = other.analyzer)
    (settings : session.configuration.settings = other.configuration.settings)
    (strict : session.configuration.strictByDefault = other.configuration.strictByDefault)
    (step : Step) : (session.step parser step).1 = (other.step parser step).1 := by
  have same (job : Job) : (session.analyze parser job).1 = (other.analyze parser job).1 := by
    rw [(sound.analyze job).1, (soundToo.analyze job).1, analyzer, settings]
  cases step with
  | renew resolver explicit => simp only [Session.step, Session.renew, Analyzer.new, strict]
  | set sectionName key value => rfl
  | reset => rfl
  | analyze job => simp only [Session.step, same]
  | element job name => simp only [Session.step, same]

theorem freshAnswer_analyze (parser : Parser) (configuration : Configuration)
    (analyzer : Analyzer) (job : Job) :
    freshAnswer parser configuration analyzer (.analyze job) =
      .analyzed (Analysis.analyze parser analyzer configuration.settings job) := by
  have started : (start configuration).Sound parser := sound_start configuration
  have sound := started.renew (some analyzer.resolver) (some analyzer.strict)
  simp only [freshAnswer, Session.step, (sound.analyze job).1]
  rfl

/-- The answer to a step is that of a session that has taken no step before. It is given by the
step itself, by the last values set since the last reset, and by the resolver and the strictness of
the analyzer made last. -/
theorem answers_forget (parser : Parser) (steps : List Step) (i : Nat) :
    let history := (steps.take i).reverse
    let answers := (start .default).answers parser steps
    (∃ configuration, Follows configuration history) ∧
      ∀ configuration, Follows configuration history →
        answers[i]? = steps[i]?.map (freshAnswer parser configuration (analyzerIn history)) ∧
          ∀ job, steps[i]? = some (.analyze job) →
            answers[i]? = some (.analyzed
              (Analysis.analyze parser (analyzerIn history) configuration.settings job)) := by
  intro history answers
  have remembers := remembers_after parser (steps.take i)
  refine ⟨⟨_, remembers.configuration⟩, ?_⟩
  intro configuration follows
  have fresh : answers[i]? =
      steps[i]?.map (freshAnswer parser configuration (analyzerIn history)) := by
    have each : ∀ step, (((start .default).after parser (steps.take i)).step parser step).1 =
        freshAnswer parser configuration (analyzerIn history) step := by
      intro step
      have settings := settings_eq_of_follows remembers.configuration follows
      have strict : _ = configuration.strictByDefault :=
        (strictByDefault_of_follows remembers.configuration).trans
          (strictByDefault_of_follows follows).symm
      have started : (start configuration).Sound parser := sound_start configuration
      have renewed := started.renew (some (analyzerIn history).resolver)
        (some (analyzerIn history).strict)
      exact step_eq_of_sound remembers.sound renewed remembers.analyzer settings strict step
    simp only [answers, getElem?_answers, each]
  refine ⟨fresh, ?_⟩
  intro job asked
  rw [fresh, asked, Option.map_some, freshAnswer_analyze]

/-- An analyzer made while failing classes are not skipped stays strict. -/
def strictlyAnalyzed : List Step := [
  .set "analysis" "skip_failed_classes" (.bool false),
  .renew none none,
  .set "analysis" "skip_failed_classes" (.bool true),
  .analyze twoClassesJob]

theorem answers_forget_strictlyAnalyzed :
    let history := (strictlyAnalyzed.take 3).reverse
    let configuration := (Configuration.default.set "analysis" "skip_failed_classes"
      (.bool false)).set "analysis" "skip_failed_classes" (.bool true)
    Follows configuration history ∧ analyzerIn history = ⟨syntactic, true⟩ ∧
      ∃ outcome, ((start .default).answers twoClassesParser strictlyAnalyzed)[3]? =
          some (.analyzed outcome) ∧ outcome.result.toOption.isNone = true := by
  intro history configuration
  have follows : Follows configuration history := by
    refine follows_set ?_ _ _ _
    rw [Follows, valueIn_of_idle rfl fun _ _ => rfl]
    exact follows_set (fun _ _ => rfl) _ _ _
  obtain ⟨-, forget⟩ := answers_forget twoClassesParser strictlyAnalyzed 3
  obtain ⟨-, analyzed⟩ := forget configuration follows
  refine ⟨follows, rfl, _, analyzed twoClassesJob rfl, ?_⟩
  decide +kernel

end Session

end ReactiveProps.Analysis
