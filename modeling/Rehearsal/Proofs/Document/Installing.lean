import Rehearsal.Proofs.Document.Steps
import Rehearsal.Proofs.Suite.Operations

/-!
What an installation does, step by step.

Each scenario of a document comes to a row of operations on the suite, and the installation performs
them one behind the other.  If it comes to grief over a scenario, what has been done up to there
remains, and nothing behind it is done.
-/

namespace Rehearsal

/-- The operations that a scenario of a document comes to: all that it depends on is scheduled
again, and then it is defined by its steps. -/
def ScenarioSpec.Amounts (spec : ScenarioSpec) (operations : List Suite.Operation) : Prop :=
  ∃ steps,
    List.Forall₂ (fun described made => StepSpec.toStep described = .ok made) spec.steps steps ∧
    operations = spec.dependsOn.map .dependsOn ++ [.scenario spec.name steps]

/-- All that a scenario depends on is known, and all of its steps can be made. -/
structure ScenarioSpec.Resolves (spec : ScenarioSpec) (known : String → Prop) : Prop where
  dependencies : ∀ name ∈ spec.dependsOn, known name
  steps : ∀ step ∈ spec.steps, ∃ made, step.toStep = .ok made

/-- Scenarios can be defined one after the other: each depends only on what the suite knows and on
scenarios before it. -/
def Suite.Resolves (suite : Suite) (specs : List ScenarioSpec) : Prop :=
  ∀ before spec behind, specs = before ++ spec :: behind →
    spec.Resolves fun name =>
      suite.registry.contains name = true ∨ name ∈ before.map ScenarioSpec.name

/-- What a scenario comes to grief over, and what has been scheduled again by then. -/
inductive ScenarioSpec.Breaks (spec : ScenarioSpec) (suite : Suite) :
    List String → Error → Prop where
  | dependency {front rest : List String} {name : String} :
      spec.dependsOn = front ++ name :: rest →
      (∀ held ∈ front, suite.registry.contains held = true) →
      suite.registry.contains name = false →
      Breaks spec suite front (.unknownScenario name)
  | address {earlier later : List StepSpec} {voice : Voice} {message : String}
      {url urlRegex : Option String} {fault : DocumentFault} :
      (∀ name ∈ spec.dependsOn, suite.registry.contains name = true) →
      spec.steps = earlier ++ { voice, action := .reached message url urlRegex } :: later →
      (∀ step ∈ earlier, ∃ made, step.toStep = .ok made) →
      UrlPattern.of url urlRegex = .error fault →
      Breaks spec suite spec.dependsOn (.document fault)

theorem StepSpec.toStep_reached (voice : Voice) (message : String) (url urlRegex : Option String) :
    toStep { voice, action := .reached message url urlRegex } =
      (UrlPattern.of url urlRegex).map fun pattern =>
        (Action.reached message pattern).voiced voice := by
  unfold toStep ActionSpec.toAction
  dsimp only
  cases UrlPattern.of url urlRegex with
  | ok pattern => rfl
  | error fault => rfl

theorem StepSpec.toStep_eq_error {step : StepSpec} {fault : DocumentFault}
    (failed : step.toStep = .error fault) :
    ∃ voice message url urlRegex, step = { voice, action := .reached message url urlRegex } ∧
      UrlPattern.of url urlRegex = .error fault := by
  obtain ⟨voice, action⟩ := step
  cases action with
  | reached message url urlRegex =>
      rw [toStep_reached] at failed
      cases refused : UrlPattern.of url urlRegex with
      | ok pattern =>
          rw [refused] at failed
          cases failed
      | error other =>
          rw [refused] at failed
          cases failed
          exact ⟨voice, message, url, urlRegex, rfl, refused⟩
  | _ => cases failed

/-- Steps are made up to the first that cannot be. -/
theorem mapM_toStep_append {front : List StepSpec}
    (makes : ∀ step ∈ front, ∃ made, step.toStep = .ok made) {step : StepSpec}
    {fault : DocumentFault} (failed : step.toStep = .error fault) (rest : List StepSpec) :
    (front ++ step :: rest).mapM StepSpec.toStep = .error fault := by
  induction front with
  | nil =>
      rw [List.nil_append, List.mapM_cons, failed]
      rfl
  | cons first others inductionHypothesis =>
      rw [List.forall_mem_cons] at makes
      obtain ⟨made, first⟩ := makes.1
      rw [List.cons_append, List.mapM_cons, first, inductionHypothesis makes.2]
      rfl

theorem exists_forall₂_of_forall {α β : Type} {R : α → β → Prop} {values : List α}
    (each : ∀ value ∈ values, ∃ result, R value result) :
    ∃ results, List.Forall₂ R values results := by
  induction values with
  | nil => exact ⟨[], .nil⟩
  | cons value rest inductionHypothesis =>
      rw [List.forall_mem_cons] at each
      obtain ⟨result, here⟩ := each.1
      obtain ⟨results, others⟩ := inductionHypothesis each.2
      exact ⟨result :: results, .cons here others⟩

/-- All of the values have a property, or there is a first that has not. -/
theorem forall_or_exists_first {α : Type} (holds : α → Prop) (values : List α) :
    (∀ value ∈ values, holds value) ∨
      ∃ front value rest, values = front ++ value :: rest ∧ (∀ held ∈ front, holds held) ∧
        ¬holds value := by
  classical
  cases found : values.find? fun value => decide (¬holds value) with
  | none => exact .inl (by simpa using found)
  | some value =>
      obtain ⟨fails, front, rest, rfl, before⟩ := List.find?_eq_some_iff_append.mp found
      exact .inr ⟨front, value, rest, rfl, by simpa using before, by simpa using fails⟩

namespace ScenarioSpec

variable {spec : ScenarioSpec} {suite : Suite} {replayed : List String} {error : Error}

theorem Resolves.imp {known more : String → Prop} (imp : ∀ name, known name → more name)
    (resolves : spec.Resolves known) : spec.Resolves more :=
  ⟨fun name membership => imp name (resolves.dependencies name membership), resolves.steps⟩

theorem Resolves.exists_amounts {known : String → Prop} (resolves : spec.Resolves known) :
    ∃ operations, spec.Amounts operations := by
  obtain ⟨steps, made⟩ := exists_forall₂_of_forall resolves.steps
  exact ⟨_, steps, made, rfl⟩

theorem Amounts.install {operations : List Suite.Operation} (amounts : spec.Amounts operations)
    (known : ∀ name ∈ spec.dependsOn, suite.registry.contains name = true) :
    spec.install suite = (.ok (), suite.performAll operations) := by
  obtain ⟨steps, made, rfl⟩ := amounts
  simp only [ScenarioSpec.install, Suite.replay_of_known known, mapM_eq_ok_iff.mpr made,
    Suite.performAll_append, Suite.performAll_cons, Suite.performAll_nil, Suite.perform_scenario]

/-- What a scenario comes to grief over leaves what has been scheduled again by then. -/
theorem Breaks.install (breaks : spec.Breaks suite replayed error) :
    spec.install suite = (.error error, suite.performAll (replayed.map .dependsOn)) := by
  cases breaks with
  | dependency split known unknown =>
      simp only [ScenarioSpec.install, split, Suite.replay_of_unknown known unknown]
  | @address earlier later voice message url urlRegex fault known split makes failed =>
      have stopped : StepSpec.toStep { voice, action := .reached message url urlRegex } =
          .error fault := by
        rw [StepSpec.toStep_reached, failed]
        rfl
      simp only [ScenarioSpec.install, Suite.replay_of_known known, split,
        mapM_toStep_append makes stopped]

theorem resolves_or_breaks (spec : ScenarioSpec) (suite : Suite) :
    (spec.Resolves fun name => suite.registry.contains name = true) ∨
      ∃ replayed error, spec.Breaks suite replayed error := by
  rcases forall_or_exists_first (fun name => suite.registry.contains name = true) spec.dependsOn
    with known | ⟨front, name, rest, split, known, unknown⟩
  · rcases forall_or_exists_first (fun step => ∃ made, StepSpec.toStep step = .ok made) spec.steps
      with makes | ⟨earlier, step, later, split, makes, fails⟩
    · exact .inl ⟨known, makes⟩
    · cases made : step.toStep with
      | ok made' => exact (fails ⟨made', made⟩).elim
      | error fault =>
          obtain ⟨voice, message, url, urlRegex, rfl, refused⟩ := StepSpec.toStep_eq_error made
          exact .inr ⟨_, _, .address known split makes refused⟩
  · exact .inr ⟨_, _, .dependency split known (Bool.eq_false_iff.mpr unknown)⟩

theorem Breaks.not_resolves (breaks : spec.Breaks suite replayed error) :
    ¬spec.Resolves fun name => suite.registry.contains name = true := by
  intro resolves
  obtain ⟨operations, amounts⟩ := resolves.exists_amounts
  cases breaks.install.symm.trans (amounts.install resolves.dependencies)

end ScenarioSpec

namespace ScenarioSpec

variable {spec : ScenarioSpec} {operations : List Suite.Operation}

theorem Amounts.contains (amounts : spec.Amounts operations) (suite : Suite) (name : String) :
    (suite.performAll operations).registry.contains name = true ↔
      suite.registry.contains name = true ∨ name = spec.name := by
  obtain ⟨steps, -, rfl⟩ := amounts
  have grown : ((suite.performAll (spec.dependsOn.map .dependsOn)).scenario spec.name
      steps).registry =
        (suite.performAll (spec.dependsOn.map .dependsOn)).registry.insert
          { name := spec.name, steps := .banner :: steps } := rfl
  rw [Suite.performAll_append, Suite.performAll_cons, Suite.performAll_nil,
    Suite.perform_scenario, grown, Registry.contains_insert, Suite.registry_performAll_dependsOn,
    Bool.or_eq_true, decide_eq_true_eq, or_comm, @eq_comm _ spec.name]

/-- What a scenario depends on is scheduled as it is in force, and nothing of what that depends on
in turn. -/
theorem Amounts.pipeline (amounts : spec.Amounts operations) (suite : Suite) :
    ∃ steps, List.Forall₂ (fun described made => StepSpec.toStep described = .ok made)
        spec.steps steps ∧
      (suite.performAll operations).pipeline =
        suite.pipeline ++
          (spec.dependsOn.flatMap suite.inForce ++ Suite.block spec.name steps) := by
  obtain ⟨steps, made, rfl⟩ := amounts
  have grown : ((suite.performAll (spec.dependsOn.map .dependsOn)).scenario spec.name
      steps).pipeline =
        (suite.performAll (spec.dependsOn.map .dependsOn)).pipeline ++
          Scenario.scheduled { name := spec.name, steps := .banner :: steps } := rfl
  refine ⟨steps, made, ?_⟩
  rw [Suite.performAll_append, Suite.performAll_cons, Suite.performAll_nil,
    Suite.perform_scenario, grown, Suite.pipeline_performAll_dependsOn, Suite.scheduled_eq_block,
    List.append_assoc]

end ScenarioSpec

namespace Suite

variable {suite middle : Suite} {spec : ScenarioSpec} {before behind specs : List ScenarioSpec}

theorem contains_performAll_flatten {operations : List (List Operation)}
    (amount : List.Forall₂ ScenarioSpec.Amounts specs operations) (suite : Suite) (name : String) :
    (suite.performAll operations.flatten).registry.contains name = true ↔
      suite.registry.contains name = true ∨ name ∈ specs.map ScenarioSpec.name := by
  induction amount generalizing suite with
  | nil => simp
  | cons amounts _ inductionHypothesis =>
      rw [List.flatten_cons, performAll_append, inductionHypothesis, amounts.contains, or_assoc,
        List.map_cons, List.mem_cons]

theorem resolves_nil (suite : Suite) : suite.Resolves [] := by
  intro before spec behind split
  cases before <;> cases split

theorem Resolves.head (resolves : suite.Resolves (spec :: specs)) :
    spec.Resolves fun name => suite.registry.contains name = true :=
  (resolves [] spec specs rfl).imp (by simp)

theorem resolves_cons_iff (known : ∀ name, middle.registry.contains name = true ↔
      suite.registry.contains name = true ∨ name = spec.name) :
    suite.Resolves (spec :: specs) ↔
      (spec.Resolves fun name => suite.registry.contains name = true) ∧ middle.Resolves specs := by
  constructor
  · intro resolves
    refine ⟨resolves.head, ?_⟩
    rintro before other behind rfl
    refine (resolves (spec :: before) other behind rfl).imp ?_
    intro name knows
    rwa [List.map_cons, List.mem_cons, ← or_assoc, ← known] at knows
  · rintro ⟨first, others⟩ before other behind split
    cases before with
    | nil =>
        cases split
        exact first.imp fun name => .inl
    | cons held rest =>
        cases split
        refine (others rest other behind rfl).imp ?_
        intro name knows
        rwa [known, or_assoc, ← List.mem_cons, ← List.map_cons] at knows

theorem installAll_append (installed : installAll before suite = (.ok (), middle))
    (behind : List ScenarioSpec) :
    installAll (before ++ behind) suite = installAll behind middle := by
  induction before generalizing suite with
  | nil =>
      cases installed
      rfl
  | cons spec rest inductionHypothesis =>
      rw [installAll] at installed
      rw [List.cons_append, installAll]
      split at installed
      next => exact inductionHypothesis installed
      next => cases installed

theorem Resolves.exists_amount (resolves : suite.Resolves specs) :
    ∃ operations, List.Forall₂ ScenarioSpec.Amounts specs operations := by
  refine exists_forall₂_of_forall ?_
  intro spec membership
  obtain ⟨before, behind, split⟩ := List.append_of_mem membership
  exact (resolves before spec behind split).exists_amounts

theorem Resolves.installAll {operations : List (List Operation)} (resolves : suite.Resolves specs)
    (amount : List.Forall₂ ScenarioSpec.Amounts specs operations) :
    installAll specs suite = (.ok (), suite.performAll operations.flatten) := by
  induction amount generalizing suite with
  | nil => rfl
  | @cons spec performed rest operations amounts _ inductionHypothesis =>
      obtain ⟨first, others⟩ := (resolves_cons_iff (amounts.contains suite)).mp resolves
      rw [Rehearsal.installAll, amounts.install first.dependencies, List.flatten_cons,
        performAll_append]
      exact inductionHypothesis others

/-- Either all scenarios can be defined, or there is a first that cannot. -/
theorem resolves_or_breaks (specs : List ScenarioSpec) (suite : Suite) :
    suite.Resolves specs ∨
      ∃ before spec behind operations replayed error,
        specs = before ++ spec :: behind ∧ suite.Resolves before ∧
        List.Forall₂ ScenarioSpec.Amounts before operations ∧
        spec.Breaks (suite.performAll operations.flatten) replayed error := by
  induction specs generalizing suite with
  | nil => exact .inl suite.resolves_nil
  | cons spec rest inductionHypothesis =>
      rcases spec.resolves_or_breaks suite with resolves | ⟨replayed, error, breaks⟩
      · obtain ⟨performed, amounts⟩ := resolves.exists_amounts
        have cons : ∀ others, (suite.performAll performed).Resolves others →
            suite.Resolves (spec :: others) :=
          fun others later => (resolves_cons_iff (amounts.contains suite)).mpr ⟨resolves, later⟩
        rcases inductionHypothesis (suite.performAll performed) with
          others | ⟨before, other, behind, operations, replayed, error, rfl, others, amount, breaks⟩
        · exact .inl (cons _ others)
        · refine .inr ⟨spec :: before, other, behind, performed :: operations, replayed, error, rfl,
            cons _ others, .cons amounts amount, ?_⟩
          rwa [List.flatten_cons, performAll_append]
      · exact .inr ⟨[], spec, rest, [], replayed, error, rfl, suite.resolves_nil, .nil, breaks⟩

section

variable {operations : List (List Operation)} {replayed : List String} {error : Error}

/-- Behind the scenarios before it a scenario finds all that it depends on. -/
theorem Resolves.resolved (resolves : suite.Resolves (before ++ spec :: behind))
    (amount : List.Forall₂ ScenarioSpec.Amounts before operations) :
    spec.Resolves fun name =>
      (suite.performAll operations.flatten).registry.contains name = true := by
  refine (resolves before spec behind rfl).imp ?_
  intro name knows
  rwa [contains_performAll_flatten amount]

theorem Resolves.front (resolves : suite.Resolves (before ++ behind)) : suite.Resolves before := by
  intro earlier spec later split
  refine resolves earlier spec (later ++ behind) ?_
  rw [split, List.append_assoc, List.cons_append]

theorem installAll_of_breaks (resolves : suite.Resolves before)
    (amount : List.Forall₂ ScenarioSpec.Amounts before operations)
    (breaks : spec.Breaks (suite.performAll operations.flatten) replayed error)
    (later : List ScenarioSpec) :
    installAll (before ++ spec :: later) suite =
      (.error error,
        (suite.performAll operations.flatten).performAll (replayed.map .dependsOn)) := by
  rw [installAll_append (resolves.installAll amount), installAll, breaks.install]

end

theorem resolves_of_installAll (installed : (installAll specs suite).1 = .ok ()) :
    suite.Resolves specs := by
  rcases suite.resolves_or_breaks specs with resolves |
    ⟨before, spec, behind, operations, replayed, error, rfl, resolves, amount, breaks⟩
  · exact resolves
  · rw [installAll_of_breaks resolves amount breaks] at installed
    cases installed

/-- A scenario puts a block of its own behind what the scenarios before it have scheduled and what
it depends on. -/
theorem pipeline_of_resolves (resolves : suite.Resolves (before ++ spec :: behind)) :
    ∃ early late steps,
      installAll before suite = (.ok (), early) ∧
      installAll (before ++ [spec]) suite = (.ok (), late) ∧
      List.Forall₂ (fun described made => StepSpec.toStep described = .ok made)
        spec.steps steps ∧
      late.pipeline =
        early.pipeline ++
          (spec.dependsOn.flatMap early.inForce ++ Suite.block spec.name steps) := by
  obtain ⟨earlier, amounted⟩ := resolves.front.exists_amount
  have resolved := resolves.resolved amounted
  obtain ⟨performed, amounts⟩ := resolved.exists_amounts
  obtain ⟨steps, made, grown⟩ := amounts.pipeline (suite.performAll earlier.flatten)
  have early := resolves.front.installAll amounted
  refine ⟨_, _, steps, early, ?_, made, grown⟩
  rw [installAll_append early, installAll, amounts.install resolved.dependencies]
  rfl

/-- The installation of scenarios comes to grief over the one in this place.  Those before it have
been installed, and what it depends on has been scheduled again as far as that was possible, which
leaves all definitions in force; whatever comes behind it makes no difference. -/
def Stops (suite : Suite) (specs : List ScenarioSpec) (error : Error) (after : Suite)
    (place : Nat) : Prop :=
  ∃ spec operations middle replayed,
    specs[place]? = some spec ∧
    suite.Resolves (specs.take place) ∧
    List.Forall₂ ScenarioSpec.Amounts (specs.take place) operations ∧
    middle = suite.performAll operations.flatten ∧
    spec.Breaks middle replayed error ∧
    after = middle.performAll (replayed.map .dependsOn) ∧
    after.registry = middle.registry ∧
    after.pipeline = middle.pipeline ++ replayed.flatMap middle.inForce ∧
    ∀ later, installAll (specs.take place ++ spec :: later) suite = (.error error, after)

theorem stops_of_breaks {operations : List (List Operation)} {replayed : List String}
    {error : Error} (resolves : suite.Resolves before)
    (amount : List.Forall₂ ScenarioSpec.Amounts before operations)
    (breaks : spec.Breaks (suite.performAll operations.flatten) replayed error)
    (behind : List ScenarioSpec) :
    suite.Stops (before ++ spec :: behind) error
      ((suite.performAll operations.flatten).performAll (replayed.map .dependsOn))
      before.length := by
  unfold Stops
  rw [List.take_left]
  exact ⟨spec, operations, _, replayed, by simp, resolves, amount, rfl, breaks, rfl,
    registry_performAll_dependsOn replayed _, pipeline_performAll_dependsOn replayed _,
    installAll_of_breaks resolves amount breaks⟩

theorem Stops.le {error other : Error} {after after' : Suite} {place place' : Nat}
    (stops : suite.Stops specs error after place) (again : suite.Stops specs other after' place') :
    place ≤ place' := by
  obtain ⟨-, -, -, -, -, resolves, -⟩ := stops
  obtain ⟨spec, operations, middle, replayed, there, -, amount, rfl, breaks, -⟩ := again
  by_contra before
  obtain ⟨short, rfl⟩ := List.getElem?_eq_some_iff.mp there
  -- The scenario that is in the way of the second installation is installed by the first.
  have inside : place' < (specs.take place).length := by
    rw [List.length_take]
    omega
  have split : specs.take place =
      specs.take place' ++ specs[place'] :: (specs.take place).drop (place' + 1) := by
    have parts := List.take_append_drop place' (specs.take place)
    rw [List.drop_eq_getElem_cons inside, List.take_take, List.getElem_take,
      Nat.min_eq_left (by omega)] at parts
    exact parts.symm
  rw [split] at resolves
  exact breaks.not_resolves (resolves.resolved amount)

end Suite

/-- The installation of a document performs the operations of its scenarios, one scenario behind the
other, and comes off if and only if all of them can be defined.  Otherwise it comes to grief over
one of them, and what was done before remains. -/
theorem Document.install_performs (document : Document) (suite : Suite) :
    ((document.install suite).1 = .ok () ↔ suite.Resolves document.scenarios) ∧
    (suite.Resolves document.scenarios → ∃ operations,
      List.Forall₂ ScenarioSpec.Amounts document.scenarios operations ∧
      document.install suite = (.ok (), suite.performAll operations.flatten) ∧
      ∀ before spec behind, document.scenarios = before ++ spec :: behind →
        ∃ early late steps,
          installAll before suite = (.ok (), early) ∧
          installAll (before ++ [spec]) suite = (.ok (), late) ∧
          List.Forall₂ (fun described made => StepSpec.toStep described = .ok made)
            spec.steps steps ∧
          late.pipeline =
            early.pipeline ++
              (spec.dependsOn.flatMap early.inForce ++ Suite.block spec.name steps)) ∧
    ∀ error after, document.install suite = (.error error, after) →
      ∃! place, suite.Stops document.scenarios error after place := by
  refine ⟨⟨Suite.resolves_of_installAll, ?_⟩, ?_, ?_⟩
  · intro resolves
    obtain ⟨operations, amount⟩ := resolves.exists_amount
    rw [install, resolves.installAll amount]
  · intro resolves
    obtain ⟨operations, amount⟩ := resolves.exists_amount
    refine ⟨operations, amount, resolves.installAll amount, ?_⟩
    intro before spec behind split
    rw [split] at resolves
    exact Suite.pipeline_of_resolves resolves
  · intro error after failed
    rcases suite.resolves_or_breaks document.scenarios with resolves |
      ⟨before, spec, behind, operations, replayed, other, split, resolves, amount, breaks⟩
    · obtain ⟨operations, amount⟩ := resolves.exists_amount
      rw [install, resolves.installAll amount] at failed
      cases failed
    · rw [install, split, Suite.installAll_of_breaks resolves amount breaks] at failed
      cases failed
      rw [split]
      have stops := Suite.stops_of_breaks resolves amount breaks behind
      exact ⟨before.length, stops,
        fun place again => Nat.le_antisymm (again.le stops) (stops.le again)⟩

namespace Document

/-- A cart behind a login, and a second login, behind the cart, that is to reach no address. -/
def relogin : Document :=
  { entryUrl := "/"
    scenarios := [
      { name := "Login"
        dependsOn := []
        steps := [{ voice := .when, action := .goTo "the shop" "/shop" }] },
      { name := "Cart"
        dependsOn := ["Login"]
        steps := [{ voice := .then, action := .see "the cart" "Cart" }] },
      { name := "Login"
        dependsOn := ["Cart"]
        steps := [{ voice := .then, action := .reached "the till" none none }] },
      { name := "Farewell", dependsOn := [], steps := [] }] }

/-- The second login leaves a cart behind, though not the login of that, and the first login stays
what it was. -/
theorem relogin_stops :
    (relogin.install .empty).1 = .error (.document .urlMissing) ∧
      (relogin.install .empty).2.pipeline.map
          (fun item => (item.context.scenario, item.step.message)) =
        [("Login", ""), ("Login", "When I go to the shop"), ("Login", ""),
          ("Login", "When I go to the shop"), ("Cart", ""), ("Cart", "Then I see the cart"),
          ("Cart", ""), ("Cart", "Then I see the cart")] ∧
      ((relogin.install .empty).2.registry.get? "Login").map (fun login =>
          login.steps.map Step.message) =
        some ["", "When I go to the shop"] ∧
      Suite.empty.Resolves (relogin.scenarios.take 2) ∧
      ∃! place, Suite.empty.Stops relogin.scenarios (.document .urlMissing)
        (relogin.install .empty).2 place :=
  ⟨rfl, rfl, rfl,
    ({ relogin with scenarios := relogin.scenarios.take 2 }.install_performs .empty).1.mp rfl,
    (relogin.install_performs .empty).2.2 (.document .urlMissing) (relogin.install .empty).2 rfl⟩

end Document

end Rehearsal
