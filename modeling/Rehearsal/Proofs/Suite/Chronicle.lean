import Mathlib.Algebra.GroupWithZero.Nat
import Mathlib.Data.Finset.Dedup
import Mathlib.Data.Finset.Card
import Rehearsal.Document.Install
import Rehearsal.Proofs.Association
import Rehearsal.Proofs.Suite.Steps

/-!
The pipeline of a suite as a chronicle of what has been done to it.

Each operation leaves a block of steps behind those of the operations before it, and the block is
made of the definition that was in force when the operation was done.  Nothing that comes later
changes it.
-/

namespace Rehearsal

namespace Suite

/-- What can be done to a suite. -/
inductive Operation where
  | scenario (name : String) (steps : List Step)
  | dependsOn (name : String)

/-- Puts a scenario under its name, in place of an earlier one, and schedules nothing. -/
def register (name : String) (steps : List Step) (suite : Suite) : Suite :=
  { suite with
    registry := suite.registry.insert { name, steps := .banner :: steps }
    trace :=
      if suite.registry.contains name then suite.trace.push (redefined name) else suite.trace }

/-- To define a scenario is to put it under its name and to depend on it. -/
theorem dependsOn_register (name : String) (steps : List Step) (suite : Suite) :
    (suite.register name steps).dependsOn name = .ok (suite.scenario name steps) := by
  have held : (suite.register name steps).registry.get? name =
      some { name, steps := .banner :: steps } :=
    Registry.get?_insert_self { name, steps := .banner :: steps } suite.registry
  rw [dependsOn, held]
  rfl

namespace Operation

def name : Operation → String
  | .scenario name _ | .dependsOn name => name

def defines? : Operation → Option String
  | .scenario name _ => some name
  | .dependsOn _ => none

/-- The steps that an operation gives to the scenario of a name. -/
def definition? (name : String) : Operation → Option (List Step)
  | .scenario held steps => if held = name then some steps else none
  | .dependsOn _ => none

def perform : Operation → Definition
  | .scenario name steps, suite => replay [name] (suite.register name steps)
  | .dependsOn name, suite => replay [name] suite

/-- What an operation can come to. -/
inductive Performs (suite : Suite) : Operation → Except Error Unit × Suite → Prop where
  | defined {name : String} {steps : List Step} :
      Performs suite (.scenario name steps) (.ok (), suite.scenario name steps)
  | replayed {name : String} {scenario : Scenario} :
      suite.registry.get? name = some scenario →
      Performs suite (.dependsOn name) (.ok (), suite.schedule name scenario)
  | refused {name : String} :
      suite.registry.get? name = none →
      Performs suite (.dependsOn name) (.error (.unknownScenario name), suite)

theorem perform_performs (operation : Operation) (suite : Suite) :
    operation.Performs suite (operation.perform suite) := by
  cases operation with
  | scenario name steps =>
      have defined : (scenario name steps).perform suite = (.ok (), suite.scenario name steps) := by
        rw [perform, replay, dependsOn_register]
        rfl
      rw [defined]
      exact .defined
  | dependsOn name =>
      rw [perform, replay, Suite.dependsOn]
      cases found : suite.registry.get? name with
      | some scenario => exact .replayed found
      | none => exact .refused found

end Operation

/-- The suite behind operations on an empty one. -/
def behind (operations : List Operation) : Suite :=
  operations.foldl (fun suite operation => (operation.perform suite).2) .empty

/-- The steps that a scenario was given last. -/
def latest? (name : String) (operations : List Operation) : Option (List Step) :=
  operations.reverse.findSome? (Operation.definition? name)

def definedNames (operations : List Operation) : List String :=
  operations.filterMap Operation.defines?

/-- A scenario in its places: the banner in place zero, and its steps from place one on. -/
def block (name : String) (steps : List Step) : List Scheduled :=
  { context := { voice := none, scenario := name, index := 0 }, step := .banner } ::
    steps.mapIdx fun place step =>
      { context := { voice := step.voice, scenario := name, index := place + 1 }, step }

/-- The block of an operation behind others; one on an unknown scenario has none. -/
def block? (earlier : List Operation) (operation : Operation) : Option (List Scheduled) :=
  (latest? operation.name (earlier ++ [operation])).map (block operation.name)

/-- The blocks of operations behind others, in their order. -/
def blocks (earlier : List Operation) : List Operation → List (List Scheduled)
  | [] => []
  | operation :: rest =>
      (block? earlier operation).toList ++ blocks (earlier ++ [operation]) rest

/-- To take step after step out of a suite until none is left yields these. -/
inductive Drains : Suite → List Scheduled → Prop where
  | empty {suite : Suite} : suite.next? = none → Drains suite []
  | next {suite rest : Suite} {item : Scheduled} {items : List Scheduled} :
      suite.next? = some (item, rest) → Drains rest items → Drains suite (item :: items)

theorem drains_pipeline (suite : Suite) : suite.Drains suite.pipeline := by
  obtain ⟨registry, pipeline, trace⟩ := suite
  induction pipeline with
  | nil => exact .empty rfl
  | cons item rest inductionHypothesis => exact .next rfl inductionHypothesis

theorem scheduled_eq_block (name : String) (steps : List Step) :
    Scenario.scheduled { name, steps := .banner :: steps } = block name steps := by
  rw [Scenario.scheduled, List.mapIdx_cons]
  rfl

theorem map_index_block (name : String) (steps : List Step) :
    (block name steps).map (·.context.index) = List.range (block name steps).length := by
  apply List.ext_getElem
  · simp
  · intro place inside _
    cases place with
    | zero => simp [block]
    | succ place => simp [block]

variable {name : String} {operation : Operation} {operations : List Operation}

theorem behind_append_singleton (operations : List Operation) (operation : Operation) :
    behind (operations ++ [operation]) = (operation.perform (behind operations)).2 := by
  simp [behind]

theorem latest?_append_singleton (name : String) (operations : List Operation)
    (operation : Operation) :
    latest? name (operations ++ [operation]) =
      (operation.definition? name).or (latest? name operations) := by
  unfold latest?
  rw [List.reverse_append, List.reverse_singleton, List.singleton_append, List.findSome?_cons]
  cases operation.definition? name <;> rfl

theorem latest?_eq_none_iff :
    latest? name operations = none ↔ ∀ steps, .scenario name steps ∉ operations := by
  unfold latest?
  rw [List.findSome?_eq_none_iff]
  constructor
  · intro silent steps membership
    have undefined := silent _ (List.mem_reverse.mpr membership)
    simp [Operation.definition?] at undefined
  · intro absent operation membership
    cases operation with
    | dependsOn => rfl
    | scenario held steps =>
        by_cases same : held = name
        · subst same
          exact (absent steps (List.mem_reverse.mp membership)).elim
        · simp [Operation.definition?, same]

theorem mem_definedNames_iff :
    name ∈ definedNames operations ↔ ∃ steps, .scenario name steps ∈ operations := by
  unfold definedNames
  rw [List.mem_filterMap]
  constructor
  · rintro ⟨operation, membership, defines⟩
    cases operation with
    | dependsOn => cases defines
    | scenario held steps =>
        cases defines
        exact ⟨steps, membership⟩
  · rintro ⟨steps, membership⟩
    exact ⟨_, membership, rfl⟩

theorem blocks_append_singleton (earlier operations : List Operation) (operation : Operation) :
    blocks earlier (operations ++ [operation]) =
      blocks earlier operations ++ (block? (earlier ++ operations) operation).toList := by
  induction operations generalizing earlier with
  | nil => simp [blocks]
  | cons first rest inductionHypothesis =>
      rw [List.cons_append, blocks, blocks, inductionHypothesis, List.append_assoc,
        List.append_assoc]
      rfl

/-- A suite knows each scenario as it was defined last. -/
theorem get?_behind (name : String) (operations : List Operation) :
    (behind operations).registry.get? name =
      (latest? name operations).map fun steps => { name, steps := .banner :: steps } := by
  -- The induction is on the last operation, since a definition is undone by later ones only.
  induction operations using List.reverseRecOn with
  | nil => rfl
  | append_singleton operations operation inductionHypothesis =>
      have performs := operation.perform_performs (behind operations)
      rw [behind_append_singleton, latest?_append_singleton]
      generalize operation.perform (behind operations) = outcome at performs ⊢
      cases performs with
      | @defined held steps =>
          by_cases same : held = name
          · subst same
            rw [Operation.definition?, if_pos rfl]
            exact Registry.get?_insert_self { name := held, steps := .banner :: steps }
              (behind operations).registry
          · rw [Operation.definition?, if_neg same, Option.none_or, ← inductionHypothesis]
            exact Registry.get?_insert_of_ne same (behind operations).registry
      | replayed | refused => exact inductionHypothesis

/-- What an operation comes to behind others. -/
inductive Operation.Follows (operations : List Operation) :
    Operation → Except Error Unit × Suite → Prop where
  | scheduled {operation : Operation} {after : Suite} {steps : List Step} :
      latest? operation.name (operations ++ [operation]) = some steps →
      after.pipeline = (behind operations).pipeline ++ block operation.name steps →
      Follows operations operation (.ok (), after)
  | refused {name : String} :
      latest? name operations = none →
      Follows operations (.dependsOn name) (.error (.unknownScenario name), behind operations)

theorem Operation.perform_follows (operations : List Operation) (operation : Operation) :
    operation.Follows operations (operation.perform (behind operations)) := by
  have performs := operation.perform_performs (behind operations)
  generalize operation.perform (behind operations) = outcome at performs ⊢
  cases performs with
  | @defined name steps =>
      have latest : latest? name (operations ++ [.scenario name steps]) = some steps := by
        rw [latest?_append_singleton, definition?, if_pos rfl, Option.some_or]
      refine .scheduled latest ?_
      rw [Operation.name, ← scheduled_eq_block]
      rfl
  | @replayed name scenario found =>
      rw [get?_behind] at found
      obtain ⟨steps, latest, rfl⟩ := Option.map_eq_some_iff.mp found
      have still : latest? name (operations ++ [.dependsOn name]) = some steps := by
        rw [latest?_append_singleton, definition?, Option.none_or, latest]
      refine .scheduled still ?_
      rw [Operation.name, ← scheduled_eq_block]
      rfl
  | refused missing =>
      rw [get?_behind, Option.map_eq_none_iff] at missing
      exact .refused missing

theorem pipeline_perform (operations : List Operation) (operation : Operation) :
    (operation.perform (behind operations)).2.pipeline =
      (behind operations).pipeline ++ (block? operations operation).toList.flatten := by
  have follows := operation.perform_follows operations
  unfold block?
  generalize operation.perform (behind operations) = outcome at follows ⊢
  cases follows with
  | scheduled latest appended => simp [latest, appended]
  | @refused name missing =>
      rw [latest?_append_singleton, Operation.name, Operation.definition?, Option.none_or, missing]
      simp

theorem pipeline_behind (operations : List Operation) :
    (behind operations).pipeline = (blocks [] operations).flatten := by
  induction operations using List.reverseRecOn with
  | nil => rfl
  | append_singleton operations operation inductionHypothesis =>
      rw [behind_append_singleton, pipeline_perform, inductionHypothesis,
        blocks_append_singleton, List.flatten_append, List.nil_append]

theorem contains_behind (name : String) (operations : List Operation) :
    (behind operations).registry.contains name = true ↔ name ∈ definedNames operations := by
  rw [Registry.contains_iff, get?_behind, mem_definedNames_iff]
  cases latest : latest? name operations with
  | none =>
      have absent := latest?_eq_none_iff.mp latest
      simp [absent]
  | some steps =>
      have present : ∃ steps, .scenario name steps ∈ operations := by
        by_contra absent
        rw [latest?_eq_none_iff.mpr (not_exists.mp absent)] at latest
        cases latest
      simp [present]

theorem size_behind (operations : List Operation) :
    (behind operations).registry.size = (definedNames operations).toFinset.card := by
  induction operations using List.reverseRecOn with
  | nil => rfl
  | append_singleton operations operation inductionHypothesis =>
      have performs := operation.perform_performs (behind operations)
      rw [behind_append_singleton]
      generalize operation.perform (behind operations) = outcome at performs ⊢
      cases performs with
      | @defined name steps =>
          have names : definedNames (operations ++ [.scenario name steps]) =
              definedNames operations ++ [name] := by simp [definedNames, Operation.defines?]
          have size : ((behind operations).scenario name steps).registry.size =
              if (behind operations).registry.contains name then (behind operations).registry.size
              else (behind operations).registry.size + 1 :=
            Association.length_insert name _ (behind operations).registry.scenarios
          rw [size, names, List.toFinset_append, inductionHypothesis]
          by_cases known : name ∈ definedNames operations
          · have held := (contains_behind name operations).mpr known
            simp [held, known]
          · have missing := mt (contains_behind name operations).mp known
            simp [missing, known]
      | @replayed name _ _ | @refused name _ =>
          have names : definedNames (operations ++ [.dependsOn name]) =
              definedNames operations := by simp [definedNames, Operation.defines?]
          rw [names]
          exact inductionHypothesis

theorem Operation.perform_refused_iff (operations : List Operation) (name : String) :
    ((dependsOn name).perform (behind operations)).1 = .error (.unknownScenario name) ↔
      ∀ steps, .scenario name steps ∉ operations := by
  rw [← latest?_eq_none_iff]
  have follows := (dependsOn name).perform_follows operations
  generalize (dependsOn name).perform (behind operations) = outcome at follows ⊢
  cases follows with
  | scheduled latest =>
      rw [latest?_append_singleton, Operation.name, definition?, Option.none_or] at latest
      simp [latest]
  | refused missing => simp [missing]

theorem map_index_of_mem_blocks {earlier : List Operation} {items : List Scheduled}
    (membership : items ∈ blocks earlier operations) :
    items.map (·.context.index) = List.range items.length := by
  induction operations generalizing earlier with
  | nil => cases membership
  | cons operation rest inductionHypothesis =>
      rcases List.mem_append.mp membership with here | later
      · obtain ⟨steps, -, rfl⟩ := Option.map_eq_some_iff.mp (Option.mem_toList.mp here)
        exact map_index_block operation.name steps
      · exact inductionHypothesis later

/-- A suite is the chronicle of the operations on it.  To define a scenario comes off always, and to
depend on one fails if and only if it has not been defined, and then leaves the suite as it was.
Whatever comes off puts the scenario, as it was defined last, behind all that is there.  So the
pipeline is made of the blocks of the operations, which is also how it is drained. -/
theorem behind_chronicles (operations : List Operation) :
    (∀ name steps,
      (Operation.scenario name steps).perform (behind operations) =
        (.ok (), (behind operations).scenario name steps)) ∧
    (∀ name,
      ((Operation.dependsOn name).perform (behind operations)).1 =
          .error (.unknownScenario name) ↔
        ∀ steps, .scenario name steps ∉ operations) ∧
    (∀ operation error, (operation.perform (behind operations)).1 = .error error →
      operation = .dependsOn operation.name ∧ error = .unknownScenario operation.name ∧
        behind (operations ++ [operation]) = behind operations) ∧
    (∀ operation, (operation.perform (behind operations)).1 = .ok () →
      ∃ steps, latest? operation.name (operations ++ [operation]) = some steps ∧
        (behind (operations ++ [operation])).pipeline =
          (behind operations).pipeline ++ block operation.name steps) ∧
    (behind operations).pipeline = (blocks [] operations).flatten ∧
    (∀ block ∈ blocks [] operations, block.map (·.context.index) = List.range block.length) ∧
    (behind operations).pending = ((blocks [] operations).map List.length).sum ∧
    (behind operations).registry.size = (definedNames operations).toFinset.card ∧
    (behind operations).Drains (blocks [] operations).flatten := by
  refine ⟨?_, Operation.perform_refused_iff operations, ?_, ?_, pipeline_behind operations,
    fun _ => map_index_of_mem_blocks, ?_, size_behind operations, ?_⟩
  · intro name steps
    have performs := (Operation.scenario name steps).perform_performs (behind operations)
    generalize (Operation.scenario name steps).perform (behind operations) = outcome at performs ⊢
    cases performs with
    | defined => rfl
  · intro operation error failed
    rw [behind_append_singleton]
    have follows := operation.perform_follows operations
    generalize operation.perform (behind operations) = outcome at follows failed ⊢
    cases follows with
    | scheduled => cases failed
    | refused =>
        cases failed
        exact ⟨rfl, rfl, rfl⟩
  · intro operation done
    rw [behind_append_singleton]
    have follows := operation.perform_follows operations
    generalize operation.perform (behind operations) = outcome at follows done ⊢
    cases follows with
    | scheduled latest appended => exact ⟨_, latest, appended⟩
    | refused => cases done
  · rw [pending, pipeline_behind, List.length_flatten]
  · rw [← pipeline_behind]
    exact (behind operations).drains_pipeline

/-- Two visits to a shop: the second definition is in force from the third operation on. -/
example :
    (behind [
        .scenario "Visit" [(Action.goTo "the shop" "/shop").voiced .when],
        .dependsOn "Purchase",
        .scenario "Visit" [],
        .dependsOn "Visit"]).pipeline.map (fun item => (item.context.index, item.step.message)) =
      [(0, ""), (1, "When I go to the shop"), (0, ""), (0, "")] := rfl

end Suite

end Rehearsal
