import Mathlib.Data.String.Basic
import LabWeaver.Base.Sorted
import LabWeaver.Base.Rows
import LabWeaver.Base.TopologicalOrder
import LabWeaver.Contracts.SupplyChain

/-
  This file models the evaluation specification of a problem: the collector, the steps with their
  runners, checkers and dependencies, the aggregation of scores, and its validation.

  Main declaration: `validateDependencies_eq_ok_iff`.
-/

namespace LabWeaver

open Outcome

-- Submissions

structure EvaluationMetadata where
  (name version : String)
deriving DecidableEq

inductive CollectorSpec where
| workspaceSnapshot (includes excludes : List String) (maxBytes : Nat)
| systemFacts (facts : List String) (maxBytes : Nat)
deriving DecidableEq

namespace CollectorSpec

def includedPaths : CollectorSpec → Option (List String)
| .workspaceSnapshot includes _ _ => some includes
| .systemFacts _ _ => none

def excludedPaths : CollectorSpec → Option (List String)
| .workspaceSnapshot _ excludes _ => some excludes
| .systemFacts _ _ => none

def hasInputs : CollectorSpec → Bool
| .workspaceSnapshot includes _ _ => !includes.isEmpty
| .systemFacts facts _ => !facts.isEmpty

def maxBytes : CollectorSpec → Nat
| .workspaceSnapshot _ _ maxBytes
| .systemFacts _ maxBytes => maxBytes

end CollectorSpec

structure SubmissionSpec where
  collector : CollectorSpec
  llmReadable : List String
deriving DecidableEq

-- Steps

inductive ProgramPhase where
| compile
| test
deriving DecidableEq

structure TestGroup where
  (name source : String)
  maxPoints : Nat
deriving DecidableEq

structure ExecutionLimits where
  (wallTimeSeconds memoryBytes outputBytes : Nat)
deriving DecidableEq

/- An expected fact. The expected value is not looked at. -/
structure FactAssertion where
  fact : String
deriving DecidableEq

inductive DeterministicRunnerSpec where
| fileAssertion (requiredFiles : List String)
| program (toolchainProfile : String) (phase : ProgramPhase) (input : String)
    (testGroups : List TestGroup) (limits : ExecutionLimits)
| ansibleProbe (playbookProfile : String) (moduleAllowlist : List String) (readOnly : Bool)
    (assertions : List FactAssertion)
deriving DecidableEq

inductive ExpectedServiceState where
| active
| inactive
deriving DecidableEq

inductive CheckerSpec where
| exact
| token
| exitCode (expected : Int)
| jsonSchema (schemaRef : String)
| serviceState (service : String) (expected : ExpectedServiceState)
deriving DecidableEq

/- A review by a language model, the only advisory runner. -/
structure AdvisoryRunnerSpec where
  includedPaths : List String
  rubric : String
deriving DecidableEq

inductive ScoreFailurePolicy where
| stop
| continue
deriving DecidableEq

/- A gate always stops on failure. -/
structure GateStep where
  id : String
  dependsOn : List String
  runner : DeterministicRunnerSpec
  checker : CheckerSpec
deriving DecidableEq

structure ScoreStep where
  id : String
  dependsOn : List String
  runner : DeterministicRunnerSpec
  checker : CheckerSpec
  maxScore : Nat
  failurePolicy : ScoreFailurePolicy
deriving DecidableEq

/- An advisory step never stops the others on failure. -/
structure AdvisoryStep where
  id : String
  dependsOn : List String
  runner : AdvisoryRunnerSpec
deriving DecidableEq

inductive EvaluationStep where
| gate (step : GateStep)
| score (step : ScoreStep)
| advisory (step : AdvisoryStep)
deriving DecidableEq

/- The failure behaviour that is copied into a run. -/
inductive EvaluationStepFailurePolicy where
| stop
| continue
| continueAdvisory
deriving DecidableEq

namespace EvaluationStep

def id : EvaluationStep → String
| .gate step => step.id
| .score step => step.id
| .advisory step => step.id

def dependencies : EvaluationStep → List String
| .gate step => step.dependsOn
| .score step => step.dependsOn
| .advisory step => step.dependsOn

def isGate : EvaluationStep → Bool
| .gate _ => true
| .score _ | .advisory _ => false

def score? : EvaluationStep → Option Nat
| .score step => some step.maxScore
| .gate _ | .advisory _ => none

def failurePolicy : EvaluationStep → EvaluationStepFailurePolicy
| .gate _ => .stop
| .score step =>
  match step.failurePolicy with
  | .stop => .stop
  | .continue => .continue
| .advisory _ => .continueAdvisory

def deterministicRunner : EvaluationStep → Option DeterministicRunnerSpec
| .gate step => some step.runner
| .score step => some step.runner
| .advisory _ => none

def deterministicChecker : EvaluationStep → Option CheckerSpec
| .gate step => some step.checker
| .score step => some step.checker
| .advisory _ => none

def advisoryRunner : EvaluationStep → Option AdvisoryRunnerSpec
| .advisory step => some step.runner
| .gate _ | .score _ => none

end EvaluationStep

-- Specifications

structure AggregationGate where
  step : String
deriving DecidableEq

/- The deterministic sum, the only kind of aggregation. -/
structure AggregationSpec where
  maxScore : Nat
  gates : List AggregationGate
deriving DecidableEq

structure ReviewPolicy where
  teacherApprovalRequiredForRelease : Bool
deriving DecidableEq

structure EvaluationBody where
  submission : SubmissionSpec
  steps : List EvaluationStep
  aggregation : AggregationSpec
  review : ReviewPolicy
deriving DecidableEq

structure EvaluationSpec where
  metadata : EvaluationMetadata
  body : EvaluationBody
deriving DecidableEq

/- The failures of the validation of a specification. -/
inductive EvaluationSpecError where
| invalidMetadata
| emptySteps
| duplicateStepId (stepId : String)
| missingDependency (stepId dependency : String)
| dependencyCycle
| unsafePath (location path : String)
| invalidCollector (detail : String)
| llmReadableNotCollected (path : String)
| llmIncludeNotAllowed (stepId path : String)
| invalidStepConfiguration (stepId detail : String)
| aggregationScoreMismatch (stepTotal aggregateMax : Nat)
| aggregationScoreOverflow (stepId : String)
| invalidAggregationGate (stepId : String)
| teacherApprovalRequired
deriving DecidableEq

abbrev SpecCheck := Except EvaluationSpecError Unit

-- Paths

def trim (chars : List Char) : List Char :=
  let front := chars.dropWhile isWhiteSpace
  (front.reverse.dropWhile isWhiteSpace).reverse

def patternCharacter (c : Char) : Bool :=
  c == '*' || c == '?' || c == '[' || c == ']' || c == '\x7b' || c == '\x7d'

def isNormalizedSafeRelativePath (value : String) : Bool :=
  let chars := value.toList
  !trimIsEmpty value && chars == trim chars && chars.head? != some '/' && !chars.any (· == '\\') &&
    !chars.any patternCharacter &&
    (chars.splitOn '/').all (fun part => part != [] && part != ['.'] && part != ['.', '.'])

def validatePaths (location : String) (paths : List String) : SpecCheck :=
  each (fun path => ensure (isNormalizedSafeRelativePath path = true) (.unsafePath location path))
    paths

/- The path, or a directory above it, is excluded. -/
def pathIsExcluded (path excluded : String) : Bool := path == excluded || pathBelow excluded path

namespace SubmissionSpec

variable (submission : SubmissionSpec)

/- The paths that a model may read, in order. -/
def readable : OrderedSet String :=
  submission.llmReadable.foldl .insert .empty

/- The path is not part of what the collector freezes. -/
def notCollected (path : String) : Bool :=
  match submission.collector.includedPaths with
  | some collected =>
    !decide (path ∈ collected) || (submission.collector.excludedPaths.getD []).any
      (pathIsExcluded path)
  | none => true

/- `validate_submission`, up to the set that it returns. -/
def validate : SpecCheck := do
  ensure (submission.collector.maxBytes ≠ 0) (.invalidCollector "maxBytes must be non-zero")
  ensure (submission.collector.hasInputs = true) (.invalidCollector
    "collector input list must not be empty")
  validatePaths "submission.collector.include" (submission.collector.includedPaths.getD [])
  validatePaths "submission.collector.exclude" (submission.collector.excludedPaths.getD [])
  validatePaths "submission.llmReadable" submission.llmReadable
  ensure (submission.readable.elements.length = submission.llmReadable.length) (.invalidCollector
    "submission.llmReadable must not contain duplicate paths")
  match submission.readable.elements.find? submission.notCollected with
  | some path => .error (.llmReadableNotCollected path)
  | none => .ok ()

end SubmissionSpec

-- Runners And Checkers

namespace DeterministicRunnerSpec

def submissionPaths : DeterministicRunnerSpec → List String
| .fileAssertion requiredFiles => requiredFiles
| .program _ _ input _ _ => [input]
| .ansibleProbe _ _ _ _ => []

def allowedProbeModule (name : String) : Bool :=
  name == "ansible.builtin.service_facts" || name == "ansible.builtin.stat" ||
    name == "ansible.builtin.package_facts"

def validate (runner : DeterministicRunnerSpec) (stepId : String) : SpecCheck :=
  match runner with
  | .fileAssertion requiredFiles =>
    ensure (requiredFiles ≠ []) (.invalidStepConfiguration stepId
      "file_assertion requires at least one file")
  | .program toolchainProfile phase input testGroups limits => do
      ensure (trimIsEmpty toolchainProfile = false ∧ trimIsEmpty input = false)
        (.invalidStepConfiguration stepId "program runner requires a toolchain profile and input")
      ensure (phase = .test → testGroups ≠ []) (.invalidStepConfiguration stepId
        "program test phase requires test groups")
      ensure (phase = .compile → testGroups = []) (.invalidStepConfiguration stepId
        "program compile phase cannot contain test groups")
      ensure (∀ group ∈ testGroups, trimIsEmpty group.name = false ∧
        trimIsEmpty group.source = false ∧ group.maxPoints ≠ 0)
        (.invalidStepConfiguration stepId
          "test groups require a name, source, and non-zero maxPoints")
      ensure (limits.wallTimeSeconds ≠ 0 ∧ limits.memoryBytes ≠ 0 ∧ limits.outputBytes ≠ 0)
        (.invalidStepConfiguration stepId "execution limits must be non-zero")
  | .ansibleProbe playbookProfile moduleAllowlist readOnly assertions => do
      ensure (trimIsEmpty playbookProfile = false ∧ moduleAllowlist ≠ [] ∧ assertions ≠ [])
        (.invalidStepConfiguration stepId
          "ansible_probe requires a profile, allowlist, and assertions")
      ensure (readOnly = true) (.invalidStepConfiguration stepId
        "v1 ansible_probe must be read-only")
      ensure (moduleAllowlist.all allowedProbeModule = true) (.invalidStepConfiguration stepId
        "ansible_probe contains a module outside the v1 allowlist")

end DeterministicRunnerSpec

namespace CheckerSpec

/- The checker can judge what the runner produces. -/
def compatible : DeterministicRunnerSpec → CheckerSpec → Bool
| .fileAssertion _, .exitCode _ => true
| .program _ .compile _ _ _, .exitCode _ => true
| .program _ .test _ _ _, .exact => true
| .program _ .test _ _ _, .token => true
| .program _ .test _ _ _, .jsonSchema _ => true
| .ansibleProbe _ _ _ _, .exitCode _ => true
| .ansibleProbe _ _ _ _, .jsonSchema _ => true
| .ansibleProbe _ _ _ _, .serviceState _ _ => true
| _, _ => false

variable (checker : CheckerSpec)

/- The text that the checker refers to is not blank. -/
def named (stepId : String) : SpecCheck :=
  match checker with
  | .jsonSchema schemaRef =>
    ensure (trimIsEmpty schemaRef = false) (.invalidStepConfiguration stepId
      "json_schema requires schemaRef")
  | .serviceState service _ =>
    ensure (trimIsEmpty service = false) (.invalidStepConfiguration stepId
      "service_state requires a service name")
  | .exact | .token | .exitCode _ => .ok ()

def validateFor (runner : DeterministicRunnerSpec) (stepId : String) : SpecCheck := do
  checker.named stepId
  ensure (compatible runner checker = true) (.invalidStepConfiguration stepId
    "checker is incompatible with the selected runner and phase")

end CheckerSpec

-- Single Steps

namespace EvaluationStep

/- The checks of a gate or score step. -/
def validateRunner (step : EvaluationStep) : SpecCheck :=
  match step.deterministicRunner with
  | none => .ok ()
  | some runner => do
      runner.validate step.id
      validatePaths step.id runner.submissionPaths
      let checker ← require step.deterministicChecker (.invalidStepConfiguration step.id
          "deterministic step requires a checker")
      checker.validateFor runner step.id

variable (readable : List String) (step : EvaluationStep)

def validateReview : SpecCheck :=
  match step.advisoryRunner with
  | none => .ok ()
  | some runner => do
      ensure (runner.includedPaths ≠ []) (.invalidStepConfiguration step.id
        "llm_review include must not be empty")
      validatePaths step.id runner.includedPaths
      each (fun path => ensure (path ∈ readable) (.llmIncludeNotAllowed step.id path))
        runner.includedPaths

def validate : SpecCheck := do
  step.validateRunner
  ensure (step.score? ≠ some 0) (.invalidStepConfiguration step.id
    "score step max must be non-zero")
  step.validateReview readable

end EvaluationStep

def validateSteps (readable : List String) (steps : List EvaluationStep) : SpecCheck :=
  eachNew EvaluationStep.id (fun step => ensure (trimIsEmpty step.id = false)
    (.invalidStepConfiguration step.id "step id must not be empty"))
    (fun step => .duplicateStepId step.id)
    (fun step => step.validate readable)
    [] steps

-- Dependencies

/- The loop over the dependencies of one step. -/
def validateEdges (ids : List String) (step : EvaluationStep) : SpecCheck :=
  eachNew (fun dependency : String => dependency) (fun dependency => ensure (dependency ∈ ids)
    (.missingDependency step.id dependency))
    (fun dependency => .invalidStepConfiguration step.id ("duplicate dependency: " ++ dependency))
    (fun _ => .ok ())
    [] step.dependencies

variable (steps : List EvaluationStep)

def dependenciesOf (stepId : String) : List String :=
  match Rows.lookup (·.id) steps stepId with
  | some step => step.dependencies
  | none => []

/- The steps that are visited when a step becomes ready after all of its dependencies, beginning
  with the ready steps in the order of their identifiers. -/
def visitedSteps : List String :=
  TopologicalOrder.order (steps.map (·.id)) (dependenciesOf steps)
    ((steps.map (·.id)).insertionSort (· ≤ ·))

def validateDependencies :
    SpecCheck := do
  each (validateEdges (steps.map (·.id))) steps
  ensure ((visitedSteps steps).length = steps.length) .dependencyCycle

-- Aggregation

def total (scores : List Nat) : Nat := scores.foldr (fun score rest => score + rest) 0

def scoreTotal : Nat → List EvaluationStep → Except EvaluationSpecError Nat
| total, [] => .ok total
| total, step :: rest =>
  match step.score? with
  | none => scoreTotal total rest
  | some score => do
      let total ← require (checkedAdd maxU32 total score) (.aggregationScoreOverflow step.id)
      scoreTotal total rest

namespace EvaluationSpec

variable (spec : EvaluationSpec)

def validateAggregation : SpecCheck := do
  let aggregation := spec.body.aggregation
  let total ← scoreTotal 0 spec.body.steps
  ensure (total = aggregation.maxScore) (.aggregationScoreMismatch total aggregation.maxScore)
  each (fun gate => ensure ((Rows.lookup (·.id) spec.body.steps gate.step).any (·.isGate) = true)
    (.invalidAggregationGate gate.step))
    aggregation.gates

def validate : SpecCheck := do
  ensure (trimIsEmpty spec.metadata.name = false ∧ trimIsEmpty spec.metadata.version = false)
    .invalidMetadata
  ensure (spec.body.steps ≠ []) .emptySteps
  ensure (spec.body.review.teacherApprovalRequiredForRelease = true) .teacherApprovalRequired
  spec.body.submission.validate
  validateSteps spec.body.submission.readable.elements spec.body.steps
  validateDependencies spec.body.steps
  spec.validateAggregation

end EvaluationSpec

-- What A Valid Specification Ensures

theorem total_cons (score : Nat) (rest : List Nat) : total (score :: rest) = score + total rest :=
  rfl

/- The scores that the steps award at most, in order. -/
def stepScores : List Nat := steps.map (fun step => step.score?.getD 0)

/- The parts of a valid specification that its runs rely on. -/
structure EvaluationSpec.Accepted (spec : EvaluationSpec) : Prop where
  nonempty : spec.body.steps ≠ []
  named : ∀ step ∈ spec.body.steps, trimIsEmpty step.id = false
  distinct : (spec.body.steps.map (·.id)).Nodup
  known : ∀ step ∈ spec.body.steps, ∀ dependency ∈ step.dependencies,
    dependency ∈ spec.body.steps.map (·.id)
  edges : ∀ step ∈ spec.body.steps, step.dependencies.Nodup
  visited : (visitedSteps spec.body.steps).length = spec.body.steps.length
  scored : total (stepScores spec.body.steps) = spec.body.aggregation.maxScore
  bounded : spec.body.aggregation.maxScore ≤ maxU32

theorem validateEdges_eq_ok {ids : List String} {step : EvaluationStep} :
    validateEdges ids step = .ok () ↔
      (∀ dependency ∈ step.dependencies, dependency ∈ ids) ∧ step.dependencies.Nodup := by
  simp [validateEdges, eachNew_eq_ok, Fresh]

section

variable {steps : List EvaluationStep} (hDistinct : (steps.map (·.id)).Nodup)

include hDistinct

theorem dependenciesOf_eq {step : EvaluationStep} (hStep : step ∈ steps) :
    dependenciesOf steps step.id = step.dependencies := by
  have hUnique : Rows.Unique EvaluationStep.id steps := fun _ hFirst _ hSecond hSame =>
    List.inj_on_of_nodup_map hDistinct hFirst hSecond hSame
  have hLookup := (Rows.lookup_eq_some_iff hUnique).mpr ⟨hStep, rfl⟩
  rw [dependenciesOf, hLookup]

/- A property of the dependencies of every step, by its identifier and by the step. -/
theorem forall_dependenciesOf {p : String → List String → Prop} :
    (∀ stepId ∈ steps.map (·.id), p stepId (dependenciesOf steps stepId)) ↔
      ∀ step ∈ steps, p step.id step.dependencies := by
  rw [List.forall_mem_map]
  refine forall₂_congr fun step hStep => ?_
  rw [dependenciesOf_eq hDistinct hStep]

def DependencyOrder (steps : List EvaluationStep) (order : List String) : Prop :=
  order.Perm (steps.map (·.id)) ∧
  ∀ step ∈ steps, ∀ dependency ∈ step.dependencies, order.idxOf dependency < order.idxOf step.id

/- All steps are visited exactly when they can be ordered. -/
theorem visitedSteps_iff (hKnown : ∀ step ∈ steps, ∀ dependency ∈ step.dependencies,
      dependency ∈ steps.map (·.id))
    (hEdges : ∀ step ∈ steps, step.dependencies.Nodup) :
    (visitedSteps steps).length = steps.length ↔ ∃ order, DependencyOrder steps order := by
  have hOrder := TopologicalOrder.length_order_iff hDistinct
    ((forall_dependenciesOf hDistinct (p := fun _ l => l.Nodup)).mpr hEdges)
    (List.perm_insertionSort (· ≤ ·) _)
    ((forall_dependenciesOf hDistinct
      (p := fun _ l => ∀ dependency ∈ l, dependency ∈ steps.map (·.id))).mpr hKnown)
  rw [List.length_map] at hOrder
  refine hOrder.trans (exists_congr fun order => and_congr_right fun _ => ?_)
  exact forall_dependenciesOf hDistinct
    (p := fun stepId l => ∀ dependency ∈ l, order.idxOf dependency < order.idxOf stepId)

/- The check of the dependencies accepts the steps whose dependencies are declared, listed once
  and free of cycles. -/
theorem validateDependencies_eq_ok_iff : validateDependencies steps = .ok () ↔
    (∀ step ∈ steps, ∀ dependency ∈ step.dependencies, dependency ∈ steps.map (·.id)) ∧
    (∀ step ∈ steps, step.dependencies.Nodup) ∧ ∃ order, DependencyOrder steps order := by
  simp only [validateDependencies, check_bind_eq_ok, each_eq_ok, ensure_eq_ok, validateEdges_eq_ok]
  constructor
  · rintro ⟨hValid, hVisited⟩
    have hKnown := fun step hStep => (hValid step hStep).1
    have hEdges := fun step hStep => (hValid step hStep).2
    exact ⟨hKnown, hEdges, (visitedSteps_iff hDistinct hKnown hEdges).mp hVisited⟩
  · rintro ⟨hKnown, hEdges, hOrder⟩
    exact ⟨fun step hStep => ⟨hKnown step hStep, hEdges step hStep⟩,
      (visitedSteps_iff hDistinct hKnown hEdges).mpr hOrder⟩

end

def dependentReviews : List EvaluationStep :=
  [.advisory ⟨"summary", ["style"], ⟨["main.c"], "clarity"⟩⟩,
    .advisory ⟨"style", [], ⟨["main.c"], "naming"⟩⟩]

theorem validateDependencies_dependentReviews : validateDependencies dependentReviews = .ok () :=
  (validateDependencies_eq_ok_iff (by decide)).mpr
    ⟨by decide, by decide, ["style", "summary"], by decide, by decide⟩

theorem scoreTotal_eq_ok {start result : Nat} {steps : List EvaluationStep}
    (hStart : start ≤ maxU32) (hTotal : scoreTotal start steps = .ok result) :
    result = start + total (stepScores steps) ∧ result ≤ maxU32 := by
  induction steps generalizing start with
  | nil =>
    cases hTotal
    exact ⟨rfl, hStart⟩
  | cons step rest ih =>
    have hCons : total (stepScores (step :: rest)) = step.score?.getD 0 + total (stepScores rest) :=
      rfl
    rw [hCons]
    cases hScore : step.score? with
    | none =>
      simp only [scoreTotal, hScore] at hTotal
      rcases ih hStart hTotal with ⟨hSum, hBound⟩
      exact ⟨by rw [hSum, Option.getD_none]; omega, hBound⟩
    | some score =>
      simp only [scoreTotal, hScore, steps_eq_ok, checkedAdd_eq_some] at hTotal
      rcases hTotal with ⟨_, ⟨hFits, rfl⟩, hRest⟩
      rcases ih hFits hRest with ⟨hSum, hBound⟩
      exact ⟨by rw [hSum, Option.getD_some]; omega, hBound⟩

namespace EvaluationSpec

theorem accepted_of_validate {spec : EvaluationSpec} (hValid : spec.validate = .ok ()) :
    spec.Accepted := by
  simp only [validate, check_bind_eq_ok, ensure_eq_ok] at hValid
  rcases hValid with ⟨_, hNonempty, _, _, hSteps, hEdges, hScores⟩
  simp only [validateSteps, eachNew_eq_ok, ensure_eq_ok] at hSteps
  simp only [validateDependencies, check_bind_eq_ok, each_eq_ok, ensure_eq_ok] at hEdges
  rcases hEdges with ⟨hEdges, hVisited⟩
  simp only [validateAggregation, steps_eq_ok] at hScores
  rcases hScores with ⟨sum, hSum, hSame, _⟩
  rcases scoreTotal_eq_ok (Nat.zero_le _) hSum with ⟨hTotal, hBound⟩
  constructor
  · exact hNonempty
  · intro step hStep
    exact (hSteps.1 step hStep).1
  · exact hSteps.2.1
  · intro step hStep
    exact (validateEdges_eq_ok.mp (hEdges step hStep)).1
  · intro step hStep
    exact (validateEdges_eq_ok.mp (hEdges step hStep)).2
  · exact hVisited
  · omega
  · omega

namespace Accepted

variable {spec : EvaluationSpec}

/- The steps can be ranked so that every step comes after its dependencies. -/
theorem exists_rank (hAccepted : spec.Accepted) : ∃ rank : String → Nat, ∀ step ∈ spec.body.steps,
    ∀ dependency ∈ step.dependencies, rank dependency < rank step.id := by
  rcases (visitedSteps_iff hAccepted.distinct hAccepted.known hAccepted.edges).mp hAccepted.visited
    with ⟨order, _, hOrder⟩
  exact ⟨order.idxOf, hOrder⟩

end Accepted

end EvaluationSpec

end LabWeaver
