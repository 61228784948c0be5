import KeyedFlow.Session

/-!
# Inspection of values

For programmers, pipelines and sessions are shown with their fields; fields that cannot be shown are left out.
-/

namespace KeyedFlow

/-- A value with fields.  An open one ends with two dots, since it has fields that are not shown. -/
def shown (name : String) (fields : List (String × String)) (isOpen : Bool) : String :=
  let items := fields.map fun field => field.1 ++ ": " ++ field.2
  name ++ " \x7b " ++ String.intercalate ", " (if isOpen then items ++ [".."] else items) ++ " \x7d"

/-- A name with one argument between parentheses. -/
def shownCall (name : String) (argument : String) : String :=
  name ++ "(" ++ argument ++ ")"

/-- A value that may be absent. -/
def shown? : Option String → String
  | none => "None"
  | some s => shownCall "Some" s

/-- The name of a rounding. -/
def Rounding.shown : Rounding → String
  | .towardZero => "TowardZero"
  | .floor => "Floor"

/-- A condition with its bound. -/
def Condition.shown : Condition → String
  | .isEven => "IsEven"
  | .isOdd => "IsOdd"
  | .less bound => shownCall "Lt" (toString bound)
  | .greater bound => shownCall "Gt" (toString bound)
  | .atLeast bound => shownCall "Gte" (toString bound)
  | .atMost bound => shownCall "Lte" (toString bound)

/-- An arithmetic with its constant. -/
def Arithmetic.shown : Arithmetic → String
  | .add p => shownCall "Add" (toString p)
  | .subtract p => shownCall "Subtract" (toString p)
  | .multiply p => shownCall "Multiply" (toString p)
  | .divide p _ => shownCall "Divide" (toString p)

/-- A formula with its rounding. -/
def Formula.shown (formula : Formula) : String :=
  KeyedFlow.shown "Arithmetic" [("op", formula.arithmetic.shown), ("policy", formula.rounding.shown)] false

/-- The name of an aggregate. -/
def Aggregate.shown : Aggregate → String
  | .sum => "Sum"
  | .product => "Product"
  | .min => "Min"
  | .max => "Max"
  | .count => "Count"

/-- A stage with its function. -/
def Stage.shown : Stage → String
  | .filter condition => shownCall "Filter" condition.shown
  | .map formula => shownCall "Map" formula.shown
  | .changeKey formula => shownCall "ChangeKey" formula.shown
  | .reduce aggregate => shownCall "Reduce" aggregate.shown

/-- The title of a stage: its operator and its function, without the rounding. -/
def Stage.title (stage : Stage) : String :=
  stage.operator.name ++ " " ++
    match stage with
    | .filter condition => condition.shown
    | .map formula => formula.arithmetic.shown
    | .changeKey formula => formula.arithmetic.shown
    | .reduce aggregate => aggregate.shown

/-- An operation. -/
def Operation.shown (operation : Operation) : String :=
  KeyedFlow.shown "OperationSpec"
    [("operator", Text.quoted operation.operator), ("function", Text.quoted operation.function)] false

/-- A step. -/
def Step.shown (step : Step) : String :=
  KeyedFlow.shown "CompiledOperation"
    [("position", toString step.position), ("spec", step.operation.shown), ("transform", step.stage.shown)] false

/-- A blueprint. -/
def Blueprint.shown (blueprint : Blueprint) : String :=
  KeyedFlow.shown "PipelineBuilder"
    [("name", Text.quoted blueprint.name),
      ("operations", Table.bracketed (blueprint.operations.map Operation.shown)),
      ("policy", blueprint.rounding.shown)] true

/-- A pipeline. -/
def Pipeline.shown (pipeline : Pipeline) : String :=
  KeyedFlow.shown "Pipeline"
    [("name", Text.quoted pipeline.name), ("steps", Table.bracketed (pipeline.steps.map Step.shown))] true

/-- A setup. -/
def Setup.shown (setup : Setup) : String :=
  KeyedFlow.shown "HarnessConfig"
    [("partition_prefix", Text.quoted setup.partitionStem), ("program_path", Text.quoted setup.programPath),
      ("result_path", Text.quoted setup.resultPath), ("expected_path", Text.quoted setup.expectedPath),
      ("truncation", setup.rounding.shown)] false

/-- A session. -/
def Session.shown (session : Session) : String :=
  KeyedFlow.shown "Session"
    [("config", session.setup.shown), ("last_generated", shown? (session.lastGenerated.map toString))] true

end KeyedFlow
