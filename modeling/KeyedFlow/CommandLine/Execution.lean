import KeyedFlow.CommandLine.Invocation
import KeyedFlow.Menu.Conversation

/-!
# Carrying out a command line

What a command prints, and with which code the program ends: two for a wrong command line, one for a failure or a result
that is not correct, and zero otherwise.
-/

namespace KeyedFlow.CommandLine

/-- The code of the program and what it prints; a report that is printed as JSON is also given as its summary. -/
structure Ending where
  code : Nat
  output : ByteArray
  errors : String
  summary : Option RunSummary
  events : List Event

/-- The version of the program. -/
def versionText : String :=
  "dataflow 0.1.0\n"

/-- The help of the program. -/
def helpText : String :=
  "Generate partitions, compute reference results and validate them\n\n" ++
  "Usage: dataflow [OPTIONS] [COMMAND]\n\n" ++
  "Commands:\n" ++
  "  generate  -k <KEYS> -n <VALUES_PER_KEY> -m <MAX_VALUE> [--seed <SEED>]\n" ++
  "  apply     [-p <PARTITIONS>] [--json]\n" ++
  "  validate\n" ++
  "  menu      (default)\n\n" ++
  "Options:\n" ++
  "  -v, --verbose\n" ++
  "  -c, --config <CONFIG>\n" ++
  "      --partition-prefix <PARTITION_PREFIX>\n" ++
  "      --program <PROGRAM>\n" ++
  "      --result <RESULT>\n" ++
  "      --expected <EXPECTED>\n" ++
  "  -h, --help\n" ++
  "  -V, --version\n"

/-- The end of a program that prints a text. -/
def printing (text : String) (events : List Event) : Ending :=
  ⟨0, text.toUTF8, "", none, events⟩

/-- The end of a program that fails; `context` stands before the failure. -/
def failing (context : List String) (failure : Failure) (events : List Event) : Ending :=
  ⟨1, ByteArray.empty, "Error: " ++ String.intercalate ": " (context ++ failure.chain) ++ "\n", none, events⟩

/-- The end of a program whose command line is not carried out. -/
def refusing : Refusal → Ending
  | .wrong => ⟨2, ByteArray.empty, "Error: wrong command line\n", none, []⟩
  | .help => printing helpText []
  | .version => printing versionText []

/-- The setup of an invocation. -/
def loadSetup (invocation : Invocation) : DiskAction (Except Failure Setup) := do
  match invocation.configPath with
  | none => return .ok (Setup.usual.override invocation.overrides)
  | some path => return (← Setup.load path).map (·.override invocation.overrides)

/-- The end of a program whose setup cannot be loaded. -/
def withoutSetup (invocation : Invocation) (failure : Failure) : Ending :=
  failing (invocation.configPath.toList.map ("Failed to load config from " ++ ·)) failure []

/-- The end of a program that has run a pipeline. -/
def reporting (setup : Setup) (json : Bool) (stamp : RunStamp) (run : Run) : Ending :=
  match run.result with
  | .error failure => failing [] failure run.events
  | .ok .nothingToProcess => printing "No partitions to process.\n" run.events
  | .ok (.completed summary) =>
    if json then
      { printing ((Report.toJson ⟨stamp, summary⟩).indented ++ "\n") run.events with summary := some summary }
    else
      printing ("Result written to " ++ setup.resultPath ++ " (" ++ toString summary.outputRows ++ " rows, sha256 " ++
        summary.digest ++ ").\n") run.events

/-- Carries out a command in a setup.  `supply` has the draws for generations without a seed. -/
def execute (setup : Setup) (supply : Nat → Draws) (stamp : RunStamp) (input : List UInt8) :
    Command → DiskAction Ending
  | .generate generation seed => do
    let draws := match seed with
      | some seed => Draws.seeded seed
      | none => supply 0
    match ← generation.perform draws setup.partitions with
    | .ok count => return printing s!"Generated {count} partitions.\n" []
    | .error failure => return failing [] failure []
  | .apply partitions json => do
    return reporting setup json stamp (← Run.perform setup partitions)
  | .validate => do
    match ← Validation.perform setup.resultPath setup.expectedPath with
    | .ok validation =>
      return { printing (validation.message ++ "\n") [] with code := if validation.isCorrect then 0 else 1 }
    | .error failure => return failing [] failure []
  | .menu => do
    let transcript ← Menu.run (Session.start setup) supply none input
    match transcript.ended with
    | .ok _ => return ⟨0, transcript.output, "", none, transcript.events⟩
    | .error failure => return { failing [] failure transcript.events with output := transcript.output }

/-- Carries out a command line. -/
def run (args : List String) (supply : Nat → Draws) (stamp : RunStamp) (input : List UInt8) : DiskAction Ending := do
  match read args with
  | .error refusal => return refusing refusal
  | .ok invocation =>
    match ← loadSetup invocation with
    | .error failure => return withoutSetup invocation failure
    | .ok setup => execute setup supply stamp input invocation.command

end KeyedFlow.CommandLine
