import KeyedFlow.CommandLine.Execution
import KeyedFlow.Proofs.MenuScript
import KeyedFlow.Proofs.SessionInvariant

/-!
# The command line and the menu

What a command line does can also be asked for in the menu, with a script of a few lines (`Menu.ScriptOf`).  The two
ways leave the same files and the same events, and the command line ends as the menu says that the request has ended
(`CommandLine.run_accords_menu`).  Generated values are drawn anew each time, so generations are compared only where
there is one value to draw, or none.
-/

namespace KeyedFlow

/-! ### The conversation about one request -/

namespace Menu

open CommandLine (Command)

/-- The answers that stand for a number of partitions, which may be left open. -/
inductive CountAnswer : Option UInt64 → List Char → Prop where
  | usual : CountAnswer none []
  | count {n : UInt64} {answer : List Char} (h : Text.Numeral.readCount answer = .ok n) : CountAnswer (some n) answer

/-- The answers with which the menu is asked for what a command does, and then left; also the request that is made. -/
inductive ScriptOf (supply : Nat → Draws) : Command → Request → List (List Char) → Prop where
  | generate {generation : Generation} (seed : Option UInt64) {keys rows maxValue : List Char}
      (hkeys : Text.Numeral.readCount keys = .ok generation.keys)
      (hrows : Text.Numeral.readCount rows = .ok generation.rowsPerKey)
      (hmax : Text.Numeral.readInt64 maxValue = .ok generation.maxValue) :
      ScriptOf supply (.generate generation seed) (.generate generation (supply 0)) [['1'], keys, rows, maxValue, ['4']]
  | apply {partitions : Option UInt64} (json : Bool) {answer : List Char} (h : CountAnswer partitions answer) :
      ScriptOf supply (.apply partitions json) (.apply partitions) [['2'], answer, ['4']]
  | validate : ScriptOf supply .validate .validate [['3'], ['4']]

private theorem ne_nil_of_readCount {n : UInt64} {answer : List Char} (h : Text.Numeral.readCount answer = .ok n) :
    answer ≠ [] := by
  rintro rfl
  cases h

private theorem answer_count {partitions : Option UInt64} {answer : List Char} (h : CountAnswer partitions answer)
    (session : Session) (supply : Nat → Draws) :
    Menu.answer ⟨session, .partitions, supply⟩ answer =
      request ⟨session, .partitions, supply⟩ (.apply partitions) supply := by
  cases h with
  | usual => rfl
  | count h => exact (answer_partitions (ne_nil_of_readCount h) _ _).trans (withNumber_ok h _ _)

/-- The request of a command is the only one that its script stands for. -/
private theorem ScriptOf.requests_eq {supply : Nat → Draws} {command : Command} {request : Request}
    {answers : List (List Char)} (h : ScriptOf supply command request answers) :
    requests supply answers = [request] := by
  cases h with
  | generate seed hkeys hrows hmax =>
    rw [requests, if_pos rfl]
    simp only [hkeys, hrows, hmax]
    rfl
  | apply json h =>
    cases h with
    | usual => rfl
    | count h =>
      rw [requests, if_neg (by decide), if_pos rfl]
      simp only [if_neg (ne_nil_of_readCount h), h]
      rfl
  | validate => rfl

/-- What the menu says to have a choice made. -/
def choosing : String :=
  options ++ "Enter your choice: "

/-- What the menu asks before it makes the request of a command, if nothing has been generated before. -/
def questions : Command → List String
  | .generate _ _ =>
    ["Enter the number of keys: ", "Enter the number of values per key: ", "Enter the maximum value: "]
  | .apply _ _ => ["Specify the number of partitions (default set to: program setting): "]
  | .validate => []
  | .menu => []

/-- All that the menu says in a conversation about one request, with its words about the reply. -/
def spoken (command : Command) (reply : String) : String :=
  welcome ++ choosing ++ String.join (questions command) ++ reply ++ choosing ++ "Goodbye!\n"

/-- Whether a menu says a text in a conversation that goes on from it. -/
structure Says (menu : Menu) (lines : List Line) (store : FileStore) (said : String) : Prop where
  output_eq : ∀ (turn : Turn) (before : String) (events : List Event), turn.next = menu → turn.ended = none →
    ((converse ⟨none, before.toUTF8⟩ events turn lines).run store).1.output = (before ++ turn.said ++ said).toUTF8

namespace Says

variable {menu : Menu} {line : Line} {lines : List Line} {answer : List Char} {store : FileStore} {said : String}

private theorem of_eq (text : String) (h : Says menu lines store text) (heq : text = said) :
    Says menu lines store said :=
  heq ▸ h

private theorem stop (text : String) (hline : line.Reads answer)
    (hanswer : menu.answer answer = pure (menu.stop text (.ok ()))) : Says menu (line :: lines) store text where
  output_eq turn before events hmenu hended := by
    subst hmenu
    rw [run_converse_cons hended, take_of_reads hline, hanswer]
    cases lines with
    | nil | cons => rfl

/-- An answer after which the menu asks another question. -/
private theorem ask (question : Question) (text : String) (hline : line.Reads answer)
    (hanswer : menu.answer answer = pure (menu.ask question text []))
    (hrest : Says { menu with question } lines store said) :
    Says menu (line :: lines) store (text ++ prompt { menu with question } ++ said) where
  output_eq turn before events hmenu hended := by
    subst hmenu
    have hrest := hrest.output_eq (turn.next.ask question text []) (before ++ turn.said) (events ++ turn.events) rfl rfl
    rw [run_converse_cons hended, take_of_reads hline, hanswer, ← String.append_assoc]
    exact hrest

/-- An answer with which a request is made, after which the menu asks for a choice. -/
theorem request {request : Request} {supply : Nat → Draws} (hline : line.Reads answer)
    (hanswer : menu.answer answer = menu.request request supply)
    (hrest : Says ⟨((menu.session.perform request).run store).1.session, .choice, supply⟩ lines
      ((menu.session.perform request).run store).2 said) :
    let reply := ((menu.session.perform request).run store).1.reply
    Says menu (line :: lines) store (replyText menu.session.setup reply ++ choosing ++ said) where
  output_eq turn before events hmenu hended := by
    subst hmenu
    let answered := ((turn.next.session.perform request).run store).1
    have hrest := hrest.output_eq ({ turn.next with session := answered.session, supply }.ask .choice
      (replyText turn.next.session.setup answered.reply) answered.events) (before ++ turn.said) (events ++ turn.events)
      rfl rfl
    rw [run_converse_cons hended, take_of_reads hline, hanswer, Menu.request, DiskAction.run_bind,
      ← String.append_assoc]
    exact hrest

end Says

/-- What the menu says about the request of a command, in a session in which nothing has been generated. -/
private theorem says_script {supply : Nat → Draws} {command : Command} {request : Request} {answers : List (List Char)}
    (hscript : ScriptOf supply command request answers) {lines : List Line}
    (hlines : List.Forall₂ Line.Reads lines answers) (setup : Setup) (store : FileStore) :
    let reply := ((Session.perform (.start setup) request).run store).1.reply
    Says ⟨.start setup, .choice, supply⟩ lines store
      (String.join (questions command) ++ replyText setup reply ++ choosing ++ "Goodbye!\n") := by
  intro reply
  -- the text of every turn is put in front of the text of the turns after it
  cases hscript with
  | generate seed hkeys hrows hmax =>
    obtain _ | ⟨h₁, _ | ⟨h₂, _ | ⟨h₃, _ | ⟨h₄, _ | ⟨h₅, _ | _⟩⟩⟩⟩⟩ := hlines
    refine .of_eq ("" ++ "Enter the number of keys: " ++ ("" ++ "Enter the number of values per key: " ++
      ("" ++ "Enter the maximum value: " ++ (replyText setup reply ++ choosing ++ "Goodbye!\n")))) ?_ ?_
    · refine .ask .keys "" h₁ rfl ?_
      refine .ask (.rowsPerKey _) "" h₂ (withNumber_ok hkeys _ _) ?_
      refine .ask (.maxValue _ _) "" h₃ (withNumber_ok hrows _ _) ?_
      refine .request h₄ (withNumber_ok hmax _ _) ?_
      exact .stop "Goodbye!\n" h₅ rfl
    · simp only [questions, String.join_nil, String.join_cons, String.append_assoc, String.empty_append,
        String.append_empty]
  | apply json hanswer =>
    obtain _ | ⟨h₁, _ | ⟨h₂, _ | ⟨h₃, _ | _⟩⟩⟩ := hlines
    refine .of_eq ("" ++ "Specify the number of partitions (default set to: program setting): " ++
      (replyText setup reply ++ choosing ++ "Goodbye!\n")) ?_ ?_
    · refine .ask .partitions "" h₁ rfl ?_
      exact .request h₂ (answer_count hanswer (.start setup) supply) (.stop "Goodbye!\n" h₃ rfl)
    · simp only [questions, String.join_nil, String.join_cons, String.append_assoc, String.empty_append,
        String.append_empty]
  | validate =>
    obtain _ | ⟨h₁, _ | ⟨h₂, _ | _⟩⟩ := hlines
    refine .of_eq (replyText setup reply ++ choosing ++ "Goodbye!\n") ?_ ?_
    · exact .request h₁ rfl (.stop "Goodbye!\n" h₂ rfl)
    · simp only [questions, String.join_nil, String.append_assoc, String.empty_append]

/-- A script for a command, given to a new session, makes the request of the command and nothing else. -/
private theorem run_script {supply : Nat → Draws} {command : Command} {request : Request} {script : String}
    (hscript : ScriptOf supply command request ((Text.lines script.toList).map Text.trim)) (setup : Setup)
    (store : FileStore) :
    let talk := (run (.start setup) supply none script.toUTF8.data.toList).run store
    let w : Workspace := ⟨.start setup, store, []⟩
    talk.1.ended = .ok () ∧ talk.2 = (w.take request).store ∧ talk.1.events = (w.answer request).events ∧
      talk.1.output = (spoken command (replyText setup (w.answer request).reply)).toUTF8 := by
  intro talk w
  have hlines : List.Forall₂ Line.Reads (Line.all script.toUTF8.data.toList)
      ((Text.lines script.toList).map Text.trim) := by
    rw [Text.toUTF8_toList]
    exact Line.reads_all_bytes script.toList
  have hperforms := performs_requests (.start setup) supply hlines store
  rw [hscript.requests_eq] at hperforms
  obtain ⟨hended, -, hstore, hevents⟩ :=
    hperforms.run_eq (start (.start setup) supply).opening ByteArray.empty [] [] rfl rfl
  refine ⟨hended, hstore, hevents.trans (List.append_nil _), ?_⟩
  have hsaid := says_script hscript hlines setup store
  have hopening : (start (.start setup) supply).opening.said = welcome ++ choosing := rfl
  refine (hsaid.output_eq (start (.start setup) supply).opening "" [] rfl rfl).trans (congrArg String.toUTF8 ?_)
  rw [hopening]
  unfold spoken
  simp only [String.empty_append, String.append_assoc]
  rfl

end Menu

namespace Generation

/-- Without a choice of values, the draws do not matter for what is generated. -/
private theorem perform_eq_of_maxValue_le_one {generation : Generation} (h : generation.maxValue ≤ 1)
    (draws others : Draws) (partitions : Partitions) :
    generation.perform draws partitions = generation.perform others partitions := by
  unfold perform
  split
  · rfl
  · rename_i hmax
    have hone : generation.maxValue = 1 := Int64.le_antisymm h (Int64.not_lt.1 hmax)
    have hvalue : ∀ word, generation.value word = 1 := by
      intro word
      unfold value
      rw [hone]
      show Int64.ofNat (word.toNat % 1 + 1) = 1
      rw [Nat.mod_one]
      rfl
    have htable : generation.table draws = generation.table others := by
      funext index
      unfold table
      simp only [hvalue]
    rw [writeFrom_eq, writeFrom_eq, htable]

end Generation

/-! ### What a command line ends with -/

namespace CommandLine

/-- Whether a program ends with a code, and prints a text and no failure. -/
structure Ending.Prints (ending : Ending) (code : Nat) (text : String) : Prop where
  code_eq : ending.code = code
  output_eq : ending.output = text.toUTF8
  errors_eq : ending.errors = ""

/-- Whether a command line ends as it should with the reply to its request, and the menu says the same about it. -/
inductive Accords (setup : Setup) (stamp : RunStamp) : Command → Except Failure Reply → Ending → String → Prop where
  | failed {command : Command} {failure : Failure} {ending : Ending} (hcode : ending.code = 1)
      (houtput : ending.output = ByteArray.empty)
      (herrors : ending.errors = "Error: " ++ String.intercalate ": " failure.chain ++ "\n") :
      Accords setup stamp command (.error failure) ending ("Error: " ++ failure.message ++ "\n")
  | generated {generation : Generation} {seed : Option UInt64} {count : UInt64} {ending : Ending}
      (hprints : ending.Prints 0 ("Generated " ++ toString count ++ " partitions.\n")) :
      Accords setup stamp (.generate generation seed) (.ok (.generated count)) ending
        ("Generated " ++ toString count ++ " partitions.\n")
  | nothingToProcess {partitions : Option UInt64} {json : Bool} {ending : Ending}
      (hprints : ending.Prints 0 "No partitions to process.\n") :
      Accords setup stamp (.apply partitions json) (.ok (.applied .nothingToProcess)) ending
        "No partitions to process.\n"
  | written {partitions : Option UInt64} {summary : RunSummary} {ending : Ending}
      (hprints : ending.Prints 0 ("Result written to " ++ setup.resultPath ++ " (" ++ toString summary.outputRows ++
        " rows, sha256 " ++ summary.digest ++ ").\n")) :
      Accords setup stamp (.apply partitions false) (.ok (.applied (.completed summary))) ending
        ("Result written to " ++ setup.resultPath ++ " (" ++ toString summary.outputRows ++ " rows).\n")
  | reported {partitions : Option UInt64} {summary : RunSummary} {ending : Ending}
      (hprints : ending.Prints 0 ((Report.toJson ⟨stamp, summary⟩).indented ++ "\n"))
      (hsummary : ending.summary = some summary) :
      Accords setup stamp (.apply partitions true) (.ok (.applied (.completed summary))) ending
        ("Result written to " ++ setup.resultPath ++ " (" ++ toString summary.outputRows ++ " rows).\n")
  | validated {validation : Validation} {ending : Ending}
      (hprints : ending.Prints (if validation = .correct then 0 else 1) (validation.message ++ "\n")) :
      Accords setup stamp .validate (.ok (.validated validation)) ending (validation.message ++ "\n")

private theorem failing_accords (setup : Setup) (stamp : RunStamp) (command : Command) (failure : Failure)
    (events : List Event) :
    Accords setup stamp command (.error failure) (failing [] failure events)
      (Menu.replyText setup (.error failure)) :=
  .failed rfl rfl rfl

private theorem reporting_accords (setup : Setup) (stamp : RunStamp) (partitions : Option UInt64) (json : Bool)
    (run : Run) :
    Accords setup stamp (.apply partitions json) (run.result.map .applied) (reporting setup json stamp run)
      (Menu.replyText setup (run.result.map .applied)) := by
  unfold reporting
  cases run.result with
  | error failure => exact failing_accords ..
  | ok outcome =>
    cases outcome with
    | nothingToProcess => exact .nothingToProcess ⟨rfl, rfl, rfl⟩
    | completed summary =>
      cases json with
      | false => exact .written ⟨rfl, rfl, rfl⟩
      | true => exact .reported ⟨rfl, rfl, rfl⟩ rfl

private theorem events_reporting (setup : Setup) (json : Bool) (stamp : RunStamp) (run : Run) :
    (reporting setup json stamp run).events = run.events := by
  unfold reporting
  split
  · rfl
  · rfl
  · split <;> rfl

/-- Carrying out a command does in a store what its request does, and ends in accord with the reply. -/
private theorem execute_accords {menuSupply : Nat → Draws} {command : Command} {request : Request}
    {answers : List (List Char)} (hscript : Menu.ScriptOf menuSupply command request answers)
    (hmax : ∀ generation seed, command = .generate generation seed → generation.maxValue ≤ 1) (setup : Setup)
    (store : FileStore) (supply : Nat → Draws) (stamp : RunStamp) (input : List UInt8) :
    let line := (execute setup supply stamp input command).run store
    let w : Workspace := ⟨.start setup, store, []⟩
    line.2 = (w.take request).store ∧ line.1.events = (w.answer request).events ∧
      Accords setup stamp command (w.answer request).reply line.1 (Menu.replyText setup (w.answer request).reply) := by
  intro line w
  cases hscript with
  | @generate generation seed =>
    have hperform := fun draws =>
      Generation.perform_eq_of_maxValue_le_one (hmax generation seed rfl) draws (menuSupply 0) setup.partitions
    have hline : line = (execute setup supply stamp input (.generate generation seed)).run store := rfl
    have hpartitions : w.session.setup.partitions = setup.partitions := rfl
    unfold execute at hline
    dsimp only at hline
    rw [hperform, DiskAction.run_bind] at hline
    rw [hline, w.store_take_generate, w.answer_generate, hpartitions]
    cases ((generation.perform (menuSupply 0) setup.partitions).run w.store).1 with
    | error failure => exact ⟨rfl, rfl, failing_accords ..⟩
    | ok count => exact ⟨rfl, rfl, .generated ⟨rfl, rfl, rfl⟩⟩
  | @apply partitions json answer hanswer =>
    have hline : line = (reporting setup json stamp ((Run.perform setup partitions).run store).1,
        ((Run.perform setup partitions).run store).2) := DiskAction.run_bind ..
    have hasked : w.session.partitionsAsked partitions = partitions := Option.or_none
    rw [hline, w.store_take_apply, w.answer_apply, hasked]
    exact ⟨rfl, events_reporting .., reporting_accords ..⟩
  | validate =>
    have hreads := (Validation.readsOnly_perform setup.resultPath setup.expectedPath).run_eq store
    have hline : line = (execute setup supply stamp input .validate).run store := rfl
    have hsetup : w.session.setup = setup := rfl
    unfold execute at hline
    rw [DiskAction.run_bind, hreads] at hline
    rw [hline, w.store_take_validate, w.answer_validate, hsetup]
    cases ((Validation.perform setup.resultPath setup.expectedPath).run store).1 with
    | error failure => exact ⟨rfl, rfl, failing_accords ..⟩
    | ok validation =>
      refine ⟨rfl, rfl, .validated ⟨?_, rfl, rfl⟩⟩
      exact if_congr beq_iff_eq rfl rfl

/-- Without a value to draw, nothing is generated. -/
private theorem generate_of_maxValue_lt_one {generation : Generation} (h : generation.maxValue < 1)
    (seed : Option UInt64) (setup : Setup) (store : FileStore) (supply : Nat → Draws) (stamp : RunStamp)
    (input : List UInt8) :
    let line := (execute setup supply stamp input (.generate generation seed)).run store
    line.1.code = 1 ∧ line.2 = store := by
  intro line
  have hline : line = (execute setup supply stamp input (.generate generation seed)).run store := rfl
  unfold execute Generation.perform at hline
  dsimp only at hline
  rw [if_pos h] at hline
  rw [hline]
  exact ⟨rfl, rfl⟩

open DiskAction in
private theorem readsOnly_loadSetup (invocation : Invocation) : (loadSetup invocation).ReadsOnly := by
  unfold loadSetup
  cases invocation.configPath with
  | none => exact ReadsOnly.pure _
  | some path => exact (readsOnly_loadDocument _ path).bind fun loaded => ReadsOnly.pure _

private theorem run_of_loadSetup {args : List String} {invocation : Invocation} {setup : Setup} {store : FileStore}
    (hread : read args = .ok invocation) (hsetup : ((loadSetup invocation).run store).1 = .ok setup)
    (supply : Nat → Draws) (stamp : RunStamp) (input : List UInt8) :
    (run args supply stamp input).run store = (execute setup supply stamp input invocation.command).run store := by
  unfold run
  rw [hread, DiskAction.run_bind, (readsOnly_loadSetup invocation).run_eq store, hsetup]

/-- A command line and a script for its command, given to a menu with the same setup, leave the same files and the same
events, and the command line ends in accord with what the menu says.  Where there is no value to draw, both fail and
leave the files alone. -/
theorem run_accords_menu {args : List String} {invocation : Invocation} {setup : Setup} {store : FileStore}
    (hread : read args = .ok invocation) (hsetup : ((loadSetup invocation).run store).1 = .ok setup)
    {menuSupply : Nat → Draws} {request : Request} {script : String}
    (hscript : Menu.ScriptOf menuSupply invocation.command request ((Text.lines script.toList).map Text.trim))
    (hmax : ∀ generation seed, invocation.command = .generate generation seed → generation.maxValue ≤ 1)
    (supply : Nat → Draws) (stamp : RunStamp) (input : List UInt8) :
    let line := (run args supply stamp input).run store
    let talk := (Menu.run (.start setup) menuSupply none script.toUTF8.data.toList).run store
    line.2 = talk.2 ∧ line.1.events = talk.1.events ∧ talk.1.ended = .ok () ∧
      (∃ said, talk.1.output = (Menu.spoken invocation.command said).toUTF8 ∧
        Accords setup stamp invocation.command (Workspace.answer ⟨.start setup, store, []⟩ request).reply line.1 said) ∧
      ∀ generation seed, invocation.command = .generate generation seed → generation.maxValue < 1 →
        line.1.code = 1 ∧ line.2 = store := by
  intro line talk
  have hline : line = (execute setup supply stamp input invocation.command).run store :=
    run_of_loadSetup hread hsetup supply stamp input
  obtain ⟨hended, hstore, hevents, houtput⟩ := Menu.run_script hscript setup store
  obtain ⟨hlineStore, hlineEvents, haccords⟩ := execute_accords hscript hmax setup store supply stamp input
  rw [hline]
  refine ⟨hlineStore.trans hstore.symm, hlineEvents.trans hevents.symm, hended, ⟨_, houtput, haccords⟩, ?_⟩
  intro generation seed hcommand hlt
  rw [hcommand]
  exact generate_of_maxValue_lt_one hlt seed setup store supply stamp input

/-- Two partitions of one row, asked for by arguments and by answers: the same is done and said, whatever is drawn. -/
theorem run_accords_menu_generate :
    let stamp : RunStamp := ⟨.random 0, ⟨0, 0⟩, .zero⟩
    let line := (run ["generate", "-k", "2", "-n", "1", "-m", "1"] (fun _ => Draws.seeded 5) stamp []).run .empty
    let talk := (Menu.run (.start .usual) (fun _ => Draws.seeded 7) none
      "1\n2\r\n 1\n1\n4\n".toUTF8.data.toList).run .empty
    line.2 = talk.2 ∧ line.1.events = talk.1.events ∧ talk.1.ended = .ok () ∧
      line.1.Prints 0 "Generated 2 partitions.\n" ∧
      talk.1.output = (Menu.spoken (.generate ⟨2, 1, 1⟩ none) "Generated 2 partitions.\n").toUTF8 := by
  intro stamp line talk
  have hread : read ["generate", "-k", "2", "-n", "1", "-m", "1"] =
      .ok ⟨none, ⟨none, none, none, none⟩, .generate ⟨2, 1, 1⟩ none⟩ := by rfl
  have hsetup : ((loadSetup ⟨none, ⟨none, none, none, none⟩, .generate ⟨2, 1, 1⟩ none⟩).run .empty).1 = .ok .usual :=
    rfl
  have hscript : Menu.ScriptOf (fun _ => Draws.seeded 7) (.generate ⟨2, 1, 1⟩ none) _
      ((Text.lines "1\n2\r\n 1\n1\n4\n".toList).map Text.trim) := .generate none rfl rfl rfl
  obtain ⟨hstore, hevents, hended, ⟨said, hsaid, haccords⟩, -⟩ :=
    run_accords_menu hread hsetup hscript (by rintro generation seed ⟨⟩; decide) (fun _ => Draws.seeded 5) stamp []
  have hreply : (Workspace.answer ⟨.start .usual, .empty, []⟩ (.generate ⟨2, 1, 1⟩ (Draws.seeded 7))).reply =
      .ok (.generated 2) := by rfl
  have htext : "Generated " ++ toString (2 : UInt64) ++ " partitions.\n" = "Generated 2 partitions.\n" := by rfl
  rw [hreply] at haccords
  cases haccords with
  | generated hprints =>
    rw [htext] at hprints hsaid
    exact ⟨hstore, hevents, hended, hprints, hsaid⟩

end CommandLine

end KeyedFlow
