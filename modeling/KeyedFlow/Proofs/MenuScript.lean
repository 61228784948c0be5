import KeyedFlow.Proofs.InputLines
import KeyedFlow.Proofs.Workspace

/-!
# The requests of a script

What is typed into the menu is a script: its trimmed lines stand for requests (`Menu.requests`).  A conversation with
the menu always ends well, and does what these requests do, one after the other (`Menu.run_eq_takeAll`).
-/

namespace KeyedFlow.Menu

/-- The requests that trimmed lines stand for.  A choice takes the lines that its request needs; where one of them is no
number, or is missing, the request is dropped and the next line is a choice again. -/
def requests (supply : Nat → Draws) : List (List Char) → List Request
  | [] => []
  | choice :: rest =>
    if choice = ['1'] then
      match rest with
      | [] => []
      | keysLine :: rest =>
        match Text.Numeral.readCount keysLine with
        | .error _ => requests supply rest
        | .ok keys =>
          match rest with
          | [] => []
          | rowsLine :: rest =>
            match Text.Numeral.readCount rowsLine with
            | .error _ => requests supply rest
            | .ok rows =>
              match rest with
              | [] => []
              | maxLine :: rest =>
                match Text.Numeral.readInt64 maxLine with
                | .error _ => requests supply rest
                | .ok maxValue =>
                  .generate ⟨keys, rows, maxValue⟩ (supply 0) :: requests (fun n => supply (n + 1)) rest
    else if choice = ['2'] then
      match rest with
      | [] => []
      | countLine :: rest =>
        if countLine = [] then .apply none :: requests supply rest
        else
          match Text.Numeral.readCount countLine with
          | .error _ => requests supply rest
          | .ok count => .apply (some count) :: requests supply rest
    else if choice = ['3'] then .validate :: requests supply rest
    else if choice = ['4'] then []
    else requests supply rest

example (supply : Nat → Draws) :
    requests supply [['1'], ['x'], ['2'], [], ['2'], ['7'], ['4'], ['3']] = [.apply none, .apply (some 7)] := by
  rfl

/-- The menu takes a line as the answer that is read from it. -/
theorem take_of_reads {line : Line} {answer : List Char} (h : line.Reads answer) (menu : Menu) :
    menu.take line = menu.answer answer := by
  obtain ⟨s, rfl, rfl⟩ := h
  rfl

/-- An answer that is a number is passed on. -/
theorem withNumber_ok {α ε : Type} {number : Except ε α} {n : α} (h : number = .ok n) (menu : Menu)
    (go : α → DiskAction Turn) : menu.withNumber number go = go n := by
  rw [h]
  rfl

private theorem withNumber_error {α ε : Type} {number : Except ε α} {fault : ε} (h : number = .error fault)
    (menu : Menu) (go : α → DiskAction Turn) : menu.withNumber number go = pure menu.refuse := by
  rw [h]
  rfl

/-- An answer to the question for partitions that is not empty is meant as their number. -/
theorem answer_partitions {answer : List Char} (h : answer ≠ []) (session : Session) (supply : Nat → Draws) :
    Menu.answer ⟨session, .partitions, supply⟩ answer =
      withNumber ⟨session, .partitions, supply⟩ (Text.Numeral.readCount answer) fun n =>
        request ⟨session, .partitions, supply⟩ (.apply (some n)) supply := by
  refine if_neg ?_
  rw [List.isEmpty_iff]
  exact h

private theorem settle_eq (turn : Turn) (bytes : ByteArray) :
    turn.settle ⟨none, bytes⟩ = (⟨none, bytes ++ turn.said.toUTF8⟩, turn.ended) := rfl

private theorem ended_endOfInput (menu : Menu) : menu.endOfInput.ended = some (.ok ()) := by
  unfold endOfInput
  cases menu.question <;> rfl

/-- A line is taken by the menu after the turn before it. -/
theorem run_converse_cons {turn : Turn} (h : turn.ended = none) (bytes : ByteArray) (events : List Event)
    (line : Line) (lines : List Line) (store : FileStore) :
    (converse ⟨none, bytes⟩ events turn (line :: lines)).run store =
      let taken := (turn.next.take line).run store
      (converse ⟨none, bytes ++ turn.said.toUTF8⟩ (events ++ turn.events) taken.1 lines).run taken.2 := by
  rw [converse, settle_eq, h]
  exact DiskAction.run_bind ..

/-- Whether a conversation that goes on from a menu ends well and does what requests do. -/
structure Performs (menu : Menu) (lines : List Line) (store : FileStore) (requests : List Request) : Prop where
  run_eq : ∀ (turn : Turn) (bytes : ByteArray) (events : List Event) (log : EventLog),
    turn.next = menu → turn.ended = none →
    let result := (converse ⟨none, bytes⟩ events turn lines).run store
    let w : Workspace := ⟨menu.session, store, log⟩
    result.1.ended = .ok () ∧ result.1.session = (w.takeAll requests).session ∧
      result.2 = (w.takeAll requests).store ∧
      result.1.events = events ++ turn.events ++ (w.calls requests).flatMap fun call => (call.1.answer call.2).events

namespace Performs

variable {menu : Menu} {line : Line} {lines : List Line} {answer : List Char} {store : FileStore}

private theorem nil (menu : Menu) (store : FileStore) : Performs menu [] store [] where
  run_eq turn bytes events log hmenu hended := by
    subst hmenu
    unfold converse
    rw [settle_eq, hended]
    dsimp only
    rw [settle_eq, ended_endOfInput]
    exact ⟨rfl, rfl, rfl, (List.append_nil _).symm⟩

/-- Where the menu stops, nothing behind has an effect. -/
private theorem stop (said : String) (hline : line.Reads answer)
    (hanswer : menu.answer answer = pure (menu.stop said (.ok ()))) :
    Performs menu (line :: lines) store [] where
  run_eq turn bytes events log hmenu hended := by
    subst hmenu
    rw [run_converse_cons hended, take_of_reads hline, hanswer]
    cases lines with
    | nil | cons => exact ⟨rfl, rfl, rfl, rfl⟩

/-- An answer after which the menu asks another question. -/
private theorem ask (question : Question) (said : String) (hline : line.Reads answer)
    (hanswer : menu.answer answer = pure (menu.ask question said [])) {requests : List Request}
    (hrest : Performs { menu with question } lines store requests) : Performs menu (line :: lines) store requests where
  run_eq turn bytes events log hmenu hended := by
    subst hmenu
    have hrest := hrest.run_eq (turn.next.ask question said []) (bytes ++ turn.said.toUTF8) (events ++ turn.events) log
      rfl rfl
    rw [Menu.ask, List.append_nil] at hrest
    rw [run_converse_cons hended, take_of_reads hline, hanswer]
    exact hrest

/-- An answer that is no number drops what has been put together. -/
private theorem refuse {α ε : Type} {number : Except ε α} {fault : ε} {go : α → DiskAction Turn}
    (hnumber : number = .error fault) (hline : line.Reads answer)
    (hanswer : menu.answer answer = menu.withNumber number go) {requests : List Request}
    (hrest : Performs { menu with question := .choice } lines store requests) :
    Performs menu (line :: lines) store requests :=
  .ask .choice "Invalid number.\n" hline (hanswer.trans (withNumber_error hnumber menu go)) hrest

/-- An answer that is a number leads to the next question. -/
private theorem askNext {α ε : Type} {number : Except ε α} {n : α} {question : α → Question} (hnumber : number = .ok n)
    (hline : line.Reads answer)
    (hanswer : menu.answer answer = menu.withNumber number fun n => pure (menu.ask (question n) "" []))
    {requests : List Request} (hrest : Performs { menu with question := question n } lines store requests) :
    Performs menu (line :: lines) store requests :=
  .ask (question n) "" hline (hanswer.trans (withNumber_ok hnumber menu _)) hrest

/-- An answer with which a request is made, after which the menu asks for a choice. -/
private theorem request {request : Request} {supply : Nat → Draws} (hline : line.Reads answer)
    (hanswer : menu.answer answer = menu.request request supply) {requests : List Request}
    (hrest : Performs ⟨((menu.session.perform request).run store).1.session, .choice, supply⟩ lines
      ((menu.session.perform request).run store).2 requests) :
    Performs menu (line :: lines) store (request :: requests) where
  run_eq turn bytes events log hmenu hended := by
    subst hmenu
    let w : Workspace := ⟨turn.next.session, store, log⟩
    let next : Turn :=
      { turn.next with session := (w.answer request).session, supply }.ask .choice
        (replyText turn.next.session.setup (w.answer request).reply) (w.answer request).events
    have htaken : (turn.next.take line).run store = (next, (w.take request).store) := by
      rw [take_of_reads hline, hanswer, Menu.request, DiskAction.run_bind]
      rfl
    obtain ⟨hended', hsession, hstore, hevents⟩ :=
      hrest.run_eq next (bytes ++ turn.said.toUTF8) (events ++ turn.events) (w.take request).log rfl rfl
    rw [run_converse_cons hended, htaken]
    refine ⟨hended', hsession, hstore, hevents.trans ?_⟩
    rw [Workspace.calls, List.flatMap_cons]
    exact List.append_assoc ..

end Performs

/-- A conversation in which a choice is asked for performs the requests that its lines stand for. -/
theorem performs_requests (session : Session) (supply : Nat → Draws) {lines : List Line} {answers : List (List Char)}
    (hlines : List.Forall₂ Line.Reads lines answers) (store : FileStore) :
    Performs ⟨session, .choice, supply⟩ lines store (requests supply answers) := by
  fun_induction requests supply answers generalizing lines session store with
  | case1 =>
    cases hlines
    exact .nil _ store
  | case2 =>
    obtain _ | ⟨h₁, _ | _⟩ := hlines
    exact .ask .keys "" h₁ rfl (.nil _ store)
  | case3 supply keysLine rest fault hkeys ih =>
    obtain _ | ⟨h₁, _ | ⟨h₂, hlines⟩⟩ := hlines
    refine .ask .keys "" h₁ rfl ?_
    exact .refuse hkeys h₂ rfl (ih session hlines store)
  | case4 supply keysLine keys hkeys =>
    obtain _ | ⟨h₁, _ | ⟨h₂, _ | _⟩⟩ := hlines
    refine .ask .keys "" h₁ rfl ?_
    exact .askNext hkeys h₂ rfl (.nil _ store)
  | case5 supply keysLine keys hkeys rowsLine rest fault hrows ih =>
    obtain _ | ⟨h₁, _ | ⟨h₂, _ | ⟨h₃, hlines⟩⟩⟩ := hlines
    refine .ask .keys "" h₁ rfl ?_
    refine .askNext hkeys h₂ rfl ?_
    exact .refuse hrows h₃ rfl (ih session hlines store)
  | case6 supply keysLine keys hkeys rowsLine rows hrows =>
    obtain _ | ⟨h₁, _ | ⟨h₂, _ | ⟨h₃, _ | _⟩⟩⟩ := hlines
    refine .ask .keys "" h₁ rfl ?_
    refine .askNext hkeys h₂ rfl ?_
    exact .askNext hrows h₃ rfl (.nil _ store)
  | case7 supply keysLine keys hkeys rowsLine rows hrows maxLine rest fault hmax ih =>
    obtain _ | ⟨h₁, _ | ⟨h₂, _ | ⟨h₃, _ | ⟨h₄, hlines⟩⟩⟩⟩ := hlines
    refine .ask .keys "" h₁ rfl ?_
    refine .askNext hkeys h₂ rfl ?_
    refine .askNext hrows h₃ rfl ?_
    exact .refuse hmax h₄ rfl (ih session hlines store)
  | case8 supply keysLine keys hkeys rowsLine rows hrows maxLine rest maxValue hmax ih =>
    obtain _ | ⟨h₁, _ | ⟨h₂, _ | ⟨h₃, _ | ⟨h₄, hlines⟩⟩⟩⟩ := hlines
    refine .ask .keys "" h₁ rfl ?_
    refine .askNext hkeys h₂ rfl ?_
    refine .askNext hrows h₃ rfl ?_
    refine .request h₄ ?_ (ih _ hlines _)
    exact withNumber_ok hmax _ _
  | case9 =>
    obtain _ | ⟨h₁, _ | _⟩ := hlines
    exact .ask .partitions "" h₁ rfl (.nil _ store)
  | case10 supply rest _ ih =>
    obtain _ | ⟨h₁, _ | ⟨h₂, hlines⟩⟩ := hlines
    refine .ask .partitions "" h₁ rfl ?_
    exact .request h₂ rfl (ih _ hlines _)
  | case11 supply countLine rest hempty fault hcount _ ih =>
    obtain _ | ⟨h₁, _ | ⟨h₂, hlines⟩⟩ := hlines
    refine .ask .partitions "" h₁ rfl ?_
    exact .refuse hcount h₂ (answer_partitions hempty session supply) (ih session hlines store)
  | case12 supply countLine rest hempty count hcount _ ih =>
    obtain _ | ⟨h₁, _ | ⟨h₂, hlines⟩⟩ := hlines
    refine .ask .partitions "" h₁ rfl ?_
    refine .request h₂ ?_ (ih _ hlines _)
    rw [answer_partitions hempty]
    exact withNumber_ok hcount _ _
  | case13 supply rest _ _ ih =>
    obtain _ | ⟨h₁, hlines⟩ := hlines
    exact .request h₁ rfl (ih _ hlines _)
  | case14 =>
    obtain _ | ⟨h₁, hlines⟩ := hlines
    exact .stop "Goodbye!\n" h₁ rfl
  | case15 supply choice rest h1 h2 h3 h4 ih =>
    obtain _ | ⟨h₁, hlines⟩ := hlines
    refine .ask .choice "Invalid choice. Please try again.\n" h₁ ?_ (ih session hlines store)
    show choose _ choice = _
    unfold choose
    rw [if_neg h1, if_neg h2, if_neg h3, if_neg h4]

end KeyedFlow.Menu
