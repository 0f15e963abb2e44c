import VectorStore.Proofs.Database.Queries

/-!
Transactions. `Transacts` says what a query answers and leaves when each of its transactions takes
effect at its `COMMIT`, all of it or nothing; it knows neither snapshots nor flags. A query runs so
wherever no transaction begins inside another (`Database.run_iff_transacts`). A `BEGIN` inside a
transaction forgets what the transaction did before it: what fails later is taken back to the latest
`BEGIN` only (`Database.run_latest_begin`).
-/
namespace VectorStore

/-- Whether no transaction begins while one is open; `inside` says whether one is. -/
def Query.separate (inside : Bool) : Query → Bool
  | [] => true
  | .beginTransaction :: rest => !inside && separate true rest
  | .commitTransaction :: rest => separate false rest
  | _ :: rest => separate inside rest

/-- Whether statements stand between the brackets of transactions. -/
def Statement.Plain (statements : List Statement) : Prop :=
  ∀ statement ∈ statements, statement.isBracket = false

/-- The result of a statement of a transaction that is given up. -/
def StatementResult.discarded : StatementResult := .err StatementFault.transactionFailed.message

/-- Statements one of which fails, the results of giving them all up, and the bindings when it
fails: it keeps its own message, what succeeded before it is discarded, what follows it does not
run. -/
inductive Fails : Database → Bindings → List Statement → List StatementResult → Bindings → Prop
  | here {db : Database} {bindings : Bindings} {statement : Statement} {fault : StatementFault}
      (failed : db.apply bindings statement = .error fault) (skipped : List Statement) :
      Fails db bindings (statement :: skipped)
        (.err fault.message :: skipped.map fun _ => .discarded) bindings
  | later {db db' : Database} {bindings bindings' after : Bindings} {statement : Statement}
      {value : Json} {rest : List Statement} {results : List StatementResult}
      (applied : db.apply bindings statement = .ok (value, db', bindings'))
      (fails : Fails db' bindings' rest results after) :
      Fails db bindings (statement :: rest) (.discarded :: results) after

/-- The results of a query and the database after it, by its transactions. -/
inductive Transacts : Database → Bindings → Query → List StatementResult → Database → Prop
  /-- No statement does nothing. -/
  | done (db : Database) (bindings : Bindings) : Transacts db bindings [] [] db
  /-- A statement outside transactions that succeeds. -/
  | applied {db db' after : Database} {bindings bindings' : Bindings} {statement : Statement}
      {value : Json} {rest : Query} {results : List StatementResult}
      (plain : statement.isBracket = false)
      (applied : db.apply bindings statement = .ok (value, db', bindings'))
      (continues : Transacts db' bindings' rest results after) :
      Transacts db bindings (statement :: rest) (.ok value :: results) after
  /-- A statement outside transactions that fails changes nothing and stops nothing. -/
  | refused {db after : Database} {bindings : Bindings} {statement : Statement}
      {fault : StatementFault} {rest : Query} {results : List StatementResult}
      (plain : statement.isBracket = false)
      (failed : db.apply bindings statement = .error fault)
      (continues : Transacts db bindings rest results after) :
      Transacts db bindings (statement :: rest) (.err fault.message :: results) after
  /-- A `COMMIT` of no transaction is an error and changes nothing. -/
  | unmatched {db after : Database} {bindings : Bindings} {rest : Query}
      {results : List StatementResult} (continues : Transacts db bindings rest results after) :
      Transacts db bindings (.commitTransaction :: rest)
        (.err StatementFault.noTransaction.message :: results) after
  /-- A transaction whose statements succeed leaves what they leave one after another. -/
  | committed {db db' after : Database} {bindings bindings' : Bindings} {body : List Statement}
      {values : List Json} {rest : Query} {results : List StatementResult}
      (plain : Statement.Plain body)
      (applied : db.applyEach bindings body = .ok (values, db', bindings'))
      (continues : Transacts db' bindings' rest results after) :
      Transacts db bindings (Query.transaction body ++ rest)
        ((Json.null :: values ++ [Json.null]).map .ok ++ results) after
  /-- A transaction of which a statement fails leaves the database as before its `BEGIN`. -/
  | rolledBack {db after : Database} {bindings bindings' : Bindings} {body : List Statement}
      {inside : List StatementResult} {rest : Query} {results : List StatementResult}
      (plain : Statement.Plain body) (fails : Fails db bindings body inside bindings')
      (continues : Transacts db bindings' rest results after) :
      Transacts db bindings (Query.transaction body ++ rest)
        (.discarded :: inside ++ .discarded :: results) after
  /-- So does a transaction that is never committed, whether its statements succeed, -/
  | abandoned {db db' : Database} {bindings bindings' : Bindings} {body : List Statement}
      {values : List Json} (plain : Statement.Plain body)
      (applied : db.applyEach bindings body = .ok (values, db', bindings')) :
      Transacts db bindings (.beginTransaction :: body)
        (.discarded :: body.map fun _ => .discarded) db
  /-- or one of them fails. -/
  | abandonedFailed {db : Database} {bindings bindings' : Bindings} {body : List Statement}
      {inside : List StatementResult} (plain : Statement.Plain body)
      (fails : Fails db bindings body inside bindings') :
      Transacts db bindings (.beginTransaction :: body) (.discarded :: inside) db

/-! ## Statements within a transaction -/

/-- Statements succeed one after another, or one of them fails. -/
theorem Database.applyEach_or_fails (db : Database) (bindings : Bindings) (body : List Statement) :
    (∃ values after, db.applyEach bindings body = .ok (values, after)) ∨
      ((∃ fault, db.applyEach bindings body = .error fault) ∧
        ∃ inside after, Fails db bindings body inside after) := by
  induction body generalizing db bindings with
  | nil => exact .inl ⟨[], _, rfl⟩
  | cons statement rest ih =>
    rw [applyEach]
    cases applied : db.apply bindings statement with
    | error fault => exact .inr ⟨⟨fault, rfl⟩, _, _, .here applied rest⟩
    | ok outcome =>
      obtain ⟨value, db', bindings'⟩ := outcome
      rcases ih db' bindings' with ⟨values, after, later⟩ | ⟨⟨fault, later⟩, inside, after, fails⟩
      · exact .inl ⟨value :: values, after, by simp [later]⟩
      · exact .inr ⟨⟨fault, by simp [later]⟩, _, _, .later applied fails⟩

theorem Database.length_of_applyEach {db : Database} {bindings : Bindings}
    {statements : List Statement} {values : List Json} {after : Database × Bindings}
    (applied : db.applyEach bindings statements = .ok (values, after)) :
    values.length = statements.length := by
  induction statements generalizing db bindings values with
  | nil => simp_all [applyEach]
  | cons statement rest ih =>
    rw [applyEach] at applied
    split at applied
    · contradiction
    next value db' bindings' first =>
      split at applied
      · contradiction
      next values' after' later =>
        obtain ⟨rfl, rfl⟩ : value :: values' = values ∧ after' = after := by simpa using applied
        simp [ih later]

namespace Session

/-- What a statement between brackets does. -/
theorem step_of_plain {s : Session} {statement : Statement}
    (plain : statement.isBracket = false) :
    s.step statement =
      if s.failed then s.refuse .transactionFailed
      else
        match s.database.apply s.bindings statement with
        | .ok (value, database, bindings) =>
          { s with database := database, bindings := bindings }.push (.ok value)
        | .error fault => { s with failed := s.snapshot.isSome }.refuse fault := by
  cases statement with
  | beginTransaction => simp [Statement.isBracket] at plain
  | commitTransaction => simp [Statement.isBracket] at plain
  | bind param vector => rfl
  | select selection => rfl
  | upsert target mode data => rfl
  | delete targets => rfl
  | defineIndex index => rfl

theorem step_of_error {s : Session} {statement : Statement} {fault : StatementFault}
    (plain : statement.isBracket = false) (going : s.failed = false)
    (failed : s.database.apply s.bindings statement = .error fault) :
    s.step statement = { s with failed := s.snapshot.isSome }.refuse fault := by
  simp [step_of_plain plain, going, failed]

theorem step_of_failed {s : Session} {statement : Statement}
    (plain : statement.isBracket = false) (failed : s.failed = true) :
    s.step statement = s.push .discarded := by
  simp [step_of_plain plain, failed, refuse, StatementResult.discarded]

/-- After a failure the statements of a transaction are skipped. -/
theorem foldl_step_of_failed {statements : List Statement} {s : Session}
    (plain : Statement.Plain statements) (failed : s.failed = true) :
    statements.foldl step s =
      { s with results := s.results ++ statements.map fun _ => .discarded } := by
  induction statements generalizing s with
  | nil => simp
  | cons statement rest ih =>
    obtain ⟨first, later⟩ := List.forall_mem_cons.mp plain
    rw [List.foldl_cons, step_of_failed first failed, ih later (by exact failed)]
    simp [push]

@[simp] theorem discard_ok (value : Json) : discard (.ok value) = .discarded := rfl

@[simp] theorem discard_err (message : String) : discard (.err message) = .err message := rfl

@[simp] theorem discard_discarded : discard .discarded = .discarded := rfl

/-- A transaction in which a statement failed: nothing but its results depends on what succeeded
before that. -/
theorem foldl_step_of_fails {db : Database} {bindings bindings' : Bindings}
    {body : List Statement} {inside : List StatementResult}
    (fails : Fails db bindings body inside bindings') (plain : Statement.Plain body) {s : Session}
    (database : s.database = db) (bound : s.bindings = bindings) (going : s.failed = false)
    (opened : s.snapshot.isSome = true) :
    ∃ (after : Database) (results : List StatementResult),
      body.foldl step s =
          { s with
            database := after
            bindings := bindings'
            results := s.results ++ results
            failed := true } ∧
        results.map discard = inside := by
  -- up to the failing statement the database goes on, after it only results are added
  induction fails generalizing s with
  | @here db bindings statement fault failed skipped =>
    subst database bound
    obtain ⟨first, later⟩ := List.forall_mem_cons.mp plain
    refine ⟨s.database, .err fault.message :: skipped.map fun _ => .discarded, ?_, by simp⟩
    rw [List.foldl_cons, step_of_error first going failed,
      foldl_step_of_failed later (by exact opened)]
    simp [refuse, push, opened]
  | @later db db' bindings bindings' after statement value rest results applied fails ih =>
    subst database bound
    obtain ⟨first, later⟩ := List.forall_mem_cons.mp plain
    let next : Session := { s with database := db', bindings := bindings' }.push (.ok value)
    obtain ⟨left, results', ran, discarded⟩ := ih later (s := next) rfl rfl going opened
    refine ⟨left, .ok value :: results', ?_, by simp [discarded]⟩
    rw [List.foldl_cons, step_of_apply first going applied, ran]
    simp [next, push]

/-! ## A whole transaction -/

/-- A session in which a transaction just began. -/
def opened (s : Session) : Session :=
  { s with snapshot := some ⟨s.database, s.results.length⟩, failed := false }.push (.ok .null)

theorem step_begin (s : Session) : s.step .beginTransaction = s.opened := rfl

/-- What giving up a transaction sets back: the database, and the results since its `BEGIN`. -/
theorem rollBack_opened (s : Session) (db : Database) (bindings : Bindings)
    (results : List StatementResult) (failed : Bool) :
    rollBack ⟨db, bindings, s.opened.results ++ results, s.opened.snapshot, failed⟩
        ⟨s.database, s.results.length⟩ =
      ⟨s.database, bindings, s.results ++ .discarded :: results.map discard, none, false⟩ := by
  have since : s.opened.results ++ results = s.results ++ .ok .null :: results := by
    simp [opened, push]
  simp only [rollBack, since, List.take_left, List.drop_left, List.map_cons, discard_ok]

section
variable {s : Session} {body : List Statement} {bindings : Bindings}

/-- A transaction whose statements succeed, up to its `COMMIT`. -/
theorem foldl_opened_of_applyEach {values : List Json} {after : Database}
    (plain : Statement.Plain body)
    (applied : s.database.applyEach s.bindings body = .ok (values, after, bindings)) :
    body.foldl step s.opened =
      ⟨after, bindings, s.opened.results ++ values.map .ok, s.opened.snapshot, false⟩ :=
  foldl_step_of_applyEach (s := s.opened) plain rfl applied

/-- A transaction of which a statement fails, up to its `COMMIT`. -/
theorem foldl_opened_of_fails {inside : List StatementResult} (plain : Statement.Plain body)
    (fails : Fails s.database s.bindings body inside bindings) :
    ∃ (after : Database) (results : List StatementResult),
      body.foldl step s.opened =
          ⟨after, bindings, s.opened.results ++ results, s.opened.snapshot, true⟩ ∧
        results.map discard = inside :=
  foldl_step_of_fails fails plain (s := s.opened) rfl rfl rfl rfl

theorem foldl_transaction (statements : List Statement) (s : Session) :
    (Query.transaction statements).foldl step s =
      (statements.foldl step s.opened).step .commitTransaction := by
  rw [Query.transaction, List.foldl_append]
  rfl

theorem transaction_of_applyEach {values : List Json} {after : Database}
    (plain : Statement.Plain body)
    (applied : s.database.applyEach s.bindings body = .ok (values, after, bindings)) :
    (Query.transaction body).foldl step s =
      ⟨after, bindings, s.results ++ (Json.null :: values ++ [Json.null]).map .ok, none,
        false⟩ := by
  rw [foldl_transaction, foldl_opened_of_applyEach plain applied]
  simp [step, opened, push]

theorem transaction_of_fails {inside : List StatementResult} (plain : Statement.Plain body)
    (fails : Fails s.database s.bindings body inside bindings) :
    (Query.transaction body).foldl step s =
      ⟨s.database, bindings, s.results ++ (.discarded :: inside ++ [.discarded]), none, false⟩ := by
  obtain ⟨after, results, ran, rfl⟩ := foldl_opened_of_fails plain fails
  have closing : step ⟨after, bindings, s.opened.results ++ results, s.opened.snapshot, true⟩
      .commitTransaction =
        (rollBack ⟨after, bindings, s.opened.results ++ results, s.opened.snapshot, true⟩
          ⟨s.database, s.results.length⟩).push .discarded := rfl
  rw [foldl_transaction, ran, closing, rollBack_opened]
  simp [push]

/-- A transaction without `COMMIT`, at the end of the query. -/
theorem finish_open_of_applyEach {values : List Json} {after : Database}
    (plain : Statement.Plain body)
    (applied : s.database.applyEach s.bindings body = .ok (values, after, bindings)) :
    (body.foldl step s.opened).finish =
      ⟨s.database, bindings, s.results ++ .discarded :: values.map (fun _ => .discarded), none,
        false⟩ := by
  rw [foldl_opened_of_applyEach plain applied]
  refine (rollBack_opened s after bindings (values.map .ok) false).trans ?_
  rw [List.map_map]
  rfl

theorem finish_open_of_fails {inside : List StatementResult} (plain : Statement.Plain body)
    (fails : Fails s.database s.bindings body inside bindings) :
    (body.foldl step s.opened).finish =
      ⟨s.database, bindings, s.results ++ .discarded :: inside, none, false⟩ := by
  obtain ⟨after, results, ran, rfl⟩ := foldl_opened_of_fails plain fails
  rw [ran]
  exact rollBack_opened s after bindings results true

end

end Session

/-! ## Whole queries -/

/-- What stands in the query up to the end of a transaction that is open at its start. -/
theorem Query.exists_body {q : Query} (apart : q.separate true = true) :
    ∃ body, Statement.Plain body ∧
      (q = body ∨
        ∃ rest : Query, q = body ++ .commitTransaction :: rest ∧ rest.separate false = true) := by
  induction q with
  | nil => exact ⟨[], nofun, .inl rfl⟩
  | cons statement rest ih =>
    have extend (plain : statement.isBracket = false) (later : Query.separate true rest = true) :
        ∃ body, Statement.Plain body ∧ (statement :: rest = body ∨
          ∃ left : Query, statement :: rest = body ++ .commitTransaction :: left ∧
            left.separate false = true) := by
      obtain ⟨body, plainBody, ends⟩ := ih later
      refine ⟨statement :: body, List.forall_mem_cons.mpr ⟨plain, plainBody⟩, ?_⟩
      rcases ends with rfl | ⟨left, rfl, apartLeft⟩
      · exact .inl rfl
      · exact .inr ⟨left, rfl, apartLeft⟩
    cases statement with
    | beginTransaction => simp [Query.separate] at apart
    | commitTransaction => exact ⟨[], nofun, .inr ⟨rest, rfl, apart⟩⟩
    | bind param vector => exact extend rfl apart
    | select selection => exact extend rfl apart
    | upsert target mode data => exact extend rfl apart
    | delete targets => exact extend rfl apart
    | defineIndex index => exact extend rfl apart

namespace Transacts

/-- A session with no transaction open runs a query as `Transacts` says. -/
theorem run {db after : Database} {bindings : Bindings} {q : Query}
    {results : List StatementResult} (transacts : Transacts db bindings q results after) :
    ∀ before : List StatementResult, ∃ left : Bindings,
      (q.foldl Session.step ⟨db, bindings, before, none, false⟩).finish =
        ⟨after, left, before ++ results, none, false⟩ := by
  -- a transaction is one case, which the lemmas on whole transactions run at once
  induction transacts with
  | done db bindings => intro before; exact ⟨bindings, by simp [Session.finish]⟩
  | @applied db db' after bindings bindings' statement value rest results plain applied _ ih =>
    intro before
    obtain ⟨left, ran⟩ := ih (before ++ [.ok value])
    refine ⟨left, ?_⟩
    rw [List.foldl_cons, Session.step_of_apply plain rfl applied]
    simpa [Session.push] using ran
  | @refused db after bindings statement fault rest results plain failed _ ih =>
    intro before
    obtain ⟨left, ran⟩ := ih (before ++ [.err fault.message])
    refine ⟨left, ?_⟩
    rw [List.foldl_cons, Session.step_of_error plain rfl failed]
    simpa [Session.refuse, Session.push] using ran
  | @unmatched db after bindings rest results _ ih =>
    intro before
    obtain ⟨left, ran⟩ := ih (before ++ [.err StatementFault.noTransaction.message])
    exact ⟨left, by simpa [Session.step, Session.refuse, Session.push] using ran⟩
  | @committed db db' after bindings bindings' body values rest results plain applied _ ih =>
    intro before
    obtain ⟨left, ran⟩ := ih (before ++ (Json.null :: values ++ [Json.null]).map .ok)
    refine ⟨left, ?_⟩
    rw [List.foldl_append, Session.transaction_of_applyEach plain applied, ran, List.append_assoc]
  | @rolledBack db after bindings bindings' body inside rest results plain fails _ ih =>
    intro before
    obtain ⟨left, ran⟩ := ih (before ++ (.discarded :: inside ++ [.discarded]))
    refine ⟨left, ?_⟩
    rw [List.foldl_append, Session.transaction_of_fails plain fails, ran]
    simp
  | @abandoned db db' bindings bindings' body values plain applied =>
    intro before
    refine ⟨bindings', ?_⟩
    have lengths := Database.length_of_applyEach applied
    rw [List.foldl_cons, Session.step_begin, Session.finish_open_of_applyEach plain applied]
    simp [List.map_const', lengths]
  | @abandonedFailed db bindings bindings' body inside plain fails =>
    intro before
    refine ⟨bindings', ?_⟩
    rw [List.foldl_cons, Session.step_begin, Session.finish_open_of_fails plain fails]

theorem length_of_fails {db : Database} {bindings after : Bindings} {body : List Statement}
    {inside : List StatementResult} (fails : Fails db bindings body inside after) :
    inside.length = body.length := by
  induction fails with
  | here failed skipped => simp
  | later applied fails ih => simp [ih]

/-- One result for each statement. -/
theorem length {db after : Database} {bindings : Bindings} {q : Query}
    {results : List StatementResult} (transacts : Transacts db bindings q results after) :
    results.length = q.length := by
  induction transacts with
  | done db bindings => rfl
  | applied plain applied _ ih => simp [ih]
  | refused plain failed _ ih => simp [ih]
  | unmatched _ ih => simp [ih]
  | committed plain applied _ ih =>
    simp [Query.transaction, ih, Database.length_of_applyEach applied]
  | rolledBack plain fails _ ih =>
    simp [Query.transaction, ih, length_of_fails fails]
  | abandoned plain applied => simp
  | abandonedFailed plain fails => simp [length_of_fails fails]

/-- Every query without a transaction inside another has results and a database after it. -/
theorem exists_of_separate (db : Database) (bindings : Bindings) :
    (q : Query) → q.separate false = true → ∃ results after, Transacts db bindings q results after
  | [], _ => ⟨_, _, .done db bindings⟩
  | statement :: rest, apart => by
    have plainly (plain : statement.isBracket = false) (later : Query.separate false rest = true) :
        ∃ results after, Transacts db bindings (statement :: rest) results after := by
      cases applied : db.apply bindings statement with
      | ok outcome =>
        obtain ⟨value, db', bindings'⟩ := outcome
        obtain ⟨results, after, continues⟩ := exists_of_separate db' bindings' rest later
        exact ⟨_, _, .applied plain applied continues⟩
      | error fault =>
        obtain ⟨results, after, continues⟩ := exists_of_separate db bindings rest later
        exact ⟨_, _, .refused plain applied continues⟩
    cases statement with
    | beginTransaction =>
      -- the transaction takes all up to its `COMMIT`, so the recursion is on the length
      obtain ⟨body, plain, ends⟩ := Query.exists_body apart
      rcases db.applyEach_or_fails bindings body with
        ⟨values, ⟨db', bindings'⟩, applied⟩ | ⟨-, inside, bindings', fails⟩
      · rcases ends with rfl | ⟨left, rfl, later⟩
        · exact ⟨_, _, .abandoned plain applied⟩
        · obtain ⟨results, after, continues⟩ := exists_of_separate db' bindings' left later
          have whole := Transacts.committed plain applied continues
          rw [Query.transaction, List.append_assoc] at whole
          exact ⟨_, _, whole⟩
      · rcases ends with rfl | ⟨left, rfl, later⟩
        · exact ⟨_, _, .abandonedFailed plain fails⟩
        · obtain ⟨results, after, continues⟩ := exists_of_separate db bindings' left later
          have whole := Transacts.rolledBack plain fails continues
          rw [Query.transaction, List.append_assoc] at whole
          exact ⟨_, _, whole⟩
    | commitTransaction =>
      obtain ⟨results, after, continues⟩ := exists_of_separate db bindings rest apart
      exact ⟨_, _, .unmatched continues⟩
    | bind param vector => exact plainly rfl apart
    | select selection => exact plainly rfl apart
    | upsert target mode data => exact plainly rfl apart
    | delete targets => exact plainly rfl apart
    | defineIndex index => exact plainly rfl apart
termination_by q => q.length

end Transacts

namespace Database

/-- A statement that fails alone changes nothing. -/
theorem run_of_apply_error {db : Database} {statement : Statement} {fault : StatementFault}
    (plain : statement.isBracket = false) (failed : db.apply .empty statement = .error fault) :
    db.run [statement] = (⟨[.err fault.message]⟩, db) := by
  rw [run, List.foldl_cons, List.foldl_nil, Session.step_of_error (s := .start db) plain rfl failed]
  rfl

/-- A transaction of which a statement fails changes nothing. -/
theorem run_transaction_of_fails {db : Database} {bindings : Bindings} {body : List Statement}
    {inside : List StatementResult} (plain : Statement.Plain body)
    (fails : Fails db .empty body inside bindings) :
    db.run (Query.transaction body) = (⟨.discarded :: inside ++ [.discarded]⟩, db) := by
  rw [run, Session.transaction_of_fails (s := .start db) plain fails]
  rfl

/-- A query without a transaction inside another has one result for each statement, and answers
and leaves what its transactions do, nothing else. -/
theorem run_iff_transacts (db : Database) {q : Query} (apart : q.separate false = true) :
    (db.run q).1.results.length = q.length ∧
      ∀ results after, db.run q = (⟨results⟩, after) ↔ Transacts db .empty q results after := by
  have runs {results : List StatementResult} {after : Database}
      (transacts : Transacts db .empty q results after) : db.run q = (⟨results⟩, after) := by
    obtain ⟨left, ran⟩ := transacts.run []
    simp only [run, Session.start, ran, List.nil_append]
  obtain ⟨results, after, transacts⟩ := Transacts.exists_of_separate db .empty q apart
  refine ⟨by rw [runs transacts]; exact transacts.length, fun results' after' => ⟨?_, runs⟩⟩
  intro ran
  obtain ⟨rfl, rfl⟩ : results = results' ∧ after = after' := by
    simpa [runs transacts] using ran
  exact transacts

/-- An index that may be defined once. -/
def onceIndex : IndexDefinition where
  ifNotExists := false
  name := ⟨"docs_index", by decide⟩
  table := ⟨"docs", by decide⟩
  field := ⟨"vector", by decide⟩
  algorithm := .hnsw
  dimension := 2
  distance := .cosine
  vectorType := .f32
  efc := none
  m := none

/-- A second definition of an index takes back the first one, which stands in its transaction. -/
theorem transacts_second_definition :
    let q : Query := Query.transaction [.defineIndex onceIndex, .defineIndex onceIndex] ++
      [.commitTransaction]
    q.separate false = true ∧
      Transacts .empty .empty q
        [.discarded, .discarded, .err "The index 'docs_index' already exists", .discarded,
          .err "Cannot COMMIT without starting a transaction"] .empty :=
  ⟨rfl, ((run_iff_transacts .empty rfl).2 _ _).mp rfl⟩

/-- Where a transaction begins, open or not by a `BEGIN` before, what follows is taken back to the
database there, unless it is committed and all of it succeeds. What an open transaction did before
stays. -/
theorem run_latest_begin (db : Database) (earlier : Query) {latest : List Statement}
    (plain : Statement.Plain latest) :
    let before := earlier.foldl Session.step (.start db)
    (db.run (earlier ++ .beginTransaction :: latest)).2 = before.database ∧
      (db.run (earlier ++ Query.transaction latest)).2 =
        match before.database.applyEach before.bindings latest with
        | .ok (_, after, _) => after
        | .error _ => before.database := by
  intro before
  have left : (db.run (earlier ++ .beginTransaction :: latest)).2 =
      (latest.foldl Session.step before.opened).finish.database := by
    rw [run, List.foldl_append, List.foldl_cons, Session.step_begin]
  have closed : (db.run (earlier ++ Query.transaction latest)).2 =
      ((Query.transaction latest).foldl Session.step before).finish.database := by
    rw [run, List.foldl_append]
  rw [left, closed]
  rcases before.database.applyEach_or_fails before.bindings latest with
    ⟨values, ⟨after, bindings⟩, applied⟩ | ⟨⟨fault, failed⟩, inside, bindings, fails⟩
  · rw [Session.finish_open_of_applyEach plain applied,
      Session.transaction_of_applyEach plain applied, applied]
    exact ⟨rfl, rfl⟩
  · rw [Session.finish_open_of_fails plain fails, Session.transaction_of_fails plain fails, failed]
    exact ⟨rfl, rfl⟩

/-- A write of a record with no fields of its own. -/
def bareWrite (key : String) : Statement := .upsert ⟨⟨"docs", by decide⟩, key⟩ .content .empty

/-- Of two writes, each behind a `BEGIN`, the second is taken back where no `COMMIT` follows. -/
theorem run_latest_begin_of_two_writes :
    Statement.Plain [bareWrite "b"] ∧
      (empty.run ([.beginTransaction, bareWrite "a"] ++ [.beginTransaction, bareWrite "b"])).2 =
        ([.beginTransaction, bareWrite "a"].foldl Session.step (.start empty)).database := by
  have plain : Statement.Plain [bareWrite "b"] := by
    simp [Statement.Plain, bareWrite, Statement.isBracket]
  exact ⟨plain, (run_latest_begin empty [.beginTransaction, bareWrite "a"] plain).1⟩

/-- The first write stays, though its transaction is never committed. -/
theorem write_before_inner_begin_stays :
    let q : Query := [.beginTransaction, bareWrite "a", .beginTransaction, bareWrite "b"]
    (∀ statement ∈ q, statement ≠ .commitTransaction) ∧
      (empty.run q).2.record? "docs" "a" ≠ empty.record? "docs" "a" := by
  refine ⟨by simp [bareWrite], ?_⟩
  have stays : (empty.run [.beginTransaction, bareWrite "a", .beginTransaction,
      bareWrite "b"]).2.record? "docs" "a" = some (.insert .empty "id" (.string "docs:⟨a⟩")) := rfl
  rw [stays]
  exact Option.some_ne_none _

end Database

end VectorStore
