import StompGames.Server.Database

/-! `sql_server.py`: the tables, and what the statements of the server do to them.
The rows of `file_tracking` are left out. -/
namespace StompGames

/-- A row of `login_history`. The text of `login_time` sorts as the seconds do, and of
`logout_time` only whether it is set counts. -/
structure LoginRow where
  username : Text
  login_time : Nat
  loggedOut : Bool
  deriving DecidableEq

/-- `users` by primary key, and the rows of `login_history` in the order of their ids. -/
structure SqlTables where
  users : Text → Option Text
  login_history : List LoginRow

/-- The statements of `Database.java` that change the tables, with the texts that are put into
them. Texts are those before `escapeSql`. -/
inductive SqlStatement where
  | insertUser (username password : Text)
  | insertLogin (username : Text)
  | closeLogin (username : Text)
  | insertFile (username filename gameChannel : Text)
  deriving DecidableEq

/-- A quoted literal from after its first quote on, and what follows it. A quote in
it is written twice. -/
def readLiteral : Text → Option (Text × Text)
  | [] => none
  | [c] => if c = '\x27' then some ([], []) else none
  | c :: d :: rest =>
      if c = '\x27' then
        if d = '\x27' then (readLiteral rest).map fun read => ('\x27' :: read.1, read.2)
        else some ([], d :: rest)
      else (readLiteral (d :: rest)).map fun read => (c :: read.1, read.2)

/-- What follows a fixed beginning. -/
def afterHead (head text : Text) : Option Text :=
  if head.isPrefixOf text then some (text.drop head.length) else none

namespace SqlStatement

/-- What stands before the first literal of `insertUserSql`. -/
def insertUserHead : Text :=
  "INSERT INTO users (username, password, registration_date) VALUES ('".toList

/-- What stands before the literal of `logLoginSql`. -/
def insertLoginHead : Text :=
  "INSERT INTO login_history (username, login_time) VALUES ('".toList

/-- What stands before the literal of `logoutSql`. -/
def closeLoginHead : Text :=
  "UPDATE login_history SET logout_time=datetime('now') WHERE username='".toList

/-- What stands before the first literal of `trackFileUploadSql`. -/
def insertFileHead : Text :=
  "INSERT INTO file_tracking (username, filename, upload_time, game_channel) VALUES ('".toList

/-- Two literals in a row. -/
def readPair (between : Text) (text : Text) : Option ((Text × Text) × Text) := do
  let (first, rest) ← readLiteral text
  let (second, rest) ← readLiteral (← afterHead between rest)
  some ((first, second), rest)

/-- The statement that a text is. -/
def read (sql : Text) : Option SqlStatement :=
  match afterHead insertUserHead sql with
  | some rest => do
      let ((username, password), rest) ← readPair ", '".toList rest
      if rest = ", datetime('now'))".toList then some (.insertUser username password) else none
  | none => match afterHead insertLoginHead sql with
    | some rest => do
        let (username, rest) ← readLiteral rest
        if rest = ", datetime('now'))".toList then some (.insertLogin username) else none
    | none => match afterHead closeLoginHead sql with
      | some rest => do
          let (username, rest) ← readLiteral rest
          if rest = " AND logout_time IS NULL ORDER BY login_time DESC LIMIT 1".toList then
            some (.closeLogin username)
          else none
      | none => do
          let rest ← afterHead insertFileHead sql
          let ((username, filename), rest) ← readPair ", '".toList rest
          let (gameChannel, rest) ← readLiteral (← afterHead ", datetime('now'), '".toList rest)
          if rest = [')'] then some (.insertFile username filename gameChannel) else none

end SqlStatement

/-- A row of the user whose `logout_time` is `NULL`. -/
def LoginRow.isOpen (username : Text) (row : LoginRow) : Bool :=
  row.username = username ∧ row.loggedOut = false

/-- The first row that is looked for is closed. -/
def closeFirst (chosen : LoginRow → Bool) : List LoginRow → List LoginRow
  | [] => []
  | row :: rest =>
      if chosen row then { row with loggedOut := true } :: rest
      else row :: closeFirst chosen rest

/-- The `UPDATE` with its `ORDER BY login_time DESC LIMIT 1`. Rows of the same second stay in
the order of their ids, so that the first of them is closed. -/
def closeLatest (username : Text) (rows : List LoginRow) : List LoginRow :=
  match ((rows.filter (LoginRow.isOpen username)).map LoginRow.login_time).max? with
  | none => rows
  | some time => closeFirst (fun row => row.isOpen username && row.login_time == time) rows

namespace SqlTables

/-- The tables of a database file that was just made. -/
def empty : SqlTables := ⟨fun _ => none, []⟩

/-- A second row with the same primary key is an error, foreign keys are not looked at.
`now` is the second of `datetime('now')`. -/
def apply (now : Nat) (tables : SqlTables) : SqlStatement → Option SqlTables
  | .insertUser username password =>
      if (tables.users username).isSome then none
      else some { tables with users := Function.update tables.users username (some password) }
  | .insertLogin username =>
      some { tables with login_history := tables.login_history ++ [⟨username, now, false⟩] }
  | .closeLogin username =>
      some { tables with login_history := closeLatest username tables.login_history }
  | .insertFile _ _ _ => some tables

/-- `execute_sql_command`, where it succeeds. -/
def execute_sql_command (now : Nat) (sql : Text) (tables : SqlTables) : Option SqlTables :=
  (SqlStatement.read sql).bind (tables.apply now)

/-- The second in which a call is served, and whether a statement that ends without a reply
is executed all the same. -/
structure Execution where
  now : Nat
  executed : Bool
  deriving DecidableEq

/-- The tables after a call of the service, where the call can end like this. The
reply says whether the statement was executed. -/
def served (tables : SqlTables) (execution : Execution) (call : Text × SqlOutcome) :
    Option SqlTables :=
  match call.2 with
  | .reply response =>
      if response = "SUCCESS".toList then tables.execute_sql_command execution.now call.1
      else if "ERROR:".toList.isPrefixOf response then some tables
      else none
  | .failure _ =>
      if execution.executed then tables.execute_sql_command execution.now call.1 else some tables

/-- The tables after a list of calls. -/
def replay (executions : Nat → Execution) : List (Text × SqlOutcome) → SqlTables → Option SqlTables
  | [], tables => some tables
  | call :: rest, tables =>
      (tables.served (executions 0) call).bind (replay (fun n => executions (n + 1)) rest)

end SqlTables

open Database (escapeSql)

/-- Two quotes are one, and the literal goes on. -/
theorem readLiteral_quotes (rest : Text) : readLiteral ('\x27' :: '\x27' :: rest) =
    (readLiteral rest).map fun read => ('\x27' :: read.1, read.2) := by
  simp [readLiteral]

/-- Any other character stands for itself. -/
theorem readLiteral_char {c : Char} (hc : c ≠ '\x27') {rest : Text} (hRest : rest ≠ []) :
    readLiteral (c :: rest) = (readLiteral rest).map fun read => (c :: read.1, read.2) := by
  cases rest with
  | nil => exact absurd rfl hRest
  | cons d rest => simp [readLiteral, hc]

/-- An escaped text is read as the text it was made of. -/
theorem readLiteral_escapeSql (text : Text) {c : Char} (hc : c ≠ '\x27') (rest : Text) :
    readLiteral (escapeSql text ++ '\x27' :: c :: rest) = some (text, c :: rest) := by
  induction text with
  | nil => simp [escapeSql, readLiteral, hc]
  | cons d text ih =>
      by_cases hd : d = '\x27'
      · have hShape : escapeSql (d :: text) ++ '\x27' :: c :: rest =
            '\x27' :: '\x27' :: (escapeSql text ++ '\x27' :: c :: rest) := by
          simp [escapeSql, hd]
        rw [hShape, readLiteral_quotes, ih, hd]
        rfl
      · have hShape : escapeSql (d :: text) ++ '\x27' :: c :: rest =
            d :: (escapeSql text ++ '\x27' :: c :: rest) := by
          simp [escapeSql, hd]
        rw [hShape, readLiteral_char hd (by simp), ih]
        rfl

theorem afterHead_append (head rest : Text) : afterHead head (head ++ rest) = some rest := by
  simp [afterHead]

/-- A text that begins with another head. -/
theorem afterHead_other {head other : Text} (h : head.isPrefixOf other = false)
    (h' : other.isPrefixOf head = false) (rest : Text) : afterHead head (other ++ rest) = none := by
  have hNot : ¬head <+: other ++ rest := by
    intro hPrefix
    rcases List.prefix_or_prefix_of_prefix hPrefix (List.prefix_append other rest) with hLe | hLe
    · exact absurd (List.isPrefixOf_iff_prefix.2 hLe) (by simp [h])
    · exact absurd (List.isPrefixOf_iff_prefix.2 hLe) (by simp [h'])
  simpa [afterHead] using hNot

namespace SqlStatement

/-- Two escaped texts are read back, each up to its own closing quote. -/
theorem readPair_escapeSql (first second : Text) {b c : Char} (hb : b ≠ '\x27') (hc : c ≠ '\x27')
    (between rest : Text) :
    readPair (b :: between) (escapeSql first ++ '\x27' :: b :: (between ++
      (escapeSql second ++ '\x27' :: c :: rest))) = some ((first, second), c :: rest) := by
  have hAfter := afterHead_append (b :: between) (escapeSql second ++ '\x27' :: c :: rest)
  simp only [List.cons_append] at hAfter
  simp [readPair, readLiteral_escapeSql _ hb, hAfter, readLiteral_escapeSql _ hc]

/-- The quote that ends a literal, with what comes next. -/
theorem quote_between : "', '".toList = '\x27' :: ',' :: " '".toList := by decide

theorem quote_now : "', datetime('now'))".toList = '\x27' :: ',' :: " datetime('now'))".toList := by
  decide

/-- The statement is read as what it was made of, whatever quotes the texts have in them. -/
theorem read_insertUserSql (username password : Text) :
    read (Database.insertUserSql username password) = some (.insertUser username password) := by
  have hText : Database.insertUserSql username password = insertUserHead ++ (escapeSql username ++
      '\x27' :: ',' :: (" '".toList ++ (escapeSql password ++
        '\x27' :: ',' :: " datetime('now'))".toList))) := by
    unfold Database.insertUserSql
    rw [quote_between, quote_now]
    simp only [List.append_assoc, List.cons_append]
    rfl
  have hPair := readPair_escapeSql username password (by decide : ',' ≠ '\x27')
    (by decide : ',' ≠ '\x27') " '".toList " datetime('now'))".toList
  rw [read, hText, afterHead_append]
  dsimp only
  rw [show ", '".toList = ',' :: " '".toList by decide, hPair]
  rfl

theorem read_logLoginSql (username : Text) :
    read (Database.logLoginSql username) = some (.insertLogin username) := by
  have hText : Database.logLoginSql username = insertLoginHead ++ (escapeSql username ++
      '\x27' :: ',' :: " datetime('now'))".toList) := by
    unfold Database.logLoginSql
    rw [quote_now]
    simp only [List.append_assoc]
    rfl
  rw [read, hText, afterHead_other (by decide) (by decide), afterHead_append]
  dsimp only
  rw [readLiteral_escapeSql username (by decide)]
  rfl

theorem read_logoutSql (username : Text) :
    read (Database.logoutSql username) = some (.closeLogin username) := by
  have hText : Database.logoutSql username = closeLoginHead ++ (escapeSql username ++
      '\x27' :: ' ' :: "AND logout_time IS NULL ORDER BY login_time DESC LIMIT 1".toList) := by
    unfold Database.logoutSql
    rw [show "' AND logout_time IS NULL ORDER BY login_time DESC LIMIT 1".toList = '\x27' :: ' ' ::
      "AND logout_time IS NULL ORDER BY login_time DESC LIMIT 1".toList by decide]
    simp only [List.append_assoc]
    rfl
  rw [read, hText, afterHead_other (by decide) (by decide), afterHead_other (by decide) (by decide),
    afterHead_append]
  dsimp only
  rw [readLiteral_escapeSql username (by decide)]
  rfl

theorem read_trackFileUploadSql (username filename gameChannel : Text) :
    read (Database.trackFileUploadSql username filename gameChannel) =
      some (.insertFile username filename gameChannel) := by
  have hText : Database.trackFileUploadSql username filename gameChannel = insertFileHead ++
      (escapeSql username ++ '\x27' :: ',' :: (" '".toList ++ (escapeSql filename ++
        '\x27' :: ',' :: (" datetime('now'), '".toList ++
          (escapeSql gameChannel ++ '\x27' :: ')' :: []))))) := by
    unfold Database.trackFileUploadSql
    rw [quote_between, show "', datetime('now'), '".toList =
      '\x27' :: ',' :: " datetime('now'), '".toList by decide]
    simp only [List.append_assoc, List.cons_append]
    rfl
  have hPair := readPair_escapeSql username filename (by decide : ',' ≠ '\x27')
    (by decide : ',' ≠ '\x27') " '".toList
    (" datetime('now'), '".toList ++ (escapeSql gameChannel ++ '\x27' :: ')' :: []))
  have hAfter := afterHead_append (',' :: " datetime('now'), '".toList)
    (escapeSql gameChannel ++ '\x27' :: ')' :: [])
  rw [read, hText, afterHead_other (by decide) (by decide), afterHead_other (by decide) (by decide),
    afterHead_other (by decide) (by decide), afterHead_append]
  dsimp only
  rw [Option.bind_eq_bind, Option.bind_some, show ", '".toList = ',' :: " '".toList by decide,
    hPair, Option.bind_eq_bind, Option.bind_some]
  dsimp only
  rw [show ", datetime('now'), '".toList = ',' :: " datetime('now'), '".toList by decide]
  rw [List.cons_append] at hAfter
  rw [hAfter, Option.bind_eq_bind, Option.bind_some, readLiteral_escapeSql gameChannel (by decide)]
  rfl

end SqlStatement

/-- The rows of a user. -/
def rowsOf (username : Text) (rows : List LoginRow) : Nat :=
  rows.countP fun row => row.username = username

/-- The rows of a user whose `logout_time` is `NULL`. -/
def openRowsOf (username : Text) (rows : List LoginRow) : Nat :=
  rows.countP fun row => row.username = username ∧ row.loggedOut = false

theorem rowsOf_insert (name username : Text) (now : Nat) (rows : List LoginRow) :
    rowsOf name (rows ++ [⟨username, now, false⟩]) =
      rowsOf name rows + if username = name then 1 else 0 := by
  simp [rowsOf, List.countP_append, List.countP_singleton]

theorem openRowsOf_insert (name username : Text) (now : Nat) (rows : List LoginRow) :
    openRowsOf name (rows ++ [⟨username, now, false⟩]) =
      openRowsOf name rows + if username = name then 1 else 0 := by
  simp [openRowsOf, List.countP_append, List.countP_singleton]

theorem isOpen_iff {username : Text} {row : LoginRow} :
    row.isOpen username = true ↔ row.username = username ∧ row.loggedOut = false := decide_eq_true_iff

section
variable {username : Text} {chosen : LoginRow → Bool}

theorem rowsOf_closeFirst (name : Text) (chosen : LoginRow → Bool) (rows : List LoginRow) :
    rowsOf name (closeFirst chosen rows) = rowsOf name rows := by
  induction rows with
  | nil => rfl
  | cons row rest ih =>
      unfold rowsOf at ih ⊢
      rw [closeFirst]
      split
      · simp only [List.countP_cons]
      · rw [List.countP_cons, List.countP_cons, ih]

variable (hOpen : ∀ row, chosen row = true → row.isOpen username = true)
include hOpen

/-- Where some row is chosen, one row is closed. -/
theorem openRowsOf_closeFirst {rows : List LoginRow} (hSome : ∃ row ∈ rows, chosen row = true) :
    openRowsOf username (closeFirst chosen rows) = openRowsOf username rows - 1 := by
  induction rows with
  | nil =>
      obtain ⟨row, hRow, -⟩ := hSome
      cases hRow
  | cons row rest ih =>
      unfold openRowsOf at ih ⊢
      rw [closeFirst]
      by_cases hFirst : chosen row = true
      · have hRow := isOpen_iff.1 (hOpen row hFirst)
        rw [if_pos hFirst, List.countP_cons_of_neg (by simp),
          List.countP_cons_of_pos (by simpa using hRow)]
        rfl
      · obtain ⟨other, hOther, hChosen⟩ := hSome
        have hRest : other ∈ rest := (List.mem_cons.1 hOther).resolve_left fun hSame =>
          hFirst (hSame ▸ hChosen)
        have hCount : 0 < rest.countP fun row => row.username = username ∧ row.loggedOut = false :=
          List.countP_pos_iff.2 ⟨other, hRest, hOpen other hChosen⟩
        rw [if_neg hFirst, List.countP_cons, List.countP_cons, ih ⟨other, hRest, hChosen⟩]
        omega

theorem openRowsOf_closeFirst_of_ne {name : Text} (h : name ≠ username) (rows : List LoginRow) :
    openRowsOf name (closeFirst chosen rows) = openRowsOf name rows := by
  induction rows with
  | nil => rfl
  | cons row rest ih =>
      unfold openRowsOf at ih ⊢
      rw [closeFirst]
      split
      · rename_i hChosen
        have hRow := isOpen_iff.1 (hOpen row hChosen)
        have hOther : row.username ≠ name := fun hSame => h (hSame.symm.trans hRow.1)
        rw [List.countP_cons_of_neg (by simp [hOther]), List.countP_cons_of_neg (by simp [hOther])]
      · rw [List.countP_cons, List.countP_cons, ih]

end

/-- What is closed is a row of the user that was open, if there is one. -/
theorem closeLatest_cases (username : Text) (rows : List LoginRow) :
    (closeLatest username rows = rows ∧ openRowsOf username rows = 0) ∨
      ∃ chosen : LoginRow → Bool, closeLatest username rows = closeFirst chosen rows ∧
        (∀ row, chosen row = true → row.isOpen username = true) ∧
        ∃ row ∈ rows, chosen row = true := by
  unfold closeLatest
  cases hMax : ((rows.filter (LoginRow.isOpen username)).map LoginRow.login_time).max? with
  | none =>
      have hNone := List.map_eq_nil_iff.1 (List.max?_eq_none_iff.1 hMax)
      refine Or.inl ⟨rfl, List.countP_eq_zero.2 fun row hRow => ?_⟩
      exact List.filter_eq_nil_iff.1 hNone row hRow
  | some time =>
      obtain ⟨row, hRow, hTime⟩ := List.mem_map.1 (List.max?_mem hMax)
      obtain ⟨hMem, hOpen⟩ := List.mem_filter.1 hRow
      refine Or.inr ⟨_, rfl, fun row hChosen => (Bool.and_eq_true_iff.1 hChosen).1, row, hMem, ?_⟩
      rw [Bool.and_eq_true_iff]
      exact ⟨hOpen, beq_iff_eq.2 hTime⟩

theorem rowsOf_closeLatest (name username : Text) (rows : List LoginRow) :
    rowsOf name (closeLatest username rows) = rowsOf name rows := by
  rcases closeLatest_cases username rows with ⟨hSame, -⟩ | ⟨chosen, hClosed, -⟩
  · rw [hSame]
  · rw [hClosed, rowsOf_closeFirst]

/-- The open rows of a user become one less, and none stay none. -/
theorem openRowsOf_closeLatest (username : Text) (rows : List LoginRow) :
    openRowsOf username (closeLatest username rows) = openRowsOf username rows - 1 := by
  rcases closeLatest_cases username rows with ⟨hSame, hNone⟩ | ⟨chosen, hClosed, hOpen, hSome⟩
  · rw [hSame, hNone]
  · rw [hClosed, openRowsOf_closeFirst hOpen hSome]

/-- Rows of other users are not closed. -/
theorem openRowsOf_closeLatest_of_ne {name username : Text} (h : name ≠ username)
    (rows : List LoginRow) : openRowsOf name (closeLatest username rows) = openRowsOf name rows := by
  rcases closeLatest_cases username rows with ⟨hSame, -⟩ | ⟨chosen, hClosed, hOpen, -⟩
  · rw [hSame]
  · rw [hClosed, openRowsOf_closeFirst_of_ne hOpen h]

/-- Of two rows of the same second the first is closed. -/
example : closeLatest ['a'] [⟨['a'], 7, false⟩, ⟨['a'], 7, false⟩] =
    [⟨['a'], 7, true⟩, ⟨['a'], 7, false⟩] := by decide

namespace SqlTables

/-- The statements of a longer log are executed in two parts, the clock going on in the second.
-/
theorem replay_append (executions : Nat → Execution) (first second : List (Text × SqlOutcome))
    (tables : SqlTables) : replay executions (first ++ second) tables =
      (replay executions first tables).bind
        (replay (fun n => executions (n + first.length)) second) := by
  induction first generalizing executions tables with
  | nil => rfl
  | cons call rest ih =>
      simp only [List.cons_append, replay, Option.bind_assoc]
      congr 1
      funext t
      rw [ih]
      simp only [List.length_cons, Nat.add_assoc]

section
variable (now : Nat)

/-- The name is new in the table, and the row is inserted. -/
theorem execute_insertUserSql {tables : SqlTables} {username : Text}
    (h : tables.users username = none) (password : Text) :
    tables.execute_sql_command now (Database.insertUserSql username password) = some { tables with
      users := Function.update tables.users username (some password) } := by
  simp [execute_sql_command, SqlStatement.read_insertUserSql, apply, h]

theorem execute_logLoginSql (tables : SqlTables) (username : Text) :
    tables.execute_sql_command now (Database.logLoginSql username) = some { tables with
      login_history := tables.login_history ++ [⟨username, now, false⟩] } := by
  simp [execute_sql_command, SqlStatement.read_logLoginSql, apply]

/-- The latest open row of the user is closed, and no row is closed where none is open. -/
theorem execute_logoutSql (tables : SqlTables) (username : Text) :
    tables.execute_sql_command now (Database.logoutSql username) = some { tables with
      login_history := closeLatest username tables.login_history } := by
  simp [execute_sql_command, SqlStatement.read_logoutSql, apply]

/-- An upload changes none of the two tables that are modelled. -/
theorem execute_trackFileUploadSql (tables : SqlTables) (username filename gameChannel : Text) :
    tables.execute_sql_command now (Database.trackFileUploadSql username filename gameChannel) =
      some tables := by
  simp [execute_sql_command, SqlStatement.read_trackFileUploadSql, apply]

end

end SqlTables
end StompGames
