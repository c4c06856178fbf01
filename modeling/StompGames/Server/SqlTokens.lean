import StompGames.Lib.SqlLexer
import StompGames.Server.SqlServer

/-! The statements of `Database.java` as tokens. What a client sends is the value of a
literal in them, and never anything else. -/
namespace StompGames

open Imperative
open SqlLexer (Template tokenise fill hole)

namespace SqlStatement

/-- The text that `login`, `logLogin`, `logout` and `trackFileUpload` build. -/
def sql : SqlStatement → Text
  | .insertUser username password => Database.insertUserSql username password
  | .insertLogin username => Database.logLoginSql username
  | .closeLogin username => Database.logoutSql username
  | .insertFile username filename gameChannel =>
      Database.trackFileUploadSql username filename gameChannel

/-- The first argument of `String.format`. -/
def format : SqlStatement → Text
  | .insertUser _ _ =>
      ("INSERT INTO users (username, password, registration_date) VALUES " ++
        "('%s', '%s', datetime('now'))").toList
  | .insertLogin _ =>
      ("INSERT INTO login_history (username, login_time) " ++
        "VALUES ('%s', datetime('now'))").toList
  | .closeLogin _ =>
      ("UPDATE login_history SET logout_time=datetime('now') " ++
        "WHERE username='%s' AND logout_time IS NULL ORDER BY login_time DESC LIMIT 1").toList
  | .insertFile _ _ _ =>
      ("INSERT INTO file_tracking (username, filename, upload_time, game_channel) " ++
        "VALUES ('%s', '%s', datetime('now'), '%s')").toList

/-- The arguments that are escaped and put into the holes. -/
def values : SqlStatement → List Text
  | .insertUser username password => [username, password]
  | .insertLogin username => [username]
  | .closeLogin username => [username]
  | .insertFile username filename gameChannel => [username, filename, gameChannel]

-- The formats taken apart at their holes.

/-- `insertUserSql` with a hole in the place of each of its two literals. -/
def insertUserTemplate : Template :=
  ⟨insertUserHead, ["', '".toList, "', datetime('now'))".toList], by decide +kernel⟩

/-- `logLoginSql` with a hole in the place of its literal. -/
def insertLoginTemplate : Template :=
  ⟨insertLoginHead, ["', datetime('now'))".toList], by decide +kernel⟩

/-- `logoutSql` with a hole in the place of its literal. -/
def closeLoginTemplate : Template :=
  ⟨closeLoginHead, ["' AND logout_time IS NULL ORDER BY login_time DESC LIMIT 1".toList],
    by decide +kernel⟩

/-- `trackFileUploadSql` with a hole in the place of each of its three literals. -/
def insertFileTemplate : Template :=
  ⟨insertFileHead, ["', '".toList, "', datetime('now'), '".toList, "')".toList],
    by decide +kernel⟩

/-- The template of a statement. Which one it is does not depend on any text of a client. -/
def template : SqlStatement → Template
  | .insertUser _ _ => insertUserTemplate
  | .insertLogin _ => insertLoginTemplate
  | .closeLogin _ => closeLoginTemplate
  | .insertFile _ _ _ => insertFileTemplate

section
variable (st : SqlStatement)

theorem values_length : st.values.length = st.template.tails.length := by
  cases st <;> rfl

theorem format_eq : st.format = st.template.text (st.values.map fun _ => hole) := by
  have hUser : ("INSERT INTO users (username, password, registration_date) VALUES " ++
      "('%s', '%s', datetime('now'))").toList = insertUserTemplate.text [hole, hole] := by
    decide +kernel
  have hFile : ("INSERT INTO file_tracking (username, filename, upload_time, game_channel) " ++
      "VALUES ('%s', '%s', datetime('now'), '%s')").toList =
        insertFileTemplate.text [hole, hole, hole] := by
    decide +kernel
  have hLogin : ("INSERT INTO login_history (username, login_time) " ++
      "VALUES ('%s', datetime('now'))").toList = insertLoginTemplate.text [hole] := by
    decide +kernel
  have hLogout : ("UPDATE login_history SET logout_time=datetime('now') " ++
      "WHERE username='%s' AND logout_time IS NULL ORDER BY login_time DESC LIMIT 1").toList =
        closeLoginTemplate.text [hole] := by
    decide +kernel
  cases st with
  | insertUser username password => exact hUser
  | insertLogin username => exact hLogin
  | closeLogin username => exact hLogout
  | insertFile username filename gameChannel => exact hFile

theorem sql_eq : st.sql = st.template.text (st.values.map SqlLexer.escape) := by
  cases st with
  | insertUser username password => exact (SqlLexer.assemble_two _ _ _ _ _).symm
  | insertLogin username => rfl
  | closeLogin username => rfl
  | insertFile username filename gameChannel =>
      exact (SqlLexer.assemble_three _ _ _ _ _ _ _).symm

/-- The service finds the values in the text again. -/
theorem read_sql : read st.sql = some st := by
  cases st with
  | insertUser username password => exact read_insertUserSql username password
  | insertLogin username => exact read_logLoginSql username
  | closeLogin username => exact read_logoutSql username
  | insertFile username filename gameChannel =>
      exact read_trackFileUploadSql username filename gameChannel

end
end SqlStatement

namespace Database

/-- The statements that a call of `login` sends, with the strings that it is given. -/
def loginStatements (connectionId : Int) (username password : Text) (db : Database) :
    List SqlStatement :=
  if (db.connectionsIdMap connectionId).isSome then []
  else match db.userMap username with
    | none =>
        -- the login is logged once the user has been stored
        if (db.sqlService 0).succeeds then [.insertUser username password, .insertLogin username]
        else [.insertUser username password]
    | some user =>
        if (db.users user).isLoggedIn = true ∨ (db.users user).password ≠ password then []
        else [.insertLogin username]

/-- And those of a call of `logout`, with the name of the user that is logged out. -/
def logoutStatements (connectionId : Int) (db : Database) : List SqlStatement :=
  match db.connectionsIdMap connectionId with
  | none => []
  | some user => [.closeLogin (db.users user).name]

/-- The call sends these statements, in this order, and no other. -/
def Sends {α : Type} (m : Method JavaException Database α) (db : Database)
    (statements : List SqlStatement) : Prop :=
  (m db).2.sqlLog.map Prod.fst = db.sqlLog.map Prod.fst ++ statements.map SqlStatement.sql

theorem executeSQL_sends (st : SqlStatement) (db : Database) : Sends (executeSQL st.sql) db [st] := by
  have hCalled : ((db.called st.sql).sqlLog.map Prod.fst) =
      db.sqlLog.map Prod.fst ++ [st.sql] := by
    simp [called]
  rw [Sends, executeSQL_apply]
  split <;> exact hCalled

theorem logLogin_sends (username : Text) (db : Database) :
    Sends (logLogin username) db [.insertLogin username] := by
  have hSent := executeSQL_sends (.insertLogin username) db
  rw [Sends, executeSQL_apply] at hSent
  rw [Sends, logLogin, Method.bind_apply, ← SqlStatement.sql.eq_2, executeSQL_apply]
  revert hSent
  cases db.sqlService 0 <;> exact id

theorem trackFileUpload_sends (username filename gameChannel : Text) (db : Database) :
    Sends (trackFileUpload username filename gameChannel) db
      [.insertFile username filename gameChannel] := by
  have hSent := executeSQL_sends (.insertFile username filename gameChannel) db
  rw [Sends, executeSQL_apply] at hSent
  rw [Sends, trackFileUpload, Method.bind_apply, ← SqlStatement.sql.eq_4, executeSQL_apply]
  revert hSent
  cases db.sqlService 0 <;> exact id

theorem logout_sends (connectionId : Int) (db : Database) :
    Sends (logout connectionId) db (logoutStatements connectionId db) := by
  rw [Sends, logoutStatements]
  cases hSession : db.connectionsIdMap connectionId with
  | none =>
      rw [logout_none hSession]
      exact (List.append_nil _).symm
  | some user =>
      rw [logout_some hSession]
      dsimp only
      split <;> simp [called, closed, SqlStatement.sql]

theorem login_sends (connectionId : Int) (username password : Text) (db : Database) :
    Sends (login connectionId username password) db
      (loginStatements connectionId username password db) := by
  rw [Sends, loginStatements]
  cases hConnection : db.connectionsIdMap connectionId with
  | some other =>
      rw [login_connected (by simp [hConnection])]
      simp
  | none =>
      cases hUser : db.userMap username with
      | none =>
          rw [login_unknown hConnection hUser]
          cases hFirst : db.sqlService 0 with
          | failure message =>
              simp [called, registered, unregistered, SqlStatement.sql, SqlOutcome.succeeds]
          | reply response =>
              dsimp only
              split <;>
                simp [called, registered, unregistered, SqlStatement.sql, SqlOutcome.succeeds]
      | some user =>
          rw [login_known hConnection hUser]
          by_cases hLoggedIn : (db.users user).isLoggedIn = true
          · simp [hLoggedIn]
          by_cases hPassword : (db.users user).password = password
          · rw [if_neg hLoggedIn, if_neg (not_not.2 hPassword)]
            dsimp only
            split <;> simp [called, opened, SqlStatement.sql, hLoggedIn, hPassword]
          · rw [if_neg hLoggedIn, if_pos hPassword]
            simp [hPassword]

end Database

/-- Whatever strings they are given, the four methods send the statements of their templates
and no others, each with the method's own strings. A statement has the tokens of its template,
with exactly these strings as the values of the literals, and other strings make another
statement. -/
theorem statements_keep_structure :
    (∀ (db : Database) (connectionId : Int) (username password : Text),
      Database.Sends (Database.login connectionId username password) db
        (Database.loginStatements connectionId username password db)) ∧
    (∀ (db : Database) (username : Text),
      Database.Sends (Database.logLogin username) db [.insertLogin username]) ∧
    (∀ (db : Database) (connectionId : Int), Database.Sends (Database.logout connectionId) db
      (Database.logoutStatements connectionId db)) ∧
    (∀ (db : Database) (username filename gameChannel : Text),
      Database.Sends (Database.trackFileUpload username filename gameChannel) db
        [.insertFile username filename gameChannel]) ∧
    (∀ st : SqlStatement, ∃ tokens, tokenise st.format = some tokens ∧
      tokenise st.sql = some (fill tokens st.values)) ∧
    ∀ st other : SqlStatement, st.sql = other.sql → st = other := by
  refine ⟨fun db c username password => Database.login_sends c username password db,
    fun db username => Database.logLogin_sends username db,
    fun db c => Database.logout_sends c db,
    fun db username filename gameChannel => Database.trackFileUpload_sends _ _ _ db, ?_, ?_⟩
  · intro st
    rw [st.format_eq, st.sql_eq]
    exact st.template.tokenise_text st.values_length
  · intro st other hSame
    have hRead := st.read_sql
    rw [hSame, other.read_sql] at hRead
    exact (Option.some.inj hRead).symm

end StompGames
