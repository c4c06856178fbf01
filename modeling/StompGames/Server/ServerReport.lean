import StompGames.Java.Split
import StompGames.Python.Repr
import StompGames.Server.Database

/-! `printReport`: the rows of the tables as `execute_sql_query` writes them, and as the
report reads them again. -/
namespace StompGames

open Imperative

/-- What `datetime('now')` is stored as. -/
structure Datetime where
  text : Text
  shape : text.map (fun c => if c.isDigit then '0' else c) = "0000-00-00 00:00:00".toList

/-- A row of the query of `login_history`. -/
structure LoginRecord where
  username : Text
  login_time : Datetime
  logout_time : Option Datetime

/-- A row of the query of `file_tracking`. -/
structure FileRecord where
  username : Text
  filename : Text
  upload_time : Datetime
  game_channel : Text

/-- The columns that the report's query selects from `login_history`, a time that is not set is
`None`. -/
def LoginRecord.row (r : LoginRecord) : List (Option Text) :=
  [some r.username, some r.login_time.text, r.logout_time.map Datetime.text]

/-- The columns that the report's query selects from `file_tracking`. -/
def FileRecord.row (r : FileRecord) : List (Option Text) :=
  [some r.username, some r.filename, some r.upload_time.text, some r.game_channel]

/-- The reply to a `SELECT` whose rows are `out`. -/
def execute_sql_query (isPrintable : Char → Bool) (out : Except Text (List (List (Option Text)))) :
    Text :=
  match out with
  | .ok rows => rows.foldl
      (fun res row => res ++ ('|' :: Python.strTuple isPrintable row ++ ['|'])) "SUCCESS".toList
  | .error e => "ERROR:Couldnot execute query:".toList ++ e

/-- The database and the lines printed so far. -/
structure Printing where
  db : Database
  out : List Text

namespace Database

/-- One call for each line. -/
def println (lines : List Text) : Method JavaException Printing Unit :=
  modify fun p => { p with out := p.out ++ lines }

/-- `executeSQL` with a query of the report, whose reply is all that is used of it. -/
def query (sql : Text) : Method JavaException Printing Text :=
  (executeSQL sql).zoom Printing.db fun db p => { p with db := db }

/-- `str.repeat(times)`. -/
def repeatText (str : Text) (times : Nat) : Text := (List.replicate times str).flatten

/-- What `printReport` prints before the name of a user, the empty line above it included. -/
def userLabel : Text := "\n   User: ".toList

/-- What `printReport` prints before a login time. -/
def loginLabel : Text := "      Login:  ".toList

/-- What `printReport` prints before a logout time. -/
def logoutLabel : Text := "      Logout: ".toList

/-- What `printReport` prints before the name of a file. -/
def fileLabel : Text := "      File: ".toList

/-- What `printReport` prints before the time of an upload. -/
def timeLabel : Text := "      Time: ".toList

/-- What `printReport` prints before the channel of an upload. -/
def gameLabel : Text := "      Game: ".toList

/-- The fields of a part of the reply. Parentheses and quotes are taken out wherever they
stand. -/
def fieldsOf (part : Text) : List Text :=
  Java.split ", ".toList (Java.remove '\x27' (Java.remove ')' (Java.remove '(' part)))

/-- The loop over the parts: a part with too few fields is passed over. -/
def rowLines (least : Nat) (body : List Text → List Text) (currentUser : Text) :
    List Text → List Text
  | [] => []
  | part :: parts =>
      let fields := fieldsOf part
      if least ≤ fields.length then
        (if fields.getD 0 [] ≠ currentUser then [userLabel ++ fields.getD 0 []] else []) ++
          body fields ++ rowLines least body (fields.getD 0 []) parts
      else rowLines least body currentUser parts

/-- The lines of one login below the name. A logout time that reads `None` is shown as a login
that still lasts, and so is one that is missing from the row. -/
def loginBody (fields : List Text) : List Text :=
  [loginLabel ++ fields.getD 1 [],
    logoutLabel ++ if fields.getD 2 [] = "None".toList then "Still logged in".toList
      else fields.getD 2 []]

/-- The lines of one upload below the name, with an empty one at the end. -/
def fileBody (fields : List Text) : List Text :=
  [fileLabel ++ fields.getD 1 [], timeLabel ++ fields.getD 2 [], gameLabel ++ fields.getD 3 [], []]

/-- One section of the report. -/
def sectionLines (nothing : Text) (loop : List Text → List Text) (result : Text) : List Text :=
  if "SUCCESS".toList.isPrefixOf result then
    let parts := Java.split ['|'] result
    if 1 < parts.length then loop (parts.drop 1) else [nothing]
  else []

/-- The lines of the first section, one for each part of the reply. -/
def usersSection : Text → List Text :=
  sectionLines "   No users registered".toList fun parts => parts.map ("   ".toList ++ ·)

/-- The lines of the second section. A row with fewer than three parts is passed over. -/
def loginSection : Text → List Text :=
  sectionLines "   No login history".toList (rowLines 3 loginBody [])

/-- The lines of the third section. A row with fewer than four parts is passed over. -/
def fileSection : Text → List Text :=
  sectionLines "   No files uploaded".toList (rowLines 4 fileBody [])

/-- `now` is the text of `LocalDateTime.now()`. -/
def printReport (now : Text) : Method JavaException Printing Unit := do
  println [repeatText ['='] 80, "SERVER REPORT - Generated at: ".toList ++ now,
    repeatText ['='] 80, "\n1. REGISTERED USERS:".toList, repeatText ['-'] 80]
  let usersResult ← query
    "SELECT username, registration_date FROM users ORDER BY registration_date".toList
  println (usersSection usersResult)
  println ["\n2. LOGIN HISTORY:".toList, repeatText ['-'] 80]
  let loginResult ← query
    ("SELECT username, login_time, logout_time FROM login_history " ++
      "ORDER BY username, login_time DESC").toList
  println (loginSection loginResult)
  println ["\n3. FILE UPLOADS:".toList, repeatText ['-'] 80]
  let filesResult ← query
    ("SELECT username, filename, upload_time, game_channel FROM file_tracking " ++
      "ORDER BY username, upload_time DESC").toList
  println (fileSection filesResult)
  println [repeatText ['='] 80]

end Database

namespace ServerReport

/-- A stored row: its user, and the lines that show the rest of it. -/
structure Entry where
  user : Text
  body : List Text

/-- A row of `login_history` as the report is to show it: its user, and the lines below the name.
-/
def ofLogin (r : LoginRecord) : Entry :=
  ⟨r.username, [Database.loginLabel ++ r.login_time.text,
    Database.logoutLabel ++ match r.logout_time with
      | none => "Still logged in".toList
      | some time => time.text]⟩

/-- A row of `file_tracking` as the report is to show it. -/
def ofFile (r : FileRecord) : Entry :=
  ⟨r.username, [Database.fileLabel ++ r.filename, Database.timeLabel ++ r.upload_time.text,
    Database.gameLabel ++ r.game_channel, []]⟩

/-- Every entry in order, with a heading where the user is not that of the entry before. -/
def headed (before : Option Text) : List Entry → List Text
  | [] => []
  | e :: rest =>
      (if before = some e.user then [] else [Database.userLabel ++ e.user]) ++ e.body ++
        headed (some e.user) rest

/-- What a section has to show of these entries, each under the name of its user. Entries that
come one after another share a name. -/
def stored (nothing : Text) (entries : List Entry) : List Text :=
  if entries.isEmpty then [nothing] else headed none entries

section
variable (isPrintable : Char → Bool) (now : Text) (users : List (Text × Datetime))
  (logins : List LoginRecord) (files : List FileRecord)

/-- The reply of the service to the query of the first section. -/
def usersReply : Text :=
  execute_sql_query isPrintable (.ok (users.map fun user => [some user.1, some user.2.text]))

/-- The reply of the service to the query of the second section. -/
def loginsReply : Text := execute_sql_query isPrintable (.ok (logins.map LoginRecord.row))

/-- The reply of the service to the query of the third section. -/
def filesReply : Text := execute_sql_query isPrintable (.ok (files.map FileRecord.row))

/-- The replies to the three queries. -/
def service : Nat → SqlOutcome
  | 0 => .reply (usersReply isPrintable users)
  | 1 => .reply (loginsReply isPrintable logins)
  | _ => .reply (filesReply isPrintable files)

/-- What `printReport` prints. -/
def printed : List Text :=
  (Database.printReport now ⟨.new (service isPrintable users logins files), []⟩).2.out

/-- The report with two sections filled in. -/
def layout (loginLines fileLines : List Text) : List Text :=
  [Database.repeatText ['='] 80, "SERVER REPORT - Generated at: ".toList ++ now,
    Database.repeatText ['='] 80, "\n1. REGISTERED USERS:".toList, Database.repeatText ['-'] 80] ++
    Database.usersSection (usersReply isPrintable users) ++
    "\n2. LOGIN HISTORY:".toList :: Database.repeatText ['-'] 80 :: loginLines ++
    "\n3. FILE UPLOADS:".toList :: Database.repeatText ['-'] 80 :: fileLines ++
    [Database.repeatText ['='] 80]

/-- The report shows exactly the rows that are stored, in their order. -/
def ShowsStored : Prop :=
  printed isPrintable now users logins files = layout isPrintable now users
    (stored "   No login history".toList (logins.map ofLogin))
    (stored "   No files uploaded".toList (files.map ofFile))

end
end ServerReport
end StompGames
