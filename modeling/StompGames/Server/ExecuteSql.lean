import Mathlib.Data.List.DropRight
import StompGames.Server.SqlService
import StompGames.Server.SqlTokens

/-! `executeSQL` of `Database.java` and `sql_server.py` on the two ends of a connection. Each
statement has a connection to itself, and so none is lost between two that arrive together. -/
namespace StompGames.SqlService

open Imperative

/-- A statement on its way: the chunks in which the service gets the bytes that `executeSQL`
writes. -/
structure Transmission (sql : Text) where
  chunks : List Chunk
  wire : chunks.flatMap Chunk.bytes = Java.encodeUtf8 (sql ++ ['\x00'])

/-- The characters that `executeSQL` reads before the first zero. -/
def response (sent : List UInt8) : Text := Framing.upTo '\x00' (Java.decodeUtf8 sent)

section
variable {σ : Type} (direct_message : Text → σ → Text × σ)

/-- What `executeSQL` returns, and the database behind the service afterwards. -/
def roundTrip {sql : Text} (t : Transmission sql) (db : σ) : Text × σ :=
  let served := handle_client direct_message t.chunks ⟨db, [], []⟩
  (response served.sent, served.db)

theorem received_transmission {sql : Text} (hSome : sql ≠ []) (hNul : '\x00' ∉ sql)
    (t : Transmission sql) : received t.chunks = [sql] := by
  have hZero : 0 ∉ Java.encodeUtf8 sql := fun hMem => hNul (Java.zero_mem_encodeUtf8 hMem)
  have hWire : t.chunks.flatMap Chunk.bytes = Java.encodeUtf8 sql ++ 0 :: [] :=
    t.wire.trans List.flatMap_append
  obtain ⟨dropped, later, hRecv, hLater, -⟩ := recv_eq List.not_mem_nil hZero hWire
  obtain ⟨-, hNone⟩ := List.append_eq_nil_iff.1 hLater
  obtain rfl := eq_nil_of_flatMap_bytes hNone
  rw [List.nil_append, Python.decode_encodeUtf8] at hRecv
  rw [received_cons hSome hRecv, received_nil rfl]

theorem response_encode {output : Text} (hNul : '\x00' ∉ output) :
    response (Java.encodeUtf8 (output ++ ['\x00'])) = output := by
  rw [response, Java.decodeUtf8_encodeUtf8, Framing.upTo_append hNul]

/-- However the bytes are cut, the service looks at the statement once, and its reply is what
`executeSQL` returns. -/
theorem roundTrip_eq {sql : Text} (hSome : sql ≠ []) (hNul : '\x00' ∉ sql) (t : Transmission sql)
    (db : σ) (hReply : '\x00' ∉ (direct_message sql db).1) :
    roundTrip direct_message t db = direct_message sql db := by
  have hServed : handle_client direct_message t.chunks ⟨db, [], []⟩ =
      serve direct_message ⟨db, [], []⟩ sql := by
    rw [handle_client_eq, received_transmission hSome hNul]
    rfl
  unfold roundTrip
  rw [hServed]
  exact Prod.ext (response_encode hReply) rfl

end

/-- `msg.strip().upper().startswith("SELECT")`. -/
def isSelect (isspace : Char → Bool) (upper : Char → Text) (msg : Text) : Bool :=
  "SELECT".toList.isPrefixOf (((msg.dropWhile isspace).rdropWhile isspace).flatMap upper)

/-- How Python and SQLite answer: `query` is the reply to a query, and `error` the text of the
exception for a command that the tables do not allow. -/
structure Engine where
  isspace : Char → Bool
  upper : Char → Text
  query : Text → SqlTables → Text
  error : Text → SqlTables → Text

/-- The second in which a message is served, and the text of an exception of `execute` for a
reason that is not in the tables, as where another process has locked the database. -/
structure Circumstances where
  now : Nat
  exception : Option Text
  deriving DecidableEq

/-- The reply of `execute_sql_command` and `execute_sql_query` to an exception. It starts like an
error and is a reply like any other. -/
def couldnot (e : Text) : Text := "ERROR:Couldnot execute command:".toList ++ e

/-- `direct_message(msg)`: queries leave the tables alone, and a command is carried out unless
the service has an exception for it. Such an exception may come for a statement that is in order,
as when another process holds the lock of the file. -/
def Engine.direct_message (engine : Engine) (circumstances : Circumstances) (msg : Text)
    (tables : SqlTables) : Text × SqlTables :=
  if isSelect engine.isspace engine.upper msg then (engine.query msg tables, tables)
  else match circumstances.exception with
    | some e => (couldnot e, tables)
    | none => match tables.execute_sql_command circumstances.now msg with
      | some tables => ("SUCCESS".toList, tables)
      | none => (couldnot (engine.error msg tables), tables)

/-- The letters `A` to `Z` are no space and their own upper case, and no exception has a zero
character in its text. -/
structure Engine.Documented (engine : Engine) : Prop where
  isspace : ∀ c : Char, c.isUpper = true → engine.isspace c = false
  upper : ∀ c : Char, c.isUpper = true → engine.upper c = [c]
  error : ∀ msg tables, '\x00' ∉ engine.error msg tables

section
variable {engine : Engine}

/-- A text that begins with another capital letter is a command. -/
theorem isSelect_capital (h : engine.Documented) {c : Char} (hUpper : c.isUpper = true)
    (hOther : c ≠ 'S') (rest : Text) : isSelect engine.isspace engine.upper (c :: rest) = false := by
  have hKept : (c :: rest).dropWhile engine.isspace = c :: rest := by
    rw [List.dropWhile_cons, h.isspace c hUpper]
    rfl
  obtain ⟨tail, hTail⟩ : ∃ tail, (c :: rest).rdropWhile engine.isspace = c :: tail := by
    obtain ⟨after, hPrefix⟩ := List.rdropWhile_prefix engine.isspace (l := c :: rest)
    cases hRest : (c :: rest).rdropWhile engine.isspace with
    | nil =>
        have hAll := List.rdropWhile_eq_nil_iff.1 hRest c List.mem_cons_self
        rw [h.isspace c hUpper] at hAll
        cases hAll
    | cons d tail =>
        rw [hRest] at hPrefix
        obtain ⟨rfl, -⟩ := List.cons.inj hPrefix
        exact ⟨tail, rfl⟩
  rw [isSelect, hKept, hTail, List.flatMap_cons, h.upper c hUpper]
  simp [List.isPrefixOf, Ne.symm hOther]

theorem assemble_prefix (head : List Char) (tails args : List (List Char)) :
    head <+: SqlLexer.assemble head tails args := by
  cases tails <;> cases args <;> simp [SqlLexer.assemble]

theorem sql_capital (st : SqlStatement) :
    ∃ c rest, st.sql = c :: rest ∧ c.isUpper = true ∧ c ≠ 'S' := by
  obtain ⟨c, head, hHead, hUpper, hOther⟩ :
      ∃ c head, st.template.head = c :: head ∧ c.isUpper = true ∧ c ≠ 'S' := by
    have hName : ∀ (word : Text) (c : Char), word.head? = some c →
        ∃ tail, word = c :: tail := by
      intro word c hFirst
      exact ⟨word.tail, (List.cons_head?_tail hFirst).symm⟩
    cases st with
    | insertUser username password =>
        obtain ⟨head, hHead⟩ := hName SqlStatement.insertUserHead 'I' (by rfl)
        exact ⟨'I', head, hHead, by decide, by decide⟩
    | insertLogin username =>
        obtain ⟨head, hHead⟩ := hName SqlStatement.insertLoginHead 'I' (by rfl)
        exact ⟨'I', head, hHead, by decide, by decide⟩
    | closeLogin username =>
        obtain ⟨head, hHead⟩ := hName SqlStatement.closeLoginHead 'U' (by rfl)
        exact ⟨'U', head, hHead, by decide, by decide⟩
    | insertFile username filename gameChannel =>
        obtain ⟨head, hHead⟩ := hName SqlStatement.insertFileHead 'I' (by rfl)
        exact ⟨'I', head, hHead, by decide, by decide⟩
  obtain ⟨rest, hText⟩ := assemble_prefix st.template.head st.template.tails
    (st.values.map SqlLexer.escape)
  refine ⟨c, head ++ rest, ?_, hUpper, hOther⟩
  rw [st.sql_eq, SqlLexer.Template.text, ← hText, hHead, List.cons_append]

theorem isSelect_sql (h : engine.Documented) (st : SqlStatement) :
    isSelect engine.isspace engine.upper st.sql = false := by
  obtain ⟨c, rest, hSql, hUpper, hOther⟩ := sql_capital st
  rw [hSql]
  exact isSelect_capital h hUpper hOther rest

/-- What a text with its holes filled is made of. -/
theorem mem_assemble {c : Char} {head : List Char} {tails args : List (List Char)}
    (h : c ∈ SqlLexer.assemble head tails args) :
    (∃ part ∈ head :: tails, c ∈ part) ∨ ∃ arg ∈ args, c ∈ arg := by
  induction tails generalizing head args with
  | nil => exact Or.inl ⟨head, List.mem_cons_self, by simpa [SqlLexer.assemble] using h⟩
  | cons tail tails ih =>
      cases args with
      | nil => exact Or.inl ⟨head, List.mem_cons_self, by simpa [SqlLexer.assemble] using h⟩
      | cons arg args =>
          simp only [SqlLexer.assemble, List.mem_append] at h
          rcases h with (hHead | hArg) | hRest
          · exact Or.inl ⟨head, List.mem_cons_self, hHead⟩
          · exact Or.inr ⟨arg, List.mem_cons_self, hArg⟩
          · rcases ih hRest with ⟨part, hPart, hMem⟩ | ⟨other, hOther, hMem⟩
            · exact Or.inl ⟨part, List.mem_cons_of_mem _ hPart, hMem⟩
            · exact Or.inr ⟨other, List.mem_cons_of_mem _ hOther, hMem⟩

/-- Escaping brings in nothing but quotes. -/
theorem nul_not_mem_escape {value : Text} (h : '\x00' ∉ value) :
    '\x00' ∉ SqlLexer.escape value := by
  intro hMem
  obtain ⟨c, hc, hEscaped⟩ := List.mem_flatMap.1 hMem
  split at hEscaped
  · simp at hEscaped
  · rw [List.mem_singleton.1 hEscaped] at h
    exact h hc

theorem nul_not_mem_sql {st : SqlStatement} (h : ∀ value ∈ st.values, '\x00' ∉ value) :
    '\x00' ∉ st.sql := by
  have hParts : ∀ part ∈ st.template.head :: st.template.tails, '\x00' ∉ part := by
    have hAll : ∀ t ∈ [SqlStatement.insertUserTemplate, SqlStatement.insertLoginTemplate,
        SqlStatement.closeLoginTemplate, SqlStatement.insertFileTemplate],
          ∀ part ∈ t.head :: t.tails, '\x00' ∉ part := by decide +kernel
    apply hAll
    cases st <;> simp [SqlStatement.template]
  intro hMem
  rw [st.sql_eq, SqlLexer.Template.text] at hMem
  rcases mem_assemble hMem with ⟨part, hPart, hIn⟩ | ⟨arg, hArg, hIn⟩
  · exact hParts part hPart hIn
  · obtain ⟨value, hValue, rfl⟩ := List.mem_map.1 hArg
    exact nul_not_mem_escape (h value hValue) hIn

/-- A call of `executeSQL`: what clients gave for the holes has no zero character, as no frame
has one, and neither has an exception. -/
structure Call where
  st : SqlStatement
  clean : ∀ value ∈ st.values, '\x00' ∉ value
  transmission : Transmission st.sql
  circumstances : Circumstances
  exception : ∀ e, circumstances.exception = some e → '\x00' ∉ e

/-- What a call does to the tables: nothing where the statement ends in an exception. -/
def Call.effect (tables : SqlTables) (call : Call) : SqlTables :=
  if call.circumstances.exception.isSome then tables
  else (tables.apply call.circumstances.now call.st).getD tables

/-- One call after another: what they return, as the server records it, and the database. -/
def exchange {σ : Type} (direct_message : Circumstances → Text → σ → Text × σ) :
    List Call → σ → List (Text × SqlOutcome) × σ
  | [], db => ([], db)
  | call :: rest, db =>
      let (reply, db) := roundTrip (direct_message call.circumstances) call.transmission db
      let (log, db) := exchange direct_message rest db
      ((call.st.sql, .reply reply) :: log, db)

/-- When the calls are served. All of them are replied to, so that `executed` does not matter. -/
def executions (executed : Nat → Bool) : List Call → Nat → SqlTables.Execution
  | [], n => ⟨0, executed n⟩
  | call :: _, 0 => ⟨call.circumstances.now, executed 0⟩
  | _ :: rest, n + 1 => executions (fun n => executed (n + 1)) rest n

theorem execute_sql (now : Nat) (st : SqlStatement) (tables : SqlTables) :
    tables.execute_sql_command now st.sql = tables.apply now st := by
  rw [SqlTables.execute_sql_command, st.read_sql, Option.bind_some]

theorem direct_message_sql (h : engine.Documented) (circumstances : Circumstances)
    (st : SqlStatement) (tables : SqlTables) :
    engine.direct_message circumstances st.sql tables = match circumstances.exception with
      | some e => (couldnot e, tables)
      | none => match tables.apply circumstances.now st with
        | some tables => ("SUCCESS".toList, tables)
        | none => (couldnot (engine.error st.sql tables), tables) := by
  rw [Engine.direct_message, isSelect_sql h, execute_sql]
  rfl

theorem couldnot_eq (e : Text) :
    couldnot e = "ERROR:".toList ++ ("Couldnot execute command:".toList ++ e) := by
  have hSplit : "ERROR:Couldnot execute command:".toList =
      "ERROR:".toList ++ "Couldnot execute command:".toList := by decide
  unfold couldnot
  rw [hSplit, List.append_assoc]

/-- The server takes an exception for an error. -/
theorem served_couldnot (tables : SqlTables) (execution : SqlTables.Execution) (sql e : Text) :
    tables.served execution (sql, .reply (couldnot e)) = some tables := by
  have hError : "ERROR:".toList.isPrefixOf (couldnot e) = true := by
    rw [couldnot_eq]
    exact List.isPrefixOf_iff_prefix.2 (List.prefix_append _ _)
  have hOther : couldnot e ≠ "SUCCESS".toList := by
    intro hSame
    rw [hSame] at hError
    exact absurd hError (by decide)
  unfold SqlTables.served
  dsimp only
  rw [if_neg hOther, if_pos hError]

theorem nul_not_mem_couldnot {e : Text} (h : '\x00' ∉ e) : '\x00' ∉ couldnot e := by
  have hHead : '\x00' ∉ "ERROR:Couldnot execute command:".toList := by decide
  intro hMem
  exact (List.mem_append.1 hMem).elim hHead h

/-- One call: its effect on the tables, and what the server takes its reply for. -/
theorem roundTrip_call (h : engine.Documented) (call : Call) (tables : SqlTables)
    (executed : Bool) :
    (roundTrip (engine.direct_message call.circumstances) call.transmission tables).2 =
        call.effect tables ∧
      tables.served ⟨call.circumstances.now, executed⟩ (call.st.sql,
        .reply (roundTrip (engine.direct_message call.circumstances) call.transmission tables).1) =
          some (call.effect tables) := by
  have hAnswer := direct_message_sql h call.circumstances call.st tables
  have hSome : call.st.sql ≠ [] := by
    obtain ⟨c, rest, hSql, -⟩ := sql_capital call.st
    rw [hSql]
    exact List.cons_ne_nil _ _
  have hTrip := roundTrip_eq (engine.direct_message call.circumstances) hSome
    (nul_not_mem_sql call.clean) call.transmission tables
  rw [hAnswer] at hTrip
  unfold Call.effect
  cases hException : call.circumstances.exception with
  | some e =>
      rw [hException] at hTrip
      rw [hTrip (nul_not_mem_couldnot (call.exception e hException))]
      exact ⟨rfl, served_couldnot tables _ _ e⟩
  | none =>
      cases hApply : tables.apply call.circumstances.now call.st with
      | some after =>
          simp only [hException, hApply] at hTrip
          rw [hTrip (by decide)]
          simp [SqlTables.served, execute_sql, hApply]
      | none =>
          simp only [hException, hApply] at hTrip
          rw [hTrip (nul_not_mem_couldnot (h.error _ _))]
          exact ⟨rfl, served_couldnot tables _ _ _⟩

/-- However the bytes of the calls are cut, each statement is executed once and in its turn
unless it ends in an exception, and the replies say which: the tables are those that a replay
of the calls gives. -/
theorem calls_replayed (h : engine.Documented) (calls : List Call) (tables : SqlTables)
    (executed : Nat → Bool) :
    (exchange engine.direct_message calls tables).2 = calls.foldl Call.effect tables ∧
      SqlTables.replay (executions executed calls)
        (exchange engine.direct_message calls tables).1 tables =
          some (exchange engine.direct_message calls tables).2 := by
  induction calls generalizing tables executed with
  | nil => exact ⟨rfl, rfl⟩
  | cons call calls ih =>
      obtain ⟨hTables, hServed⟩ := roundTrip_call h call tables (executed 0)
      obtain ⟨hRest, hReplay⟩ := ih
        (roundTrip (engine.direct_message call.circumstances) call.transmission tables).2
        fun n => executed (n + 1)
      refine ⟨?_, ?_⟩
      · rw [List.foldl_cons, ← hTables, ← hRest]
        rfl
      · rw [← hTables] at hServed
        simp only [exchange, SqlTables.replay, executions, hServed, Option.bind_some]
        exact hReplay

end

/-- A service for ASCII texts. -/
def ascii : Engine where
  isspace c := decide (c ∈ [' ', '\t', '\n', '\r', '\x0b', '\x0c'])
  upper c := [if c.isUpper then c else c.toUpper]
  query _ _ := "SUCCESS".toList
  error _ _ := "UNIQUE constraint failed: users.username".toList

theorem ascii_documented : ascii.Documented where
  isspace c hUpper := by
    have hNone : ([' ', '\t', '\n', '\r', '\x0b', '\x0c'].all fun d => !d.isUpper) = true := by
      decide
    refine decide_eq_false fun hMem => ?_
    have hNot := List.all_eq_true.1 hNone c hMem
    rw [hUpper] at hNot
    cases hNot
  upper c hUpper := by simp only [ascii, if_pos hUpper]
  error _ _ := by
    change '\x00' ∉ "UNIQUE constraint failed: users.username".toList
    decide

/-- A registration, cut within its first word and within the password. -/
def registration : SqlStatement := .insertUser "meni".toList "films".toList

/-- What the server writes for a registration, the zero byte at the end included. -/
def registrationBytes : List UInt8 := Java.encodeUtf8 (registration.sql ++ ['\x00'])

/-- A registration whose bytes come in two parts, under any circumstances of the service. -/
def cutRegistration (circumstances : Circumstances)
    (exception : ∀ e, circumstances.exception = some e → '\x00' ∉ e) : Call where
  st := registration
  clean := by decide
  transmission :=
    { chunks := [⟨registrationBytes.take 3, by decide +kernel, by decide +kernel⟩,
        ⟨registrationBytes.drop 3, by decide +kernel, by decide +kernel⟩]
      wire := by decide +kernel }
  circumstances := circumstances
  exception := exception

/-- The first call finds the database locked, the second one registers the user, and the
third one is refused since the user is registered. -/
def threeRegistrations : List Call :=
  [cutRegistration ⟨0, some "database is locked".toList⟩ (by decide),
    cutRegistration ⟨1, none⟩ nofun, cutRegistration ⟨1, none⟩ nofun]

/-- The three calls of one registration, of which the second is carried out. -/
theorem calls_replayed_three :
    SqlTables.replay (executions (fun _ => false) threeRegistrations)
      (exchange ascii.direct_message threeRegistrations .empty).1 .empty =
        some (exchange ascii.direct_message threeRegistrations .empty).2 :=
  (calls_replayed ascii_documented _ _ _).2

end StompGames.SqlService
