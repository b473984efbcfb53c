import SqlAccess.Proofs.Memory.Statements
import SqlAccess.Proofs.Session.Cursors

/-!
# No statement leaks from a session

The server counts its open statements, and a session holds statements: under names, and in
cursors that own theirs. `Accounted base` says that the count is what the session holds and
`base` more, with nothing held twice.

* `Accounted.step`: every command keeps the account, whatever it does and wherever it fails.
* `Accounted.givenBack_eq`: however often a cursor is closed or given up, and whatever is done in
  between, its statement leaves the count once.
* `openStatements_accounted`: what this says of every run of a session.
-/

namespace SqlAccess.Memory

/-- What a cursor adds to the count of open statements: one while it is not closed and owns a
statement. -/
def holds (c : Cursor Statement) : Nat :=
  if c.state ≠ .closed ∧ c.statement.isSome then 1 else 0

/-- A statement that a cursor owns is open, and so is the cursor. -/
def OwnsOpen (c : Cursor Statement) : Prop :=
  ∀ s, c.statement = some s → s.closed = false ∧ c.state ≠ .closed

/-- The count of the server of a session. -/
def openStatements (s : Session Server Statement) : Nat := s.connection.server.openStatements

/-- What the cursor of a name adds to the count; nothing if there is no such cursor. -/
def holding (name : String) (s : Session Server Statement) : Nat :=
  (s.cursors.lookup name).elim 0 holds

/-- How many open statements the session holds: the statements that are not closed, and the
cursors that are not closed and own one. -/
def held (s : Session Server Statement) : Nat :=
  Named.total Statement.openCount s.statements + Named.total holds s.cursors

/-- The count of the server is what the session holds and `base` more. -/
structure Accounted (base : Nat) (s : Session Server Statement) : Prop where
  statementNames : Named.Distinct s.statements
  cursorNames : Named.Distinct s.cursors
  owned : Named.All OwnsOpen s.cursors
  counted : openStatements s = base + held s

variable {base base' : Nat} {s : Session Server Statement} {name : String}

/-! ## Cursors -/

theorem holds_of_statement {c : Cursor Statement} {statement : Statement} (owns : OwnsOpen c)
    (h : c.statement = some statement) : holds c = statement.openCount := by
  obtain ⟨isOpen, notClosed⟩ := owns statement h
  rw [Statement.openCount_of_open isOpen, holds, if_pos ⟨notClosed, by rw [h]; rfl⟩]

theorem holds_of_no_statement {c : Cursor Statement} (h : c.statement = none) : holds c = 0 := by
  rw [holds, if_neg]
  rintro ⟨-, owns⟩
  rw [h] at owns
  cases owns

theorem OwnsOpen.of_no_statement {c : Cursor Statement} (h : c.statement = none) : OwnsOpen c := by
  intro statement owned
  rw [h] at owned
  cases owned

theorem OwnsOpen.of_unopened {c : Cursor Statement} {statement : Statement}
    (owned : c.statement = some statement) (isOpen : statement.closed = false)
    (unopened : c.state = .unopened) : OwnsOpen c := by
  intro statement' owned'
  rw [owned] at owned'
  cases owned'
  refine ⟨isOpen, ?_⟩
  rw [unopened]
  nofun

/-- Going to the next row neither closes a cursor nor takes its statement. -/
theorem advance_statement (c : Cursor Statement) :
    c.advance.2.statement = c.statement ∧ (c.advance.2.state = .closed ↔ c.state = .closed) := by
  unfold Cursor.advance
  split
  · exact ⟨rfl, Iff.rfl⟩
  · exact ⟨rfl, Iff.rfl⟩
  · rename_i notClosed notExhausted
    split <;> simp_all

theorem holds_advance (c : Cursor Statement) : holds c.advance.2 = holds c := by
  obtain ⟨same, closed⟩ := advance_statement c
  simp only [holds, same, closed, ne_eq]

theorem OwnsOpen.advance {c : Cursor Statement} (owns : OwnsOpen c) : OwnsOpen c.advance.2 := by
  obtain ⟨same, closed⟩ := advance_statement c
  intro statement h
  obtain ⟨isOpen, notClosed⟩ := owns statement (same ▸ h)
  exact ⟨isOpen, fun h => notClosed (closed.1 h)⟩

/-- A closed cursor owns nothing. -/
theorem closeCursor_closed (s : Session Server Statement) (c : Cursor Statement) :
    OwnsOpen (s.closeCursor c).1 ∧ holds (s.closeCursor c).1 = 0 := by
  have none : (s.closeCursor c).1.statement = none := by
    unfold Session.closeCursor Cursor.close
    cases c.statement with
    | none => rfl
    | some statement => rfl
  exact ⟨.of_no_statement none, holds_of_no_statement none⟩

/-- Closing a cursor takes away from the count what the cursor holds. -/
theorem closeCursor_openStatements {c : Cursor Statement} (owns : OwnsOpen c)
    (counted : holds c ≤ openStatements s) :
    openStatements (s.closeCursor c).2 + holds c = openStatements s := by
  unfold Session.closeCursor Cursor.close
  cases owned : c.statement with
  | none =>
    rw [holds_of_no_statement owned]
    rfl
  | some statement =>
    rw [holds_of_statement owns owned] at counted ⊢
    exact Statement.close_openStatements counted

/-! ## What is held, name by name -/

theorem held_eraseCursor (names : Named.Distinct s.cursors) (name : String) :
    held { s with cursors := s.cursors.erase name } + holding name s = held s := by
  have taken := Named.total_erase names holds name
  rw [held, holding, Nat.add_assoc, taken, held]

theorem held_putCursor (s : Session Server Statement) (name : String) (c : Cursor Statement) :
    held { s with cursors := s.cursors.put name c } =
      held { s with cursors := s.cursors.erase name } + holds c := by
  show Named.total Statement.openCount s.statements +
    (holds c + Named.total holds (s.cursors.erase name)) =
      Named.total Statement.openCount s.statements + Named.total holds (s.cursors.erase name) +
        holds c
  omega

theorem held_eraseStatement (names : Named.Distinct s.statements) (name : String) :
    held { s with statements := s.statements.erase name } +
      (s.statements.lookup name).elim 0 Statement.openCount = held s := by
  have taken := Named.total_erase names Statement.openCount name
  rw [held, Nat.add_right_comm, taken, held]

theorem held_putStatement (s : Session Server Statement) (name : String) (statement : Statement) :
    held { s with statements := s.statements.put name statement } =
      held { s with statements := s.statements.erase name } + statement.openCount := by
  show statement.openCount + Named.total Statement.openCount (s.statements.erase name) +
    Named.total holds s.cursors = Named.total Statement.openCount (s.statements.erase name) +
      Named.total holds s.cursors + statement.openCount
  omega

/-! ## Moves that keep the account -/

/-- A change of the count moves the account. -/
theorem Accounted.connection (acc : Accounted base s) {c : Connection Server}
    (moved : c.server.openStatements + base = openStatements s + base') :
    Accounted base' { s with connection := c } := by
  refine ⟨acc.statementNames, acc.cursorNames, acc.owned, ?_⟩
  have counted := acc.counted
  show c.server.openStatements = base' + held s
  omega

/-- Putting a cursor under a name moves the account by what the new one holds and the old one,
if there was one, has held. -/
theorem Accounted.keepCursor (acc : Accounted base s) {c : Cursor Statement} (owns : OwnsOpen c)
    (moved : base' + holds c = base + holding name s) :
    Accounted base' { s with cursors := s.cursors.put name c } := by
  refine ⟨acc.statementNames, acc.cursorNames.put name c, acc.owned.put name owns, ?_⟩
  have counted := acc.counted
  have taken := held_eraseCursor acc.cursorNames name
  have put := held_putCursor s name c
  show openStatements s = base' + held { s with cursors := s.cursors.put name c }
  omega

/-- Forgetting a cursor moves the account by what it has held. -/
theorem Accounted.forgetCursor (acc : Accounted base s)
    (moved : base' = base + holding name s) :
    Accounted base' { s with cursors := s.cursors.erase name } := by
  refine ⟨acc.statementNames, acc.cursorNames.erase name, acc.owned.erase name, ?_⟩
  have counted := acc.counted
  have taken := held_eraseCursor acc.cursorNames name
  show openStatements s = base' + held { s with cursors := s.cursors.erase name }
  omega

theorem Accounted.keepStatement (acc : Accounted base s) {statement : Statement}
    (moved : base' + statement.openCount =
      base + (s.statements.lookup name).elim 0 Statement.openCount) :
    Accounted base' { s with statements := s.statements.put name statement } := by
  refine ⟨acc.statementNames.put name statement, acc.cursorNames, acc.owned, ?_⟩
  have counted := acc.counted
  have taken := held_eraseStatement acc.statementNames name
  have put := held_putStatement s name statement
  show openStatements s = base' + held { s with statements := s.statements.put name statement }
  omega

theorem Accounted.forgetStatement (acc : Accounted base s)
    (moved : base' = base + (s.statements.lookup name).elim 0 Statement.openCount) :
    Accounted base' { s with statements := s.statements.erase name } := by
  refine ⟨acc.statementNames.erase name, acc.cursorNames, acc.owned, ?_⟩
  have counted := acc.counted
  have taken := held_eraseStatement acc.statementNames name
  show openStatements s = base' + held { s with statements := s.statements.erase name }
  omega

/-- Closing a statement that is accounted for outside the session moves it out of the account. -/
theorem Accounted.release {statement : Statement}
    (acc : Accounted (base + statement.openCount) s) : Accounted base (s.release statement) := by
  have counted := acc.counted
  have fits : statement.openCount ≤ s.connection.server.openStatements := by
    show statement.openCount ≤ openStatements s
    omega
  have lowered := Statement.close_openStatements fits
  refine acc.connection (c := { s.connection with
    server := (statement.close s.connection.server).2 }) ?_
  show (statement.close s.connection.server).2.openStatements + (base + statement.openCount) =
    s.connection.server.openStatements + base
  omega

/-! ## Keeping and replacing -/

/-- A cursor that has left its name is closed, and with it its statement leaves the account. -/
theorem Accounted.giveBack {c : Cursor Statement} {cursors : Named (Cursor Statement)}
    (owns : OwnsOpen c) (acc : Accounted (base + holds c) { s with cursors := cursors }) :
    Accounted base { (s.closeCursor c).2 with cursors := cursors } := by
  have counted : openStatements s = base + holds c + held { s with cursors := cursors } :=
    acc.counted
  have lowered := closeCursor_openStatements owns (s := s) (by omega)
  rw [Session.closeCursor_eq]
  refine acc.connection ?_
  show openStatements (s.closeCursor c).2 + (base + holds c) = openStatements s + base
  omega

/-- Keeping a cursor takes what it holds into the account; the one that had its name is closed. -/
theorem Accounted.putCursor {c : Cursor Statement} (owns : OwnsOpen c)
    (acc : Accounted (base + holds c) s) : Accounted base (s.putCursor name c) := by
  unfold Session.putCursor
  cases found : s.cursors.lookup name with
  | none =>
    refine acc.keepCursor owns ?_
    rw [holding, found]
    rfl
  | some old =>
    -- the new cursor is put first: closing the old one needs its statement outside the session
    have kept : Accounted (base + holds old) { s with cursors := s.cursors.put name c } := by
      refine acc.keepCursor owns ?_
      rw [holding, found]
      show base + holds old + holds c = base + holds c + holds old
      omega
    dsimp only
    rw [Session.closeCursor_cursors]
    exact kept.giveBack (acc.owned.of_lookup found)

/-- The same for a statement. -/
theorem Accounted.putStatement {statement : Statement}
    (acc : Accounted (base + statement.openCount) s) :
    Accounted base (s.putStatement name statement) := by
  unfold Session.putStatement
  cases found : s.statements.lookup name with
  | none =>
    refine acc.keepStatement ?_
    rw [found]
    rfl
  | some old =>
    have kept : Accounted (base + old.openCount)
        { s with statements := s.statements.put name statement } := by
      refine acc.keepStatement ?_
      rw [found]
      show base + old.openCount + statement.openCount = base + statement.openCount + old.openCount
      omega
    exact kept.release

theorem Accounted.putSource (acc : Accounted base s) (source : RowSource) :
    Accounted base (s.putSource name source) :=
  ⟨acc.statementNames, acc.cursorNames, acc.owned, acc.counted⟩

/-- An operation that leaves the count alone leaves the account alone. -/
theorem Accounted.perform {α : Type} (acc : Accounted base s)
    {m : StateM (Connection Server) α}
    (same : (m s.connection).2.server.openStatements = s.connection.server.openStatements) :
    Accounted base (s.perform m).2 :=
  acc.connection (congrArg (· + base) same)

theorem Accounted.streams (acc : Accounted base s) (streams : Streams) :
    Accounted base { s with connection := { s.connection with streams := streams } } :=
  acc.connection rfl

theorem Accounted.server (acc : Accounted base s) {server : Server}
    (same : server.openStatements = s.connection.server.openStatements) :
    Accounted base { s with connection := { s.connection with server := server } } :=
  acc.connection (congrArg (· + base) same)

/-- Putting back a cursor that holds as much as the one that had its name. -/
theorem Accounted.replaceCursor (acc : Accounted base s) {c c' : Cursor Statement}
    (found : s.cursors.lookup name = some c) (owns : OwnsOpen c') (same : holds c' = holds c) :
    Accounted base { s with cursors := s.cursors.put name c' } := by
  refine acc.keepCursor owns ?_
  rw [holding, found, same]
  rfl

/-- Putting back a statement that is open if the one that had its name was open. -/
theorem Accounted.replaceStatement (acc : Accounted base s) {statement statement' : Statement}
    (found : s.statements.lookup name = some statement)
    (same : statement'.closed = statement.closed) :
    Accounted base { s with statements := s.statements.put name statement' } := by
  refine acc.keepStatement ?_
  show base + statement'.openCount = base + (s.statements.lookup name).elim 0 Statement.openCount
  rw [found, Statement.openCount, same]
  rfl

theorem Accounted.withCursor (acc : Accounted base s)
    {f : Cursor Statement → Answer × Session Server Statement}
    (keeps : ∀ c, s.cursors.lookup name = some c → Accounted base (f c).2) :
    Accounted base (s.withCursor name f).2 := by
  unfold Session.withCursor
  split
  · exact keeps _ ‹_›
  · exact acc

theorem Accounted.withStatement (acc : Accounted base s)
    {f : Statement → Answer × Session Server Statement}
    (keeps : ∀ statement, s.statements.lookup name = some statement →
      Accounted base (f statement).2) :
    Accounted base (s.withStatement name f).2 := by
  unfold Session.withStatement
  split
  · exact keeps _ ‹_›
  · exact acc

theorem Accounted.withSource (acc : Accounted base s)
    {f : RowSource → Answer × Session Server Statement}
    (keeps : ∀ source, Accounted base (f source).2) :
    Accounted base (s.withSource name f).2 := by
  unfold Session.withSource
  split
  · exact keeps _
  · exact acc

/-! ## Steps -/

/-- Every command keeps the account. -/
theorem Accounted.step (acc : Accounted base s) (command : Command) :
    Accounted base (s.step command).2 := by
  cases command with
  | select name template values groups =>
    have opens := select_opens s.dao template values s.connection groups
    rw [Session.step, Session.perform]
    rcases ran : (s.dao.select template values groups : Access Server (Cursor Statement))
      s.connection with ⟨_ | c, connection⟩
    · rw [ran] at opens
      exact acc.connection (congrArg (· + base) opens)
    · rw [ran] at opens
      obtain ⟨⟨statement, owned, isOpen⟩, unopened, raised⟩ := opens
      have owns : OwnsOpen c := OwnsOpen.of_unopened owned isOpen unopened
      -- between the query and the name, its cursor is counted but nobody in the session holds it
      refine Accounted.putCursor owns (acc.connection ?_)
      rw [holds_of_statement owns owned, Statement.openCount_of_open isOpen, raised, openStatements]
      omega
  | update template values conditions groups =>
    have same := update_openStatements s.dao template (values ++ conditions) s.connection groups
    exact acc.perform same
  | insert template values fields =>
    exact acc.perform (insert_openStatements s.dao template values s.connection fields)
  | insertOne template values fields =>
    exact acc.perform (insertOne_openStatements s.dao template values s.connection fields)
  | rows name columns rows allowNulls =>
    exact Accounted.putCursor (OwnsOpen.of_no_statement rfl) acc
  | advance name =>
    refine acc.withCursor fun c found => ?_
    exact acc.replaceCursor found (acc.owned.of_lookup found).advance (holds_advance c)
  | read name reading => exact acc.withCursor fun c _ => acc.streams _
  | closeCursor name =>
    refine acc.withCursor fun c found => ?_
    have owns := acc.owned.of_lookup found
    have kept : Accounted (base + holds c)
        { s with cursors := s.cursors.put name (s.closeCursor c).1 } := by
      refine acc.keepCursor (closeCursor_closed s c).1 ?_
      rw [holding, found, (closeCursor_closed s c).2]
      rfl
    dsimp only
    rw [Session.closeCursor_cursors]
    exact kept.giveBack owns
  | dropCursor name =>
    rw [Session.step]
    cases found : s.cursors.lookup name with
    | none => exact acc
    | some c =>
      have forgotten : Accounted (base + holds c) { s with cursors := s.cursors.erase name } := by
        refine acc.forgetCursor ?_
        rw [holding, found]
        rfl
      dsimp only
      rw [Session.closeCursor_cursors]
      exact forgotten.giveBack (acc.owned.of_lookup found)
  | prepare name sql keys =>
    have raised : Accounted (base + (Statement.prepared sql keys).openCount)
        (s.perform (Access.ofServer (Database.prepare sql keys : ServerM Server Statement))).2 := by
      refine acc.connection ?_
      show openStatements s + 1 + base = openStatements s + (base + 1)
      omega
    exact raised.putStatement
  | set name position value =>
    refine acc.withStatement fun statement found => ?_
    rw [Session.perform, Access.ofStreams]
    rcases ran : Database.set Server statement position value s.connection.streams with
      ⟨_ | statement', streams⟩
    · exact acc.streams streams
    · exact (acc.streams streams).replaceStatement found (Statement.closed_of_set ran)
  | bindAll name values =>
    refine acc.withStatement fun statement found => ?_
    have kept := closed_bindAll s.dao.registry values statement s.connection.streams
    exact (acc.streams _).replaceStatement found kept
  | query name rows =>
    refine acc.withStatement fun statement _ => ?_
    have same := query_openStatements statement s.connection.server
    rw [Session.perform, Access.ofServer]
    rcases ran : Database.query statement s.connection.server with ⟨_ | source, server⟩
    · rw [ran] at same
      exact acc.server same
    · rw [ran] at same
      exact (acc.server same).putSource source
  | execute name =>
    refine acc.withStatement fun statement found => ?_
    obtain ⟨same, kept⟩ := execute_keeps_open statement s.connection.server
    rw [Session.perform, Access.ofServer]
    rcases ran : Database.update statement s.connection.server with
      ⟨_ | ⟨count, statement'⟩, server⟩
    · rw [ran] at same
      exact acc.server same
    · rw [ran] at same kept
      exact (acc.server same).replaceStatement found (kept count statement' rfl)
  | identities name rows =>
    refine acc.withStatement fun statement found => ?_
    have kept : Accounted base { s with
        statements := s.statements.put name (Database.identities Server statement).2 } :=
      acc.replaceStatement found rfl
    dsimp only
    split
    · exact kept.putSource _
    · exact kept
  | closeStatement name =>
    refine acc.withStatement fun statement found => ?_
    have kept : Accounted (base + statement.openCount)
        { s with statements := s.statements.put name (statement.close s.connection.server).1 } := by
      refine acc.keepStatement ?_
      rw [found, Statement.openCount_of_closed (statement.closed_close _)]
      rfl
    exact kept.release
  | dropStatement name =>
    rw [Session.step]
    cases found : s.statements.lookup name with
    | none => exact acc
    | some statement =>
      have forgotten : Accounted (base + statement.openCount)
          { s with statements := s.statements.erase name } := by
        refine acc.forgetStatement ?_
        rw [found]
        rfl
      exact forgotten.release
  | source name columns rows => exact acc.putSource _
  | next name => exact acc.withSource fun source => acc.putSource _
  | cell name i => exact acc.withSource fun _ => acc
  | closeSource name => exact acc.withSource fun source => acc.putSource _

/-- So does every run. -/
theorem Accounted.run (acc : Accounted base s) (commands : List Command) :
    Accounted base (s.run commands).2 := by
  induction commands generalizing s with
  | nil => exact acc
  | cons command commands ih => exact ih (acc.step command)

/-- A session that has just started holds nothing. -/
theorem Accounted.start (connection : Connection Server) (dao : Dao) :
    Accounted connection.server.openStatements (Session.start connection dao) :=
  ⟨List.nodup_nil, List.nodup_nil, Named.All.nil, rfl⟩

/-! ## What is held was counted -/

theorem Accounted.holding_le (acc : Accounted base s) (name : String) :
    holding name s ≤ openStatements s := by
  have counted := acc.counted
  have taken := held_eraseCursor acc.cursorNames name
  omega

theorem Accounted.openCount_le (acc : Accounted base s) {statement : Statement}
    (found : s.statements.lookup name = some statement) :
    statement.openCount ≤ openStatements s := by
  have counted := acc.counted
  have taken := held_eraseStatement acc.statementNames name
  rw [found, Option.elim_some] at taken
  omega

/-! ## Giving a cursor back -/

theorem putCursor_openStatements {c : Cursor Statement} (owned : Named.All OwnsOpen s.cursors)
    (counted : holding name s ≤ openStatements s) :
    openStatements (s.putCursor name c) + holding name s = openStatements s := by
  unfold Session.putCursor
  cases found : s.cursors.lookup name with
  | none =>
    rw [holding, found]
    rfl
  | some old =>
    rw [holding, found] at counted ⊢
    exact closeCursor_openStatements (owned.of_lookup found) counted

theorem holding_put (s : Session Server Statement) (name : String) (c : Cursor Statement) :
    holding name { s with cursors := s.cursors.put name c } = holds c := by
  rw [holding, Named.lookup_put_self]
  rfl

theorem holding_erase (s : Session Server Statement) (name : String) :
    holding name { s with cursors := s.cursors.erase name } = 0 := by
  rw [holding, Named.lookup_erase_self]
  rfl

/-- A successful query raises the count by one for its cursor; the cursor that had the name
before gives back what it has held. A failed one leaves the count alone. -/
theorem Accounted.select_step (acc : Accounted base s) (template : String) (values : List Value)
    (groups : List (List Value)) :
    (∃ e, (s.step (.select name template values groups)).1 = .failed e ∧
      openStatements (s.step (.select name template values groups)).2 = openStatements s) ∨
    (∃ width, (s.step (.select name template values groups)).1 = .width width ∧
      openStatements (s.step (.select name template values groups)).2 + holding name s =
        openStatements s + 1 ∧
      holding name (s.step (.select name template values groups)).2 = 1) := by
  have opens := select_opens s.dao template values s.connection groups
  rw [Session.step, Session.perform]
  rcases ran : (s.dao.select template values groups : Access Server (Cursor Statement))
    s.connection with ⟨e | c, connection⟩
  · rw [ran] at opens
    exact Or.inl ⟨e, rfl, opens⟩
  · rw [ran] at opens
    obtain ⟨⟨statement, owned, isOpen⟩, unopened, raised⟩ := opens
    refine Or.inr ⟨c.columns.length, rfl, ?_, ?_⟩
    · have counted := acc.holding_le name
      rw [openStatements] at counted
      have fits : holding name { s with connection := connection } ≤
          openStatements { s with connection := connection } := by
        show holding name s ≤ connection.server.openStatements
        omega
      have replaced := putCursor_openStatements (s := { s with connection := connection })
        (c := c) acc.owned fits
      exact replaced.trans raised
    · have owns : OwnsOpen c := OwnsOpen.of_unopened owned isOpen unopened
      show holding name (Session.putCursor { s with connection := connection } name c) = 1
      rw [holding, Session.putCursor_cursors, Named.lookup_put_self]
      exact (holds_of_statement owns owned).trans (Statement.openCount_of_open isOpen)

/-- Giving a cursor back takes away from the count what the cursor holds. -/
theorem Accounted.release_step (acc : Accounted base s) {command : Command}
    (releases : command.releasesCursor name = true) :
    openStatements (s.step command).2 + holding name s = openStatements s := by
  have counted := acc.holding_le name
  cases command with
  | closeCursor used =>
    obtain rfl := beq_iff_eq.1 releases
    rw [Session.step, Session.withCursor]
    cases found : s.cursors.lookup used with
    | none =>
      rw [holding, found]
      rfl
    | some c =>
      rw [holding, found] at counted ⊢
      exact closeCursor_openStatements (acc.owned.of_lookup found) counted
  | dropCursor used =>
    obtain rfl := beq_iff_eq.1 releases
    rw [Session.step]
    cases found : s.cursors.lookup used with
    | none =>
      rw [holding, found]
      rfl
    | some c =>
      rw [holding, found] at counted ⊢
      exact closeCursor_openStatements (acc.owned.of_lookup found) counted
  | _ => cases releases

/-- A cursor that was given back holds nothing any more, and what any other cursor holds changes
only when a new one is made under its name. -/
theorem holding_step {command : Command} (made : command.makesCursor name = false) :
    holding name (s.step command).2 =
      if command.releasesCursor name then 0 else holding name s := by
  by_cases about : command.cursor = some name
  · cases command with
    | select | rows =>
      cases about
      rw [Command.makesCursor, beq_self_eq_true] at made
      cases made
    | advance used =>
      cases about
      rw [Session.step, Session.withCursor]
      cases found : s.cursors.lookup name with
      | none => rfl
      | some c =>
        show holding name { s with cursors := s.cursors.put name c.advance.2 } = holding name s
        rw [holding_put, holds_advance, holding, found]
        rfl
    | closeCursor used =>
      cases about
      rw [Command.releasesCursor, beq_self_eq_true, if_pos rfl, Session.step, Session.withCursor]
      cases found : s.cursors.lookup name with
      | none =>
        rw [holding, found]
        rfl
      | some c => exact (holding_put (s.closeCursor c).2 name _).trans (closeCursor_closed s c).2
    | dropCursor used =>
      cases about
      rw [Command.releasesCursor, beq_self_eq_true, if_pos rfl, Session.step]
      cases found : s.cursors.lookup name with
      | none =>
        rw [holding, found]
        rfl
      | some c => exact holding_erase (s.closeCursor c).2 name
    | _ => cases about
  · have keeps : command.releasesCursor name = false :=
      Bool.eq_false_iff.2 fun releases => about (Command.cursor_of_releasesCursor releases)
    rw [keeps, holding, s.lookup_step_of_ne about]
    rfl

/-- By how much the count goes down in those steps of a run that give the cursor of a name back. -/
def givenBack (name : String) (s : Session Server Statement) : List Command → Int
  | [] => 0
  | command :: commands =>
    (if command.releasesCursor name then
      (openStatements s : Int) - openStatements (s.step command).2 else 0) +
    givenBack name (s.step command).2 commands

/-- However often and whenever a cursor is given back, what it holds is given back once. -/
theorem Accounted.givenBack_eq (acc : Accounted base s) {commands : List Command}
    (made : ∀ command ∈ commands, command.makesCursor name = false) :
    givenBack name s commands =
      if commands.any (·.releasesCursor name) then (holding name s : Int) else 0 := by
  induction commands generalizing s with
  | nil => rfl
  | cons command commands ih =>
    have here := made command List.mem_cons_self
    have later := ih (acc.step command) fun command mem => made command (List.mem_cons_of_mem _ mem)
    have kept := holding_step (s := s) here
    rw [givenBack, later, List.any_cons]
    cases releases : command.releasesCursor name with
    | true =>
      have lowered := acc.release_step releases
      -- from here on the name holds nothing, so the rest of the run adds zero either way
      rw [releases, if_pos rfl] at kept
      rw [kept, Bool.true_or, if_pos rfl, if_pos rfl, ← lowered]
      split
      · omega
      · omega
    | false =>
      rw [releases, if_neg nofun] at kept
      rw [kept, Bool.false_or, if_neg nofun, Int.zero_add]

/-- **No statement leaks, and none is given back twice.** A session starts on a connection and does
any commands, some of which may have failed anywhere. Then:

* The count is what it was at the start, and one more for each statement that is not closed and
  each cursor that is not closed and owns one, all under names of their own.
* Whatever is still held was counted. A count that is lowered at zero would be off by a whole
  machine word from then on, so this and the exact count say that none ever is.
* A query that fails leaves the count alone. One that succeeds raises it by one, for the cursor it
  keeps; a cursor that loses its name to it gives back what it has held in the same step.
* An update or an insert leaves the count alone, whether it fails or not.
* Closing a cursor or giving it up lowers the count by what the cursor holds. All such steps
  together, among whatever else is done until a new cursor gets the name, lower it by that once. -/
theorem openStatements_accounted (connection : Connection Server) (dao : Dao)
    (commands : List Command) :
    let s : Session Server Statement := ((Session.start connection dao).run commands).2
    (Named.Distinct s.statements ∧ Named.Distinct s.cursors ∧
      openStatements s = connection.server.openStatements + held s) ∧
    (∀ name statement, s.statements.lookup name = some statement →
      statement.openCount ≤ openStatements s) ∧
    (∀ name, holding name s ≤ openStatements s) ∧
    (∀ name template values groups,
      (∃ e, (s.step (.select name template values groups)).1 = .failed e ∧
        openStatements (s.step (.select name template values groups)).2 = openStatements s) ∨
      (∃ width, (s.step (.select name template values groups)).1 = .width width ∧
        openStatements (s.step (.select name template values groups)).2 + holding name s =
          openStatements s + 1 ∧
        holding name (s.step (.select name template values groups)).2 = 1)) ∧
    (∀ template values conditions groups,
      openStatements (s.step (.update template values conditions groups)).2 = openStatements s) ∧
    (∀ template values fields,
      openStatements (s.step (.insert template values fields)).2 = openStatements s ∧
      openStatements (s.step (.insertOne template values fields)).2 = openStatements s) ∧
    (∀ name command, Command.releasesCursor name command = true →
      openStatements (s.step command).2 + holding name s = openStatements s) ∧
    (∀ name later, (∀ command ∈ later, Command.makesCursor name command = false) →
      givenBack name s later =
        if later.any (·.releasesCursor name) then (holding name s : Int) else 0) := by
  intro s
  have acc : Accounted connection.server.openStatements s :=
    (Accounted.start connection dao).run commands
  refine ⟨⟨acc.statementNames, acc.cursorNames, acc.counted⟩, ?_, ?_, ?_, ?_, ?_, ?_, ?_⟩
  · intro name statement found
    exact acc.openCount_le found
  · exact acc.holding_le
  · intro name template values groups
    exact acc.select_step template values groups
  · intro template values conditions groups
    exact update_openStatements s.dao template (values ++ conditions) s.connection groups
  · intro template values fields
    exact ⟨insert_openStatements s.dao template values s.connection fields,
      insertOne_openStatements s.dao template values s.connection fields⟩
  · intro name command releases
    exact acc.release_step releases
  · intro name later made
    exact acc.givenBack_eq made

end SqlAccess.Memory
