import SqlAccess.Dao
import SqlAccess.Proofs.Outcome

/-!
# What an operation does to its connection

Every operation of the data access object is a chain of calls, each of which may end it. The
equations of this module write the chain out on one connection, for every kind of server: which
calls are made, in which order, what each failure closes, and which parts of the connection
change. Whoever asks what an operation does to a server starts from them.

* `prepare_run`, `select_run`, `update_run`, `insert_run` and `insertOne_run`: one equation for
  each operation, in terms of the calls of the `Database`.
-/

namespace SqlAccess

namespace Dao

variable {σ S : Type} [Database σ S]

theorem release_run (statement : S) (c : Connection σ) :
    (release statement : Access σ Unit) c =
      (.ok (), { c with server := (Database.close (σ := σ) statement c.server).2 }) := rfl

/-- Preparing: nothing is prepared if the template does not fit its values, and a statement whose
values are refused is closed again. -/
theorem prepare_run (dao : Dao) (template : String) (values : List Value)
    (groups : List (List Value)) (keys : Keys) (c : Connection σ) :
    (dao.prepare template values groups keys : Access σ S) c =
      match Template.rewrite template values groups with
      | .error e => (.error (.template e), c)
      | .ok query =>
        match (Database.prepare query.sql keys : ServerM σ S) c.server with
        | (.error e, server) => (.error e, { c with server := server })
        | (.ok statement, server) =>
          match Binding.bindAll dao.registry (Database.set σ) query.values statement c.streams with
          | ((.ok (), statement), streams) => (.ok statement, ⟨streams, server⟩)
          | ((.error e, statement), streams) =>
            (.error e, ⟨streams, (Database.close statement server).2⟩) := by
  rw [prepare, bind_run]
  cases Template.rewrite template values groups with
  | error e => rfl
  | ok query =>
    have rewritten : (Access.ofOutcome ((Except.ok query).mapError .template) : Access σ _) c =
      (.ok query, c) := rfl
    rw [rewritten]
    simp only
    rw [bind_run]
    simp only [Access.ofServer]
    rcases (Database.prepare query.sql keys : ServerM σ S) c.server with ⟨_ | statement, server⟩
    · rfl
    · simp only
      rw [bind_run]
      simp only [Access.settle, Access.ofStreams]
      rcases Binding.bindAll dao.registry (Database.set σ) query.values statement c.streams with
        ⟨⟨_ | _, statement'⟩, streams⟩
      · rfl
      · rfl

/-- Selecting: the statement goes to the cursor, or is closed if the query fails. -/
theorem select_run (dao : Dao) (template : String) (values : List Value)
    (groups : List (List Value)) (c : Connection σ) :
    (dao.select template values groups : Access σ (Cursor S)) c =
      match (dao.prepare template values groups .none : Access σ S) c with
      | (.error e, c) => (.error e, c)
      | (.ok statement, c) =>
        match Database.query statement c.server with
        | (.error e, server) =>
          (.error e, { c with server := (Database.close statement server).2 })
        | (.ok source, server) =>
          (.ok (.ofSource source (some statement) dao.registry (!dao.features.nullResultsDisabled)),
            { c with server := server }) := by
  rw [select, bind_run]
  rcases (dao.prepare template values groups .none : Access σ S) c with ⟨_ | statement, c⟩
  · rfl
  · simp only
    rw [bind_run]
    simp only [Access.settle, Access.ofServer]
    rcases Database.query statement c.server with ⟨_ | source, server⟩
    · rfl
    · rfl

/-- Updating: the statement is closed at the end, whether the update fails or not. -/
theorem update_run (dao : Dao) (template : String) (values : List Value)
    (groups : List (List Value)) (c : Connection σ) :
    (dao.update template values groups : Access σ Nat) c =
      match (dao.prepare template values groups .none : Access σ S) c with
      | (.error e, c) => (.error e, c)
      | (.ok statement, c) =>
        match Database.update statement c.server with
        | (.error e, server) =>
          (.error e, { c with server := (Database.close statement server).2 })
        | (.ok (count, statement), server) =>
          (.ok count, { c with server := (Database.close statement server).2 }) := by
  rw [update, bind_run]
  rcases (dao.prepare template values groups .none : Access σ S) c with ⟨_ | statement, c⟩
  · rfl
  · simp only
    rw [bind_run]
    simp only [Access.settle, Access.ofServer]
    rcases Database.update statement c.server with ⟨_ | ⟨count, statement⟩, server⟩
    · rfl
    · rfl

/-- Inserting: identities are taken from the statement before it is closed, and read after. -/
theorem insert_run (dao : Dao) (template : String) (values : List Value) (fields : List String)
    (c : Connection σ) :
    (dao.insert template values fields : Access σ InsertResult) c =
      match (dao.prepare template values [] (dao.keys fields) : Access σ S) c with
      | (.error e, c) => (.error e, c)
      | (.ok statement, c) =>
        match Database.update statement c.server with
        | (.error e, server) =>
          (.error e, { c with server := (Database.close statement server).2 })
        | (.ok (count, statement), server) =>
          if (dao.keys fields).isRequested then
            ((collect (Database.identities σ statement).1).map fun ids => ⟨count, some ids⟩,
              { c with
                server := (Database.close (Database.identities σ statement).2 server).2 })
          else
            (.ok ⟨count, none⟩, { c with server := (Database.close statement server).2 }) := by
  rw [insert, bind_run]
  rcases (dao.prepare template values [] (dao.keys fields) : Access σ S) c with ⟨_ | statement, c⟩
  · rfl
  · simp only
    rw [bind_run]
    simp only [Access.settle, Access.ofServer]
    rcases Database.update statement c.server with ⟨_ | ⟨count, statement⟩, server⟩
    · rfl
    · simp only
      split
      · rw [bind_run, release_run]
        simp only
        rw [bind_run]
        simp only [Access.ofOutcome]
        cases collect (Database.identities σ statement).1 with
        | error e => rfl
        | ok ids => rfl
      · rfl

/-- The number of an insert: only reading an identity can touch the connection after the
insert, and that only its streams. -/
theorem insertOne_run (dao : Dao) (template : String) (values : List Value)
    (fields : List String) (c : Connection σ) :
    (dao.insertOne template values fields : Access σ (Signed 64)) c =
      match (dao.insert template values fields : Access σ InsertResult) c with
      | (.error e, c) => (.error e, c)
      | (.ok result, c) =>
        match result.identities with
        | none => (.ok (.clamp 64 result.count), c)
        | some identities =>
          if identities.entries.isEmpty then (.ok (.clamp 64 (-1)), c)
          else
            ((identities.asInteger dao.registry 0 c.streams).1,
              { c with streams := (identities.asInteger dao.registry 0 c.streams).2 }) := by
  rw [insertOne, bind_run]
  rcases (dao.insert template values fields : Access σ InsertResult) c with ⟨_ | result, c⟩
  · rfl
  · simp only
    cases result.identities with
    | none => rfl
    | some identities =>
      simp only
      split
      · rfl
      · rfl

end Dao

end SqlAccess
