import PreparedSql.Schema.Database
import PreparedSql.Session.Basic

/-!
# Creating and dropping tables

The statements of a table or a database, run in order up to the first failure.
-/

namespace PreparedSql

namespace Table

variable {M : Model}

def create (t : Table M) (σ : Session) : Except Error Unit × Session :=
  σ.runRaw t.schema

def drop (t : Table M) (σ : Session) : Except Error Unit × Session :=
  σ.runRaw t.dropStatement

def recreate (t : Table M) (σ : Session) : Except Error Unit × Session :=
  match t.drop σ with
  | (.error e, σ) => (.error e, σ)
  | (.ok (), σ) => t.create σ

end Table

namespace Database

def create (db : Database) (σ : Session) : Except Error Unit × Session :=
  σ.runAll db.createStatements

def drop (db : Database) (σ : Session) : Except Error Unit × Session :=
  σ.runAll db.dropStatements

def recreate (db : Database) (σ : Session) : Except Error Unit × Session :=
  σ.runAll db.recreateStatements

end Database

end PreparedSql
