/-!
# Constraint tags

A tag states one constraint of a column. Tags of one group exclude each other.
-/

namespace PreparedSql

inductive Tag where
  | nullable
  | notNull
  | primaryKey
  | autoIncrement
  | unique
  deriving DecidableEq

namespace Tag

def keyword : Tag → String
  | nullable => "NULL"
  | notNull => "NOT NULL"
  | primaryKey => "PRIMARY KEY"
  | autoIncrement => "AUTO_INCREMENT"
  | unique => "UNIQUE"

inductive Group where
  | nullability
  | primaryKey
  | autoIncrement
  | unique
  deriving DecidableEq

def group : Tag → Group
  | nullable | notNull => .nullability
  | primaryKey => .primaryKey
  | autoIncrement => .autoIncrement
  | unique => .unique

end Tag

end PreparedSql
