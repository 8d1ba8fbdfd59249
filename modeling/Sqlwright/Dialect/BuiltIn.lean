import Sqlwright.Dialect.Basic

/-!
The databases that are known from the start: MySQL, PostgreSQL, SQLite, SQL Server, Oracle and
Firebird.
-/

namespace Sqlwright.Dialect

def commonTypes : ColumnType → TypeName
  | .int => ⟨"INT", none⟩
  | .tinyint => ⟨"TINYINT", none⟩
  | .smallint => ⟨"SMALLINT", none⟩
  | .mediumint => ⟨"MEDIUMINT", none⟩
  | .bigint => ⟨"BIGINT", none⟩
  | .char => ⟨"CHAR", some (.count 255)⟩
  | .varchar => ⟨"VARCHAR", some (.count 255)⟩
  | .text => ⟨"TEXT", none⟩
  | .mediumtext => ⟨"MEDIUMTEXT", none⟩
  | .longtext => ⟨"LONGTEXT", none⟩
  | .decimal => ⟨"DECIMAL", some (.text "8,2")⟩
  | .float => ⟨"FLOAT", none⟩
  | .double => ⟨"DOUBLE", none⟩
  | .date => ⟨"DATE", none⟩
  | .datetime => ⟨"DATETIME", none⟩
  | .timestamp => ⟨"TIMESTAMP", none⟩
  | .time => ⟨"TIME", none⟩
  | .year => ⟨"YEAR", none⟩
  | .boolean => ⟨"BOOLEAN", none⟩
  | .json => ⟨"JSON", none⟩
  | .blob => ⟨"BLOB", none⟩
  | .longblob => ⟨"LONGBLOB", none⟩
  | .enum => ⟨"ENUM", none⟩
  | .set => ⟨"SET", none⟩
  | .geometry => ⟨"GEOMETRY", none⟩
  | .point => ⟨"POINT", none⟩
  | .linestring => ⟨"LINESTRING", none⟩
  | .polygon => ⟨"POLYGON", none⟩
  | .multipoint => ⟨"MULTIPOINT", none⟩
  | .multilinestring => ⟨"MULTILINESTRING", none⟩
  | .multipolygon => ⟨"MULTIPOLYGON", none⟩

def mysql : Dialect where
  name := "mysql"
  aliases := ["mariadb"]
  quotes := ⟨"\x60", "\x60"⟩
  trueLiteral := "1"
  falseLiteral := "0"
  autoIncrement := "AUTO_INCREMENT"
  pagination := .limitOffset
  capabilities :=
    [.unsigned, .tableOptions, .columnComments, .dropIfExists, .alterConstraints, .explicitNull,
      .backslashEscapes]
  types := commonTypes
  enumStyle := .native
  setStyle := .native
  parameterStyle := .format
  renameTemplate := some "RENAME TABLE \x7bold\x7d TO \x7bnew\x7d;"
  catalog := some
    { tableExists := "SELECT COUNT(*) FROM information_schema.tables " ++
        "WHERE table_schema = DATABASE() AND table_name = ?"
      columnExists := "SELECT COUNT(*) FROM information_schema.columns " ++
        "WHERE table_schema = DATABASE() AND table_name = ? AND column_name = ?"
      columns := "SELECT column_name, column_type, is_nullable, column_default " ++
        "FROM information_schema.columns " ++
        "WHERE table_schema = DATABASE() AND table_name = ? ORDER BY ordinal_position" }

def pgsqlTypes : ColumnType → TypeName
  | .int => ⟨"INTEGER", none⟩
  | .tinyint => ⟨"SMALLINT", none⟩
  | .mediumint => ⟨"INTEGER", none⟩
  | .mediumtext => ⟨"TEXT", none⟩
  | .longtext => ⟨"TEXT", none⟩
  | .float => ⟨"REAL", none⟩
  | .double => ⟨"DOUBLE PRECISION", none⟩
  | .datetime => ⟨"TIMESTAMP", none⟩
  | .year => ⟨"SMALLINT", none⟩
  | .json => ⟨"JSONB", none⟩
  | .blob => ⟨"BYTEA", none⟩
  | .longblob => ⟨"BYTEA", none⟩
  | .enum => ⟨"TEXT", none⟩
  | .set => ⟨"TEXT[]", none⟩
  | .point => ⟨"GEOMETRY(POINT)", none⟩
  | .linestring => ⟨"GEOMETRY(LINESTRING)", none⟩
  | .polygon => ⟨"GEOMETRY(POLYGON)", none⟩
  | .multipoint => ⟨"GEOMETRY(MULTIPOINT)", none⟩
  | .multilinestring => ⟨"GEOMETRY(MULTILINESTRING)", none⟩
  | .multipolygon => ⟨"GEOMETRY(MULTIPOLYGON)", none⟩
  | other => commonTypes other

/-- PostgreSQL's types for counting columns. They carry the sequence, so that no keyword is
needed. -/
def pgsqlSerialTypes : ColumnType → Option String
  | .int | .mediumint => some "SERIAL"
  | .tinyint | .smallint => some "SMALLSERIAL"
  | .bigint => some "BIGSERIAL"
  | _ => none

def pgsql : Dialect where
  name := "pgsql"
  aliases := ["postgres", "postgresql", "psql"]
  quotes := ⟨"\"", "\""⟩
  trueLiteral := "TRUE"
  falseLiteral := "FALSE"
  autoIncrement := ""
  pagination := .limitOffset
  capabilities := [.dropIfExists, .indexIfNotExists, .alterConstraints, .explicitNull]
  types := pgsqlTypes
  enumStyle := .inlineCheck
  setStyle := .array
  serialTypes := pgsqlSerialTypes
  parameterStyle := .format
  catalog := some
    { tableExists := "SELECT COUNT(*) FROM information_schema.tables " ++
        "WHERE table_schema = current_schema() AND table_name = ?"
      columnExists := "SELECT COUNT(*) FROM information_schema.columns " ++
        "WHERE table_schema = current_schema() AND table_name = ? AND column_name = ?"
      columns := "SELECT column_name, data_type, is_nullable, column_default " ++
        "FROM information_schema.columns " ++
        "WHERE table_schema = current_schema() AND table_name = ? ORDER BY ordinal_position" }

def sqliteTypes : ColumnType → TypeName
  | .int | .tinyint | .smallint | .mediumint | .bigint | .year | .boolean => ⟨"INTEGER", none⟩
  | .mediumtext | .longtext | .json | .enum | .set => ⟨"TEXT", none⟩
  | .decimal => ⟨"NUMERIC", none⟩
  | .float | .double => ⟨"REAL", none⟩
  | .longblob | .geometry | .point | .linestring | .polygon | .multipoint | .multilinestring
  | .multipolygon => ⟨"BLOB", none⟩
  | other => commonTypes other

/-- SQLite. An INTEGER PRIMARY KEY stands for the row number and so counts by itself. -/
def sqlite : Dialect where
  name := "sqlite"
  aliases := ["sqlite3"]
  quotes := ⟨"\"", "\""⟩
  trueLiteral := "1"
  falseLiteral := "0"
  autoIncrement := ""
  pagination := .limitOffset
  capabilities := [.dropIfExists, .indexIfNotExists, .explicitNull]
  types := sqliteTypes
  enumStyle := .inlineCheck
  setStyle := .orEquals
  maxParameters := 32766
  truncateTemplate := "DELETE FROM \x7btable\x7d;"
  catalog := some
    { tableExists := "SELECT COUNT(*) FROM sqlite_master WHERE type = 'table' AND name = ?"
      columnExists := "SELECT COUNT(*) FROM pragma_table_info(?) WHERE name = ?"
      columns := "SELECT name, type, \"notnull\", dflt_value FROM pragma_table_info(?) " ++
        "ORDER BY cid" }

def sqlServerTypes : ColumnType → TypeName
  | .tinyint => ⟨"SMALLINT", none⟩
  | .mediumint => ⟨"INT", none⟩
  | .text | .mediumtext | .longtext => ⟨"VARCHAR", some (.text "MAX")⟩
  | .double => ⟨"FLOAT(53)", none⟩
  | .datetime | .timestamp => ⟨"DATETIME2", none⟩
  | .year => ⟨"SMALLINT", none⟩
  | .boolean => ⟨"BIT", none⟩
  | .json | .enum | .set => ⟨"NVARCHAR", some (.text "MAX")⟩
  | .blob | .longblob => ⟨"VARBINARY", some (.text "MAX")⟩
  | .point | .linestring | .polygon | .multipoint | .multilinestring | .multipolygon =>
    ⟨"GEOMETRY", none⟩
  | other => commonTypes other

def sqlServer : Dialect where
  name := "sqlsrv"
  aliases := ["mssql", "sqlserver"]
  quotes := ⟨"[", "]"⟩
  trueLiteral := "1"
  falseLiteral := "0"
  autoIncrement := "IDENTITY(1,1)"
  pagination := .top
  capabilities := [.alterConstraints, .explicitNull]
  types := sqlServerTypes
  enumStyle := .namedConstraint
  setStyle := .like
  createGuard := .sysobjects
  addColumn := "ADD"
  maxParameters := 2100
  maxInsertRows := some 1000
  renameTemplate := some "EXEC sp_rename \x7bold_literal\x7d, \x7bnew_literal\x7d;"
  catalog := some
    { tableExists := "SELECT COUNT(*) FROM INFORMATION_SCHEMA.TABLES WHERE TABLE_NAME = ?"
      columnExists := "SELECT COUNT(*) FROM INFORMATION_SCHEMA.COLUMNS " ++
        "WHERE TABLE_NAME = ? AND COLUMN_NAME = ?"
      columns := "SELECT COLUMN_NAME, DATA_TYPE, IS_NULLABLE, COLUMN_DEFAULT " ++
        "FROM INFORMATION_SCHEMA.COLUMNS WHERE TABLE_NAME = ? ORDER BY ORDINAL_POSITION" }

def oracleTypes : ColumnType → TypeName
  | .int | .tinyint | .smallint | .mediumint | .bigint => ⟨"NUMBER", none⟩
  | .varchar | .enum | .set => ⟨"VARCHAR2", some (.count 255)⟩
  | .text | .mediumtext | .longtext | .json => ⟨"CLOB", none⟩
  | .decimal => ⟨"NUMBER", some (.text "8,2")⟩
  | .float => ⟨"BINARY_FLOAT", none⟩
  | .double => ⟨"BINARY_DOUBLE", none⟩
  | .datetime | .time => ⟨"TIMESTAMP", none⟩
  | .year => ⟨"NUMBER", some (.count 4)⟩
  | .boolean => ⟨"NUMBER", some (.count 1)⟩
  | .longblob => ⟨"BLOB", none⟩
  | .geometry | .point | .linestring | .polygon | .multipoint | .multilinestring
  | .multipolygon => ⟨"SDO_GEOMETRY", none⟩
  | other => commonTypes other

def oracle : Dialect where
  name := "oci"
  aliases := ["oracle"]
  quotes := ⟨"\"", "\""⟩
  trueLiteral := "1"
  falseLiteral := "0"
  autoIncrement := "GENERATED BY DEFAULT AS IDENTITY"
  pagination := .offsetFetch
  capabilities := [.alterConstraints, .explicitNull]
  types := oracleTypes
  enumStyle := .namedConstraint
  setStyle := .regexp
  createGuard := .unguarded
  addColumn := "ADD"
  insertStyle := .insertAll
  parameterStyle := .numeric
  renameTemplate := some "RENAME \x7bold\x7d TO \x7bnew\x7d;"
  catalog := some
    { tableExists := "SELECT COUNT(*) FROM user_tables WHERE table_name = ?"
      columnExists := "SELECT COUNT(*) FROM user_tab_columns " ++
        "WHERE table_name = ? AND column_name = ?"
      columns := "SELECT column_name, data_type, nullable, data_default " ++
        "FROM user_tab_columns WHERE table_name = ? ORDER BY column_id" }

def firebirdTypes : ColumnType → TypeName
  | .int => ⟨"INTEGER", none⟩
  | .tinyint => ⟨"SMALLINT", none⟩
  | .mediumint => ⟨"BIGINT", none⟩
  | .text | .mediumtext | .longtext | .json => ⟨"BLOB SUB_TYPE TEXT", none⟩
  | .double => ⟨"DOUBLE PRECISION", none⟩
  | .datetime => ⟨"TIMESTAMP", none⟩
  | .year => ⟨"SMALLINT", none⟩
  | .enum | .set => ⟨"VARCHAR", some (.count 255)⟩
  | .longblob | .geometry | .point | .linestring | .polygon | .multipoint | .multilinestring
  | .multipolygon => ⟨"BLOB", none⟩
  | other => commonTypes other

def firebird : Dialect where
  name := "firebird"
  aliases := ["ibase", "interbase"]
  quotes := ⟨"\"", "\""⟩
  trueLiteral := "TRUE"
  falseLiteral := "FALSE"
  autoIncrement := "GENERATED BY DEFAULT AS IDENTITY"
  pagination := .rowsRange
  capabilities := [.alterConstraints]
  types := firebirdTypes
  enumStyle := .namedConstraint
  setStyle := .containing
  createGuard := .unguarded
  addColumn := "ADD"
  insertStyle := .single
  maxParameters := 1500
  renameTemplate := none
  truncateTemplate := "DELETE FROM \x7btable\x7d;"
  catalog := some
    { tableExists := "SELECT COUNT(*) FROM RDB$RELATIONS WHERE RDB$RELATION_NAME = ?"
      columnExists := "SELECT COUNT(*) FROM RDB$RELATION_FIELDS " ++
        "WHERE RDB$RELATION_NAME = ? AND RDB$FIELD_NAME = ?"
      columns := "SELECT RDB$FIELD_NAME, RDB$FIELD_SOURCE, RDB$NULL_FLAG, RDB$DEFAULT_SOURCE " ++
        "FROM RDB$RELATION_FIELDS WHERE RDB$RELATION_NAME = ? ORDER BY RDB$FIELD_POSITION" }

def builtIn : List Dialect := [mysql, pgsql, sqlite, sqlServer, oracle, firebird]

end Sqlwright.Dialect
