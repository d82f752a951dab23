import SqlAnalysis.Unicode.Case

/-!
# Keywords

The reserved words of the dialect together with the type names that show up in table
definitions.  A word found here is reported as a reserved keyword when the parser stops at it,
and the list is the pool from which corrections of unidentified words are taken.  The order
matters there: of two equally close candidates the first is offered, so the common statement
keywords come first.

## Main definitions

* `keywords` — the list, in upper case.
* `isKeyword` — membership up to ASCII case.
-/

namespace SqlAnalysis

open Unicode

/-- Every keyword, in upper case, common statement keywords first. -/
def keywords : List String :=
  ["SELECT", "FROM", "WHERE", "INSERT", "INTO", "VALUES", "UPDATE", "SET", "DELETE", "CREATE",
   "ALTER", "DROP", "TABLE", "DATABASE", "INDEX", "JOIN", "INNER", "LEFT", "RIGHT", "OUTER",
   "CROSS", "NATURAL", "ON", "USING", "AS", "AND", "OR", "NOT", "NULL", "IS", "IN", "LIKE",
   "BETWEEN", "EXISTS", "CASE", "WHEN", "THEN", "ELSE", "END", "GROUP", "BY", "ORDER", "ASC",
   "DESC", "HAVING", "LIMIT", "OFFSET", "UNION", "ALL", "DISTINCT", "DISTINCTROW", "USE",
   "TRUNCATE", "RENAME", "REPLACE", "PRIMARY", "FOREIGN", "KEY", "KEYS", "UNIQUE", "REFERENCES",
   "CASCADE", "CONSTRAINT", "DEFAULT", "CHECK", "AUTO_INCREMENT", "ZEROFILL", "UNSIGNED",
   "SIGNED", "CHAR", "CHARACTER", "VARCHAR", "BINARY", "VARBINARY", "TINYBLOB", "TINYTEXT",
   "TEXT", "BLOB", "MEDIUMTEXT", "MEDIUMBLOB", "LONGTEXT", "LONGBLOB", "ENUM", "BIT", "TINYINT",
   "BOOL", "BOOLEAN", "SMALLINT", "MEDIUMINT", "INT", "INTEGER", "BIGINT", "FLOAT", "DOUBLE",
   "DECIMAL", "DEC", "NUMERIC", "REAL", "DATE", "DATETIME", "TIMESTAMP", "TIME", "YEAR", "JSON",
   "ACCESSIBLE", "ADD", "ANALYZE", "ASENSITIVE", "BEFORE", "BOTH", "CALL", "CHANGE", "COLLATE",
   "COLUMN", "CONDITION", "CONTINUE", "CONVERT", "CURRENT_DATE", "CURRENT_TIME",
   "CURRENT_TIMESTAMP", "CURRENT_USER", "CURSOR", "DATABASES", "DAY_HOUR", "DAY_MICROSECOND",
   "DAY_MINUTE", "DAY_SECOND", "DECLARE", "DELAYED", "DESCRIBE", "DETERMINISTIC", "DIV", "DUAL",
   "EACH", "ELSEIF", "ENCLOSED", "ESCAPED", "EXIT", "EXPLAIN", "FALSE", "FETCH", "FLOAT4",
   "FLOAT8", "FOR", "FORCE", "FULLTEXT", "GENERATED", "GET", "GRANT", "HIGH_PRIORITY",
   "HOUR_MICROSECOND", "HOUR_MINUTE", "HOUR_SECOND", "IF", "IGNORE", "INFILE", "INOUT",
   "INSENSITIVE", "INT1", "INT2", "INT3", "INT4", "INT8", "INTERVAL", "IO_AFTER_GTIDS",
   "IO_BEFORE_GTIDS", "ITERATE", "KILL", "LEADING", "LEAVE", "LINEAR", "LINES", "LOAD",
   "LOCALTIME", "LOCALTIMESTAMP", "LOCK", "LONG", "LOOP", "LOW_PRIORITY", "MASTER_BIND",
   "MASTER_SSL_VERIFY_SERVER_CERT", "MATCH", "MAXVALUE", "MIDDLEINT", "MINUTE_MICROSECOND",
   "MINUTE_SECOND", "MOD", "MODIFIES", "NO_WRITE_TO_BINLOG", "OPTIMIZE", "OPTIMIZER_COSTS",
   "OPTION", "OPTIONALLY", "OUT", "OUTFILE", "PARTITION", "PRECISION", "PROCEDURE", "PURGE",
   "RANGE", "READ", "READS", "READ_WRITE", "REGEXP", "RELEASE", "REPEAT", "REQUIRE", "RESIGNAL",
   "RESTRICT", "RETURN", "REVOKE", "RLIKE", "SCHEMA", "SCHEMAS", "SECOND_MICROSECOND",
   "SENSITIVE", "SEPARATOR", "SHOW", "SIGNAL", "SPATIAL", "SPECIFIC", "SQL", "SQLEXCEPTION",
   "SQLSTATE", "SQLWARNING", "SQL_BIG_RESULT", "SQL_CALC_FOUND_ROWS", "SQL_SMALL_RESULT", "SSL",
   "STARTING", "STORED", "STRAIGHT_JOIN", "TERMINATED", "TO", "TRAILING", "TRIGGER", "TRUE",
   "UNDO", "UNLOCK", "USAGE", "UTC_DATE", "UTC_TIME", "UTC_TIMESTAMP", "VARCHARACTER",
   "VARYING", "VIRTUAL", "WHILE", "WITH", "WRITE", "XOR", "YEAR_MONTH"]

/-- The word is in `keywords`, up to ASCII case. -/
def isKeyword (word : String) : Bool :=
  keywords.any fun k => eqIgnoreAsciiCase k.toList word.toList

end SqlAnalysis
