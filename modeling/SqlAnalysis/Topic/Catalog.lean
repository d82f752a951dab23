import SqlAnalysis.Topic.Basic

/-!
# The topic catalog

The reference entries shown when the cursor rests on a keyword or a function: what it does, an
example, and where its documentation is.  Names are in upper case and the order is the order
of the list of all topics.

## Main definitions

* `topics` — the catalog.
* `topic?` — the entry of a word.
-/

namespace SqlAnalysis

open Unicode

/-- Every topic, in the order in which topics are listed. -/
def topics : List Topic :=
  [
   { name := "SELECT", kind := .keyword, category := .dml
     description :=
       "Retrieves rows from one or more tables."
     codeExample := "SELECT foo FROM bar"
     reference := ⟨"MySQL Reference",
       "https://dev.mysql.com/doc/refman/5.7/en/select.html"⟩ },
   { name := "DELETE", kind := .keyword, category := .dml
     description :=
       "Deletes rows from a table."
     codeExample := "DELETE FROM foo"
     reference := ⟨"MySQL Reference",
       "https://dev.mysql.com/doc/refman/5.7/en/delete.html"⟩ },
   { name := "CREATE", kind := .keyword, category := .ddl
     description :=
       "Creates either a database or a table."
     codeExample := "CREATE TABLE foo (\n  bar INT\n)"
     reference := ⟨"W3 Reference",
       "https://www.w3schools.com/sql/sql_ref_create.asp"⟩ },
   { name := "ALTER", kind := .keyword, category := .ddl
     description :=
       "Adds, deletes, or modifies columns in a table, or changes the data type of a column in a table."
     codeExample := "ALTER TABLE foo ADD bar INT"
     reference := ⟨"MySQL Reference",
       "https://dev.mysql.com/doc/refman/5.7/en/alter-table.html"⟩ },
   { name := "INSERT", kind := .keyword, category := .dml
     description :=
       "Inserts new rows in a table."
     codeExample := "INSERT INTO foo (bar)\nVALUES (\"baz\")"
     reference := ⟨"MySQL Reference",
       "https://dev.mysql.com/doc/refman/5.7/en/insert.html"⟩ },
   { name := "UPDATE", kind := .keyword, category := .dml
     description :=
       "Modifies existing rows in a table."
     codeExample := "UPDATE foo SET bar = \"baz\""
     reference := ⟨"MySQL Reference",
       "https://dev.mysql.com/doc/refman/5.7/en/update.html"⟩ },
   { name := "TRUNCATE", kind := .keyword, category := .ddl
     description :=
       "Deletes the data inside a table, but not the table itself."
     codeExample := "TRUNCATE TABLE foo"
     reference := ⟨"MySQL Reference",
       "https://dev.mysql.com/doc/refman/5.7/en/truncate-table.html"⟩ },
   { name := "INNER", kind := .keyword, category := .dml
     description :=
       "Returns rows that have matching values in both tables."
     codeExample := "SELECT f.id, b.slug\nFROM foo f\nINNER JOIN bar b\nON b.foo_id = f.id"
     reference := ⟨"MySQL Reference",
       "https://dev.mysql.com/doc/refman/5.7/en/join.html"⟩ },
   { name := "WHERE", kind := .keyword, category := .dml
     description :=
       "Filters a result to include only records that fulfill a specified condition."
     codeExample := "SELECT foo FROM bar\nWHERE foo = 1"
     reference := ⟨"W3 Reference",
       "https://www.w3schools.com/sql/sql_ref_where.asp"⟩ },
   { name := "FROM", kind := .keyword, category := .dml
     description :=
       "Specifies which table to select or delete data from."
     codeExample := "SELECT foo FROM bar"
     reference := ⟨"W3 Reference",
       "https://www.w3schools.com/sql/sql_ref_from.asp"⟩ },
   { name := "VALUES", kind := .keyword, category := .dml
     description :=
       "Specifies the values of an INSERT INTO statement."
     codeExample := "INSERT INTO foo (bar)\nVALUES (\"baz\")"
     reference := ⟨"W3 Reference",
       "https://www.w3schools.com/sql/sql_ref_values.asp"⟩ },
   { name := "INTO", kind := .keyword, category := .dml
     description :=
       "Used in an INSERT INTO statement."
     codeExample := "INSERT INTO foo (bar)\nVALUES (\"baz\")"
     reference := ⟨"W3 Reference",
       "https://www.w3schools.com/sql/sql_ref_insert_into.asp"⟩ },
   { name := "JOIN", kind := .keyword, category := .dml
     description :=
       "Joins tables. Can be INNER JOIN, LEFT JOIN, RIGHT JOIN, or FULL OUTER JOIN."
     codeExample := "SELECT f.id, b.slug\nFROM foo f\nINNER JOIN bar b\nON b.foo_id = f.id"
     reference := ⟨"W3 Reference",
       "https://www.w3schools.com/sql/sql_ref_join.asp"⟩ },
   { name := "IN", kind := .keyword, category := .dml
     description :=
       "Used to specify multiple values in a WHERE clause."
     codeExample := "SELECT * FROM foo\nWHERE bar IN (1, 2, 3)"
     reference := ⟨"W3 Reference",
       "https://www.w3schools.com/sql/sql_ref_in.asp"⟩ },
   { name := "OR", kind := .keyword, category := .dml
     description :=
       "Includes rows where either condition is true."
     codeExample := "SELECT * FROM foo\nWHERE bar = \"bar1\" OR bar = \"bar2\""
     reference := ⟨"W3 Reference",
       "https://www.w3schools.com/sql/sql_ref_or.asp"⟩ },
   { name := "UNIQUE", kind := .keyword, category := .ddl
     description :=
       "A constraint that ensures that all values in a column are unique."
     codeExample := "CREATE TABLE foo (\n  bar INT UNIQUE\n)"
     reference := ⟨"W3 Reference",
       "https://www.w3schools.com/sql/sql_ref_unique.asp"⟩ },
   { name := "INDEX", kind := .keyword, category := .ddl
     description :=
       "Indexes are used to retrieve data from the database very fast."
     codeExample := "CREATE INDEX foo ON bar (baz)"
     reference := ⟨"W3 Reference",
       "https://www.w3schools.com/sql/sql_ref_index.asp"⟩ },
   { name := "LIMIT", kind := .keyword, category := .ddl
     description :=
       "Specifies the number of records to return in the result set."
     codeExample := "SELECT * FROM foo LIMIT 5"
     reference := ⟨"W3 Reference",
       "https://www.w3schools.com/sql/sql_ref_top.asp"⟩ },
   { name := "CHAR", kind := .keyword, category := .ddl
     description :=
       "A fixed length string of optional size between 0 and 255. Default is 1."
     codeExample := "CREATE TABLE foo (\n  bar CHAR(10)\n)"
     reference := ⟨"MySQL Reference",
       "https://dev.mysql.com/doc/refman/5.7/en/char.html"⟩ },
   { name := "VARCHAR", kind := .keyword, category := .ddl
     description :=
       "A variable length string. Size parameter specifies maximum length between 0 and 65,535."
     codeExample := "CREATE TABLE foo (\n  bar VARCHAR(50)\n)"
     reference := ⟨"MySQL Reference",
       "https://dev.mysql.com/doc/refman/5.7/en/char.html"⟩ },
   { name := "BINARY", kind := .keyword, category := .ddl
     description :=
       "Stores fixed length binary byte strings. Size specifies column length in bytes. Default is 1."
     codeExample := "CREATE TABLE foo (\n  bar BINARY(10)\n)"
     reference := ⟨"MySQL Reference",
       "https://dev.mysql.com/doc/refman/5.7/en/binary-varbinary.html"⟩ },
   { name := "VARBINARY", kind := .keyword, category := .ddl
     description :=
       "Stores variable length binary byte strings. Size specifies maximum column length in bytes."
     codeExample := "CREATE TABLE foo (\n  bar VARBINARY(10)\n)"
     reference := ⟨"MySQL Reference",
       "https://dev.mysql.com/doc/refman/5.7/en/binary-varbinary.html"⟩ },
   { name := "TINYBLOB", kind := .keyword, category := .ddl
     description :=
       "A tiny BLOB (Binary Large Objects). Max length of 255 bytes."
     codeExample := "CREATE TABLE foo (\n  bar TINYBLOB\n)"
     reference := ⟨"MySQL Reference",
       "https://dev.mysql.com/doc/refman/5.7/en/blob.html"⟩ },
   { name := "TINYTEXT", kind := .keyword, category := .ddl
     description :=
       "Holds a string with a maximum length of 255 characters."
     codeExample := "CREATE TABLE foo (\n  bar TINYTEXT\n)"
     reference := ⟨"MySQL Reference",
       "https://dev.mysql.com/doc/refman/5.7/en/blob.html"⟩ },
   { name := "TEXT", kind := .keyword, category := .ddl
     description :=
       "Holds a string with a maximum length of 65,535 bytes."
     codeExample := "CREATE TABLE foo (\n  bar TEXT(10)\n)"
     reference := ⟨"MySQL Reference",
       "https://dev.mysql.com/doc/refman/5.7/en/blob.html"⟩ },
   { name := "BLOB", kind := .keyword, category := .ddl
     description :=
       "A BLOB (Binary Large Object). Max length of 65,535 bytes."
     codeExample := "CREATE TABLE foo (\n  bar BLOB(10)\n)"
     reference := ⟨"MySQL Reference",
       "https://dev.mysql.com/doc/refman/5.7/en/blob.html"⟩ },
   { name := "MEDIUMTEXT", kind := .keyword, category := .ddl
     description :=
       "Holds a string with a maximum length of 16,777,215 characters."
     codeExample := "CREATE TABLE foo (\n  bar MEDIUMTEXT\n)"
     reference := ⟨"MySQL Reference",
       "https://dev.mysql.com/doc/refman/5.7/en/blob.html"⟩ },
   { name := "MEDIUMBLOB", kind := .keyword, category := .ddl
     description :=
       "A BLOB (Binary Large Object). Max length of 16,777,215 bytes."
     codeExample := "CREATE TABLE foo (\n  bar MEDIUMBLOB\n)"
     reference := ⟨"MySQL Reference",
       "https://dev.mysql.com/doc/refman/5.7/en/blob.html"⟩ },
   { name := "LONGTEXT", kind := .keyword, category := .ddl
     description :=
       "Holds a string with a maximum length of 4,294,967,295 characters."
     codeExample := "CREATE TABLE foo (\n  bar LONGTEXT\n)"
     reference := ⟨"MySQL Reference",
       "https://dev.mysql.com/doc/refman/5.7/en/blob.html"⟩ },
   { name := "LONGBLOB", kind := .keyword, category := .ddl
     description :=
       "A BLOB (Binary Large Object). Max length of 4,294,967,295 bytes."
     codeExample := "CREATE TABLE foo (\n  bar LONGBLOB\n)"
     reference := ⟨"MySQL Reference",
       "https://dev.mysql.com/doc/refman/5.7/en/blob.html"⟩ },
   { name := "ENUM", kind := .keyword, category := .ddl
     description :=
       "A string object that can only have one value, chosen from a list of possible values."
     codeExample := "CREATE TABLE foo (\n  bar ENUM(\"1\", \"2\", \"3\")\n)"
     reference := ⟨"MySQL Reference",
       "https://dev.mysql.com/doc/refman/5.7/en/enum.html"⟩ },
   { name := "SET", kind := .keyword, category := .ddl
     description :=
       "A string object that can have 0 or more values, chosen from a list of possible values."
     codeExample := "CREATE TABLE foo (\n  bar SET(\"1\", \"2\", \"3\")\n)"
     reference := ⟨"MySQL Reference",
       "https://dev.mysql.com/doc/refman/5.7/en/set.html"⟩ },
   { name := "BIT", kind := .keyword, category := .ddl
     description :=
       "A bit-value type. The number of bits per value is specified in size."
     codeExample := "CREATE TABLE foo (\n  bar BIT(1)\n)"
     reference := ⟨"MySQL Reference",
       "https://dev.mysql.com/doc/refman/5.7/en/bit-type.html"⟩ },
   { name := "TINYINT", kind := .keyword, category := .ddl
     description :=
       "A very small integer. Signed range is from -128 to 127. Unsigned range is from 0 to 255."
     codeExample := "CREATE TABLE foo (\n  bar TINYINT(1)\n)"
     reference := ⟨"MySQL Reference",
       "https://dev.mysql.com/doc/refman/5.7/en/numeric-type-syntax.html"⟩ },
   { name := "BOOL", kind := .keyword, category := .ddl
     description :=
       "Zero is considered as false, nonzero values are considered as true."
     codeExample := "CREATE TABLE foo (\n  bar BOOL\n)"
     reference := ⟨"MySQL Reference",
       "https://dev.mysql.com/doc/refman/5.7/en/numeric-type-syntax.html"⟩ },
   { name := "BOOLEAN", kind := .keyword, category := .ddl
     description :=
       "Zero is considered as false, nonzero values are considered as true."
     codeExample := "CREATE TABLE foo (\n  bar BOOLEAN\n)"
     reference := ⟨"MySQL Reference",
       "https://dev.mysql.com/doc/refman/5.7/en/numeric-type-syntax.html"⟩ },
   { name := "SMALLINT", kind := .keyword, category := .ddl
     description :=
       "A small integer. Signed range is from -32768 to 32767. Unsigned range is from 0 to 65535."
     codeExample := "CREATE TABLE foo (\n  bar SMALLINT(1)\n)"
     reference := ⟨"MySQL Reference",
       "https://dev.mysql.com/doc/refman/5.7/en/numeric-type-syntax.html"⟩ },
   { name := "MEDIUMINT", kind := .keyword, category := .ddl
     description :=
       "A medium integer. Signed range is from -8388608 to 8388607. Unsigned range is from 0 to 16777215."
     codeExample := "CREATE TABLE foo (\n  bar MEDIUMINT(1)\n)"
     reference := ⟨"MySQL Reference",
       "https://dev.mysql.com/doc/refman/5.7/en/numeric-type-syntax.html"⟩ },
   { name := "INT", kind := .keyword, category := .ddl
     description :=
       "An integer. Signed range is from -2147483648 to 2147483647. Unsigned range is from 0 to 4294967295."
     codeExample := "CREATE TABLE foo (\n  bar INT(1)\n)"
     reference := ⟨"MySQL Reference",
       "https://dev.mysql.com/doc/refman/5.7/en/numeric-type-syntax.html"⟩ },
   { name := "INTEGER", kind := .keyword, category := .ddl
     description :=
       "An integer. Signed range is from -2147483648 to 2147483647. Unsigned range is from 0 to 4294967295."
     codeExample := "CREATE TABLE foo (\n  bar INTEGER(1)\n)"
     reference := ⟨"MySQL Reference",
       "https://dev.mysql.com/doc/refman/5.7/en/numeric-type-syntax.html"⟩ },
   { name := "BIGINT", kind := .keyword, category := .ddl
     description :=
       "A large integer. Signed range is from -9223372036854775808 to 9223372036854775807. Unsigned range is from 0 to 18446744073709551615."
     codeExample := "CREATE TABLE foo (\n  bar BIGINT(1)\n)"
     reference := ⟨"MySQL Reference",
       "https://dev.mysql.com/doc/refman/5.7/en/numeric-type-syntax.html"⟩ },
   { name := "FLOAT", kind := .keyword, category := .ddl
     description :=
       "A floating point number. The total number of digits is specified in size."
     codeExample := "CREATE TABLE foo (\n  bar FLOAT(1)\n)"
     reference := ⟨"MySQL Reference",
       "https://dev.mysql.com/doc/refman/5.7/en/floating-point-types.html"⟩ },
   { name := "DOUBLE", kind := .keyword, category := .ddl
     description :=
       "A normal-size floating point number. The total number of digits is specified in size."
     codeExample := "CREATE TABLE foo (\n  bar FLOAT(1)\n)"
     reference := ⟨"MySQL Reference",
       "https://dev.mysql.com/doc/refman/5.7/en/floating-point-types.html"⟩ },
   { name := "DECIMAL", kind := .keyword, category := .ddl
     description :=
       "An exact fixed-point number. The total number of digits is specified in size."
     codeExample := "CREATE TABLE foo (\n  bar DECIMAL(1)\n)"
     reference := ⟨"MySQL Reference",
       "https://dev.mysql.com/doc/refman/5.7/en/fixed-point-types.html"⟩ },
   { name := "DEC", kind := .keyword, category := .ddl
     description :=
       "An exact fixed-point number. The total number of digits is specified in size."
     codeExample := "CREATE TABLE foo (\n  bar DEC(1)\n)"
     reference := ⟨"MySQL Reference",
       "https://dev.mysql.com/doc/refman/5.7/en/fixed-point-types.html"⟩ },
   { name := "DATE", kind := .keyword, category := .ddl
     description :=
       "A date. Format: YYYY-MM-DD. The supported range is from \"1000-01-01\" to \"9999-12-31\"."
     codeExample := "CREATE TABLE foo (\n  bar DATE\n)"
     reference := ⟨"MySQL Reference",
       "https://dev.mysql.com/doc/refman/5.7/en/datetime.html"⟩ },
   { name := "DATETIME", kind := .keyword, category := .ddl
     description :=
       "A date and time combination. Format: YYYY-MM-DD hh:mm:ss. The supported range is from \"1000-01-01 00:00:00\" to \"9999-12-31 23:59:59\"."
     codeExample := "CREATE TABLE foo (\n  bar DATETIME\n)"
     reference := ⟨"MySQL Reference",
       "https://dev.mysql.com/doc/refman/5.7/en/datetime.html"⟩ },
   { name := "TIMESTAMP", kind := .keyword, category := .ddl
     description :=
       "A timestamp. TIMESTAMP values are stored as the number of seconds since the Unix epoch (\"1970-01-01 00:00:00\" UTC)."
     codeExample := "CREATE TABLE foo (\n  bar TIMESTAMP\n)"
     reference := ⟨"MySQL Reference",
       "https://dev.mysql.com/doc/refman/5.7/en/datetime.html"⟩ },
   { name := "TIME", kind := .keyword, category := .ddl
     description :=
       "A time. Format: hh:mm:ss. The supported range is from \"-838:59:59\" to \"838:59:59\""
     codeExample := "CREATE TABLE foo (\n  bar TIME\n)"
     reference := ⟨"MySQL Reference",
       "https://dev.mysql.com/doc/refman/5.7/en/time.html"⟩ },
   { name := "YEAR", kind := .keyword, category := .ddl
     description :=
       "A year in four-digit format. Values allowed in four-digit format: 1901 to 2155, and 0000."
     codeExample := "CREATE TABLE foo (\n  bar YEAR\n)"
     reference := ⟨"MySQL Reference",
       "https://dev.mysql.com/doc/refman/5.7/en/year.html"⟩ },
   { name := "JSON", kind := .keyword, category := .ddl
     description :=
       "Stores JSON documents. Do NOT use this type if you can avoid it."
     codeExample := "CREATE TABLE foo (\n  bar JSON\n)"
     reference := ⟨"MySQL Reference",
       "https://dev.mysql.com/doc/refman/5.7/en/json.html"⟩ },
   { name := "AUTO_INCREMENT", kind := .keyword, category := .ddl
     description :=
       "Generates a unique identity for new rows."
     codeExample := "CREATE TABLE foo (\n  bar INT AUTO_INCREMENT\n)"
     reference := ⟨"MySQL Reference",
       "https://dev.mysql.com/doc/refman/5.7/en/example-auto-increment.html"⟩ },
   { name := "ZEROFILL", kind := .keyword, category := .ddl
     description :=
       "Pads the displayed value of the field with zeros up to the display width."
     codeExample := "CREATE TABLE foo (\n  bar INT(4) ZEROFILL\n)"
     reference := ⟨"StackOverflow Reference",
       "https://stackoverflow.com/questions/5256469/what-is-the-benefit-of-zerofill-in-mysql"⟩ },
   { name := "REFERENCES", kind := .keyword, category := .ddl
     description :=
       "Used to define a foreign key constraint on a column."
     codeExample := "CREATE TABLE foo (\n  bar INT,\n  FOREIGN KEY (bar) REFERENCES baz(id)\n)"
     reference := ⟨"MySQL Reference",
       "https://dev.mysql.com/doc/refman/5.7/en/create-table-foreign-keys.html"⟩ },
   { name := "PRIMARY", kind := .keyword, category := .ddl
     description :=
       "Used as a key constraint to uniquely identify each record in a table."
     codeExample := "CREATE TABLE foo (\n  bar INT,\n  PRIMARY KEY (bar)\n)"
     reference := ⟨"W3 Reference",
       "https://www.w3schools.com/sql/sql_primarykey.asp"⟩ },
   { name := "NOT", kind := .keyword, category := .ddlDml
     description :=
       "Logical NOT operator. Used in expressions and in table definitions."
     codeExample := "CREATE TABLE foo (\n  bar INT NOT NULL\n)"
     reference := ⟨"MySQL Reference",
       "https://dev.mysql.com/doc/refman/5.7/en/logical-operators.html#operator_not"⟩ },
   { name := "NULL", kind := .keyword, category := .ddlDml
     description :=
       "Means \"no data\". Used in expressions and in table definitions."
     codeExample := "CREATE TABLE foo (\n  bar INT NOT NULL\n)"
     reference := ⟨"MySQL Reference",
       "https://dev.mysql.com/doc/refman/5.7/en/null-values.html"⟩ },
   { name := "KEY", kind := .keyword, category := .ddl
     description :=
       "Analogous to `INDEX`. Used to find rows quickly."
     codeExample := "CREATE TABLE foo (\n  bar INT, PRIMARY KEY (bar)\n)"
     reference := ⟨"MySQL Reference",
       "https://dev.mysql.com/doc/refman/5.7/en/create-table.html"⟩ },
   { name := "CASCADE", kind := .keyword, category := .ddl
     description :=
       "Used to indicate that MySQL should delete or update referenced records."
     codeExample := "CREATE TABLE foo (\n  bar INT,\n  FOREIGN KEY (bar) REFERENCES baz (id) ON DELETE CASCADE\n)"
     reference := ⟨"MySQL Reference",
       "https://dev.mysql.com/doc/refman/5.7/en/create-table-foreign-keys.html"⟩ },
   { name := "FOREIGN", kind := .keyword, category := .ddl
     description :=
       "Used to define a foreign key constraint on a column."
     codeExample := "CREATE TABLE foo (\n  bar INT,\n  FOREIGN KEY (bar) REFERENCES baz(id)\n)"
     reference := ⟨"MySQL Reference",
       "https://dev.mysql.com/doc/refman/5.7/en/create-table-foreign-keys.html"⟩ },
   { name := "ON", kind := .keyword, category := .ddlDml
     description :=
       "Typically used to join tables where the column names do not match in both tables."
     codeExample := "SELECT * FROM foo.bar\nJOIN foo.baz ON (bar.baz_id = baz.id)"
     reference := ⟨"StackOverflow Reference",
       "https://stackoverflow.com/questions/11366006/mysql-on-vs-using?noredirect=1&lq=1"⟩ },
   { name := "TABLE", kind := .keyword, category := .ddlDml
     description :=
       "Represents a collection of related data held in a table format. Consists of columns and rows."
     codeExample := "CREATE TABLE foo (\n  bar INT\n)"
     reference := ⟨"Wikipedia Reference",
       "https://en.wikipedia.org/wiki/Table_(database)"⟩ },
   { name := "DATABASE", kind := .keyword, category := .ddlDml
     description :=
       "Represents an organized collection of data, often stored in individual tables."
     codeExample := "CREATE DATABASE foo"
     reference := ⟨"Wikipedia Reference",
       "https://en.wikipedia.org/wiki/Database"⟩ },
   { name := "USE", kind := .keyword, category := .utility
     description :=
       "Tells MySQL to use the named database as the default (current) database for subsequent statements."
     codeExample := "USE foo"
     reference := ⟨"MySQL Reference",
       "https://dev.mysql.com/doc/refman/5.7/en/use.html"⟩ },
   { name := "AS", kind := .keyword, category := .dml
     description :=
       "Defines an alias for a table name or column name."
     codeExample := "SELECT foo AS bar FROM baz"
     reference := ⟨"W3 Reference",
       "https://www.w3schools.com/sql/sql_alias.asp"⟩ },
   { name := "AND", kind := .keyword, category := .dml
     description :=
       "Used in a WHERE clause to only include rows where both conditions are true."
     codeExample := "SELECT * FROM foo\nWHERE bar = \"bar\"\nAND baz = \"baz\""
     reference := ⟨"W3 Reference",
       "https://www.w3schools.com/sql/sql_ref_and.asp"⟩ },
   { name := "JSON_CONTAINS", kind := .function, category := .dml
     description :=
       "A function used to check if a given JSON document contains a given value."
     codeExample := "SELECT * FROM foo\nWHERE JSON_CONTAINS(id, JSON_ARRAY(\"some-id\"))"
     reference := ⟨"MySQL Reference",
       "https://dev.mysql.com/doc/refman/5.7/en/json-search-functions.html"⟩ },
   { name := "JSON_ARRAY", kind := .function, category := .dml
     description :=
       "A function used to create a JSON array."
     codeExample := "SELECT * FROM foo\nWHERE JSON_CONTAINS(id, JSON_ARRAY(\"some-id\"))"
     reference := ⟨"MySQL Reference",
       "https://dev.mysql.com/doc/refman/5.7/en/json-creation-functions.html#function_json-array"⟩ }
  ]

/-- The topic named by a word, up to ASCII case. -/
def topic? (word : String) : Option Topic :=
  topics.find? fun t => eqIgnoreAsciiCase t.name.toList word.toList

end SqlAnalysis
