/-
Module: SqlTidy.Config.Document
Purpose: The published description of configuration documents.
Main exports: Config.schema
-/
import SqlTidy.Casing
import SqlTidy.Json.Value

namespace SqlTidy.Config

open Json (Value)
open Json.Value (record)

/-- The description of indent sizes. -/
def indentSizeSchema : Value :=
  record [("type", .ofString "integer"), ("minimum", .int 0), ("default", .int 2)]

/-- The description of keyword cases. -/
def keywordCaseSchema : Value :=
  record
    [("type", .ofString "string"), ("enum", .array (Casing.names.map .ofString)),
      ("default", .ofString "upper")]

/-- The description of keywords. -/
def keywordSchema : Value :=
  record [("type", .ofString "string"), ("pattern", .ofString "^[A-Za-z]+( [A-Za-z]+)*$")]

/-- The description of lists of keywords. -/
def keywordsSchema : Value :=
  record
    [("type", .ofString "array"), ("minItems", .int 1), ("uniqueItems", .bool true),
      ("items", keywordSchema)]

/-- The descriptions of the fields of a document. -/
def propertiesSchema : Value :=
  record
    [("indentSize", indentSizeSchema), ("keywordCase", keywordCaseSchema),
      ("keywords", keywordsSchema)]

/-- The description of configuration documents, itself a document. -/
def schema : Value :=
  record
    [("$schema", .ofString "https://json-schema.org/draft/2020-12/schema"),
      ("$id", .ofString "https://sqlfmt.local/schemas/sqlfmt-config.schema.json"),
      ("title", .ofString "sql-fmt configuration"),
      ("type", .ofString "object"),
      ("additionalProperties", .bool false),
      ("properties", propertiesSchema)]

end SqlTidy.Config
