import HintedSql.Algebra.Expression
import HintedSql.Routing.Options
set_option relaxedAutoImplicit false
set_option autoImplicit false

/-!
# Requests

A request asks for the query of one expression under given hints.

## Main definitions

* `HintedSql.Request`.
-/

namespace HintedSql

/-- An expression and the hints that go with it. -/
structure Request where
  expression : Expression
  options : Options := .empty
deriving DecidableEq, Repr

end HintedSql
