import HintedSql.Request
import HintedSql.Sql.Statement
set_option relaxedAutoImplicit false
set_option autoImplicit false

/-!
# Hint lines

The hints of a query follow its statement, one to a line: the time block first, then the route.
Their texts are inserted as they are; an empty lane is left out.

## Main definitions

* `HintedSql.Sql.timeHint`, `HintedSql.Sql.routeHint`, `HintedSql.Sql.hints`.
* `HintedSql.Sql.withHints` — a statement followed by its hint lines.
* `HintedSql.Request.toSql` — the text of a request.
-/

namespace HintedSql

namespace Sql

/-- The line of a time block. -/
def timeHint (value : String) : String :=
  "@time(block => " ++ value ++ ")"

/-- The line of a route. -/
def routeHint (r : Route) : String :=
  match r.lane with
  | none | some "" => "@route(target => '" ++ r.target.name ++ "')"
  | some lane => "@route(target => '" ++ r.target.name ++ "', lane => '" ++ lane ++ "')"

/-- The hint lines of options. -/
def hints (o : Options) : List String :=
  (o.timeBlock.map timeHint).toList ++ (o.route.map routeHint).toList

/-- A statement and its hint lines, with line feeds between them; an empty text takes no line. -/
def withHints (body : String) (o : Options) : String :=
  String.intercalate "\n" ((if body.isEmpty then [] else [body]) ++ hints o)

/-- An expression as text with hints. -/
def toSql (e : Expression) (o : Options) : Except CompileError String :=
  (withHints · o) <$> compile e

end Sql

/-- A request as text with hints. -/
def Request.toSql (r : Request) : Except Sql.CompileError String :=
  Sql.toSql r.expression r.options

end HintedSql
