import HintedSql.Routing.Target
set_option relaxedAutoImplicit false
set_option autoImplicit false

/-!
# Hint options

The hints that accompany a query: a time block and a route.

## Main definitions

* `HintedSql.Route`, `HintedSql.Options`.
* `HintedSql.Options.orElse` — take absent hints from a second source.
-/

namespace HintedSql

/-- A target and an optional lane within it. -/
structure Route where
  target : Target
  lane : Option String := none
deriving DecidableEq, Repr

/-- The hints of a query; both are free text as far as this library is concerned. -/
structure Options where
  timeBlock : Option String := none
  route : Option Route := none
deriving DecidableEq, Repr

namespace Options

/-- No hints at all. -/
def empty : Options :=
  ⟨none, none⟩

/-- Whether there is no hint. -/
def isEmpty (o : Options) : Bool :=
  o.timeBlock.isNone && o.route.isNone

/-- Set the time block. -/
def withTimeBlock (o : Options) (value : String) : Options :=
  { o with timeBlock := some value }

/-- Set the route, lane included. -/
def withRoute (o : Options) (route : Route) : Options :=
  { o with route := some route }

/-- Take each absent hint from `fallback`. -/
def orElse (o fallback : Options) : Options where
  timeBlock := o.timeBlock.or fallback.timeBlock
  route := o.route.or fallback.route

end Options

end HintedSql
