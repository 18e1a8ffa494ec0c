import HintedSql.Log.Event
import HintedSql.Number.Decimal
import HintedSql.Text.Space
import HintedSql.Text.Alphanumeric
set_option relaxedAutoImplicit false
set_option autoImplicit false

/-!
# Log filters

A filter is a list of rules between commas. A rule is a level, or a target with an optional level
after `=`; it holds for the events of that level or a more severe one whose target begins with the
rule's target. Of several rules the one with the longest target decides. Where the level is missing
every event of the target passes.

## Main definitions

* `HintedSql.Log.Threshold`, `HintedSql.Log.Rule`, `HintedSql.Log.Filter`.
* `HintedSql.Log.Filter.parse` — the filter that a text spells.
* `HintedSql.Log.Filter.admits` — whether an event passes.
-/

namespace HintedSql.Log

/-- The least severe level that passes, if any does. -/
inductive Threshold where
  | off
  | upTo (level : Level)
deriving DecidableEq, Repr

namespace Threshold

/-- Whether a level passes. -/
def admits : Threshold → Level → Bool
  | off, _ => false
  | upTo limit, level => level.rank ≤ limit.rank

/-- The name of a threshold. -/
def name : Threshold → String
  | off => "off"
  | upTo level => level.name

/-- All thresholds, by number. -/
def all : List Threshold :=
  off :: Level.all.map upTo

/-- The threshold with a given number, which may have a plus sign in front. -/
def ofNumber? (cs : List Char) : Option Threshold :=
  let digits :=
    match cs with
    | '+' :: rest => rest
    | _ => cs
  if digits.isEmpty || !digits.all Decimal.isDigit then none
  else all[Decimal.ofDigits digits]?

/-- The threshold that a text names, by number or by name up to case. -/
def parse? (cs : List Char) : Option Threshold :=
  (ofNumber? cs).or (all.find? fun t => Text.sameIgnoringCase t.name (String.ofList cs))

end Threshold

/-- The events of some target up to a threshold; without a target the events of every target. -/
structure Rule where
  target : Option String
  threshold : Threshold
deriving DecidableEq, Repr

namespace Rule

/-- Whether a rule can begin with a character. -/
def isStart (c : Char) : Bool :=
  Text.isAlphanumeric c || c == '-' || c == ':' || c == '_'

/-- The rule that a text spells. -/
def parse? (cs : List Char) : Option Rule :=
  if !(Text.trimLeft cs).head?.any isStart || cs.contains '[' then none
  else
    match cs.dropWhile (· != '=') with
    | [] =>
      match Threshold.parse? cs with
      | some threshold => some ⟨none, threshold⟩
      | none => some ⟨some (String.ofList cs), .upTo .trace⟩
    | _ :: level =>
      if cs.head?.any Text.isSpace then none
      else
        let target := some (String.ofList (cs.takeWhile (· != '=')))
        if level.isEmpty then some ⟨target, .upTo .trace⟩
        else (Threshold.parse? level).map fun threshold => ⟨target, threshold⟩

/-- Whether a rule speaks about the events of a target. -/
def covers (r : Rule) (target : String) : Bool :=
  match r.target with
  | none => true
  | some start => target.startsWith start

/-- How specific a rule is. -/
def weight (r : Rule) : Nat :=
  match r.target with
  | none => 0
  | some t => t.utf8ByteSize + 1

/-- Whether a rule stands before another: longer targets first. -/
def precedes (r s : Rule) : Bool :=
  s.weight < r.weight || (s.weight == r.weight && s.target.getD "" < r.target.getD "")

/-- The text of a rule. -/
def text (r : Rule) : String :=
  match r.target with
  | none => r.threshold.name
  | some t => t ++ "=" ++ r.threshold.name

end Rule

/-- Rules, the most specific first. -/
structure Filter where
  rules : List Rule
deriving DecidableEq, Repr

namespace Filter

/-- Put a rule into its place, where it replaces a rule for the same target. -/
def insert (r : Rule) : List Rule → List Rule
  | [] => [r]
  | s :: rules =>
    if r.target == s.target then r :: rules
    else if r.precedes s then r :: s :: rules
    else s :: insert r rules

/-- The filter with given rules. Without rules nothing passes. -/
def ofRules (rules : List Rule) : Filter :=
  ⟨rules.foldl (fun sorted r => insert r sorted) []⟩

/-- The filter that lets warnings and errors pass. -/
def fallback : Filter :=
  ⟨[⟨none, .upTo .warn⟩]⟩

/-- The filter that a text spells; a text that spells none means warnings and errors. -/
def parse (s : String) : Filter :=
  match ((Text.splitOn ',' s.toList).filter (!·.isEmpty)).mapM Rule.parse? with
  | some rules => ofRules rules
  | none => fallback

/-- The text of a filter. -/
def text (f : Filter) : String :=
  String.intercalate "," (f.rules.map Rule.text)

/-- Whether an event passes: the first rule about its target decides. -/
def admits (f : Filter) (e : Event) : Bool :=
  match f.rules.find? (·.covers e.target) with
  | some r => r.threshold.admits e.level
  | none => false

end Filter

end HintedSql.Log
