import HintedSql.Routing.Target
import Mathlib.Tactic.Lemma
set_option relaxedAutoImplicit false
set_option autoImplicit false

/-!
# The names of targets

Targets have different names, and a name holds small letters only. So a name can stand on a line, in
quotes or between words, and ends where a character of another sort follows.

## Main results

* `HintedSql.Target.name_injective`, `HintedSql.Target.isLower_of_mem_name`.
-/

namespace HintedSql.Target

/-- Targets with the same name are equal. -/
theorem name_injective {t t' : Target} (h : t.name = t'.name) : t = t' := by
  revert h
  cases t <;> cases t' <;> decide

/-- A name holds small letters only. -/
theorem isLower_of_mem_name {t : Target} {c : Char} (h : c ∈ t.name.toList) :
    c.isLower = true := by
  have hall : t.name.toList.all Char.isLower = true := by
    cases t <;> decide
  exact List.all_eq_true.mp hall c h

/-- The names of targets consist of lower-case letters. -/
lemma notMem_name {c : Char} (h : c.isLower = false) (t : Target) : c ∉ t.name.toList := by
  intro hmem
  simp [isLower_of_mem_name hmem] at h

end HintedSql.Target
