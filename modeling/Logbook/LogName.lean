import Logbook.Error

/-!
# Names of logs

Any text but the empty one can name a log, unless it holds a NUL, which separates names from
identifiers in keys.

## Main definitions

* `LogName.Valid` — the texts that can name a log.
* `LogName.check`, `LogName.checkAll` — the error for the first text that cannot.
-/

namespace Logbook.LogName

/-- A text that can name a log. -/
def Valid (name : String) : Prop := name.toList ≠ [] ∧ '\x00' ∉ name.toList

instance (name : String) : Decidable (Valid name) := by unfold Valid; infer_instance

/-- Accepts the texts that can name a log. -/
def check (name : String) : Except EventError Unit :=
  if Valid name then .ok () else .error (.invalidLogName name)

/-- Accepts a list of texts all of which can name a log. -/
def checkAll : List String → Except EventError Unit
  | [] => .ok ()
  | name :: rest => do
    check name
    checkAll rest

@[simp] theorem checkAll_nil : checkAll [] = .ok () := rfl

end Logbook.LogName
