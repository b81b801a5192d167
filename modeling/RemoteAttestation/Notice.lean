/-!
# Notices

What the library and the program tell an operator while they work, beside their results. A
notice never changes a result. Failed checks are warnings; the program says in passing what it
got and what it judges; everything else is for debugging.

## Main definitions

* `Notice`: a level and a text.
-/

namespace RemoteAttestation

/-- How urgent a notice is. -/
inductive NoticeLevel where
  | debug
  | info
  | warn
  deriving Repr, DecidableEq

/-- The name of a level. -/
def NoticeLevel.name : NoticeLevel → String
  | debug => "DEBUG"
  | info => "INFO"
  | warn => "WARN"

/-- The place of a level among the levels, from the least urgent on. -/
def NoticeLevel.rank : NoticeLevel → Nat
  | debug => 0
  | info => 1
  | warn => 2

/-- A line for the operator. -/
structure Notice where
  /-- The urgency. -/
  level : NoticeLevel
  /-- The text. -/
  text : String
  deriving Repr, DecidableEq

/-- A notice behind the name of its level. -/
def Notice.line (notice : Notice) : String :=
  s!"{notice.level.name}: {notice.text}"

end RemoteAttestation
