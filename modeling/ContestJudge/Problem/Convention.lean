import ContestJudge.NameMap

/-!
# Argument conventions

Families of validators take the numbers of a case in different ways. A convention gives the argument
template that is used when a problem does not write its own.
-/

namespace ContestJudge.Problem

/-- The argument template of each convention. -/
abbrev Conventions := NameMap String

namespace Conventions

/-- The convention of a problem that names none. -/
def standard : String := "default"

/-- The conventions that are always there. -/
def builtin : Conventions := .ofList [
  (standard, "\x7bbatch_no\x7d \x7bcase_no\x7d"),
  ("testlib", "--group st\x7bbatch_no\x7d")]

end Conventions

end ContestJudge.Problem
