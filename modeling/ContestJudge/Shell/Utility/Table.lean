import ContestJudge.Shell.Utility.Amounts
import ContestJudge.Shell.Utility.Characters
import ContestJudge.Shell.Utility.Columns
import ContestJudge.Shell.Utility.Comparing
import ContestJudge.Shell.Utility.Copies
import ContestJudge.Shell.Utility.Editing
import ContestJudge.Shell.Utility.Expressions
import ContestJudge.Shell.Utility.Printing
import ContestJudge.Shell.Utility.Search
import ContestJudge.Shell.Utility.Sorting
import ContestJudge.Shell.Utility.Testing

/-!
# All utilities

The utilities that are not told from others by what they run.
-/

namespace ContestJudge.Shell.Utility

/-- The utilities of the system, by name. -/
def system : List (String × Utility) :=
  [("[", test true), ("basename", basename), ("cat", cat), ("chmod", chmod), ("cmp", cmp), ("comm", comm), ("cp", cp), ("cut", cut),
    ("diff", diff), ("dirname", dirname), ("echo", echo), ("false", fun _ s => { files := s.files, status := 1 }), ("egrep", grepAs [('E', "")]),
    ("expr", expr), ("factor", factor), ("fgrep", grepAs [('F', "")]), ("fold", fold), ("grep", grep), ("head", head), ("install", install), ("ln", ln), ("ls", ls), ("mkdir", mkdir), ("mv", mv),
    ("nl", nl), ("paste", paste), ("printf", printf), ("pwd", pwd), ("readlink", readlink), ("realpath", realpath),
    ("rev", rev), ("rm", rm), ("rmdir", rmdir), ("sed", sed), ("seq", seq), ("sleep", sleep), ("sort", sort), ("tac", tac), ("tail", tail), ("tee", tee),
    ("test", test false), ("touch", touch), ("tr", tr), ("true", fun _ s => { files := s.files }), ("uniq", uniq),
    ("wc", wc), ("yes", yes)]

end ContestJudge.Shell.Utility
