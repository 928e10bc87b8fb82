import ContestJudge.FileTree.Basic

/-!
# The world that a judge acts on
-/

namespace ContestJudge

/-- The files, and whatever else is kept besides them. -/
structure World (ε : Type) where
  /-- The files. -/
  files : FileTree
  /-- What is kept besides them. -/
  extra : ε
  deriving Inhabited

end ContestJudge
