import ContestJudge.Settings.Reader

/-!
# The settings of a new judge
-/

namespace ContestJudge.Settings

/-- The settings file of a new judge. -/
def starter : String :=
  String.join <| [
    "# Directories matching these globs are problems when they contain a `problem.toml`.",
    "# Relative globs are resolved against the directory of this file.",
    "problem_storage_globs = [\"./problems/*\"]",
    "",
    "# Defaults for validators that do not set their own limits.",
    "generator_time_limit = 20.0          # seconds (CPU time)",
    "generator_memory_limit = 524288      # KiB",
    "generator_compiler_time_limit = 30.0 # seconds",
    "",
    "# Executors override the builtin ones (SH, PY3, C, CPP17, RUST) by name.",
    "# Variables: #\x7bdir\x7d build dir, #\x7bexe\x7d artifact path, "
      ++ "#\x7bmain\x7d first source, #\x7bsources\x7d all sources.",
    "# Write `##` for a literal `#`.",
    "[executors.CPP17]",
    "exe = \"validator\"",
    "compile = \"g++ -O2 -std=c++17 -I#\x7bdir\x7d -o #\x7bexe\x7d #\x7bmain\x7d\"",
    "run = \"#\x7bexe\x7d\"",
    "",
    "[executors.PY3]",
    "run = \"python3 #\x7bmain\x7d\""].map (· ++ "\n")

end ContestJudge.Settings
