import ContractAssist.Text.Basic

/-!
# Template — the settings file that is written for a user

* `Settings.template` is the content of a fresh settings file.
-/

namespace ContractAssist
namespace Settings

def templateLines : List Text :=
  [ "# genvm-assist configuration.",
    "#",
    "# Lookup order (highest wins): GENVM_ASSIST_* env vars, --config <path>,",
    "# ./genvm-assist.toml, ~/.config/genvm-assist/config.toml, built-in defaults.",
    "",
    "[linter]",
    "# Linter executable. Set `args` to a prefix such as [\"-m\", \"genvm_linter.cli\"]",
    "# when running the linter through a Python interpreter.",
    "program = \"genvm-lint\"",
    "args = []",
    "# \"modern\" runs `<program> lint <file> --json`;",
    "# \"legacy\" runs `<program> <file> --format json`.",
    "mode = \"modern\"",
    "timeout_secs = 30",
    "",
    "[deploy]",
    "program = \"genlayer\"",
    "args = []",
    "# rpc = \"http://localhost:4000/api\"",
    "timeout_secs = 300",
    "",
    "[prompts]",
    "# How long fragmented prompt text may accumulate before it is answered.",
    "debounce_ms = 100",
    "# Minimum length enforced when creating a new keystore password.",
    "min_password_len = 8",
    "",
    "[display]",
    "color = true" ]

def template : Text :=
  templateLines.flatMap fun line => line ++ ['\n']

end Settings
end ContractAssist
