/-! # Help texts of the command line -/

namespace CompanionSource.CommandLine

/-- The version. -/
def versionText : String := "declsynth 0.1.0\n"

/-- How the command is called. -/
def usageText : String :=
  "Usage: declsynth [OPTIONS] --snapshot <FILE> --out <DIR>\n"

/-- The help in short. -/
def shortHelp : String :=
  "Declaration-driven source synthesis: logging wrappers, copy and toNiceString extensions for "
    ++ "Kotlin declarations.\n\n"
    ++ usageText
    ++ "\nOptions:\n"
    ++ "      --snapshot <FILE>      Declaration snapshot (TOML)\n"
    ++ "      --out <DIR>            Root directory for generated files\n"
    ++ "      --config <FILE>        Synthesis configuration (TOML); defaults apply when absent\n"
    ++ "      --timestamp <RFC3339>  Fixed provenance timestamp (RFC 3339), for reproducible output\n"
    ++ "  -h, --help                 Print help (see more with '--help')\n"
    ++ "  -V, --version              Print version\n"

/-- The help at length. -/
def longHelp : String :=
  "declsynth: generate logging wrappers, copy and toNiceString extensions.\n\n"
    ++ "Reads the declarations of one round from a TOML snapshot and writes the generated Kotlin "
    ++ "files under the output directory, one directory level per namespace segment.\n\n"
    ++ usageText
    ++ "\nOptions:\n"
    ++ "      --snapshot <FILE>\n          Declaration snapshot (TOML)\n\n"
    ++ "      --out <DIR>\n          Root directory for generated files\n\n"
    ++ "      --config <FILE>\n"
    ++ "          Synthesis configuration (TOML); defaults apply when absent\n\n"
    ++ "      --timestamp <RFC3339>\n"
    ++ "          Fixed provenance timestamp (RFC 3339), for reproducible output\n\n"
    ++ "  -h, --help\n          Print help (see a summary with '-h')\n\n"
    ++ "  -V, --version\n          Print version\n"

end CompanionSource.CommandLine
