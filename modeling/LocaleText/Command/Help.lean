import LocaleText.Command.Line

/-!
# Help

The texts that explain the command: what it and its actions are for, how they are called, and which
options they have.
-/

namespace LocaleText.Command

/-- The version. -/
def versionText : Text := "l10n-compiler 0.1.0".toList

/-- The reply to mistaken arguments. -/
def mistakeText : Text := "Usage: l10n-compiler [OPTIONS] <COMMAND>".toList

/-- The explanation of a topic. -/
def helpLines : Place → List Text
  | .top =>
    ["Validates and renders phrasekit localization packs",
     "",
     "Usage: l10n-compiler [OPTIONS] <COMMAND>",
     "",
     "Commands:",
     "  check   Load every locale pack and report coverage against the fallback locale",
     "  render  Render a single message",
     "  help    Print this message or the help of the given subcommand(s)",
     "",
     "Options:",
     "      --config <FILE>  Runtime configuration file (JSON); command-line flags take precedence",
     "  -v, --verbose        Log template cache and locale loading details to stderr",
     "  -h, --help           Print help",
     "  -V, --version        Print version"].map String.toList
  | .check =>
    ["Load every locale pack and report coverage against the fallback locale",
     "",
     "Usage: l10n-compiler check [OPTIONS] [DIR]",
     "",
     "Arguments:",
     "  [DIR]  Locale pack directory; overrides the configured `locale_dirs`",
     "",
     "Options:",
     "      --config <FILE>",
     "          Runtime configuration file (JSON); command-line flags take precedence",
     "      --default-locale <DEFAULT_LOCALE>",
     "          Locale that other locales are compared against",
     "      --fail-on-missing",
     "          Exit with an error if any locale lacks a fallback message",
     "  -v, --verbose",
     "          Log template cache and locale loading details to stderr",
     "      --reference <FILE>",
     "          JSON key list (`\x7b\"locale\", \"keys\"\x7d`) that one locale, the fallback by "
        ++ "default, must define",
     "  -h, --help",
     "          Print help"].map String.toList
  | .render =>
    ["Render a single message",
     "",
     "Usage: l10n-compiler render [OPTIONS] <KEY>",
     "",
     "Arguments:",
     "  <KEY>  Dotted message key, e.g. `inbox.count`",
     "",
     "Options:",
     "      --config <FILE>     Runtime configuration file (JSON); command-line flags take "
        ++ "precedence",
     "      --dir <DIR>         Locale pack directory; overrides the configured `locale_dirs`",
     "      --locale <LOCALE>   Locale to render in (defaults to the fallback locale)",
     "  -v, --verbose           Log template cache and locale loading details to stderr",
     "      --arg <NAME=VALUE>  Named argument; VALUE is parsed as JSON when possible, otherwise "
        ++ "used as text",
     "      --json <JSON>       Full argument list as JSON: an object for named or an array for "
        ++ "positional arguments",
     "  -h, --help              Print help"].map String.toList
  | .help =>
    ["Print this message or the help of the given subcommand(s)",
     "",
     "Usage: l10n-compiler help [COMMAND]...",
     "",
     "Arguments:",
     "  [COMMAND]...  Print help for the subcommand(s)"].map String.toList

end LocaleText.Command
