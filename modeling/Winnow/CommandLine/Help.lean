import Winnow.Text.Basic

/-!
# Help texts

What the program says about its command line.
-/

namespace Winnow.CommandLine

/-- The name of the program. -/
def programName : String := "filter-cli"

/-- The version of the program. -/
def versionText : String := programName ++ " 0.1.0\n"

/-- Lines, each with its end. -/
def lines (texts : List String) : String := String.join (texts.map (· ++ "\n"))

/-- How the program is called. -/
def usage : String := lines [
  "usage: filter-cli [-h] [--config FILE] [--config-dir DIR]",
  "                  [--matching \x7bnormal,glob,regex,fuzzy\x7d]",
  "                  [--case-sensitive | --ignore-case] [--no-tokenize] [--sort]",
  "                  [--levenshtein-sort] [--theme NAME] [--highlight STYLE]",
  "                  [--input FILE] [--encoding \x7butf-8,latin1\x7d] [--limit N]",
  "                  [--timeout SECONDS] [--command TEMPLATE] [--no-color]",
  "                  [--interactive] [--verbose] [--version]",
  "                  [query ...]"]

/-- What the program does and what its arguments mean. -/
def description : String := lines [
  "",
  "Filter lines from stdin by a query, with highlighting and fuzzy ranking",
  "",
  "positional arguments:",
  "  query                 Query words (joined with spaces)",
  "",
  "options:",
  "  -h, --help            show this help message and exit",
  "  --config FILE, -c FILE",
  "                        Configuration file path (default:",
  "                        $FILTER_CONFIG_DIR/config.yaml)",
  "  --config-dir DIR      Drop-in configuration directory (default:",
  "                        $FILTER_CONFIG_DIR/conf.d/)",
  "  --matching \x7bnormal,glob,regex,fuzzy\x7d, -m \x7bnormal,glob,regex,fuzzy\x7d",
  "                        Matching strategy",
  "  --case-sensitive, -s  Match case sensitive",
  "  --ignore-case, -i     Match case insensitive",
  "  --no-tokenize         Match the whole query as one token",
  "  --sort                Rank fuzzy matches by score",
  "  --levenshtein-sort    Rank matches by edit distance to the query",
  "  --theme NAME, -t NAME",
  "                        Theme to use",
  "  --highlight STYLE     Highlight style, e.g. 'bold underline #ff8800'",
  "                        (overrides the theme)",
  "  --input FILE          Read candidates from FILE instead of stdin",
  "  --encoding \x7butf-8,latin1\x7d",
  "                        Encoding of the candidate lines (default: utf-8)",
  "  --limit N             Evaluate at most N candidates",
  "  --timeout SECONDS     Stop evaluating candidates after SECONDS",
  "  --command TEMPLATE    Print TEMPLATE expanded for each match, e.g.",
  "                        '\x7bterminal\x7d -e \x7bcmd\x7d'",
  "  --no-color            Disable colors",
  "  --interactive, -I     Pick a match interactively",
  "  --verbose, -v         Enable debug logging",
  "  --version, -V         show program's version number and exit",
  "",
  "Example: ls | filter-cli -m fuzzy --sort mkfl"]

/-- The help text. -/
def help : String := usage ++ description

end Winnow.CommandLine
