import Winnow.Query.Options
import Winnow.Style.Parser
import Winnow.Command.Template

/-!
# Settings

The settings of a run: how queries are matched, the themes, the command templates, and what bounds
an evaluation.
-/

namespace Winnow

/-- How queries are matched and results are ranked. -/
structure MatchingSettings where
  method : Method := .literal
  caseSensitive : Bool := false
  tokenize : Bool := true
  sort : Bool := false
  levenshteinSort : Bool := false
  deriving DecidableEq, Repr

/-- The options that queries are compiled with. -/
def MatchingSettings.options (matching : MatchingSettings) : MatchOptions :=
  ⟨matching.method, matching.caseSensitive, matching.tokenize⟩

/-- A theme: its own spelling of its name, the style of matched text, and the style of the selected
row. -/
structure Theme where
  name : Text
  highlight : Text := "bold underline".toList
  selected : Text := "reverse".toList
  deriving DecidableEq, Repr

namespace Theme

/-- The style of matched text. -/
def style (theme : Theme) : Except Style.ParseError Style := Style.parse theme.highlight

/-- The name of the theme that counts where none is asked for. -/
def defaultName : Text := "default".toList

/-- The theme where no theme is configured. -/
def standard : Theme := { name := defaultName }

end Theme

/-- The templates of commands and what stands for their placeholders. -/
structure CommandSettings where
  terminal : Text := "x-terminal-emulator".toList
  sshClient : Text := "ssh".toList
  runCommand : Text := "\x7bcmd\x7d".toList
  runShellCommand : Text := "\x7bterminal\x7d -e \x7bcmd\x7d".toList
  deriving DecidableEq, Repr

/-- A name as a placeholder: in braces and with dashes for underscores. -/
def placeholderOf (name : Text) : Text :=
  Template.openBrace :: name.replaceChar '_' '-' ++ [Template.closeBrace]

/-- The replacements of placeholders: those of the settings, then further names. -/
def CommandSettings.replacements (commands : CommandSettings) (further : List (Text × Text)) :
    List Replacement :=
  [(placeholderOf "terminal".toList, commands.terminal),
    (placeholderOf "ssh_client".toList, commands.sshClient)]
    ++ further.map fun (name, value) => (placeholderOf name, value)

/-- The settings of a run. A theme's key is its name in lower case. -/
structure Settings where
  matching : MatchingSettings := {}
  themes : List (Text × Theme) := []
  commands : CommandSettings := {}
  color : Bool := true
  limit : Option Int := none
  timeout : Option Binary64 := none
  deriving DecidableEq, Repr

namespace Settings

/-- The theme that a non-empty name finds, letter case aside. -/
def themeNamed? (settings : Settings) : Option Text → Option Theme
  | none => none
  | some name => if name.isEmpty then none else settings.themes.lookup name.lower

/-- The theme with a name; if there is none, the one called default. -/
def theme (settings : Settings) (name : Option Text) : Theme :=
  match settings.themeNamed? name, settings.themes.lookup Theme.defaultName with
  | some theme, _ => theme
  | none, some theme => theme
  | none, none => .standard

end Settings

end Winnow
