import Winnow.CommandLine.Flag
import Winnow.CommandLine.Help
import Winnow.Query.Options
import Winnow.Candidates
import Winnow.Files.Path
import Winnow.Number.Numeral

/-!
# Requests

A request is what the arguments of the command line ask for. The words of the query have to stand
together: words behind a later flag are not recognized.
-/

namespace Winnow.CommandLine

/-- What the arguments ask for. What is not asked for is left to the settings. -/
structure Request where
  config : Option Path := none
  configDir : Option Path := none
  matching : Option Method := none
  caseSensitive : Option Bool := none
  tokenize : Option Bool := none
  sort : Option Bool := none
  levenshteinSort : Option Bool := none
  theme : Option Text := none
  highlight : Option Text := none
  input : Option Path := none
  encoding : Encoding := .utf8
  limit : Option Int := none
  timeout : Option Binary64 := none
  command : Option Text := none
  noColor : Bool := false
  interactive : Bool := false
  verbose : Bool := false
  query : List Text := []
  deriving DecidableEq, Repr

/-- What is wrong with a flag or its operand. -/
inductive FlagDefect
  | noOperand
  | ignoredOperand (operand : Text)
  | badInteger (operand : Text)
  | badNumber (operand : Text)
  | badChoice (operand : Text) (choices : List String)
  | notAllowedWith (other : Flag)
  deriving DecidableEq, Repr

/-- Why the arguments are no request. -/
inductive UsageError
  | ambiguous (argument : Text) (candidates : List Text)
  | defect (flag : Flag) (defect : FlagDefect)
  | unrecognized (arguments : List Text)
  deriving DecidableEq, Repr

/-- What the arguments ask for instead of a run, or why they ask for nothing. -/
inductive Stop
  | help
  | version
  | usage (problem : UsageError)
  deriving DecidableEq, Repr

/-- The wording of a defect. -/
def FlagDefect.message : FlagDefect → Text
  | noOperand => "expected one argument".toList
  | ignoredOperand operand => "ignored explicit argument ".toList ++ operand.quoted
  | badInteger operand => "invalid int value: ".toList ++ operand.quoted
  | badNumber operand => "invalid float value: ".toList ++ operand.quoted
  | badChoice operand choices =>
    "invalid choice: ".toList ++ operand.quoted ++ " (choose from ".toList
      ++ Text.join [',', ' '] (choices.map fun choice => Text.quoted choice.toList) ++ [')']
  | notAllowedWith other => "not allowed with argument ".toList ++ other.title

/-- The wording of an error. -/
def UsageError.message : UsageError → Text
  | ambiguous argument candidates =>
    "ambiguous option: ".toList ++ argument ++ " could match ".toList
      ++ Text.join [',', ' '] candidates
  | defect flag problem =>
    "argument ".toList ++ flag.title ++ [':', ' '] ++ problem.message
  | unrecognized arguments =>
    "unrecognized arguments: ".toList ++ Text.join [' '] arguments

/-- The exit status of a stop. -/
def Stop.status : Stop → Nat
  | usage _ => 2
  | _ => 0

/-- What a stop prints. -/
def Stop.output : Stop → Text
  | help => CommandLine.help.toList
  | version => versionText.toList
  | usage _ => []

/-- What a stop reports. -/
def Stop.report : Stop → Text
  | usage problem =>
    CommandLine.usage.toList ++ programName.toList ++ ": error: ".toList ++ problem.message
      ++ ['\n']
  | _ => []

namespace Request

/-- What a flag without an operand asks for. Asking for both ways to treat letter case is an
error. -/
def setSwitch (request : Request) : Flag → Except Stop Request
  | .help => .error .help
  | .version => .error .version
  | .caseSensitive =>
    if request.caseSensitive = some false then
      .error (.usage (.defect .caseSensitive (.notAllowedWith .ignoreCase)))
    else .ok { request with caseSensitive := some true }
  | .ignoreCase =>
    if request.caseSensitive = some true then
      .error (.usage (.defect .ignoreCase (.notAllowedWith .caseSensitive)))
    else .ok { request with caseSensitive := some false }
  | .noTokenize => .ok { request with tokenize := some false }
  | .sort => .ok { request with sort := some true }
  | .levenshteinSort => .ok { request with levenshteinSort := some true }
  | .noColor => .ok { request with noColor := true }
  | .interactive => .ok { request with interactive := true }
  | .verbose => .ok { request with verbose := true }
  | _ => .ok request

/-- The operand if it is readable, otherwise a defect of the flag. -/
def operandOr {α : Type} (flag : Flag) (defect : FlagDefect) : Option α → Except Stop α
  | some value => .ok value
  | none => .error (.usage (.defect flag defect))

/-- What a flag with an operand asks for. -/
def setOperand (request : Request) (flag : Flag) (operand : Text) : Except Stop Request :=
  match flag with
  | .config => .ok { request with config := some (.ofText operand) }
  | .configDir => .ok { request with configDir := some (.ofText operand) }
  | .matching => do
    let names := Method.all.map Method.name
    let method := Method.all.find? fun method => method.name = String.ofList operand
    let method ← operandOr flag (.badChoice operand names) method
    pure { request with matching := some method }
  | .theme => .ok { request with theme := some operand }
  | .highlight => .ok { request with highlight := some operand }
  | .input => .ok { request with input := some (.ofText operand) }
  | .encoding => do
    let names := Encoding.all.map Encoding.name
    let encoding ← operandOr flag (.badChoice operand names) (Encoding.ofName? operand)
    pure { request with encoding }
  | .limit => do
    let limit ← operandOr flag (.badInteger operand) (Numeral.limitedInteger? operand)
    pure { request with limit := some limit }
  | .timeout => do
    let timeout ← operandOr flag (.badNumber operand) (Numeral.real? operand)
    pure { request with timeout := some timeout }
  | .command => .ok { request with command := some operand }
  | _ => .ok request

/-- The flags that share a dash, with the operand of the last one if that takes one and has one
there. `tail` is what follows the first flag in the same argument. -/
def unbundle (flag : Flag) : (tail : Text) → Except Stop (List Flag × Option Text)
  | [] => .ok ([flag], none)
  | letter :: tail =>
    if flag.takesOperand then .ok ([flag], some (letter :: tail))
    else
      match Flag.ofSpelling? ['-', letter] with
      | none => .error (.usage (.defect flag (.ignoredOperand (letter :: tail))))
      | some next => (unbundle next tail).map fun (flags, operand) => (flag :: flags, operand)

/-- Takes flags without operands one after the other. -/
def setSwitches (request : Request) : List Flag → Except Stop Request
  | [] => .ok request
  | flag :: rest =>
    match request.setSwitch flag with
    | .ok request => request.setSwitches rest
    | .error stop => .error stop

/-- The flags of one argument and the operand within it. -/
def flagsOf (flag : Flag) (isShort : Bool) : Option Text → Except Stop (List Flag × Option Text)
  | none => .ok ([flag], none)
  | some operand =>
    if flag.takesOperand then .ok ([flag], some operand)
    else if isShort && !operand.isEmpty then unbundle flag operand
    else .error (.usage (.defect flag (.ignoredOperand operand)))

/-- How far the reading of arguments has come: the request, whether the words of the query have been
read, and the arguments that nobody recognizes. -/
structure Progress where
  request : Request
  hasQuery : Bool
  unrecognized : List Text
  deriving DecidableEq, Repr

/-- Takes words that stand together: the first ones are the query, without the separator, and all
others are not recognized. -/
def Progress.takeWords (progress : Progress) (words : List Text) : Progress :=
  if progress.hasQuery then { progress with unrecognized := progress.unrecognized ++ words }
  else
    { progress with
      request := { progress.request with query := words.erase ['-', '-'] }
      hasQuery := true }

/-- Takes the words before a flag, if there are any. -/
def Progress.takeWordsBefore (progress : Progress) (words : List Text) : Progress :=
  if words.isEmpty then progress else progress.takeWords words

/-- Reads the arguments one after the other. `words` are the words that stand together right before
the next argument. The operand of a flag is the rest of its argument or the word behind it. -/
def readFrom (progress : Progress) (words : List Text) :
    List (Text × Argument) → Except Stop Progress
  | [] => .ok (progress.takeWords words)
  | (_, .word text) :: rest => readFrom progress (words ++ [text]) rest
  | (text, .separator) :: rest => readFrom progress (words ++ [text]) rest
  | (text, .unknownFlag _) :: rest =>
    let progress := progress.takeWordsBefore words
    readFrom { progress with unrecognized := progress.unrecognized ++ [text] } [] rest
  | (_, .flag flag isShort operand) :: rest =>
    let progress := progress.takeWordsBefore words
    match flagsOf flag isShort operand with
    | .error stop => .error stop
    | .ok (flags, operand) =>
      let last := flags.getLastD flag
      if last.takesOperand then
        match operand, rest with
        | some operand, rest => do
          let request ← progress.request.setSwitches flags.dropLast
          let request ← request.setOperand last operand
          readFrom { progress with request } [] rest
        | none, (_, .word operand) :: rest => do
          let request ← progress.request.setSwitches flags.dropLast
          let request ← request.setOperand last operand
          readFrom { progress with request } [] rest
        | none, _ => .error (.usage (.defect last .noOperand))
      else do
        let request ← progress.request.setSwitches flags
        readFrom { progress with request } [] rest

/-- The arguments by their forms. Behind a separator there are only words. -/
def formsOf : List Text → Except Stop (List (Text × Argument))
  | [] => .ok []
  | text :: rest =>
    if text = ['-', '-'] then
      .ok ((text, .separator) :: rest.map fun text => (text, .word text))
    else
      match Argument.ofText text with
      | .error candidates => .error (.usage (.ambiguous text candidates))
      | .ok argument => (formsOf rest).map fun forms => (text, argument) :: forms

/-- The request of a command line. -/
def ofArguments (arguments : List Text) : Except Stop Request := do
  let forms ← formsOf arguments
  let progress ← readFrom ⟨{}, false, []⟩ [] forms
  if progress.unrecognized.isEmpty then pure progress.request
  else throw (.usage (.unrecognized progress.unrecognized))

end Request

end Winnow.CommandLine
