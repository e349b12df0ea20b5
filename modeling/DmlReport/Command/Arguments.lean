import DmlReport.Diagnostic
import DmlReport.Storage.Path

/-!
# Command lines

The command line `triage` has two commands, each with options and one operand,
and a few options that may stand before or after the command.  An option is
given at most once on each side.  A value stands in the next argument, after an
equals sign, or right behind a short option; an argument that looks like an
option is no value.  After `--` there are operands only.
-/

namespace DmlReport.Command

def programName : String := "triage"

inductive OptionName where
  | quiet
  | verbose
  | config
  | version
  | help
  | destination
  | inputFile
  | dialect
  | kind
deriving DecidableEq, Repr

/-- How an option is spelled, and which values it takes. -/
structure OptionForm where
  name : OptionName
  long : String
  short : Option Char
  /-- Which values are accepted, if the option takes one. -/
  value : Option (String → Bool)

/-- Why a command line is refused. -/
inductive UsageError where
  | unknownOption (argument : String)
  | unknownCommand (argument : String)
  | repeatedOption (long : String)
  | missingValue (long : String)
  | unexpectedValue (long : String)
  | invalidValue (long value : String)
  | invalidOperand (argument : String)
  | unexpectedOperand (argument : String)
  | missingOperand
  | missingCommand
deriving DecidableEq, Repr

def UsageError.message : UsageError → String
  | .unknownOption argument => s!"unknown option '{argument}'"
  | .unknownCommand argument => s!"unknown command '{argument}'"
  | .repeatedOption long => s!"option '--{long}' is given more than once"
  | .missingValue long => s!"option '--{long}' needs a value"
  | .unexpectedValue long => s!"option '--{long}' takes no value"
  | .invalidValue long value => s!"option '--{long}' cannot have the value '{value}'"
  | .invalidOperand argument => s!"the argument '{argument}' cannot be used here"
  | .unexpectedOperand argument => s!"unexpected argument '{argument}'"
  | .missingOperand => "an argument is missing"
  | .missingCommand => "a command is missing"

/-- Options and operands found so far. -/
structure Given where
  options : List (OptionName × String)
  operands : List String
deriving Repr

namespace Given

def none : Given := ⟨[], []⟩

def has (g : Given) (name : OptionName) : Bool :=
  (g.options.lookup name).isSome

def value? (g : Given) (name : OptionName) : Option String :=
  g.options.lookup name

end Given

/-- The options and operands that may stand on one side of the command. -/
structure Grammar where
  forms : List OptionForm
  /-- Whether the first operand is a command, which ends this side. -/
  endsAtCommand : Bool
  /-- Which operand is accepted. -/
  operand : String → Bool

/-- Where reading arguments ends. -/
inductive Halt where
  /-- At the end. -/
  | finished (given : Given)
  /-- At a command, with the arguments after it. -/
  | command (name : String) (rest : List String) (given : Given)
  /-- At an option that asks for help or the version. -/
  | asked (name : OptionName)
deriving Repr

namespace Grammar

/-- Notes an option with a value. -/
def note (form : OptionForm) (value : String) (given : Given) : Except UsageError Given :=
  if given.has form.name then .error (.repeatedOption form.long)
  else if form.value.any (fun accepts => !accepts value) then
    .error (.invalidValue form.long value)
  else .ok { given with options := given.options ++ [(form.name, value)] }

/-- Whether an option ends the reading. -/
def interrupts (form : OptionForm) : Bool :=
  form.name == .help || form.name == .version

/-- Where a cluster of short options ends. -/
inductive ClusterEnd where
  | complete (given : Given)
  | needsValue (form : OptionForm) (given : Given)
  | asked (name : OptionName)

/-- Reads short options in one argument. -/
def cluster (g : Grammar) (argument : String) :
    List Char → Given → Except UsageError ClusterEnd
  | [], given => .ok (.complete given)
  | c :: rest, given =>
    match g.forms.find? (·.short == some c) with
    | none => .error (.unknownOption argument)
    | some form =>
      if interrupts form then .ok (.asked form.name)
      else if form.value.isNone then
        match note form "" given with
        | .ok given => cluster g argument rest given
        | .error e => .error e
      else
        match rest with
        | [] => .ok (.needsValue form given)
        | '=' :: value => .complete <$> note form (String.ofList value) given
        | value => .complete <$> note form (String.ofList value) given

def addOperand (g : Grammar) (argument : String) (given : Given) : Except UsageError Given :=
  if g.endsAtCommand || !given.operands.isEmpty then .error (.unexpectedOperand argument)
  else if g.operand argument then .ok { given with operands := [argument] }
  else .error (.invalidOperand argument)

/-- Reads arguments of which all are operands. -/
def readOperands (g : Grammar) : List String → Given → Except UsageError Halt
  | [], given => .ok (.finished given)
  | argument :: rest, given =>
    match g.addOperand argument given with
    | .ok given => readOperands g rest given
    | .error e => .error e

/-- What an argument is by its look. -/
inductive Look where
  | separator
  | long (name : String) (value : Option String)
  | short (letters : List Char)
  | operand

/-- The look of an argument.  A lone dash is an operand. -/
def look (argument : String) : Look :=
  match argument.toList with
  | ['-', '-'] => .separator
  | '-' :: '-' :: cs =>
    let name := String.ofList (cs.takeWhile (· != '='))
    match cs.dropWhile (· != '=') with
    | [] => .long name none
    | _ :: value => .long name (some (String.ofList value))
  | ['-'] => .operand
  | '-' :: cs => .short cs
  | _ => .operand

/-- Whether an argument can be a value. -/
def canBeValue (argument : String) : Bool :=
  match look argument with
  | .operand => true
  | _ => false

def read (g : Grammar) : List String → Given → Except UsageError Halt
  | [], given => .ok (.finished given)
  | argument :: rest, given =>
    match look argument with
    | .separator => g.readOperands rest given
    | .operand =>
      if g.endsAtCommand then .ok (.command argument rest given)
      else
        match g.addOperand argument given with
        | .ok given => read g rest given
        | .error e => .error e
    | .long name attached =>
      match g.forms.find? (·.long == name) with
      | none => .error (.unknownOption argument)
      | some form =>
        match form.value, attached with
        | none, some _ => .error (.unexpectedValue form.long)
        | none, none =>
          if interrupts form then .ok (.asked form.name)
          else
            match note form "" given with
            | .ok given => read g rest given
            | .error e => .error e
        | some _, some value =>
          match note form value given with
          | .ok given => read g rest given
          | .error e => .error e
        | some _, none => readValue form rest given
    | .short letters =>
      match g.cluster argument letters given with
      | .error e => .error e
      | .ok (.asked name) => .ok (.asked name)
      | .ok (.complete given) => read g rest given
      | .ok (.needsValue form given) => readValue form rest given
where
  /-- Reads a value in an argument of its own, and goes on. -/
  readValue (form : OptionForm) : List String → Given → Except UsageError Halt
    | [], _ => .error (.missingValue form.long)
    | value :: rest, given =>
      if canBeValue value then
        match note form value given with
        | .ok given => read g rest given
        | .error e => .error e
      else .error (.missingValue form.long)

end Grammar

/-- What applies to both commands. -/
structure Globals where
  quiet : Bool
  verbose : Bool
  /-- The file with the settings, if it is named. -/
  config : Option Path
deriving DecidableEq, Repr

structure ReplayOptions where
  diagnostics : Path
  destination : Option Path
  inputFile : Option String
  dialect : Option Dialect
deriving DecidableEq, Repr

structure ExplainOptions where
  code : String
  kind : Kind
deriving DecidableEq, Repr

/-- What a command line asks for. -/
inductive Request where
  | help
  | version
  | replay (globals : Globals) (options : ReplayOptions)
  | explain (globals : Globals) (options : ExplainOptions)
deriving DecidableEq, Repr

namespace Request

def isPath (s : String) : Bool := !s.isEmpty

/-- The kinds by their names on the command line. -/
def kindNames : List (String × Kind) :=
  [("error", .error), ("warning", .warning), ("internal-error", .internalError), ("info", .info)]

/-- The options that may stand on both sides of the command. -/
def sharedForms : List OptionForm := [
  ⟨.quiet, "quiet", some 'q', none⟩,
  ⟨.verbose, "verbose", some 'v', none⟩,
  ⟨.config, "config", none, some isPath⟩,
  ⟨.help, "help", some 'h', none⟩]

/-- What may stand before the command. -/
def topGrammar : Grammar where
  forms := ⟨.version, "version", some 'V', none⟩ :: sharedForms
  endsAtCommand := true
  operand _ := false

/-- What may stand after `replay`. -/
def replayGrammar : Grammar where
  forms := [
    ⟨.destination, "ai-json", none, some isPath⟩,
    ⟨.inputFile, "input-file", none, some fun _ => true⟩,
    ⟨.dialect, "dml-version", none, some fun s => (Dialect.parse s).isOk⟩] ++ sharedForms
  endsAtCommand := false
  operand := isPath

/-- What may stand after `explain`. -/
def explainGrammar : Grammar where
  forms := ⟨.kind, "kind", some 'k', some fun s => (kindNames.lookup s).isSome⟩ :: sharedForms
  endsAtCommand := false
  operand _ := true

/-- The shared options of both sides; the one after the command counts. -/
def globals (before after : Given) : Globals where
  quiet := before.has .quiet || after.has .quiet
  verbose := before.has .verbose || after.has .verbose
  config := ((after.value? .config).or (before.value? .config)).map Path.mk

def ofReplay (before after : Given) : Except UsageError Request :=
  match after.operands with
  | [] => .error .missingOperand
  | diagnostics :: _ =>
    .ok (.replay (globals before after) {
      diagnostics := ⟨diagnostics⟩
      destination := (after.value? .destination).map Path.mk
      inputFile := after.value? .inputFile
      dialect := (after.value? .dialect).bind fun s => (Dialect.parse s).toOption })

def ofExplain (before after : Given) : Except UsageError Request :=
  match after.operands with
  | [] => .error .missingOperand
  | code :: _ =>
    .ok (.explain (globals before after) {
      code
      kind := ((after.value? .kind).bind fun s => kindNames.lookup s).getD .error })

/-- Reads the arguments after a command. -/
def ofCommand (g : Grammar) (request : Given → Except UsageError Request)
    (rest : List String) : Except UsageError Request :=
  match g.read rest .none with
  | .error e => .error e
  | .ok (.finished after) => request after
  | .ok (.command name _ _) => .error (.unexpectedOperand name)
  | .ok (.asked .version) => .ok .version
  | .ok (.asked _) => .ok .help

/-- What follows `help`: nothing or the name of a command. -/
def ofHelp : List String → Except UsageError Request
  | [] => .ok .help
  | [name] =>
    if ["replay", "explain", "help"].contains name then .ok .help
    else .error (.unknownCommand name)
  | _ :: name :: _ => .error (.unknownCommand name)

/-- The request of a command line. -/
def parse (arguments : List String) : Except UsageError Request :=
  match topGrammar.read arguments .none with
  | .error e => .error e
  | .ok (.asked .version) => .ok .version
  | .ok (.asked _) => .ok .help
  | .ok (.finished _) => .error .missingCommand
  | .ok (.command "replay" rest before) => ofCommand replayGrammar (ofReplay before) rest
  | .ok (.command "explain" rest before) => ofCommand explainGrammar (ofExplain before) rest
  | .ok (.command "help" rest _) => ofHelp rest
  | .ok (.command name _ _) => .error (.unknownCommand name)

end Request

end DmlReport.Command
