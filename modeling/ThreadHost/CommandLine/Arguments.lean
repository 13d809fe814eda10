import ThreadHost.Setting
import ThreadHost.Text.DecimalDigit
import ThreadHost.Text.Pieces
import ThreadHost.Text.WholeNumber
/-!
# Command line arguments

Options begin with two hyphens and may be cut short as long as they are unambiguous. A value
follows as the next argument or behind an equals sign, where two hyphens stand for no value.
Operands stand in one run; two hyphens alone end the options. What looks like a negative number or
holds a space is never an option.

Arguments are first classified one by one, so that an ambiguous option is refused wherever it
stands, and are then taken from left to right.
-/

namespace ThreadHost.CommandLine

/-- What an option takes. -/
inductive Takes where
  | nothing
  | text
  | whole
  deriving Repr, DecidableEq

/-- An option: its name with the hyphens, and what it takes. -/
structure OptionForm where
  name : String
  takes : Takes
  deriving Repr, DecidableEq

/-- The arguments that a command line has room for. With operands, there must be one at least. -/
structure Form where
  options : List OptionForm
  operands : Bool

/-- Why a command line is not carried out. -/
inductive Refusal where
  | usage
  /-- Help was asked for. -/
  | help
  deriving Repr, DecidableEq

/-- The exit code of a refusal. -/
def Refusal.exitCode : Refusal → Nat
  | .usage => 2
  | .help => 0

/-- An argument by its role. -/
inductive Word where
  | operand (text : String)
  /-- The end of the options. -/
  | separator
  | option (form : OptionForm) (value : Option String)
  | help
  /-- An option with a value that it does not take. -/
  | misused
  /-- An option that nobody knows. -/
  | unknown
  deriving Repr, DecidableEq

/-- The option that asks for help; its short name is `-h`. -/
def helpOption : OptionForm := ⟨"--help", .nothing⟩

/-- Whether characters are digits, or digits and one point before the last of them. -/
def isUnsigned (characters : List Char) : Bool :=
  let isDigit := fun character => (Text.DecimalDigit.value? character).isSome
  match Text.partition '.' characters with
  | (whole, none) => !whole.isEmpty && whole.all isDigit
  | (whole, some places) => whole.all isDigit && !places.isEmpty && places.all isDigit

/-- Whether the characters behind a hyphen make a negative number. One line feed may follow. -/
def isNumber (characters : List Char) : Bool :=
  isUnsigned characters ||
    (characters.getLast? = some '\n' && isUnsigned characters.dropLast)

/-- An argument with a hyphen that fits no option. -/
def unmatched (text : String) : Word :=
  if isNumber (text.toList.drop 1) || text.toList.contains ' ' then .operand text else .unknown

/-- An option that was found, with the value behind the equals sign. -/
def found (option : OptionForm) (value : Option String) : Word :=
  match option.takes, value with
  | .nothing, some _ => .misused
  | _, _ => if option = helpOption then .help else .option option value

/-- An argument that begins with two hyphens. -/
def Form.long (form : Form) (text : String) : Except Refusal Word :=
  let (name, value) := Text.partition '=' text.toList
  let value := value.map String.ofList
  let known := helpOption :: form.options
  match known.find? fun option => option.name.toList = name with
  | some option => .ok (found option value)
  | none =>
    match known.filter fun option => name.isPrefixOf option.name.toList with
    | [] => .ok (unmatched text)
    | [option] => .ok (found option value)
    | _ => .error .usage

/-- What stands behind `-h`: nothing but more of the same, which may be given like a value. -/
def shortHelp (characters : List Char) : Word :=
  let letters := match characters with
    | '=' :: letter :: rest => letter :: rest
    | characters => characters
  if letters.all (· = 'h') then .help else .misused

/-- The role of an argument before the end of the options. -/
def Form.classify (form : Form) (text : String) : Except Refusal Word :=
  match text.toList with
  | ['-'] => .ok (.operand text)
  | ['-', '-'] => .ok .separator
  | '-' :: '-' :: _ => form.long text
  | '-' :: 'h' :: rest => .ok (shortHelp rest)
  | '-' :: _ => .ok (unmatched text)
  | _ => .ok (.operand text)

/-- The roles of all arguments. -/
def Form.words (form : Form) : List String → Except Refusal (List Word)
  | [] => .ok []
  | text :: rest => do
    let word ← form.classify text
    if word = .separator then pure (word :: rest.map Word.operand)
    else pure (word :: (← form.words rest))

/-- Where the run of operands is. -/
inductive Phase where
  | before
  | within
  | after
  deriving Repr, DecidableEq

/-- The value that an option was given. -/
inductive Value where
  | text (text : String)
  /-- Two hyphens behind an equals sign: the option was given, and no value with it. -/
  | empty
  deriving Repr, DecidableEq

/-- What a command line says. -/
structure Arguments where
  /-- The options that were given, in order, with their values. -/
  values : List (String × Value) := []
  operands : List String := []
  phase : Phase := .before
  /-- Whether there was an argument for which there is no room. -/
  surplus : Bool := false

namespace Arguments

/-- Take an operand. -/
def takeOperand (arguments : Arguments) (form : Form) (text : String) : Arguments :=
  if form.operands && arguments.phase ≠ .after then
    { arguments with operands := arguments.operands ++ [text], phase := .within }
  else { arguments with surplus := true }

/-- Take the end of the options, which belongs to a run of operands. -/
def takeSeparator (arguments : Arguments) (form : Form) : Arguments :=
  if form.operands && arguments.phase ≠ .after then arguments
  else { arguments with surplus := true }

/-- An option ends the run of operands. -/
def endRun (arguments : Arguments) : Arguments :=
  if arguments.phase = .within then { arguments with phase := .after } else arguments

/-- Take an option with its value. -/
def takeOption (arguments : Arguments) (option : OptionForm) (text : String) :
    Except Refusal Arguments :=
  let put := fun value : Value =>
    { arguments.endRun with values := arguments.values ++ [(option.name, value)] }
  if text = "--" then .ok (put .empty)
  else if option.takes = .whole && (Text.WholeNumber.value? text).isNone then .error .usage
  else .ok (put (.text text))

/-- Take arguments from left to right. -/
def take (form : Form) : List Word → Arguments → Except Refusal Arguments
  | [], arguments => .ok arguments
  | .operand text :: rest, arguments => take form rest (arguments.takeOperand form text)
  | .separator :: rest, arguments => take form rest (arguments.takeSeparator form)
  | .help :: _, _ => .error .help
  | .misused :: _, _ => .error .usage
  | .unknown :: rest, arguments => take form rest { arguments.endRun with surplus := true }
  | .option option (some value) :: rest, arguments => do
    take form rest (← arguments.takeOption option value)
  | .option option none :: .operand value :: rest, arguments => do
    if option.takes = .nothing then
      take form rest ((← arguments.takeOption option "").takeOperand form value)
    else take form rest (← arguments.takeOption option value)
  | .option option none :: rest, arguments => do
    if option.takes = .nothing then take form rest (← arguments.takeOption option "")
    else .error .usage

/-- Read the arguments of a command line. -/
def read (form : Form) (texts : List String) : Except Refusal Arguments := do
  let arguments ← take form (← form.words texts) {}
  if arguments.surplus || (form.operands && arguments.operands.isEmpty) then .error .usage
  else pure arguments

/-- The last value given for an option. -/
def value? (arguments : Arguments) (name : String) : Option Value :=
  (arguments.values.reverse.find? (·.1 = name)).map Prod.snd

/-- The text that an option stands for. -/
def text (arguments : Arguments) (name fallback : String) : Setting String :=
  match arguments.value? name with
  | none => .proper fallback
  | some (.text text) => .proper text
  | some .empty => .stray (.list [])

/-- The number that an option stands for. -/
def whole (arguments : Arguments) (name : String) (fallback : Int) : Setting Int :=
  match arguments.value? name with
  | none => .proper fallback
  | some (.text text) => .proper ((Text.WholeNumber.value? text).getD fallback)
  | some .empty => .stray (.list [])

/-- Whether an option was given. -/
def given (arguments : Arguments) (name : String) : Bool := (arguments.value? name).isSome

end Arguments

end ThreadHost.CommandLine
