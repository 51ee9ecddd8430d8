import ReactiveProps.Text.DecimalDigit

/-!
# Command-line arguments

A word list is read against the options of a command. Long options may be cut to a unique
beginning and take their value after an equals sign or as the next word; short options without a
value may share one dash. After a lone double dash every word is a plain value.
-/
namespace ReactiveProps.CommandLine

/-- An option under one of its names. -/
structure OptionName (α : Type) where
  name : String
  action : α
  takesValue : Bool

/-- What a word is. -/
inductive Word (α : Type)
  | value (text : String)
  | separator
  /-- An option; `attached` is what the word holds beyond the name and an equals sign. -/
  | option (name : OptionName α) (attached : Option String)
  | unknown

/-- The beginning of a word up to the first equals sign, and what follows the sign. -/
def cutAtEquals (word : String) : String × Option String :=
  let front := word.toList.takeWhile (· != '=')
  match word.toList.drop front.length with
  | _ :: rest => (String.ofList front, some (String.ofList rest))
  | [] => (word, none)

/-- Whether a text is a decimal number without a sign: digits, perhaps followed by a point and
digits, or a point and digits. One line feed may end it. -/
def isUnsignedNumber (text : List Char) : Bool :=
  let text := if text.getLast? = some '\n' then text.dropLast else text
  let whole := text.takeWhile Text.isDecimalDigit
  match text.drop whole.length with
  | [] => !whole.isEmpty
  | '.' :: fraction => !fraction.isEmpty && fraction.all Text.isDecimalDigit
  | _ => false

def isNegativeNumber (word : String) : Bool :=
  match word.toList with
  | '-' :: digits => isUnsignedNumber digits
  | _ => false

/-- The options that a word may stand for although it is no option's name. -/
def candidates {α : Type} (options : List (OptionName α)) (word : String) :
    List (OptionName α × Option String) :=
  match word.toList with
  | '-' :: '-' :: _ =>
    let (front, value) := cutAtEquals word
    (options.filter fun option => front.toList.isPrefixOf option.name.toList).map (·, value)
  | '-' :: letter :: rest =>
    (options.filter fun option => option.name.toList == ['-', letter]).map
      (·, some (String.ofList rest))
  | _ => []

/-- Reads one word; none if it could stand for several options. -/
def readWord? {α : Type} (options : List (OptionName α)) (word : String) : Option (Word α) :=
  if !word.startsWith "-" || word == "-" then some (.value word)
  else
    match options.find? fun option => option.name == word with
    | some option => some (.option option none)
    | none =>
      let (front, value) := cutAtEquals word
      match value, options.find? fun option => option.name == front with
      | some text, some option => some (.option option (some text))
      | _, _ =>
        match candidates options word with
        | [(option, attached)] => some (.option option attached)
        | _ :: _ :: _ => none
        | [] =>
          if isNegativeNumber word || word.toList.contains ' ' then some (.value word)
          else some .unknown

/-- Reads all words; none if one of them could stand for several options. -/
def readWords? {α : Type} (options : List (OptionName α)) :
    List String → Option (List (Word α))
  | [] => some []
  | word :: rest =>
    if word = "--" then some (.separator :: rest.map .value)
    else
      match readWord? options word with
      | none => none
      | some first => (readWords? options rest).map (first :: ·)

/-- The options that one word turns on. -/
structure Bundle (α : Type) where
  actions : List α
  /-- The value attached to the last of them. -/
  value : Option String
  /-- Whether the last of them still needs a value. -/
  wantsValue : Bool

/-- An option with nothing attached. -/
def Bundle.alone {α : Type} (option : OptionName α) : Bundle α :=
  ⟨[option.action], none, option.takesValue⟩

/-- Takes an option apart from what is attached to it: its value if it takes one, else the letters
of further short options. Only short options can be bundled so; none if anything else is attached
to an option without a value. -/
def unbundle? {α : Type} (options : List (OptionName α)) (option : OptionName α) :
    (attached : List Char) → Option (Bundle α)
  | [] => if option.takesValue then some ⟨[option.action], some "", false⟩ else none
  | letter :: rest =>
    if option.takesValue then
      some ⟨[option.action], some (String.ofList (letter :: rest)), false⟩
    else if option.name.startsWith "--" then none
    else
      match options.find? fun other => other.name.toList == ['-', letter] with
      | none => none
      | some other =>
        let others := if rest.isEmpty then some (Bundle.alone other)
          else unbundle? options other rest
        others.map fun bundle => { bundle with actions := option.action :: bundle.actions }

/-- The options of a word and what is attached to it. -/
def bundle? {α : Type} (options : List (OptionName α)) (option : OptionName α) :
    Option String → Option (Bundle α)
  | none => some (.alone option)
  | some text => unbundle? options option text.toList

end ReactiveProps.CommandLine
