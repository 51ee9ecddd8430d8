import ReactiveProps.Text.Quoted

/-!
# Templates

A template is a text with places in it, which are filled from the fields of a record. A place
begins with a percent sign and ends with a letter that says how the value is written; between them
stand the name of a field in parentheses, flags, a width and a precision, all of which may be
missing. Two percent signs stand for one.
-/
namespace ReactiveProps.Text.Template

/-- What a place can be filled with. A flag counts as the number zero or one. -/
inductive Argument
  | text (value : String)
  | flag (value : Bool)
  /-- A value that is neither text nor number, with the name of its type and the text it shows. -/
  | other (typeName shown : String)
  deriving DecidableEq, Repr

/-- What is wrong with the form of a template. -/
inductive Flaw
  | openName
  | unfinishedPlace
  | widthTooBig
  | precisionTooBig
  | unknownConversion (letter : Char) (index : Nat)
  deriving DecidableEq, Repr

/-- Why an argument does not suit its place. -/
inductive Mismatch
  | noArgument
  | starWantsNumber
  | realWanted (letter : Char) (typeName : String)
  | integerWanted (letter : Char) (typeName : String)
  | decimalWanted (typeName : String)
  | characterWanted
  deriving DecidableEq, Repr

inductive TemplateError
  | flaw (cause : Flaw)
  | mismatch (cause : Mismatch)
  | unknownField (name : String)
  /-- A place asks for more text than can be held. -/
  | tooLong
  deriving DecidableEq, Repr

/-- A character in an error message; only printable ASCII is shown. -/
def shownLetter (letter : Char) : Char :=
  if 31 ≤ letter.toNat ∧ letter.toNat ≤ 126 then letter else '?'

def Flaw.message : Flaw → String
  | openName => "incomplete format key"
  | unfinishedPlace => "incomplete format"
  | widthTooBig => "width too big"
  | precisionTooBig => "precision too big"
  | unknownConversion letter index =>
    "unsupported format character '" ++ (shownLetter letter).toString ++ "' (0x"
      ++ hex 1 letter.toNat ++ ") at index " ++ toString index

def Mismatch.message : Mismatch → String
  | noArgument => "not enough arguments for format string"
  | starWantsNumber => "* wants int"
  | realWanted letter typeName =>
    "%" ++ letter.toString ++ " format: a real number is required, not " ++ typeName
  | integerWanted letter typeName =>
    "%" ++ letter.toString ++ " format: an integer is required, not " ++ typeName
  | decimalWanted typeName => "must be real number, not " ++ typeName
  | characterWanted => "%c requires int or char"

def TemplateError.message : TemplateError → String
  | flaw cause => cause.message
  | mismatch cause => cause.message
  | unknownField name => quoted name
  | tooLong => ""

namespace Argument

def display : Argument → String
  | text value => value
  | flag value => if value then "True" else "False"
  | other _ shown => shown

def inQuotes : Argument → String
  | text value => quoted value
  | argument => argument.display

def typeName : Argument → String
  | text _ => "str"
  | flag _ => "bool"
  | other name _ => name

def number? : Argument → Option Nat
  | flag value => some value.toNat
  | _ => none

/-- A record as an argument of its own. -/
def ofRecord (fields : List (String × Argument)) : Argument :=
  .other "dict" ("\x7b" ++ ", ".intercalate (fields.map fun (name, argument) =>
    quoted name ++ ": " ++ argument.inQuotes) ++ "\x7d")

end Argument

/-- How a place is to be filled. -/
structure Place where
  flags : List Char
  width : Option Nat
  precision : Option Nat
  letter : Char

namespace Place

def has (place : Place) (flag : Char) : Bool := place.flags.contains flag

/-- Fills up to the width with spaces: on the right if a minus sign asks for that, else on the
left. -/
def pad (place : Place) (text : List Char) : List Char :=
  let room := List.replicate (place.width.getD 0 - text.length) ' '
  if place.has '-' then text ++ room else room ++ text

/-- A number with what stands in front of its digits. The flag for zeros puts them in between to
fill up the width. -/
def padNumber (place : Place) (front digits : List Char) : List Char :=
  if place.has '0' && !place.has '-' then
    front ++ List.replicate (place.width.getD 0 - front.length - digits.length) '0' ++ digits
  else place.pad (front ++ digits)

def sign (place : Place) : List Char :=
  if place.has '+' then ['+'] else if place.has ' ' then [' '] else []

/-- A text, cut to the precision. -/
def writeText (place : Place) (text : String) : List Char :=
  place.pad (match place.precision with
    | some length => text.toList.take length
    | none => text.toList)

/-- The precision is the least count of digits. -/
def writeInteger (place : Place) (base : List Char) (n : Nat) : List Char :=
  let digits := Nat.toDigits 10 n
  let zeros := List.replicate (place.precision.getD 1 - digits.length) '0'
  let base := if place.has '#' then base else []
  place.padNumber (place.sign ++ base) (zeros ++ digits)

/-- A digit with decimals: as many as the precision says, or six. -/
def fixed (place : Place) (n : Nat) : List Char :=
  let count := place.precision.getD 6
  let point := if count = 0 ∧ !place.has '#' then [] else ['.']
  Nat.toDigits 10 n ++ point ++ List.replicate count '0'

/-- A digit with as many significant digits as the precision says, or six, but without zeros at the
end unless the alternate form asks for them. -/
def general (place : Place) (n : Nat) : List Char :=
  if place.has '#' then
    Nat.toDigits 10 n ++ '.' :: List.replicate (place.precision.getD 6 - 1) '0'
  else Nat.toDigits 10 n

end Place

/-- Text of this length and more cannot be held. -/
def lengthLimit : Nat := 0x2000000

/-- Whether a larger precision makes the written text longer. -/
def Place.growsWithPrecision (place : Place) : Bool :=
  if "gG".toList.contains place.letter then place.has '#'
  else !"srac".toList.contains place.letter

def Place.asksTooMuch (place : Place) : Bool :=
  lengthLimit ≤ place.width.getD 0 ||
    (lengthLimit ≤ place.precision.getD 0 && place.growsWithPrecision)

/-- The characters of ASCII in a text in quotes, and the others as escapes. -/
def asciiOnly (text : String) : String :=
  String.join (text.toList.map fun c =>
    if c.toNat < 0x80 then c.toString
    else if c.toNat < 0x100 then "\\x" ++ hex 2 c.toNat
    else if c.toNat < 0x10000 then "\\u" ++ hex 4 c.toNat
    else "\\U" ++ hex 8 c.toNat)

def number (argument : Argument) (mismatch : String → Mismatch) : Except TemplateError Nat :=
  match argument.number? with
  | some n => .ok n
  | none => .error (.mismatch (mismatch argument.typeName))

def character (argument : Argument) : Except TemplateError (List Char) :=
  match argument with
  | .text value =>
    match value.toList with
    | [c] => .ok [c]
    | _ => .error (.mismatch .characterWanted)
  | .flag value => .ok [Char.ofNat value.toNat]
  | .other _ _ => .error (.mismatch .characterWanted)

/-- How a letter writes an argument into its place. The index is that of the letter. -/
def writer (letter : Char) (index : Nat) (argument : Argument) :
    Except TemplateError (Place → List Char) :=
  let integer (base : List Char) (mismatch : Char → String → Mismatch) :=
    (number argument (mismatch letter)).map fun n place => place.writeInteger base n
  let decimal (digits : Place → Nat → List Char) :=
    (number argument .decimalWanted).map fun n place => place.padNumber place.sign (digits place n)
  match letter with
  | 's' => .ok fun place => place.writeText argument.display
  | 'r' => .ok fun place => place.writeText argument.inQuotes
  | 'a' => .ok fun place => place.writeText (asciiOnly argument.inQuotes)
  | 'd' => integer [] .realWanted
  | 'i' => integer [] .realWanted
  | 'u' => integer [] .realWanted
  | 'o' => integer ['0', 'o'] .integerWanted
  | 'x' => integer ['0', 'x'] .integerWanted
  | 'X' => integer ['0', 'X'] .integerWanted
  | 'e' => decimal fun place n => place.fixed n ++ "e+00".toList
  | 'E' => decimal fun place n => place.fixed n ++ "E+00".toList
  | 'f' => decimal Place.fixed
  | 'F' => decimal Place.fixed
  | 'g' => decimal Place.general
  | 'G' => decimal Place.general
  | 'c' => (character argument).map fun text place => place.pad text
  | _ => .error (.flaw (.unknownConversion letter index))

def Place.write (place : Place) (index : Nat) (argument : Argument) :
    Except TemplateError (List Char) :=
  match writer place.letter index argument with
  | .ok write => if place.asksTooMuch then .error .tooLong else .ok (write place)
  | .error error => .error error

/-- The name up to the parenthesis that closes it, and what follows. -/
def closeName : (depth : Nat) → List Char → Option (List Char × List Char)
  | _, [] => none
  | 0, ')' :: rest => some ([], rest)
  | depth + 1, ')' :: rest => (closeName depth rest).map fun (name, rest) => (')' :: name, rest)
  | depth, '(' :: rest =>
    (closeName (depth + 1) rest).map fun (name, rest) => ('(' :: name, rest)
  | depth, c :: rest => (closeName depth rest).map fun (name, rest) => (c :: name, rest)

/-- What is left of a template, and the argument at hand, if there is one. -/
structure State where
  rest : List Char
  argument : Option Argument

/-- Takes the argument at hand. -/
def State.take (state : State) : Except TemplateError (Argument × State) :=
  match state.argument with
  | some argument => .ok (argument, { state with argument := none })
  | none => .error (.mismatch .noArgument)

/-- A named field becomes the argument at hand. -/
def readName (fields : List (String × Argument)) (state : State) :
    Except TemplateError State :=
  match state.rest with
  | '(' :: rest =>
    match closeName 0 rest with
    | none => .error (.flaw .openName)
    | some (name, rest) =>
      match fields.lookup (String.ofList name) with
      | some argument => .ok ⟨rest, some argument⟩
      | none => .error (.unknownField (String.ofList name))
  | _ => .ok state

/-- A number below a limit, or a star, which takes the number from the argument at hand. -/
def readCount (limit : Nat) (tooBig : Flaw) (state : State) :
    Except TemplateError (Option Nat × State) :=
  match state.rest with
  | '*' :: rest => do
    let (argument, state) ← State.take { state with rest }
    match argument.number? with
    | some n => .ok (some n, state)
    | none => .error (.mismatch .starWantsNumber)
  | _ =>
    let digits := state.rest.takeWhile Char.isDigit
    let value := digits.foldl (fun n c => 10 * n + (c.toNat - 48)) 0
    if digits.isEmpty then .ok (none, state)
    else if limit ≤ value then .error (.flaw tooBig)
    else .ok (some value, { state with rest := state.rest.drop digits.length })

def widthLimit : Nat := 0x8000000000000000
def precisionLimit : Nat := 0x80000000

/-- A precision without a number is zero. -/
def readPrecision (state : State) : Except TemplateError (Option Nat × State) :=
  match state.rest with
  | '.' :: rest =>
    (readCount precisionLimit .precisionTooBig { state with rest }).map fun (count, state) =>
      (some (count.getD 0), state)
  | _ => .ok (none, state)

/-- One size letter is passed over. -/
def dropSize : List Char → List Char
  | c :: rest => if c = 'h' ∨ c = 'l' ∨ c = 'L' then rest else c :: rest
  | [] => []

/-- Reads a place after its percent sign. -/
def readPlace (fields : List (String × Argument)) (state : State) :
    Except TemplateError (Place × State) := do
  let state ← readName fields state
  let flags := state.rest.takeWhile fun c => "-+ #0".toList.contains c
  let state := { state with rest := state.rest.drop flags.length }
  let (width, state) ← readCount widthLimit .widthTooBig state
  let (precision, state) ← readPrecision state
  match dropSize state.rest with
  | [] => .error (.flaw .unfinishedPlace)
  | letter :: rest => .ok (⟨flags, width, precision, letter⟩, { state with rest })

/-- Fills the places of what is left of a template of the given length. -/
def fill (fields : List (String × Argument)) (length : Nat) (argument : Option Argument) :
    List Char → Except TemplateError (List Char)
  | [] => .ok []
  | '%' :: '%' :: rest => (fill fields length argument rest).map ('%' :: ·)
  | '%' :: rest => do
    let (place, next) ← readPlace fields ⟨rest, argument⟩
    let (value, next) ← next.take
    let written ← place.write (length - next.rest.length - 1) value
    if next.rest.length ≤ rest.length then
      return written ++ (← fill fields length next.argument next.rest)
    else return written
  | c :: rest => (fill fields length argument rest).map (c :: ·)
termination_by text => text.length

/-- Without percent signs there are no places. -/
theorem fill_eq_of_percent_notMem (fields : List (String × Argument)) (length : Nat)
    (argument : Option Argument) {text : List Char} (h : '%' ∉ text) :
    fill fields length argument text = .ok text := by
  induction text with
  | nil => simp [fill]
  | cons c rest ih =>
    simp only [List.mem_cons, not_or] at h
    rw [fill]
    · simp [ih h.2, Except.map]
    · exact fun _ hc _ => h.1 hc.symm
    · exact fun hc => h.1 hc.symm

/-- Fills a template. A place without a name takes the whole record, which can be had once. -/
def expand (fields : List (String × Argument)) (template : String) :
    Except TemplateError String :=
  (fill fields template.length (some (.ofRecord fields)) template.toList).map String.ofList

theorem expand_eq_of_percent_notMem (fields : List (String × Argument)) {template : String}
    (h : '%' ∉ template.toList) : expand fields template = .ok template := by
  simp [expand, fill_eq_of_percent_notMem _ _ _ h, Except.map]

end ReactiveProps.Text.Template
