import ReactiveProps.Text.Quoted

/-!
# JSON documents

Documents with the members of an object in a fixed order, printed over several lines in ASCII.
-/
namespace ReactiveProps

inductive Json
  | null
  | bool (value : Bool)
  | int (value : Int)
  | text (value : String)
  | array (items : List Json)
  | object (members : List (String × Json))
  deriving Repr

namespace Json

instance : Inhabited Json := ⟨null⟩

def ofText? : Option String → Json
  | some value => text value
  | none => null

def ofInt? : Option Int → Json
  | some value => int value
  | none => null

/-- A code point in four hexadecimal digits, or two halves of a surrogate pair. -/
def unicodeEscape (point : Nat) : String :=
  if point < 0x10000 then "\\u" ++ Text.hex 4 point
  else
    let rest := point - 0x10000
    "\\u" ++ Text.hex 4 (0xD800 + rest / 0x400) ++ "\\u" ++ Text.hex 4 (0xDC00 + rest % 0x400)

def escapeChar (c : Char) : String :=
  if c = Text.doubleQuote ∨ c = Text.backslash then String.ofList [Text.backslash, c]
  else if c = '\n' then "\\n"
  else if c = '\r' then "\\r"
  else if c = '\t' then "\\t"
  else if c = Char.ofNat 0x08 then "\\b"
  else if c = Char.ofNat 0x0C then "\\f"
  else if c.toNat < 0x20 ∨ 0x7E < c.toNat then unicodeEscape c.toNat
  else c.toString

def quoteText (value : String) : String :=
  "\"" ++ String.join (value.toList.map escapeChar) ++ "\""

/-- The start of a line at a depth. -/
def newLine (depth : Nat) : String :=
  "\n" ++ String.ofList (List.replicate (2 * depth) ' ')

mutual

/-- Two blanks of indentation a level; empty arrays and objects take no lines of their own. -/
def render (depth : Nat) : Json → String
  | null => "null"
  | bool value => if value then "true" else "false"
  | int value => toString value
  | text value => quoteText value
  | array [] => "[]"
  | array items =>
    "[" ++ ",".intercalate (renderItems (depth + 1) items) ++ newLine depth ++ "]"
  | object [] => "\x7b\x7d"
  | object members =>
    "\x7b" ++ ",".intercalate (renderMembers (depth + 1) members) ++ newLine depth ++ "\x7d"

def renderItems (depth : Nat) : List Json → List String
  | [] => []
  | item :: rest => (newLine depth ++ render depth item) :: renderItems depth rest

def renderMembers (depth : Nat) : List (String × Json) → List String
  | [] => []
  | (key, value) :: rest =>
    (newLine depth ++ quoteText key ++ ": " ++ render depth value) :: renderMembers depth rest

end

def pretty (document : Json) : String := render 0 document

end Json

end ReactiveProps
