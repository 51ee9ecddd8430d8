import ReactiveProps.Text.Quoted

/-!
# Text that may not be encodable

Raw text is a sequence of code points among which lone surrogates may stand. UTF-8 has no form for
those, so encoding fails at the first of them.
-/
namespace ReactiveProps.Text

structure RawText where
  points : List Nat
  deriving DecidableEq, Repr

def isSurrogate (point : Nat) : Bool := 0xD800 ≤ point && point ≤ 0xDFFF

/-- The first run of surrogates: where it starts, its first code point and its length. -/
structure EncodingError where
  start : Nat
  point : Nat
  length : Nat
  deriving DecidableEq, Repr

def EncodingError.message (error : EncodingError) : String :=
  if error.length = 1 then
    "'utf-8' codec can't encode character '\\u" ++ hex 4 error.point ++ "' in position "
      ++ toString error.start ++ ": surrogates not allowed"
  else
    "'utf-8' codec can't encode characters in position " ++ toString error.start ++ "-"
      ++ toString (error.start + error.length - 1) ++ ": surrogates not allowed"

namespace RawText

def ofString (text : String) : RawText := ⟨text.toList.map Char.toNat⟩

def firstError? (text : RawText) : Option EncodingError :=
  let sound := text.points.takeWhile fun point => !isSurrogate point
  match text.points.drop sound.length with
  | [] => none
  | point :: rest => some ⟨sound.length, point, (rest.takeWhile isSurrogate).length + 1⟩

def encode (text : RawText) : Except EncodingError String :=
  match text.firstError? with
  | some error => .error error
  | none => .ok (String.ofList (text.points.map Char.ofNat))

end RawText

end ReactiveProps.Text
