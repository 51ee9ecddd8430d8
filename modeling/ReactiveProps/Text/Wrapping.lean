import ReactiveProps.Text.Blank
import ReactiveProps.Text.WordCharacter

/-!
# Wrapped text

A text is cut into chunks, between which a line may end: runs of blanks, dashes between words, and
words, which are cut after their hyphens. Lines are filled with as many chunks as fit. Nothing of
the text is lost among the chunks (`flatten_chunks`).
-/
namespace ReactiveProps.Text.Wrapping

/-- Characters after which two dashes set a word apart. -/
def endsWord (c : Char) : Bool :=
  isWordCharacter c || "!\"'&.,?".toList.contains c

/-- Whether there is a first character and it meets the condition. -/
def startsWith (condition : Char → Bool) (text : List Char) : Bool :=
  text.head?.any condition

/-- Whether a text begins with two or more dashes and then a word. -/
def opensWithDashes (text : List Char) : Bool :=
  startsWith isWordCharacter (text.dropWhile (· == '-')) &&
    2 ≤ (text.takeWhile (· == '-')).length

/-- Whether a word may be cut after a hyphen: two letters stand before it and two after it, perhaps
with a hyphen between them. The text before the hyphen is given from its end. -/
def cutsAtHyphen (before after : List Char) : Bool :=
  let front := match before with
    | b :: '-' :: a :: _ => isLetter a && isLetter b
    | b :: a :: _ => isLetter a && isLetter b
    | _ => false
  let back := match after with
    | a :: '-' :: b :: _ => isLetter a && isLetter b
    | a :: b :: _ => isLetter a && isLetter b
    | _ => false
  front && back

/-- How many more characters belong to the part of a word that has begun. The text before is given
from its end. -/
def partLength (before : List Char) : List Char → Nat
  | [] => 0
  | c :: rest =>
    if c = '-' ∧ cutsAtHyphen before rest = true then 1
    else if isAsciiBlank c then 0
    else if startsWith endsWord before && opensWithDashes (c :: rest) then 0
    else partLength (c :: before) rest + 1

/-- How many characters after the first belong to its chunk. -/
def chunkLength (before : List Char) (c : Char) (rest : List Char) : Nat :=
  if isAsciiBlank c then (rest.takeWhile isAsciiBlank).length
  else if startsWith endsWord before && opensWithDashes (c :: rest) then
    (rest.takeWhile (· == '-')).length
  else partLength (c :: before) rest

/-- The chunks of a text. The text before is given from its end. -/
def chunksAfter (before : List Char) : List Char → List (List Char)
  | [] => []
  | c :: rest =>
    let length := chunkLength before c rest
    let chunk := c :: rest.take length
    chunk :: chunksAfter (chunk.reverse ++ before) (rest.drop length)
termination_by text => text.length
decreasing_by simp only [List.length_cons, List.length_drop]; omega

def chunks (text : List Char) : List (List Char) := chunksAfter [] text

theorem flatten_chunksAfter (before text : List Char) :
    (chunksAfter before text).flatten = text := by
  fun_induction chunksAfter before text with
  | case1 => rfl
  | case2 before c rest length chunk ih =>
    rw [List.flatten_cons, ih]
    simp [chunk]

/-- The chunks of a text are the text. -/
theorem flatten_chunks (text : List Char) : (chunks text).flatten = text :=
  flatten_chunksAfter [] text

/-- How much text and how many chunks there are. -/
def weight : List (List Char) → Nat
  | [] => 0
  | chunk :: rest => chunk.length + 1 + weight rest

@[simp] theorem weight_cons (chunk : List Char) (rest : List (List Char)) :
    weight (chunk :: rest) = chunk.length + 1 + weight rest := rfl

def fits (width : Nat) (chunk : List Char) : Bool := (chunk.drop width).isEmpty

theorem fits_iff {width : Nat} {chunk : List Char} :
    fits width chunk = true ↔ chunk.length ≤ width := by
  simp [fits]

/-- The first chunks that fit a line together, and the others. -/
def takeFitting (width : Nat) : List (List Char) → List (List Char) × List (List Char)
  | [] => ([], [])
  | chunk :: rest =>
    if fits width chunk then
      let (fitting, others) := takeFitting (width - chunk.length) rest
      (chunk :: fitting, others)
    else ([], chunk :: rest)

theorem weight_takeFitting_le (width : Nat) (chunks : List (List Char)) :
    weight (takeFitting width chunks).2 ≤ weight chunks := by
  fun_induction takeFitting width chunks with
  | case1 => exact Nat.le_refl _
  | case2 width chunk rest _ fitting others h ih =>
    rw [h] at ih
    simp only [weight_cons] at ih ⊢
    omega
  | case3 => exact Nat.le_refl _

/-- Where a chunk that no line can hold is cut to fill up the room in one: after the last hyphen in
there, unless only hyphens stand before it, else at the end of the room. -/
def cutPoint (room : Nat) (chunk : List Char) : Nat :=
  let part := chunk.take room
  let front := (part.reverse.dropWhile (· != '-')).reverse
  if front.dropLast.any (· != '-') then front.length else room

theorem cutPoint_pos {room : Nat} (h : 0 < room) (chunk : List Char) :
    0 < cutPoint room chunk := by
  simp only [cutPoint]
  split
  · rename_i hfront
    apply List.length_pos_iff.mpr
    intro hnil
    simp [hnil] at hfront
  · exact h

/-- Fills up a line with the beginning of a chunk that no line can hold. -/
def fillUp (width : Nat) (line : List (List Char)) :
    List (List Char) → List (List Char) × List (List Char)
  | [] => (line, [])
  | chunk :: rest =>
    if fits width chunk then (line, chunk :: rest)
    else
      let cut := cutPoint (width - line.flatten.length) chunk
      (line ++ [chunk.take cut], chunk.drop cut :: rest)

theorem weight_fillUp_le (width : Nat) (line chunks : List (List Char)) :
    weight (fillUp width line chunks).2 ≤ weight chunks := by
  fun_cases fillUp width line chunks with
  | case1 => exact Nat.le_refl _
  | case2 => exact Nat.le_refl _
  | case3 => simp

/-- The chunks of a line that begins with the given chunk, and those left over. A chunk that no line
can hold is cut. -/
def cutLine (width : Nat) (chunk : List Char) (rest : List (List Char)) :
    List (List Char) × List (List Char) :=
  if fits width chunk then
    let (fitting, others) := takeFitting (width - chunk.length) rest
    fillUp width (chunk :: fitting) others
  else
    let cut := cutPoint (max 1 width) chunk
    ([chunk.take cut], chunk.drop cut :: rest)

theorem weight_cutLine_lt (width : Nat) (chunk : List Char) (rest : List (List Char)) :
    weight (cutLine width chunk rest).2 < weight (chunk :: rest) := by
  simp only [cutLine]
  split
  · have h₁ := weight_takeFitting_le (width - chunk.length) rest
    have h₂ := weight_fillUp_le width (chunk :: (takeFitting (width - chunk.length) rest).1)
      (takeFitting (width - chunk.length) rest).2
    simp only [weight_cons]
    omega
  · rename_i hfits
    have hlong : width < chunk.length := Nat.lt_of_not_le (hfits ∘ fits_iff.mpr)
    have hcut := cutPoint_pos (show 0 < max 1 width by omega) chunk
    simp only [weight_cons, List.length_drop]
    omega

def isBlankChunk (chunk : List Char) : Bool := chunk.all isBlank

/-- A line without a blank chunk at its end. -/
def trimLine (line : List (List Char)) : List (List Char) :=
  if line.getLast?.any isBlankChunk then line.dropLast else line

/-- The chunks without a blank one in front. -/
def dropBlank : List (List Char) → List (List Char)
  | [] => []
  | chunk :: rest => if isBlankChunk chunk then rest else chunk :: rest

theorem weight_dropBlank_le (chunks : List (List Char)) :
    weight (dropBlank chunks) ≤ weight chunks := by
  fun_cases dropBlank chunks with
  | case1 => exact Nat.le_refl _
  | case2 => simp
  | case3 => exact Nat.le_refl _

/-- Fills lines with chunks. No line but the first begins with a blank chunk. -/
def fillLines (width : Nat) (first : Bool) (chunks : List (List Char)) : List (List Char) :=
  match _h : if first then chunks else dropBlank chunks with
  | [] => []
  | chunk :: rest =>
    let line := trimLine (cutLine width chunk rest).1
    let others := fillLines width (first && line.isEmpty) (cutLine width chunk rest).2
    if line.isEmpty then others else line.flatten :: others
termination_by weight chunks
decreasing_by
  have hcut := weight_cutLine_lt width chunk rest
  have hdrop := weight_dropBlank_le chunks
  rw [← _h] at hcut
  split at hcut <;> omega

/-- The lines of a text that is wrapped at a width. -/
def wrap (width : Nat) (text : List Char) : List (List Char) :=
  fillLines width true (chunks text)

end ReactiveProps.Text.Wrapping
