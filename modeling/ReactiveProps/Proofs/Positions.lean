import Mathlib
import ReactiveProps.Diagnostic

/-!
# Offsets as lines and columns

Reading on in a source goes to a later line or to a later column of the same line. So a position
tells the offset it was made from, which is that of the start of its line and its column together.
-/
namespace ReactiveProps

open SyntaxTree

namespace SyntaxTree.Source

variable (source : Source)

/-- The line of an offset, counted from one, and its column, in the order of reading. -/
def place (offset : Nat) : Int ×ₗ Int :=
  toLex ((source.position offset).line + 1, (source.position offset).column)

structure StartsLine (line start : Nat) : Prop where
  inside : start ≤ source.bytes.size
  line : (source.before start).count lineFeed = line
  fresh : ∀ byte ∈ (source.before start).getLast?, byte = lineFeed

variable {source}

theorem length_before {offset : Nat} (inside : offset ≤ source.bytes.size) :
    (source.before offset).length = offset := by
  rw [before, List.length_take, Array.length_toList]
  exact Nat.min_eq_left inside

/-- What is passed between two offsets. -/
theorem exists_passed {first second : Nat} (less : first < second)
    (inside : second ≤ source.bytes.size) :
    ∃ passed, passed ≠ [] ∧ source.before second = source.before first ++ passed := by
  obtain ⟨passed, split⟩ := List.take_prefix_take_left (l := source.bytes.data.toList) less.le
  refine ⟨passed, ?_, split.symm⟩
  rintro rfl
  have lengths := congrArg List.length split
  rw [List.append_nil] at lengths
  exact absurd lengths
    (by rw [← before, ← before, length_before inside, length_before (less.le.trans inside)]; omega)

def lineSoFar (bytes : List UInt8) : List UInt8 := bytes.rtakeWhile (· != lineFeed)

theorem column_position (offset : Nat) :
    (source.position offset).column = (lineSoFar (source.before offset)).length := by
  rw [lineSoFar, List.rtakeWhile, List.length_reverse]
  rfl

theorem lineSoFar_append {bytes passed : List UInt8} (unbroken : lineFeed ∉ passed) :
    lineSoFar (bytes ++ passed) = lineSoFar bytes ++ passed := by
  have kept : ∀ byte ∈ passed.reverse, (byte != lineFeed) = true := by
    intro byte listed
    rw [bne_iff_ne]
    rintro rfl
    exact unbroken (List.mem_reverse.mp listed)
  rw [lineSoFar, List.rtakeWhile, List.reverse_append, List.takeWhile_append_of_pos kept,
    List.reverse_append, List.reverse_reverse]
  rfl

/-- Reading on goes to a later line or, within a line, to a later column. -/
theorem place_lt {first second : Nat} (less : first < second)
    (inside : second ≤ source.bytes.size) : source.place first < source.place second := by
  obtain ⟨passed, filled, split⟩ := exists_passed less inside
  have lines : (source.position second).line =
      (source.position first).line + passed.count lineFeed := by
    rw [position, split, List.count_append]
    rfl
  rw [place, place, Prod.Lex.toLex_lt_toLex, lines]
  by_cases broken : lineFeed ∈ passed
  · left
    have : 0 < passed.count lineFeed := List.count_pos_iff.mpr broken
    push_cast
    omega
  · right
    rw [List.count_eq_zero.mpr broken, column_position, column_position, split,
      lineSoFar_append broken, List.length_append]
    have : 0 < passed.length := List.length_pos_iff.mpr filled
    constructor <;> push_cast <;> omega

variable (source)

theorem strictMonoOn_place : StrictMonoOn source.place (Set.Iic source.bytes.size) :=
  fun _ _ _ inside less => place_lt less inside

variable {source}

theorem place_le {first second : Nat} (order : first ≤ second)
    (inside : second ≤ source.bytes.size) : source.place first ≤ source.place second :=
  source.strictMonoOn_place.monotoneOn (order.trans inside) inside order

theorem startsLine_unique {line start other : Nat} (starts : source.StartsLine line start)
    (startsToo : source.StartsLine line other) : start = other := by
  have noLater {first second : Nat} (one : source.StartsLine line first)
      (two : source.StartsLine line second) : ¬ first < second := by
    intro less
    obtain ⟨passed, filled, split⟩ := exists_passed less two.inside
    have broken : passed.getLast filled = lineFeed := by
      refine two.fresh _ ?_
      rw [split, List.getLast?_append, List.getLast?_eq_some_getLast filled]
      rfl
    have more : 0 < passed.count lineFeed :=
      List.count_pos_iff.mpr (broken ▸ List.getLast_mem filled)
    have lines := two.line
    rw [split, List.count_append, one.line] at lines
    omega
  exact Nat.le_antisymm (Nat.not_lt.mp (noLater startsToo starts))
    (Nat.not_lt.mp (noLater starts startsToo))

/-- An offset is the start of its line and its column together. -/
theorem exists_startsLine {offset : Nat} (inside : offset ≤ source.bytes.size) :
    ∃ start, (∀ other, source.StartsLine (source.position offset).line other ↔ other = start) ∧
      offset = start + (source.position offset).column := by
  have split : (source.before offset).rdropWhile (· != lineFeed) ++
      lineSoFar (source.before offset) = source.before offset := List.rdropWhile_append_rtakeWhile
  generalize front : (source.before offset).rdropWhile (· != lineFeed) = earlier at split
  have reached : earlier.length + (source.position offset).column = offset := by
    rw [column_position, ← List.length_append, split, length_before inside]
  have early : source.before earlier.length = earlier := by
    calc source.before earlier.length
        = (source.before offset).take earlier.length := by
          rw [before, before, List.take_take, Nat.min_eq_left (by omega)]
      _ = earlier := by rw [← split, List.take_left]
  have unbroken : (lineSoFar (source.before offset)).count lineFeed = 0 := by
    rw [List.count_eq_zero]
    intro listed
    have kept : (lineFeed != lineFeed) = true :=
      List.mem_rtakeWhile_imp (p := (· != lineFeed)) listed
    exact bne_iff_ne.mp kept rfl
  have starts : source.StartsLine (source.position offset).line earlier.length := by
    refine ⟨by omega, ?_, fun byte last => ?_⟩
    · have lines := congrArg (List.count lineFeed) split
      rw [List.count_append, unbroken, Nat.add_zero] at lines
      rw [early, lines]
      rfl
    · rw [early, ← front] at last
      obtain ⟨filled, rfl⟩ := List.mem_getLast?_eq_getLast last
      simpa using List.rdropWhile_last_not _ _ filled
  refine ⟨earlier.length, fun other => ⟨fun startsToo => startsLine_unique startsToo starts, ?_⟩,
    reached.symm⟩
  rintro rfl
  exact starts

end SyntaxTree.Source

namespace SourceRange

def start? (range : SourceRange) : Option (Int ×ₗ Int) :=
  range.startColumn.map fun column => toLex (range.startLine, column)

def stop? (range : SourceRange) : Option (Int ×ₗ Int) :=
  range.endColumn.map fun column => toLex (range.endLine, column)

/-- The range stops no earlier than it starts, on lines that count from one, and no part of it lies
outside of the other range. -/
structure LiesIn (range outer : SourceRange) : Prop where
  ends : ∃ first start stop last, outer.start? = some first ∧ range.start? = some start ∧
    range.stop? = some stop ∧ outer.stop? = some last ∧
    first ≤ start ∧ start ≤ stop ∧ stop ≤ last
  startLine : 1 ≤ range.startLine
  endLine : 1 ≤ range.endLine

theorem liesIn_ofNode {source : Source} {outer inner : Node}
    (first : outer.span.start ≤ inner.span.start) (order : inner.span.start ≤ inner.span.stop)
    (last : inner.span.stop ≤ outer.span.stop) (inside : outer.span.stop ≤ source.bytes.size) :
    (ofNode source inner).LiesIn (ofNode source outer) where
  ends := ⟨source.place outer.span.start, source.place inner.span.start,
    source.place inner.span.stop, source.place outer.span.stop, rfl, rfl, rfl, rfl,
    Source.place_le first (order.trans (last.trans inside)),
    Source.place_le order (last.trans inside), Source.place_le last inside⟩
  startLine := by
    change (1 : Int) ≤ (source.position inner.span.start).line + 1
    omega
  endLine := by
    change (1 : Int) ≤ (source.position inner.span.stop).line + 1
    omega

end SourceRange

end ReactiveProps
