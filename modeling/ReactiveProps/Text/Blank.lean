import ReactiveProps.Text.Ranges

/-!
# Blanks

Two sets of blanks: those of ASCII, which separate words, and those of Unicode 14 with the
separators among the controls, which look empty at the end of a line.
-/
namespace ReactiveProps.Text

/-- The space, the tabs and the characters that end a line or a page. -/
def asciiBlanks : Ranges := [(0x9, 0xd), (0x20, 0x20)]

def blanks : Ranges :=
  [(0x9, 0xd), (0x1c, 0x20), (0x85, 0x85), (0xa0, 0xa0), (0x1680, 0x1680), (0x2000, 0x200a),
  (0x2028, 0x2029), (0x202f, 0x202f), (0x205f, 0x205f), (0x3000, 0x3000)]

def isAsciiBlank (c : Char) : Bool := asciiBlanks.has c

def isBlank (c : Char) : Bool := blanks.has c

theorem isBlank_of_isAsciiBlank {c : Char} (h : isAsciiBlank c = true) : isBlank c = true := by
  simp only [isAsciiBlank, isBlank, Ranges.has, asciiBlanks, blanks, List.any_cons, List.any_nil,
    Bool.or_eq_true, Bool.and_eq_true, decide_eq_true_eq, Bool.false_eq_true, or_false] at h ⊢
  omega

end ReactiveProps.Text
