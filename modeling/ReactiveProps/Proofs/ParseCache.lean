import ReactiveProps.Analysis.ParseCache

/-!
# What the parse cache gives

Every kept parse is the parse of the code in its key with the grammar of the handler in its key. The
digest in a key is never relied on. So parsing through the cache gives what parsing gives, whatever
was kept, found or pushed out before.
-/
namespace ReactiveProps.Analysis

variable (parser : Parser) {grammarOf : Nat → Grammar} {next : Nat}

def ParseKey.parsed (grammarOf : Nat → Grammar) (key : ParseKey) : Parsed :=
  ⟨.ofString key.code, parser (grammarOf key.handler) key.code⟩

namespace ParseCache

/-- The kept parses are right and belong to handlers that were made already. -/
def Sound (grammarOf : Nat → Grammar) (next : Nat) (cache : ParseCache) : Prop :=
  ∀ entry ∈ cache.entries, entry.1.handler < next ∧ entry.2 = entry.1.parsed parser grammarOf

variable {parser} {cache : ParseCache}

theorem sound_empty : empty.Sound parser grammarOf next := nofun

theorem Sound.find? (sound : cache.Sound parser grammarOf next) {key : ParseKey} {parsed : Parsed}
    (found : cache.find? key = some parsed) : parsed = key.parsed parser grammarOf := by
  obtain ⟨entry, first, rfl⟩ := Option.map_eq_some_iff.mp found
  have same : entry.1 = key := by simpa using List.find?_some first
  rw [← same]
  exact (sound entry (List.mem_of_find?_eq_some first)).2

theorem Sound.touch (sound : cache.Sound parser grammarOf next) {key : ParseKey}
    (made : key.handler < next) :
    (cache.touch key (key.parsed parser grammarOf)).Sound parser grammarOf next := by
  intro entry kept
  rcases List.mem_cons.mp kept with rfl | other
  · exact ⟨made, rfl⟩
  · exact sound entry (List.mem_filter.mp other).1

theorem Sound.store (sound : cache.Sound parser grammarOf next) {key : ParseKey}
    (made : key.handler < next) :
    (cache.store key (key.parsed parser grammarOf)).Sound parser grammarOf next := by
  intro entry kept
  rcases List.mem_cons.mp (List.mem_of_mem_take kept) with rfl | other
  · exact ⟨made, rfl⟩
  · exact sound entry other

theorem Sound.fetch (sound : cache.Sound parser grammarOf next) {key : ParseKey}
    (made : key.handler < next) (fresh : Unit → Parsed)
    (parses : fresh () = key.parsed parser grammarOf) :
    (cache.fetch key fresh).1 = key.parsed parser grammarOf ∧
      (cache.fetch key fresh).2.Sound parser grammarOf next := by
  unfold ParseCache.fetch
  cases found : cache.find? key with
  | some parsed =>
    obtain rfl := sound.find? found
    exact ⟨rfl, sound.touch made⟩
  | none =>
    have stored := sound.store made
    rw [← parses] at stored
    exact ⟨parses, stored⟩

/-- Handlers that are made later change nothing about the parses that are kept. -/
theorem Sound.extend (sound : cache.Sound parser grammarOf next) {grammarOf' : Nat → Grammar}
    {next' : Nat} (more : next ≤ next') (same : ∀ id < next, grammarOf' id = grammarOf id) :
    cache.Sound parser grammarOf' next' := by
  intro entry kept
  obtain ⟨made, parsed⟩ := sound entry kept
  refine ⟨Nat.lt_of_lt_of_le made more, ?_⟩
  rw [parsed, ParseKey.parsed, ParseKey.parsed, same _ made]

theorem size_touch_le (key : ParseKey) (parsed : Parsed) (found : cache.find? key = some parsed) :
    (cache.touch key parsed).size ≤ cache.size := by
  obtain ⟨entry, first, -⟩ := Option.map_eq_some_iff.mp found
  have same : entry.1 = key := by simpa using List.find?_some first
  have fewer : (cache.entries.filter fun entry => entry.1 ≠ key).length < cache.entries.length := by
    refine List.length_filter_lt_length_iff_exists.mpr
      ⟨entry, List.mem_of_find?_eq_some first, ?_⟩
    simpa using same
  exact fewer

/-- The cache never holds more than its capacity. -/
theorem size_fetch_le (small : cache.size ≤ capacity) (key : ParseKey) (fresh : Unit → Parsed) :
    (cache.fetch key fresh).2.size ≤ capacity := by
  unfold ParseCache.fetch
  cases found : cache.find? key with
  | some parsed => exact Nat.le_trans (size_touch_le key parsed found) small
  | none => exact List.length_take_le _ _

end ParseCache

/-- Parsing through the cache gives what parsing gives. -/
theorem Handler.parse_eq {parser : Parser} {cache : ParseCache}
    (sound : cache.Sound parser grammarOf next) {handler : Handler} (made : handler.id < next)
    (ofGrammar : grammarOf handler.id = handler.grammar) (code : Text.RawText) :
    (handler.parse parser cache code).1 = Analysis.parse parser handler.grammar code ∧
      (handler.parse parser cache code).2.Sound parser grammarOf next := by
  unfold Handler.parse Analysis.parse
  cases code.encode with
  | error error => exact ⟨rfl, sound⟩
  | ok text =>
    let fresh : Unit → Parsed := fun _ => ⟨.ofString text, parser handler.grammar text⟩
    have parses : fresh () = (handler.key text).parsed parser grammarOf := by
      simp only [fresh, ParseKey.parsed, Handler.key, ofGrammar]
    have made : (handler.key text).handler < next := made
    obtain ⟨given, kept⟩ := sound.fetch made fresh parses
    exact ⟨congrArg Except.ok (given.trans parses.symm), kept⟩

end ReactiveProps.Analysis
