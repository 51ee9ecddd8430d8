import ReactiveProps.Analysis.Analyze
import ReactiveProps.Digest

/-!
# The parse cache

Parses are kept for a handler, the digest of the code and the code itself. The cache holds a fixed
number of them; a parse that does not fit pushes out the one used longest ago.
-/
namespace ReactiveProps.Analysis

/-- A parser set up for one grammar. Handlers with different numbers share no parses. -/
structure Handler where
  id : Nat
  grammar : Grammar
  deriving DecidableEq, Repr

structure ParseKey where
  handler : Nat
  digest : String
  code : String
  deriving DecidableEq, Repr

structure ParseCache where
  /-- The kept parses, the one used last first. -/
  entries : List (ParseKey × Parsed)
  hits : Nat
  misses : Nat

namespace ParseCache

def capacity : Nat := 128

def empty : ParseCache := ⟨[], 0, 0⟩

def size (cache : ParseCache) : Nat := cache.entries.length

def find? (cache : ParseCache) (key : ParseKey) : Option Parsed :=
  (cache.entries.find? fun entry => entry.1 = key).map Prod.snd

/-- Moves a kept parse to the front. -/
def touch (cache : ParseCache) (key : ParseKey) (parsed : Parsed) : ParseCache :=
  { cache with
    entries := (key, parsed) :: cache.entries.filter fun entry => entry.1 ≠ key
    hits := cache.hits + 1 }

/-- Puts a new parse at the front. -/
def store (cache : ParseCache) (key : ParseKey) (parsed : Parsed) : ParseCache :=
  { cache with
    entries := ((key, parsed) :: cache.entries).take capacity
    misses := cache.misses + 1 }

/-- The kept parse of a key, or the given one, which is then kept. -/
def fetch (cache : ParseCache) (key : ParseKey) (fresh : Unit → Parsed) : Parsed × ParseCache :=
  match cache.find? key with
  | some parsed => (parsed, cache.touch key parsed)
  | none =>
    let parsed := fresh ()
    (parsed, cache.store key parsed)

end ParseCache

namespace Handler

def key (handler : Handler) (code : String) : ParseKey :=
  ⟨handler.id, Digest.ofString code, code⟩

/-- Parses code through the cache. Code that cannot be encoded leaves the cache alone. -/
def parse (handler : Handler) (parser : Parser) (cache : ParseCache) (code : Text.RawText) :
    Except AnalysisError Parsed × ParseCache :=
  match code.encode with
  | .error error => (.error (.unencodable error handler.grammar), cache)
  | .ok text =>
    let (parsed, cache) := cache.fetch (handler.key text) fun _ =>
      ⟨.ofString text, parser handler.grammar text⟩
    (.ok parsed, cache)

end Handler

end ReactiveProps.Analysis
