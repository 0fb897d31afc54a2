import BitcodeCache.Entry.Load
import BitcodeCache.Store.Error

/-!
# Log events

What the library reports while it works, each report with its fields in a fixed order.
-/

namespace BitcodeCache

/-- How much a log event matters, least first. -/
inductive Level where
  | debug
  | info
  | warn
  | error
deriving DecidableEq, Repr

namespace Level

/-- The rank of a level. -/
def rank : Level → Nat
  | .debug => 0
  | .info => 1
  | .warn => 2
  | .error => 3

/-- The word for a level. -/
def display : Level → String
  | .debug => "DEBUG"
  | .info => "INFO"
  | .warn => "WARN"
  | .error => "ERROR"

end Level

/-- A report of the library. -/
inductive Event where
  | cacheMiss (path : Path) (miss : Miss)
  | cacheHit (path : Path)
  | cacheBypassed (path : Path)
  | recompiling (path : Path) (miss : Miss)
  | stored (path : Path) (size : Nat)
  | storeFailed (path : Path) (error : WriteError)
  | renamedTwice (symbol previous replacement : String)
  | loadedConfiguration (path : Path)
deriving DecidableEq, Repr

namespace Event

/-- How much an event matters. -/
def level : Event → Level
  | .recompiling .. => .info
  | .storeFailed .. => .warn
  | .renamedTwice .. => .warn
  | _ => .debug

/-- The words of an event. -/
def message : Event → String
  | .cacheMiss .. => "cache miss"
  | .cacheHit .. => "cache hit"
  | .cacheBypassed .. => "cache bypassed"
  | .recompiling .. => "recompiling"
  | .stored .. => "stored cache entry"
  | .storeFailed .. => "failed to store cache entry"
  | .renamedTwice .. => "symbol rename rule registered twice"
  | .loadedConfiguration .. => "loaded configuration"

end Event

/-- A field of an event: its key, its value, and whether a log line quotes the value. -/
structure EventField where
  key : String
  value : String
  isQuoted : Bool := false
deriving DecidableEq, Repr

/-- A field as a log line shows it. -/
def EventField.display (f : EventField) : String :=
  f.key ++ "=" ++ if f.isQuoted then Text.quoted f.value else f.value

namespace Event

/-- The fields of an event in their order. -/
def fields : Event → List EventField
  | .cacheMiss path miss => [⟨"path", path.text, false⟩, ⟨"miss", miss.message, false⟩]
  | .cacheHit path => [⟨"path", path.text, false⟩]
  | .cacheBypassed path => [⟨"path", path.text, false⟩]
  | .recompiling path miss => [⟨"path", path.text, false⟩, ⟨"miss", miss.message, false⟩]
  | .stored path size => [⟨"path", path.text, false⟩, ⟨"bytes", toString size, false⟩]
  | .storeFailed path error => [⟨"path", path.text, false⟩, ⟨"error", error.message, false⟩]
  | .renamedTwice symbol previous replacement =>
    [⟨"symbol", symbol, true⟩, ⟨"previous", previous, false⟩, ⟨"replacement", replacement, false⟩]
  | .loadedConfiguration path => [⟨"config", path.text, false⟩]

/-- What is reported of a lookup: a miss, and nothing of a hit. -/
def ofLookup (path : Path) : Except Miss Entry → List Event
  | .ok _ => []
  | .error miss => [.cacheMiss path miss]

/-- The line of an event in a log: level, words and fields between blanks. -/
def line (e : Event) : String :=
  " ".intercalate (e.level.display :: e.message :: e.fields.map EventField.display)

end Event

end BitcodeCache
