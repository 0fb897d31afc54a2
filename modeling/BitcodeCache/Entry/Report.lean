import BitcodeCache.Entry
import BitcodeCache.Text.Json

/-!
# Reports on entries

The summary of an entry for people, one line for each thing, and for programs, as JSON with the
members of each object in alphabetical order.
-/

namespace BitcodeCache

open BitcodeCache.Text

/-- The word for a symbol's kind in summaries, padded to one width. -/
def SymbolKind.abbreviation : SymbolKind → String
  | .function => "func"
  | .variable => "var "

/-- The word for a symbol's kind in JSON. -/
def SymbolKind.display : SymbolKind → String
  | .function => "function"
  | .variable => "variable"

namespace Entry

/-- An offset in a summary: hexadecimal, with at least six digits. -/
def showOffset (offset : UInt64) : String := hexadecimal 8 offset.toNat

/-- The line of a symbol. -/
def symbolLine (s : ExportedSymbol) : String :=
  "  " ++ s.kind.abbreviation ++ " " ++ showOffset s.offset ++ " " ++ s.name

/-- The line of a relocation. -/
def relocationLine (r : Relocation) : String :=
  "  " ++ showOffset r.offset ++ " type " ++ toString r.kind ++ " " ++ r.symbol ++
    signed r.addend.toInt

/-- The line of a function. -/
def functionLine (f : FunctionRange) : String :=
  "  " ++ showOffset f.offset ++ " " ++ rightAligned 6 f.length.toNat ++ " " ++ f.name

/-- The line of a pragma. -/
def pragmaLine (p : Pragma) : String := "  " ++ p.key ++ " = " ++ quoted p.value

/-- The lines of a summary. -/
def summaryLines (e : Entry) : List String :=
  let f := e.header.fingerprint
  let a := e.artifact
  ["format       v" ++ toString e.header.version,
    "toolchain    " ++ f.toolchain.display,
    "digest       " ++ f.contentDigest.display,
    "source crc   " ++ showWord f.crc32,
    "mod time     " ++ toString f.modTime,
    "payload      " ++ toString e.header.payloadLength ++ " bytes (crc " ++
      showWord e.header.payloadChecksum ++ ")",
    "code         " ++ toString a.code.length ++ " bytes",
    "symbols      " ++ toString a.symbols.length] ++ a.symbols.map symbolLine ++
  ["relocations  " ++ toString a.relocations.length] ++ a.relocations.map relocationLine ++
  ["functions    " ++ toString a.functions.length] ++ a.functions.map functionLine ++
  ["pragmas      " ++ toString a.pragmas.length] ++ a.pragmas.map pragmaLine

/-- The summary of an entry. -/
def summary (e : Entry) : String := String.join (e.summaryLines.map (· ++ "\n"))

/-- A symbol as JSON. -/
def symbolJson (s : ExportedSymbol) : Json :=
  .object [("kind", .string s.kind.display), ("name", .string s.name),
    ("offset", .number s.offset.toNat)]

/-- A relocation as JSON. -/
def relocationJson (r : Relocation) : Json :=
  .object [("addend", .number r.addend.toInt), ("kind", .number r.kind.toNat),
    ("offset", .number r.offset.toNat), ("symbol", .string r.symbol)]

/-- A function as JSON. -/
def functionJson (f : FunctionRange) : Json :=
  .object [("len", .number f.length.toNat), ("name", .string f.name),
    ("offset", .number f.offset.toNat)]

/-- A pragma as JSON. -/
def pragmaJson (p : Pragma) : Json :=
  .object [("key", .string p.key), ("value", .string p.value)]

/-- An entry as JSON. -/
def json (e : Entry) : Json :=
  let f := e.header.fingerprint
  let a := e.artifact
  .object [
    ("code_len", .number a.code.length),
    ("fingerprint", .object [
      ("content_digest", .string f.contentDigest.display),
      ("crc32", .number f.crc32.toNat),
      ("mod_time", .number f.modTime.toInt),
      ("toolchain", .string f.toolchain.display)]),
    ("functions", .array (a.functions.map functionJson)),
    ("payload", .object [
      ("checksum", .number e.header.payloadChecksum.toNat),
      ("len", .number e.header.payloadLength.toNat)]),
    ("pragmas", .array (a.pragmas.map pragmaJson)),
    ("relocations", .array (a.relocations.map relocationJson)),
    ("symbols", .array (a.symbols.map symbolJson)),
    ("version", .number e.header.version.toNat)]

end Entry

end BitcodeCache
