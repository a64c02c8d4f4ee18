import Phrasebook.CommandLine.Outcome
import Phrasebook.CommandLine.Table

/-! The command that reports how far the messages of a file cover languages. -/

namespace Phrasebook

/-- The names without a variant in a language that the range given chooses. -/
def Store.missingNames (store : Store) (language : String) : List String :=
  store.names.filter fun name =>
    let tags := (store.variants name).filterMap (·.language)
    (Language.Resolution.basic [Language.Range.ofTag language] tags).isNone

namespace CommandLine

/-- How far a number of names is covered in one language. -/
structure LanguageCoverage where
  language : String
  total : Nat
  missing : List String
  deriving DecidableEq

namespace LanguageCoverage

def ofStore (store : Store) (language : String) : LanguageCoverage :=
  ⟨language, store.names.length, store.missingNames language⟩

def translated (coverage : LanguageCoverage) : Nat :=
  coverage.total - coverage.missing.length

def isComplete (coverage : LanguageCoverage) : Bool :=
  coverage.missing.isEmpty

def row (coverage : LanguageCoverage) : List String :=
  [coverage.language, coverage.translated.repr ++ "/" ++ coverage.total.repr,
    coverage.missing.length.repr]

def toJson (coverage : LanguageCoverage) : Json :=
  .object [("language", .string coverage.language), ("translated", .integer coverage.translated),
    ("total", .integer coverage.total), ("missing", .array (coverage.missing.map .string))]

/-- The names missing in a language, under a heading. -/
def missingText (coverage : LanguageCoverage) : String :=
  if coverage.isComplete then ""
  else
    "\nMissing in " ++ coverage.language ++ ":\n" ++
      String.join (coverage.missing.map fun name => "  - " ++ name ++ "\n")

end LanguageCoverage

def coverageTable (coverages : List LanguageCoverage) : Table :=
  ⟨["Language", "Coverage", "Missing"], coverages.map LanguageCoverage.row⟩

namespace CoverageOptions

def output (options : CoverageOptions) (coverages : List LanguageCoverage) : String :=
  if options.json then document (.array (coverages.map LanguageCoverage.toJson))
  else (coverageTable coverages).text ++ String.join (coverages.map LanguageCoverage.missingText)

def run (options : CoverageOptions) (reader : File.Reader) : Outcome :=
  match readStore reader [] options.file with
  | .error error => .failed (.load error)
  | .ok store =>
    let coverages := options.languages.map (LanguageCoverage.ofStore store)
    let complete := coverages.all LanguageCoverage.isComplete
    ⟨if options.strict && !complete then .dataError else .success, options.output coverages, []⟩

end CoverageOptions

end CommandLine

end Phrasebook
