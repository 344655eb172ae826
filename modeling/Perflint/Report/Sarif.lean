import Perflint.Finding
import Perflint.Report.Basic
import Perflint.Text.Encoding
import Perflint.Text.Unicode

namespace Perflint.Sha1

def rotate (word : UInt32) (bits : UInt32) : UInt32 :=
  (word <<< bits) ||| (word >>> (32 - bits))

def bigEndian : Nat → Nat → List UInt8
  | 0, _ => []
  | width + 1, n => UInt8.ofNat (n / Nat.pow 256 width) :: bigEndian width n

-- A one bit, zeros up to the last eight bytes of a block, and the length in bits.
def padded (bytes : List UInt8) : List UInt8 :=
  let length := bytes.length
  let zeros := (119 - length % 64) % 64
  bytes ++ 0x80 :: List.replicate zeros 0 ++ bigEndian 8 (8 * length)

-- The list in pieces of `size`, without what is left over at the end.
def chunks (size : Nat) (list : List α) : List (List α) :=
  (List.range (list.length / size)).map fun index => (list.drop (size * index)).take size

def wordOf (bytes : List UInt8) : UInt32 :=
  bytes.foldl (fun word byte => (word <<< 8) ||| byte.toUInt32) 0

def extend : Nat → List UInt32 → List UInt32
  | 0, words => words
  | rounds + 1, words =>
    let word := words.getD 2 0 ^^^ words.getD 7 0 ^^^ words.getD 13 0 ^^^ words.getD 15 0
    extend rounds (rotate word 1 :: words)

def schedule (block : List UInt8) : List UInt32 :=
  (extend 64 ((chunks 4 block).map wordOf).reverse).reverse

structure State where
  a : UInt32
  b : UInt32
  c : UInt32
  d : UInt32
  e : UInt32
  deriving DecidableEq, Repr, Inhabited

def start : State :=
  { a := 0x67452301, b := 0xEFCDAB89, c := 0x98BADCFE, d := 0x10325476, e := 0xC3D2E1F0 }

def mixing (round : Nat) (s : State) : UInt32 × UInt32 :=
  if round < 20 then ((s.b &&& s.c) ||| ((s.b ^^^ 0xFFFFFFFF) &&& s.d), 0x5A827999)
  else if round < 40 then (s.b ^^^ s.c ^^^ s.d, 0x6ED9EBA1)
  else if round < 60 then ((s.b &&& s.c) ||| (s.b &&& s.d) ||| (s.c &&& s.d), 0x8F1BBCDC)
  else (s.b ^^^ s.c ^^^ s.d, 0xCA62C1D6)

def step (s : State) (word : UInt32) (round : Nat) : State :=
  let (mixed, constant) := mixing round s
  { a := rotate s.a 5 + mixed + s.e + constant + word, b := s.a, c := rotate s.b 30, d := s.c, e := s.d }

def absorb (s : State) (block : List UInt8) : State :=
  let t := (schedule block).zipIdx.foldl (fun s (word, round) => step s word round) s
  { a := s.a + t.a, b := s.b + t.b, c := s.c + t.c, d := s.d + t.d, e := s.e + t.e }

def hexText (s : State) : String :=
  String.ofList ([s.a, s.b, s.c, s.d, s.e].flatMap fun word => Text.hexDigits 8 word.toNat)

def digest (text : String) : String :=
  hexText ((chunks 64 (padded (Text.encodeUtf8 text))).foldl absorb start)

end Perflint.Sha1

namespace Perflint.Sarif

def formatVersion : String := "2.1.0"

def schema : String :=
  "https://raw.githubusercontent.com/oasis-tcs/sarif-spec/main/sarif-2.1/schema/sarif-schema-2.1.0.json"

def toolName : String := "hotpath"

inductive Level where
  | error
  | warning
  | note
  deriving DecidableEq, Repr, Inhabited

def Level.text : Level → String
  | .error => "error"
  | .warning => "warning"
  | .note => "note"

def Level.ofSeverity : Severity → Level
  | .critical | .high => .error
  | .medium => .warning
  | .low => .note

structure Descriptor where
  id : Json
  short : Json
  full : Option Json := none
  help : Option Json := none
  level : Option Json := none
  properties : Option Json := none
  deriving Inhabited

def textMember (name : String) (value : Option Json) : List (String × Json) :=
  match value with
  | some value => [(name, .obj [("text", value)])]
  | none => []

def Descriptor.toJson (d : Descriptor) : Json :=
  .obj ([("id", d.id), ("shortDescription", .obj [("text", d.short)])] ++ textMember "fullDescription" d.full ++
    textMember "help" d.help ++
    (match d.level with
      | some level => [("defaultConfiguration", .obj [("level", level)])]
      | none => []) ++
    (match d.properties with
      | some properties => [("properties", properties)]
      | none => []))

def Descriptor.ofJson? (rule : Json) : Option Descriptor := do
  let id ← rule.get? "id"
  let short ← rule.get? "shortDescription"
  return { id, short, full := rule.get? "fullDescription", help := rule.get? "help", level := rule.get? "defaultLevel"
           properties := rule.get? "properties" }

def log (tool version : String) (rules : List Descriptor) (results : List Json) : Json :=
  .obj [("$schema", .str schema), ("version", .str formatVersion),
        ("runs", .arr [.obj
          [("tool", .obj [("driver", .obj
             [("name", .str tool), ("version", .str version), ("rules", .arr (rules.map Descriptor.toJson))])]),
           ("results", .arr results)]])]

def fingerprintSource (finding : Finding) (path : String) : String :=
  Text.joined "|" [finding.patternId, finding.scope, finding.message, path]

def lineSource (finding : Finding) (path : String) : String :=
  Text.joined "|" [finding.patternId, path, toString finding.span.start.line]

def uri (path : String) : String :=
  Text.replaceChar '\\' '/' path

def region (span : Span) : Json :=
  .obj [("startLine", .nat span.start.line), ("startColumn", .nat (span.start.column + 1)),
        ("endLine", .nat span.finish.line), ("endColumn", .nat (span.finish.column + 1))]

def artifact (path : String) : Json :=
  .obj [("uri", .str (uri path))]

def message (finding : Finding) : String :=
  match finding.complexity with
  | some text => if text.isEmpty then finding.message else finding.message ++ " [" ++ text ++ "]"
  | none => finding.message

-- The suggestion takes the place of the lines of the finding.
def fixes (finding : Finding) (path : String) (suggestion : Suggestion) : Json :=
  let description := if finding.remediation.isEmpty then "Suggested rewrite" else finding.remediation
  .arr [.obj
    [("description", .obj [("text", .str description)]),
     ("artifactChanges", .arr [.obj
       [("artifactLocation", artifact path),
        ("replacements", .arr [.obj
          [("deletedRegion", .obj
             [("startLine", .nat finding.span.start.line), ("endLine", .nat finding.span.finish.line)]),
           ("insertedContent", .obj [("text", .str suggestion.after)])]])]])]]

def level (finding : Finding) : Level :=
  .ofSeverity finding.severity

def result (path : String) (finding : Finding) : Json :=
  .obj ([("ruleId", .str finding.patternId), ("level", .str (level finding).text),
         ("message", .obj [("text", .str (message finding))]),
         ("locations", .arr [.obj [("physicalLocation", .obj
           [("artifactLocation", artifact path), ("region", region finding.span)])]]),
         ("properties", .obj
           [("severity", .str finding.severity.label), ("scope", .str finding.scope),
            ("complexity", .opt .str finding.complexity), ("merged", .strs finding.merged)]),
         ("partialFingerprints", .obj
           [("primaryLocationLineHash", .str (Sha1.digest (lineSource finding path))),
            ("hotpathFindingFingerprint/v1", .str (Sha1.digest (fingerprintSource finding path)))])] ++
        match finding.suggestion with
        | some suggestion => [("fixes", fixes finding path suggestion)]
        | none => [])

def descriptor (finding : Finding) : Descriptor :=
  { id := .str finding.patternId, short := .str finding.title
    help := some (.str (if finding.remediation.isEmpty then finding.title else finding.remediation))
    level := some (.str (level finding).text)
    properties := some (.obj
      [("category", .str finding.category), ("tags", .strs ["performance", finding.category])]) }

def firstOfPattern (findings : List Finding) : List Finding :=
  findings.foldl (fun seen finding =>
    if seen.any (·.patternId == finding.patternId) then seen else seen ++ [finding]) []

def ofFindings (findings : List Finding) (path : String) : Json :=
  log toolName version ((firstOfPattern findings).map descriptor) (findings.map (result path))

end Perflint.Sarif
