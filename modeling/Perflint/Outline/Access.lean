import Perflint.Grammar.Vocabulary
import Perflint.Outline.Loops
import Perflint.Text.Unicode

namespace Perflint

inductive FetchStrength where
  | strong
  | weak
  deriving DecidableEq, Repr

def FetchStrength.text : FetchStrength → String
  | .strong => "strong"
  | .weak => "weak"

namespace Access

def fetchLeaves : List String :=
  ["query", "execute", "executemany", "executequery", "fetch", "fetchall", "fetchone", "fetchmany", "findone",
   "findall", "findmany", "findunique", "findfirst", "findbyid", "find_by", "findby", "filter_by",
   "get_object_or_404", "urlopen", "raw", "scalars", "request", "queryforobject", "queryforlist", "pluck"]

def fetchStarts : List String :=
  ["fetch", "query", "find_by", "findby", "get_by", "load_by"]

def neverFetch : List String :=
  ["queryselector", "queryselectorall"]

def weakLeaves : List String :=
  ["get", "load", "find", "read", "retrieve", "lookup", "all", "filter", "exclude", "first", "where", "post", "list"]

def weakStarts : List String :=
  ["get", "load", "list", "read", "retrieve"]

def dataReceivers : List String :=
  ["db", "database", "session", "objects", "queryset", "repository", "repo", "dao", "client", "api", "http",
   "requests", "axios", "cursor", "conn", "connection", "prisma", "knex", "sequelize", "entitymanager", "em",
   "jdbc", "jdbctemplate", "redis", "mongo", "httpclient"]

def dataEnds : List String :=
  ["repository", "repo", "dao", "client", "session", "service", "api", "db"]

def fileCalls : List String :=
  ["open", "readFile", "readFileSync", "writeFile", "writeFileSync", "appendFileSync", "read_text", "write_text",
   "read_bytes", "write_bytes", "urlopen", "readAllLines", "readString"]

def fileQualified : List String :=
  ["Files.lines", "os.ReadFile", "os.Open", "os.WriteFile", "ioutil.ReadFile", "http.Get", "http.Post",
   "requests.get", "requests.post"]

def receiverParts (qualified : String) : List String :=
  ((Text.pieces '.' qualified).dropLast.filter (!·.isEmpty)).map fun part =>
    String.ofList (Text.dropEndWhile (fun c => c == '(' || c == ')') (Text.lowercase part).toList)

def isDataReceiver (qualified : String) : Bool :=
  (receiverParts qualified).any fun part => dataReceivers.contains part || Text.endsWithAny part dataEnds

end Access

open Access

-- Operators never fetch. A generic call that takes a closure is taken for a search through a collection.
def CallInfo.fetchStrength? (c : CallInfo) : Option FetchStrength :=
  let leaf := Text.lowercase c.callee
  if !c.operator.isEmpty || leaf.isEmpty || neverFetch.contains leaf then none
  else if fetchLeaves.contains leaf || Text.startsWithAny leaf fetchStarts then some .strong
  else if !weakLeaves.contains leaf && !Text.startsWithAny leaf weakStarts then none
  else if isDataReceiver c.qualified then some .strong
  else if c.hasClosureArg then none
  else some .weak

def Node.fetchStrength? (node : Node) : Option FetchStrength :=
  node.call?.bind CallInfo.fetchStrength?

def CallInfo.isIo (c : CallInfo) : Bool :=
  c.operator.isEmpty &&
    (fileQualified.contains c.qualified || fileCalls.contains c.callee || c.fetchStrength? == some .strong)

def Node.isIo (node : Node) : Bool :=
  match node.call? with
  | some c => c.isIo
  | none => false

def firstFetch? (calls : List Site) : Option (FetchStrength × Site) :=
  let fetches := calls.filterMap fun call => call.node.fetchStrength?.map fun strength => (strength, call)
  (fetches.find? (·.1 == .strong)).or fetches.head?

-- The fetch that a loop's data comes from, directly or through the variable it was stored in.
def Outline.fetchedOrigin? (outline : Outline) (loop : Site) : Option (FetchStrength × Site) :=
  match firstFetch? loop.sourceCalls with
  | some origin => some origin
  | none =>
    let root := loop.node.loopRoot
    if root.isEmpty || Vocabulary.selfReceivers.contains root then none
    else
      match outline.lastAssignment? (outline.scopeOf loop) root loop.span.start with
      | none => none
      | some assignment => firstFetch? (assignment.descendantsInScope.filter (·.kind.isCall))

def CallInfo.arg (c : CallInfo) (index : Nat) : String :=
  c.args.getD index ""

-- The name under which a receiver's bindings are known: a plain variable, or `self.x` with its dot.
def CallInfo.trackedName (c : CallInfo) : String :=
  if Vocabulary.selfReceivers.contains c.receiverRoot && c.receiver.toList.count '.' == 1 then c.receiver
  else if c.receiver == c.receiverRoot then c.receiverRoot
  else ""

def AssignmentInfo.soleTarget (a : AssignmentInfo) : String :=
  match a.targets with
  | [target] => target
  | _ => ""

def Node.firstVar (loop : Node) : String :=
  loop.loopVars.headD ""

def Node.firstArg (node : Node) : String :=
  match node.call? with
  | some c => c.arg 0
  | none => ""

end Perflint
