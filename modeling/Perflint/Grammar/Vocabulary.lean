import Perflint.Outline.Node
import Perflint.Text.Basic

namespace Perflint.Vocabulary

def collectionMethods : List String :=
  ["append", "extend", "insert", "push", "unshift", "add", "addAll", "put", "putAll", "set", "appendleft",
   "setdefault", "update", "offer", "enqueue",
   "pop", "popleft", "popitem", "shift", "splice", "remove", "removeAt", "discard", "clear", "delete", "poll",
   "index", "indexOf", "lastIndexOf", "includes", "contains", "containsKey", "containsValue", "count", "find",
   "findIndex", "findLast", "some", "every", "has",
   "forEach", "map", "filter", "reduce", "reduceRight", "flatMap", "sort", "slice", "concat", "copy"]

-- Of these, the ones that call a closure argument once per element.
def iterationMethods : List String :=
  ["forEach", "map", "filter", "reduce", "reduceRight", "flatMap", "find", "findIndex", "findLast", "some", "every"]

-- Calls that only change how something is walked: what is walked is their first argument.
def wrapperFunctions : List String :=
  ["enumerate", "zip", "reversed", "sorted", "list", "tuple", "iter", "set"]

def wrapperQualified : List String :=
  ["Object.keys", "Object.values", "Object.entries", "Array.from"]

def wrapperMethods : List String :=
  ["items", "values", "keys", "entries", "entrySet", "keySet", "iterator", "stream"]

def lookupMethods : List String :=
  ["has", "get", "containsKey", "contains", "hasOwnProperty", "__contains__", "includes"]

def listCallees : List String :=
  ["list", "sorted", "split", "splitlines", "readlines", "Array", "slice", "concat", "map", "filter", "flatMap",
   "asList", "toList", "toArray", "ArrayList", "LinkedList"]

def listQualified : List String :=
  ["List.of", "Arrays.asList", "Array.from", "Array.of"]

def setCallees : List String :=
  ["set", "frozenset", "Set", "HashSet", "TreeSet", "LinkedHashSet", "toSet"]

def dictCallees : List String :=
  ["dict", "defaultdict", "OrderedDict", "Counter", "Map", "HashMap", "TreeMap", "LinkedHashMap", "WeakMap",
   "fromEntries", "toMap"]

def dequeCallees : List String :=
  ["deque", "ArrayDeque"]

def stringCallees : List String :=
  ["str", "String", "join", "format", "toString", "repr", "strip", "lower", "upper", "Sprintf", "trim", "replace",
   "StringBuilder", "StringBuffer"]

def compareTokens : List String :=
  ["==", "===", "!=", "!==", "<", ">", "<=", ">=", "in", "not in", "is", "is not", "instanceof"]

def relationalTokens : List String :=
  ["<", ">", "<=", ">=", "!="]

def equalsCallees : List String :=
  ["equals", "Equals", "equal"]

def selfReceivers : List String :=
  ["self", "this", "cls"]

def constructorKind? (leaf qualified : String) (args : List String) : Option ValueKind :=
  let made := if leaf == "make" then args.head?.getD "" else ""
  if qualified == "Set.of" || setCallees.contains leaf then some .set
  else if qualified == "Map.of" || dictCallees.contains leaf then some .dict
  else if dequeCallees.contains leaf then some .deque
  else if Text.startsWith made "map[" then some .dict
  else if Text.startsWith made "[]" then some .list
  else if listQualified.contains qualified || listCallees.contains leaf then some .list
  else if stringCallees.contains leaf then some .string
  else none

end Perflint.Vocabulary
