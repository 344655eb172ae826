import Perflint.Finding
import Perflint.Grammar.Languages
import Perflint.Suggestion.Snippet
import Perflint.Text.Basic
import Perflint.Text.Unicode

namespace Perflint.Snippet

def allocation : List Snippet :=
  [{ key := "append-in-place"
     language := "python"
     before := lines ["for $loop_var in $collection:", "    $target = $value"]
     after := lines
        ["for $loop_var in $collection:",
         "    $target.append(...)  # or .extend(...) / .update(...) in place"] },
   { key := "append-in-place"
     language := "javascript"
     before := lines ["for (const $loop_var of $collection) \x7b", "  $target = $value;", "\x7d"]
     after := lines
        ["for (const $loop_var of $collection) \x7b",
         "  $target.push(...); // mutate in place instead of copying",
         "\x7d"] },
   { key := "use-deque"
     language := "python"
     before := "$call"
     after := lines
        ["from collections import deque",
         "$collection = deque($collection)",
         "$collection.appendleft(...)  # or popleft(), both O(1)"] },
   { key := "use-deque"
     language := "javascript"
     before := "$call"
     after := lines
        ["// push to the end and reverse once after the loop, or keep a head index",
         "$collection.push(...);"] },
   { key := "use-deque"
     language := "java"
     before := "$call"
     after := lines
        ["// declare $collection as a Deque",
         "$collection = new ArrayDeque<>($collection);",
         "$collection.addFirst(...); // or pollFirst(), both O(1)"] },
   { key := "comprehension"
     language := "python"
     before := lines ["$target = []", "for $var in $collection:", "    $target.append($item)"]
     after := "$target = [$item for $var in $collection]" },
   { key := "comprehension"
     language := "javascript"
     before := lines
        ["const $target = [];",
         "for (const $var of $collection) \x7b",
         "  $target.push($item);",
         "\x7d"]
     after := "const $target = $collection.map(($var) => $item);" },
   { key := "shallow-copy"
     language := "python"
     before := "$call"
     after := "copy.copy($value)  # or copy only the fields that are mutated" },
   { key := "shallow-copy"
     language := "javascript"
     before := "$call"
     after := "(\x7b ...$value \x7d) // or copy only the fields that are mutated" },
   { key := "structured-clone"
     language := "javascript"
     before := "$call"
     after := "structuredClone($value)" },
   { key := "bounded-cache"
     language := "python"
     before := "$collection.append($item)"
     after := lines
        ["from collections import deque",
         "$collection = deque(maxlen=1024)  # or functools.lru_cache for memo tables",
         "$collection.append($item)"] },
   { key := "bounded-cache"
     language := "javascript"
     before := "$collection.push($item);"
     after := lines
        ["$collection.push($item);",
         "if ($collection.length > 1024) $collection.shift(); // or evict from a Map in insertion order"] },
   { key := "bounded-cache"
     language := "java"
     before := "$collection.add($item);"
     after := lines
        ["// LinkedHashMap with removeEldestEntry, or a Caffeine/Guava cache with maximumSize",
         "$collection.add($item);"] },
   { key := "bounded-cache"
     language := "go"
     before := "$collection = append($collection, $item)"
     after := lines
        ["$collection = append($collection, $item)",
         "if len($collection) > 1024 \x7b",
         "\t$collection = $collection[1:]",
         "\x7d"] },
   { key := "single-pass"
     language := "javascript"
     before := "$collection.$first($first_fn).$second($second_fn)"
     after := lines
        ["// one pass: apply $first_fn, then $second_fn, to each element",
         "$collection.reduce(..., [])"] }]

def io : List Snippet :=
  [{ key := "batch-fetch"
     language := "python"
     before := lines ["for $loop_var in $collection:", "    $call"]
     after := lines
        ["# $collection came from $source_call; fetch what $callee needs for all of it at once",
         "${loop_var}_rows = \x7b...\x7d  # key -> row, from one batched query (WHERE key IN (...))",
         "for $loop_var in $collection:",
         "    ${loop_var}_rows.get(...)  # instead of $call"] },
   { key := "batch-fetch"
     language := "javascript"
     before := lines ["for (const $loop_var of $collection) \x7b", "  $call;", "\x7d"]
     after := lines
        ["// $collection came from $source_call; fetch what $callee needs for all of it at once",
         "const ${loop_var}Rows = new Map(); // key -> row, from one batched query (WHERE key IN (...))",
         "for (const $loop_var of $collection) \x7b",
         "  ${loop_var}Rows.get(/* key of $loop_var */);",
         "\x7d"] },
   { key := "batch-fetch"
     language := "java"
     before := lines ["for (var $loop_var : $collection) \x7b", "    $call;", "\x7d"]
     after := lines
        ["// $collection came from $source_call; fetch what $callee needs for all of it at once",
         "Map<Object, Object> ${loop_var}Rows = new HashMap<>(); // one batched query: WHERE key IN (...)",
         "for (var $loop_var : $collection) \x7b",
         "    ${loop_var}Rows.get(/* key of $loop_var */);",
         "\x7d"] },
   { key := "batch-fetch"
     language := "go"
     before := lines ["for _, $loop_var := range $collection \x7b", "\t$call", "\x7d"]
     after := lines
        ["// $collection came from $source_call; fetch what $callee needs for all of it at once",
         "${loop_var}Rows := map[any]any\x7b\x7d // filled by one batched query: WHERE key IN (...)",
         "for _, $loop_var := range $collection \x7b",
         "\t_ = ${loop_var}Rows[ /* key of $loop_var */ ]",
         "\x7d"] },
   { key := "hoist-io"
     language := "python"
     before := lines ["for $loop_var in $collection:", "    $call"]
     after := lines
        ["# read or request everything the loop needs once, before the loop",
         "for $loop_var in $collection:",
         "    ...  # use the preloaded data instead of $call"] },
   { key := "hoist-io"
     language := "javascript"
     before := lines ["for (const $loop_var of $collection) \x7b", "  $call;", "\x7d"]
     after := lines
        ["// load everything the loop needs once, before the loop",
         "for (const $loop_var of $collection) \x7b",
         "  // use the preloaded data instead of $call",
         "\x7d"] },
   { key := "hoist-io"
     language := "java"
     before := lines ["for (var $loop_var : $collection) \x7b", "    $call;", "\x7d"]
     after := lines
        ["// load everything the loop needs once, before the loop",
         "for (var $loop_var : $collection) \x7b",
         "    // use the preloaded data instead of $call",
         "\x7d"] },
   { key := "hoist-io"
     language := "go"
     before := lines ["for _, $loop_var := range $collection \x7b", "\t$call", "\x7d"]
     after := lines
        ["// load everything the loop needs once, before the loop",
         "for _, $loop_var := range $collection \x7b",
         "\t// use the preloaded data instead of $call",
         "\x7d"] },
   { key := "gather"
     language := "python"
     before := lines ["for $loop_var in $collection:", "    await $call"]
     after := lines
        ["# results come back in the order of $collection",
         "await asyncio.gather(*($call for $loop_var in $collection))"] },
   { key := "gather"
     language := "javascript"
     before := lines ["for (const $loop_var of $collection) \x7b", "  await $call;", "\x7d"]
     after := lines
        ["// results come back in the order of $collection",
         "await Promise.all($collection.map(($loop_var) => $call));"] }]

def lookups : List Snippet :=
  [{ key := "index-lookup"
     language := "python"
     before := lines ["for $loop_var in ...:", "    $call"]
     after := lines
        ["${loop_var}_seen = set($collection)  # once, before the loop; a dict of positions when the index matters",
         "for $loop_var in ...:",
         "    $item in ${loop_var}_seen"] },
   { key := "index-lookup"
     language := "javascript"
     before := lines ["for (const $loop_var of ...) \x7b", "  $call;", "\x7d"]
     after := lines
        ["// once, before the loop; a Map from key to element when the index matters",
         "const ${loop_var}Seen = new Set($collection);",
         "for (const $loop_var of ...) \x7b",
         "  ${loop_var}Seen.has($item);",
         "\x7d"] },
   { key := "index-lookup"
     language := "java"
     before := lines ["for (var $loop_var : ...) \x7b", "    $call;", "\x7d"]
     after := lines
        ["// once, before the loop; a HashMap from key to position when the index matters",
         "Set<Object> ${loop_var}Seen = new HashSet<>($collection);",
         "for (var $loop_var : ...) \x7b",
         "    ${loop_var}Seen.contains($item);",
         "\x7d"] },
   { key := "hash-join"
     language := "python"
     before := lines
        ["for $outer_var in $outer:",
         "    for $inner_var in $inner:",
         "        if $condition:",
         "            ..."]
     after := lines
        ["${inner_var}_by_key = \x7b\x7d",
         "for $inner_var in $inner:",
         "    ${inner_var}_by_key.setdefault(..., []).append($inner_var)  # key: the $inner_var side of $condition",
         "for $outer_var in $outer:",
         "    for $inner_var in ${inner_var}_by_key.get(..., ()):  # key: the $outer_var side",
         "        ..."] },
   { key := "hash-join"
     language := "javascript"
     before := lines
        ["for (const $outer_var of $outer) \x7b",
         "  for (const $inner_var of $inner) \x7b",
         "    if ($condition) \x7b ... \x7d",
         "  \x7d",
         "\x7d"]
     after := lines
        ["const ${inner_var}ByKey = new Map();",
         "for (const $inner_var of $inner) \x7b",
         "  // key: the $inner_var side of $condition",
         "  ${inner_var}ByKey.set(/* key */ $inner_var, $inner_var);",
         "\x7d",
         "for (const $outer_var of $outer) \x7b",
         "  ${inner_var}ByKey.get(/* the $outer_var side */ $outer_var);",
         "\x7d"] },
   { key := "hash-join"
     language := "java"
     before := lines
        ["for (var $outer_var : $outer) \x7b",
         "    for (var $inner_var : $inner) \x7b",
         "        if ($condition) \x7b ... \x7d",
         "    \x7d",
         "\x7d"]
     after := lines
        ["Map<Object, Object> ${inner_var}ByKey = new HashMap<>();",
         "for (var $inner_var : $inner) \x7b",
         "    ${inner_var}ByKey.put(/* the $inner_var side of $condition */ $inner_var, $inner_var);",
         "\x7d",
         "for (var $outer_var : $outer) \x7b",
         "    ${inner_var}ByKey.get(/* the $outer_var side */ $outer_var);",
         "\x7d"] },
   { key := "hash-join"
     language := "go"
     before := lines
        ["for _, $outer_var := range $outer \x7b",
         "\tfor _, $inner_var := range $inner \x7b",
         "\t\tif $condition \x7b ... \x7d",
         "\t\x7d",
         "\x7d"]
     after := lines
        ["${inner_var}ByKey := map[any]any\x7b\x7d",
         "for _, $inner_var := range $inner \x7b",
         "\t${inner_var}ByKey[ /* the $inner_var side of $condition */ $inner_var] = $inner_var",
         "\x7d",
         "for _, $outer_var := range $outer \x7b",
         "\t_ = ${inner_var}ByKey[ /* the $outer_var side */ $outer_var]",
         "\x7d"] }]

def repetition : List Snippet :=
  [{ key := "vectorize"
     language := "python"
     before := lines ["for ... in $frame.iterrows():", "    ..."]
     after := lines
        ["# express the per-row computation as column operations, e.g.",
         "$frame[\"a\"] * $frame[\"b\"]  # one vectorized expression instead of one per row"] },
   { key := "event-wait"
     language := "python"
     before := lines ["$loop_kind ...:", "    $call"]
     after := lines
        ["# share one Event with the producer, which calls set() instead of being polled",
         "threading.Event().wait(timeout=$duration)"] },
   { key := "event-wait"
     language := "javascript"
     before := lines ["$loop_kind (...) \x7b", "  $call;", "\x7d"]
     after := lines
        ["// a promise the producer resolves, instead of polling every $duration with $call",
         "await ...;"] },
   { key := "event-wait"
     language := "java"
     before := lines ["$loop_kind (...) \x7b", "    $call;", "\x7d"]
     after := lines
        ["// share the latch with the producer, which calls countDown()",
         "new CountDownLatch(1).await($duration, TimeUnit.MILLISECONDS);"] },
   { key := "event-wait"
     language := "go"
     before := lines ["$loop_kind ... \x7b", "\t$call", "\x7d"]
     after := lines
        ["select \x7b",
         "case <-...: // a channel the producer closes",
         "case <-time.After($duration):",
         "\x7d"] },
   { key := "memoize"
     language := "python"
     before := lines ["def $function(...):", "    ..."]
     after := lines ["@functools.lru_cache(maxsize=None)", "def $function(...):", "    ..."] },
   { key := "memoize"
     language := "javascript"
     before := lines ["function $function(...) \x7b", "  ...", "\x7d"]
     after := lines
        ["const ${function}Memo = new Map();",
         "function $function(...) \x7b",
         "  if (${function}Memo.has(...)) return ${function}Memo.get(...);",
         "  ...",
         "  ${function}Memo.set(..., ...);",
         "\x7d"] },
   { key := "memoize"
     language := "java"
     before := "... $function(...) \x7b ... \x7d"
     after := lines
        ["private final Map<Object, Object> ${function}Memo = new HashMap<>();",
         "",
         "... $function(...) \x7b",
         "    if (${function}Memo.containsKey(...)) return ${function}Memo.get(...);",
         "    ...",
         "\x7d"] },
   { key := "memoize"
     language := "go"
     before := "func $function(...) ... \x7b ... \x7d"
     after := lines
        ["${function}Memo := map[any]any\x7b\x7d",
         "// look the arguments up in ${function}Memo at the top of $function; store the result before returning"] }]

def text : List Snippet :=
  [{ key := "sort-once"
     language := "python"
     before := lines ["for $loop_var in $collection:", "    ...", "    $call"]
     after := lines
        ["for $loop_var in $collection:",
         "    ...  # bisect.insort($target, ...) keeps it ordered",
         "$call  # sort once after the loop"] },
   { key := "sort-once"
     language := "javascript"
     before := lines ["for (const $loop_var of $collection) \x7b", "  $call;", "\x7d"]
     after := lines
        ["for (const $loop_var of $collection) \x7b",
         "  // collect into $target only",
         "\x7d",
         "$call; // sort once after the loop"] },
   { key := "sort-once"
     language := "java"
     before := lines ["for (var $loop_var : $collection) \x7b", "    $call;", "\x7d"]
     after := lines
        ["for (var $loop_var : $collection) \x7b",
         "    // collect into $target only",
         "\x7d",
         "$call; // sort once, or use a TreeSet/PriorityQueue"] },
   { key := "sort-once"
     language := "go"
     before := lines ["for _, $loop_var := range $collection \x7b", "\t$call", "\x7d"]
     after := lines
        ["for _, $loop_var := range $collection \x7b",
         "\t// collect into $target only",
         "\x7d",
         "$call // sort once after the loop"] },
   { key := "join-parts"
     language := "python"
     before := lines ["for $loop_var in $collection:", "    $target += $piece"]
     after := "$target += \"\".join($piece for $loop_var in $collection)" },
   { key := "join-parts"
     language := "javascript"
     before := lines ["for (const $loop_var of $collection) \x7b", "  $target += $piece;", "\x7d"]
     after := "$target += Array.from($collection, ($loop_var) => $piece).join(\"\");" },
   { key := "join-parts"
     language := "java"
     before := lines ["for (var $loop_var : $collection) \x7b", "    $target += $piece;", "\x7d"]
     after := lines
        ["StringBuilder ${loop_var}Parts = new StringBuilder($target);",
         "for (var $loop_var : $collection) \x7b",
         "    ${loop_var}Parts.append($piece);",
         "\x7d",
         "$target = ${loop_var}Parts.toString();"] },
   { key := "join-parts"
     language := "go"
     before := lines ["for _, $loop_var := range $collection \x7b", "\t$target += $piece", "\x7d"]
     after := lines
        ["var ${loop_var}Parts strings.Builder",
         "${loop_var}Parts.WriteString($target)",
         "for _, $loop_var := range $collection \x7b",
         "\t${loop_var}Parts.WriteString($piece)",
         "\x7d",
         "$target = ${loop_var}Parts.String()"] },
   { key := "precompile-regex"
     language := "python"
     before := lines ["for $loop_var in $collection:", "    $call"]
     after := lines
        ["${loop_var}_pattern = re.compile($pattern)",
         "for $loop_var in $collection:",
         "    ${loop_var}_pattern.search(...)  # instead of $call"] },
   { key := "precompile-regex"
     language := "javascript"
     before := lines ["for (const $loop_var of $collection) \x7b", "  $call;", "\x7d"]
     after := lines
        ["const ${loop_var}Pattern = new RegExp($pattern);",
         "for (const $loop_var of $collection) \x7b",
         "  ${loop_var}Pattern.test(...); // instead of $call",
         "\x7d"] },
   { key := "precompile-regex"
     language := "java"
     before := lines ["for (var $loop_var : $collection) \x7b", "    $call;", "\x7d"]
     after := lines
        ["Pattern ${loop_var}Pattern = Pattern.compile($pattern);",
         "for (var $loop_var : $collection) \x7b",
         "    ${loop_var}Pattern.matcher(...); // instead of $call",
         "\x7d"] },
   { key := "precompile-regex"
     language := "go"
     before := lines ["for _, $loop_var := range $collection \x7b", "\t$call", "\x7d"]
     after := lines
        ["${loop_var}Pattern := regexp.MustCompile($pattern)",
         "for _, $loop_var := range $collection \x7b",
         "\t${loop_var}Pattern.MatchString(...) // instead of $call",
         "\x7d"] }]

def all : List Snippet :=
  io ++ lookups ++ allocation ++ text ++ repetition

-- Two languages share their snippets.
def languageKey (language : String) : String :=
  let small := Text.strip (Text.lowercase language)
  if small == "typescript" then "javascript" else small

def find? (key language : String) : Option Snippet :=
  all.find? fun snippet => snippet.key == key && snippet.language == languageKey language

def keys : List String :=
  (all.map Snippet.key).eraseDups.mergeSort (fun a b => a ≤ b)

def languagesFor (key : String) : List String :=
  ((all.filter (·.key == key)).map Snippet.language).mergeSort (fun a b => a ≤ b)

end Perflint.Snippet

namespace Perflint.Finding

def withSuggestion (finding : Finding) (suggestion : Option Suggestion) (error : String) : Finding :=
  { finding with suggestion, suggestionError := error }

def fillSnippet (snippet : Snippet) (values : List (String × String)) : Except Snippet.Fault (String × String) := do
  let before ← Snippet.fill values snippet.before
  let after ← Snippet.fill values snippet.after
  return (before, after)

-- The captures of the match, or else of the finding, fill the snippet; blank ones count as missing. What keeps a
-- snippet from being filled is told, and the finding stays.
def synthesize (finding : Finding) (origin : Option Match) (tag : String) : Finding :=
  if finding.templateKey.isEmpty then finding
  else
    let language := Language.normalize tag
    match Snippet.find? finding.templateKey language with
    | none =>
      finding.withSuggestion none ("no " ++ Text.quoted finding.templateKey ++ " template for " ++
        (if language.isEmpty then "unknown language" else language))
    | some snippet =>
      let captures := match origin with
        | some m => m.captureTexts
        | none => finding.captures
      match fillSnippet snippet (captures.filter fun (_, text) => !Text.isBlankText text) with
      | .ok (before, after) => finding.withSuggestion (some { before, after, language }) ""
      | .error fault => finding.withSuggestion none (fault.text finding.templateKey)

def synthesizeAll (findings : List Finding) (tag : String) : List Finding :=
  findings.map fun finding => finding.synthesize finding.origin tag

end Perflint.Finding
