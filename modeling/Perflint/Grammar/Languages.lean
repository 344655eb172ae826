import Perflint.Error
import Perflint.Grammar.Basic
import Perflint.Text.Unicode

namespace Perflint.Language

def text : Language → String
  | .python => "python"
  | .javascript => "javascript"
  | .typescript => "typescript"
  | .java => "java"
  | .go => "go"

def all : List Language :=
  [.go, .java, .javascript, .python, .typescript]

def aliases : List (String × String) :=
  [("py", "python"), ("python3", "python"), ("js", "javascript"), ("jsx", "javascript"), ("node", "javascript"),
   ("ts", "typescript"), ("tsx", "typescript"), ("golang", "go")]

def normalize (tag : String) : String :=
  let small := Text.lowercase (Text.strip tag)
  (aliases.lookup small).getD small

def ofTag? (tag : String) : Option Language :=
  all.find? (·.text == normalize tag)

def pythonGrammar : Grammar :=
  { language := .python
    parser := "python"
    extensions := [".py", ".pyi"]
    classTypes := ["class_definition"]
    functionTypes := ["function_definition"]
    closureTypes := ["lambda"]
    loopTypes :=
      [("for_statement", .each "left" "right"), ("while_statement", .condition .whileDo),
       ("list_comprehension", .comprehension), ("set_comprehension", .comprehension),
       ("dictionary_comprehension", .comprehension), ("generator_expression", .comprehension)]
    callTypes := ["call"]
    literalTypes := [("list", "list"), ("dictionary", "dict"), ("set", "set"), ("tuple", "tuple")]
    conditionalTypes := ["if_statement", "elif_clause", "conditional_expression"]
    inlineConditionals := ["conditional_expression"]
    assignmentTypes := ["assignment", "augmented_assignment", "named_expression"]
    awaitTypes := ["await"]
    bodyRequired := ["function_definition"]
    allocatorCalls :=
      ["list", "dict", "set", "tuple", "frozenset", "bytearray", "deque", "defaultdict", "OrderedDict", "Counter"]
    membershipTypes := ["comparison_operator"]
    deletionTypes := ["delete_statement"]
    stringTypes := ["string", "concatenated_string"]
    numberTypes := ["integer", "float"]
    spreadTypes := ["list_splat", "dictionary_splat"]
    binaryTypes := ["binary_operator"]
    comparisonTypes := ["comparison_operator"]
    argumentTypes := ["argument_list"]
    multiTypes := ["pattern_list", "tuple_pattern", "expression_list"]
    memberFields := [("attribute", "object", "attribute")]
    subscriptFields := [("subscript", "value")]
    skipFields := [("keyword_argument", "name")]
    bindingFields := [("assignment", "left", "right")]
    keywordArguments := [("keyword_argument", "value")]
    expressionKinds :=
      [("list_comprehension", .list), ("set_comprehension", .set), ("dictionary_comprehension", .dict),
       ("generator_expression", .other)]
    rangeCall := some "range"
    methodForm := .insideClass
    decoratorForm := .wrapped }

def javascriptGrammar : Grammar :=
  { language := .javascript
    parser := "javascript"
    extensions := [".js", ".jsx", ".mjs", ".cjs"]
    classTypes := ["class_declaration", "class"]
    functionTypes := ["function_declaration", "generator_function_declaration", "method_definition"]
    closureTypes := ["arrow_function", "function_expression", "function", "generator_function"]
    loopTypes :=
      [("for_statement", .threePart), ("for_in_statement", .each "left" "right"),
       ("while_statement", .condition .whileDo), ("do_statement", .condition .doWhile)]
    callTypes := ["call_expression"]
    newTypes := ["new_expression"]
    literalTypes := [("array", "array"), ("object", "object")]
    conditionalTypes := ["if_statement", "ternary_expression"]
    assignmentTypes := ["assignment_expression", "augmented_assignment_expression", "variable_declarator"]
    declarationTypes := ["variable_declarator"]
    updateTypes := ["update_expression"]
    awaitTypes := ["await_expression"]
    bodyRequired :=
      ["function_declaration", "generator_function_declaration", "method_definition", "arrow_function",
       "function_expression", "function", "generator_function"]
    identTypes := ["identifier", "shorthand_property_identifier"]
    thisTypes := ["this"]
    stringTypes := ["string", "template_string"]
    numberTypes := ["number"]
    regexTypes := ["regex"]
    spreadTypes := ["spread_element"]
    argumentTypes := ["arguments"]
    memberFields := [("member_expression", "object", "property")]
    subscriptFields := [("subscript_expression", "object")]
    skipFields := [("pair", "key")]
    bindingFields :=
      [("variable_declarator", "name", "value"), ("assignment_expression", "left", "right"),
       ("pair", "key", "value"), ("field_definition", "property", "value")]
    methodForm := .ofType "method_definition" }

def typescriptGrammar : Grammar :=
  { javascriptGrammar with
    language := .typescript
    parser := "typescript"
    extensions := [".ts", ".tsx", ".mts", ".cts"]
    classTypes := ["class_declaration", "class", "abstract_class_declaration"]
    parenTypes := ["parenthesized_expression", "as_expression", "non_null_expression", "satisfies_expression"]
    bindingFields := javascriptGrammar.bindingFields ++ [("public_field_definition", "name", "value")] }

def javaGrammar : Grammar :=
  { language := .java
    parser := "java"
    extensions := [".java"]
    classTypes := ["class_declaration", "interface_declaration", "enum_declaration", "record_declaration"]
    functionTypes := ["method_declaration", "constructor_declaration"]
    closureTypes := ["lambda_expression"]
    loopTypes :=
      [("for_statement", .declared), ("enhanced_for_statement", .each "name" "value"),
       ("while_statement", .condition .whileDo), ("do_statement", .condition .doWhile)]
    callTypes := ["method_invocation"]
    newTypes := ["object_creation_expression", "array_creation_expression"]
    literalTypes := [("array_initializer", "array")]
    conditionalTypes := ["if_statement", "ternary_expression"]
    assignmentTypes := ["assignment_expression", "variable_declarator"]
    declarationTypes := ["variable_declarator"]
    updateTypes := ["update_expression"]
    bodyRequired := ["constructor_declaration", "lambda_expression"]
    thisTypes := ["this"]
    stringTypes := ["string_literal"]
    numberTypes :=
      ["decimal_integer_literal", "decimal_floating_point_literal", "hex_integer_literal", "binary_integer_literal"]
    argumentTypes := ["argument_list"]
    memberFields := [("field_access", "object", "field")]
    subscriptFields := [("array_access", "array")]
    skipFields := [("method_invocation", "name")]
    bindingFields := [("variable_declarator", "name", "value")]
    callForm := .named
    methodForm := .always
    decoratorForm := .modifiers }

def goGrammar : Grammar :=
  { language := .go
    parser := "go"
    extensions := [".go"]
    functionTypes := ["function_declaration", "method_declaration"]
    closureTypes := ["func_literal"]
    loopTypes := [("for_statement", .clause)]
    callTypes := ["call_expression"]
    literalTypes := [("composite_literal", "object")]
    conditionalTypes := ["if_statement"]
    assignmentTypes := ["assignment_statement", "short_var_declaration", "var_spec"]
    declarationTypes := ["short_var_declaration", "var_spec"]
    updateTypes := ["inc_statement", "dec_statement"]
    bodyRequired := ["func_literal"]
    allocatorCalls := ["make", "new"]
    collectionBuiltins := ["append", "delete", "copy"]
    stringTypes := ["interpreted_string_literal", "raw_string_literal"]
    numberTypes := ["int_literal", "float_literal"]
    argumentTypes := ["argument_list"]
    multiTypes := ["expression_list"]
    memberFields := [("selector_expression", "operand", "field")]
    subscriptFields := [("index_expression", "operand")]
    bindingFields := []
    typedLiterals := ["composite_literal"]
    methodForm := .ofType "method_declaration"
    parameterForm := .grouped
    receiverField := some "receiver" }

def grammar : Language → Grammar
  | .python => pythonGrammar
  | .javascript => javascriptGrammar
  | .typescript => typescriptGrammar
  | .java => javaGrammar
  | .go => goGrammar

-- The extension of the last part of a path, with its dot; dots at the start of a name open no extension.
def extension (path : String) : String :=
  let name := (Text.afterLast '/' path).toList.dropWhile (· == '.')
  if name.contains '.' then "." ++ Text.afterLast '.' (String.ofList name) else ""

def ofExtension? (extension : String) : Option Language :=
  all.find? (·.grammar.extensions.contains (Text.lowercase extension))

def ofPath? (path : String) : Option Language :=
  ofExtension? (extension path)

-- Markup inside the code needs a grammar of its own.
def markupParser : String := "tsx"

def namesMarkup : Option String → Bool
  | some path => Text.lowercase (extension path) == ".tsx"
  | none => false

def parserFor (tag : String) (path : Option String) : Except Error String :=
  if namesMarkup path || Text.lowercase (Text.strip tag) == markupParser then .ok markupParser
  else
    match ofTag? tag with
    | some language => .ok language.grammar.parser
    | none => .error (.unsupportedLanguage tag)

def tagFor? (tag path : Option String) : Option String :=
  tag.or (path.bind fun path => (ofPath? path).map text)

-- The tag and the parser for a text. Without a tag the extension of the file stands in the error.
def request (tag path : Option String) : Except Error (String × String) :=
  match tagFor? tag path with
  | none =>
    let extension := extension (path.getD "")
    .error (.unsupportedLanguage (if extension.isEmpty then "<unknown>" else extension))
  | some tag =>
    match ofTag? tag with
    | none => .error (.unsupportedLanguage tag)
    | some _ => (parserFor tag path).map fun parser => (tag, parser)

end Perflint.Language
