import Perflint.Json.Basic
import Perflint.Outline.Basic
import Perflint.Tree

namespace Perflint

namespace Info

def toJson : Info → Json
  | .unit => .obj [("name", .str "<module>")]
  | .classDef name => .obj [("name", .str name)]
  | .closure params => .obj [("name", .str ""), ("params", .strs params)]
  | .returns value => .obj [("value", .str value)]
  | .function f => .obj
      [("name", .str f.name), ("params", .strs f.params), ("param_count", .nat f.paramCount),
       ("param_types", .obj (f.paramTypes.map fun (name, type) => (name, .str type))),
       ("decorators", .strs f.decorators), ("is_method", .bool f.isMethod), ("receiver_name", .str f.receiverName)]
  | .loop l => .obj
      [("loop_kind", .str l.kind.text), ("iter_vars", .strs l.iterVars), ("iterable", .str l.iterable),
       ("iterable_names", .strs l.iterableNames), ("iterable_root", .str l.iterableRoot),
       ("iterable_callee", .str l.iterableCallee), ("iterable_receiver", .str l.iterableReceiver),
       ("iterable_calls", .strs l.iterableCalls), ("condition", .str l.condition),
       ("condition_names", .strs l.conditionNames), ("compares_literal", .bool l.comparesLiteral),
       ("update", .str l.update), ("bound_constant", .bool l.boundConstant), ("bound_names", .strs l.boundNames),
       ("levels", .nat l.levels), ("constant_levels", .nat l.constantLevels), ("once_count", .nat l.onceCount)]
  | .call c | .collectionOp c => .obj
      [("callee", .str c.callee), ("qualified", .str c.qualified), ("receiver", .str c.receiver),
       ("receiver_root", .str c.receiverRoot), ("receiver_names", .strs c.receiverNames),
       ("receiver_callee", .str c.receiverCallee), ("arg_count", .opt .nat c.argCount), ("args", .strs c.args),
       ("arg_names", .strs c.argNames), ("arg_literal_kinds", .strs c.argLiteralKinds),
       ("arg_callees", .strs c.argCallees), ("awaited", .bool c.awaited), ("has_closure_arg", .bool c.hasClosureArg),
       ("iterates", .bool c.iterates), ("operator", .str c.operator)]
  | .allocation a => .obj
      [("constructor", .str a.constructor), ("literal_kind", .str a.literalKind), ("value_kind", .str a.valueKind.text),
       ("arg_names", .strs a.argNames), ("empty", .bool a.empty)]
  | .conditional c => .obj
      [("condition", .str c.condition), ("condition_names", .strs c.conditionNames), ("compare_ops", .strs c.compareOps),
       ("lookup_container", .str c.lookupContainer), ("guard_returns", .bool c.guardReturns)]
  | .assignment a => .obj
      [("targets", .strs a.targets), ("target_roots", .strs a.targetRoots), ("operator", .str a.operator),
       ("value", .str a.value), ("value_kind", .str a.valueKind.text), ("value_names", .strs a.valueNames),
       ("value_callee", .str a.valueCallee), ("value_calls", .strs a.valueCalls),
       ("value_is_concat", .bool a.valueIsConcat), ("value_has_string", .bool a.valueHasString),
       ("value_has_list", .bool a.valueHasList), ("value_spreads", .strs a.valueSpreads),
       ("subscript_of", .str a.subscriptOf), ("declaration", .bool a.declaration)]

def text (attrs : Json) (name : String) : String :=
  ((attrs.get? name).bind Json.str?).getD ""

def texts (attrs : Json) (name : String) : List String :=
  (((attrs.get? name).bind Json.items?).getD []).filterMap Json.str?

def flag (attrs : Json) (name : String) : Bool :=
  ((attrs.get? name).bind Json.bool?).getD false

def num (attrs : Json) (name : String) (missing : Nat) : Nat :=
  ((attrs.get? name).bind Json.nat?).getD missing

def pairs (attrs : Json) (name : String) : List (String × String) :=
  (((attrs.get? name).bind Json.members?).getD []).filterMap fun (name, value) => value.str?.map fun text => (name, text)

def callInfo (a : Json) : CallInfo :=
  { callee := text a "callee", qualified := text a "qualified", receiver := text a "receiver"
    receiverRoot := text a "receiver_root", receiverNames := texts a "receiver_names"
    receiverCallee := text a "receiver_callee", argCount := (a.get? "arg_count").bind Json.nat?
    args := texts a "args", argNames := texts a "arg_names", argLiteralKinds := texts a "arg_literal_kinds"
    argCallees := texts a "arg_callees", awaited := flag a "awaited", hasClosureArg := flag a "has_closure_arg"
    iterates := flag a "iterates", operator := text a "operator" }

def ofJson (kind : Kind) (a : Json) : Info :=
  match kind with
  | .unit => .unit
  | .classDef => .classDef (text a "name")
  | .closure => .closure (texts a "params")
  | .returns => .returns (text a "value")
  | .call => .call (callInfo a)
  | .collectionOp => .collectionOp (callInfo a)
  | .function => .function
      { name := text a "name", params := texts a "params", paramCount := num a "param_count" 0
        paramTypes := pairs a "param_types", decorators := texts a "decorators", isMethod := flag a "is_method"
        receiverName := text a "receiver_name" }
  | .loop => .loop
      { kind := .ofText (text a "loop_kind"), iterVars := texts a "iter_vars", iterable := text a "iterable"
        iterableNames := texts a "iterable_names", iterableRoot := text a "iterable_root"
        iterableCallee := text a "iterable_callee", iterableReceiver := text a "iterable_receiver"
        iterableCalls := texts a "iterable_calls", condition := text a "condition"
        conditionNames := texts a "condition_names", comparesLiteral := flag a "compares_literal"
        update := text a "update", boundConstant := flag a "bound_constant", boundNames := texts a "bound_names"
        levels := num a "levels" 1, constantLevels := num a "constant_levels" 0, onceCount := num a "once_count" 0 }
  | .allocation => .allocation
      { constructor := text a "constructor", literalKind := text a "literal_kind", valueKind := .ofText (text a "value_kind")
        argNames := texts a "arg_names", empty := flag a "empty" }
  | .conditional => .conditional
      { condition := text a "condition", conditionNames := texts a "condition_names", compareOps := texts a "compare_ops"
        lookupContainer := text a "lookup_container", guardReturns := flag a "guard_returns" }
  | .assignment => .assignment
      { targets := texts a "targets", targetRoots := texts a "target_roots", operator := text a "operator"
        value := text a "value", valueKind := .ofText (text a "value_kind"), valueNames := texts a "value_names"
        valueCallee := text a "value_callee", valueCalls := texts a "value_calls"
        valueIsConcat := flag a "value_is_concat", valueHasString := flag a "value_has_string"
        valueHasList := flag a "value_has_list", valueSpreads := texts a "value_spreads"
        subscriptOf := text a "subscript_of", declaration := flag a "declaration" }

end Info

-- Lines and columns of the start and the end, then the byte offsets, which may be left out.
def Span.ofJson (value : Json) : Span :=
  let number (i : Nat) : Nat := ((value.items?.getD [])[i]?.bind Json.nat?).getD 0
  { start := { line := number 0, column := number 1 }, finish := { line := number 2, column := number 3 }
    firstByte := number 4, lastByte := number 5 }

namespace Draft

def rowOfJson? (id : Int) : Json → Option (Nat × Int × Span × Info)
  | .arr (.int depth :: .str kind :: place :: rest) =>
    (Kind.ofText? kind).map fun kind => (depth.toNat, id, .ofJson place, .ofJson kind (rest.head?.getD .null))
  | _ => none

-- The tree that rows in preorder describe. Nodes are numbered in order where no numbers are given.
def ofJson? (rows : Json) (ids : Option (List Int)) : Option Draft :=
  let items := rows.items?.getD []
  let ids := ids.getD ((List.range items.length).map Int.ofNat)
  Tree.assemble (fun (id, span, info) => Draft.mk id span "" info)
    ((ids.zip items).filterMap fun (id, item) => rowOfJson? id item)

end Draft
end Perflint
