import Perflint.Decimal
import Perflint.Text.Unicode
import Perflint.Yaml.Cursor

namespace Perflint

-- What the readers of a tree break down on, as opposed to what they find wrong with it.
inductive Breakdown where
  | tooDeep
  | noOperands
  | noArgument
  deriving DecidableEq, Repr

-- The first identifier, in ascending order, that is not its own index.
structure NumberingError where
  found : Int
  index : Nat
  deriving DecidableEq, Repr

def NumberingError.message (e : NumberingError) : String :=
  "ISG node ids must be preorder indexes (got " ++ toString e.found ++ " at " ++ toString e.index ++ ")"

inductive Error where
  | general (text : String) (code : Int)
  | unsupportedLanguage (tag : String)
  | malformedTree (reason : String) (type : Option String) (line : Option Int)
  | timeout (stage : String) (elapsed : Float)
  | badConfig (text : String)
  | gate (text : String)
  | hugeBudget
  | unnamedSetting
  | document (fault : Yaml.Fault)
  | broken (breakdown : Breakdown)
  | misnumbered (error : NumberingError)

namespace Error

def exitSuccess : Int := 0
def exitGeneral : Int := 1
def exitUsage : Int := 2
def exitUnsupported : Int := 3
def exitMalformed : Int := 4
def exitGate : Int := 5
def exitPartial : Int := 6

def describeCode? (code : Int) : Option String :=
  [(exitSuccess, "success"), (exitGeneral, "unexpected error"),
   (exitUsage, "invalid usage (bad arguments or flags)"), (exitUnsupported, "unsupported language"),
   (exitMalformed, "malformed syntax tree"), (exitGate, "severity gate failed"),
   (exitPartial, "partial results (time budget exceeded)")].lookup code

def exitCode : Error → Int
  | .general _ code => code
  | .unsupportedLanguage _ => exitUnsupported
  | .malformedTree .. => exitMalformed
  | .timeout .. => exitPartial
  | .badConfig _ => exitUsage
  | .gate _ => exitGate
  | .hugeBudget => exitGeneral
  | .unnamedSetting => exitGeneral
  | .document _ => exitGeneral
  | .broken _ => exitGeneral
  | .misnumbered _ => exitGeneral

def place (type : Option String) (line : Option Int) : String :=
  match type with
  | none => ""
  | some type =>
    if type.isEmpty then ""
    else " (" ++ type ++ (match line with
      | some line => " at line " ++ toString line
      | none => "") ++ ")"

def message : Error → String
  | .general text _ => text
  | .unsupportedLanguage tag => "Unsupported language: " ++ Text.quoted tag
  | .malformedTree reason type line => "Malformed syntax tree: " ++ reason ++ place type line
  | .timeout stage elapsed =>
    "Analysis budget exceeded during " ++ stage ++ " after " ++ Decimal.fixedText 3 elapsed ++ "s"
  | .badConfig text => "Invalid configuration: " ++ text
  | .gate text => text
  | .hugeBudget => "budget_s is too large"
  | .unnamedSetting => "every key must be a text"
  | .document fault => fault.message
  | .broken .tooDeep => "the tree is too deep"
  | .broken .noOperands => "a membership test has no operands"
  | .broken .noArgument => "a built-in function has no argument"
  | .misnumbered error => error.message

def defaultGateText : String := "Severity gate failed."

end Error
end Perflint
