import Attest.Text.Integer
import Attest.Text.Quoted

/-!
# Argument grammars

A grammar says what arguments a program takes: switches, and either operands or one of several
subcommands with a grammar of its own.
-/

namespace Attest.Arguments

inductive Role where
  | help
  | version
  | flag
  | value
  deriving DecidableEq, Repr

inductive Format where
  | text
  | integer
  | oneOf (choices : List String)
  deriving DecidableEq, Repr

/-- A switch. Its first name stands for it. -/
structure Switch where
  names : List String
  role : Role
  format : Format
  isRequired : Bool
  deriving DecidableEq, Repr

inductive Arity where
  | one
  | optional
  | many
  deriving DecidableEq, Repr

structure Operand where
  name : String
  arity : Arity
  deriving DecidableEq, Repr

/-- A grammar. Of the switches in `oneOf`, given by their first names, exactly one has to be there.
-/
inductive Grammar where
  | leaf (program : String) (switches : List Switch) (oneOf : List String)
      (operand : Option Operand)
  | branch (program : String) (switches : List Switch) (choice : String)
      (subcommands : List (String × Grammar))

/-! ## Switches -/

namespace Switch

def help : Switch := ⟨["-h", "--help"], .help, .text, false⟩

def ofFlag (name : String) : Switch := ⟨[name], .flag, .text, false⟩

def ofValue (names : List String) (format : Format) : Switch := ⟨names, .value, format, false⟩

def required (s : Switch) : Switch := { s with isRequired := true }

def key (s : Switch) : String := s.names.headD ""

def shown (s : Switch) : String := String.intercalate "/" s.names

def takesValue (s : Switch) : Bool := s.role = .value

end Switch

/-! ## Complaints -/

inductive Problem where
  | valueMissing
  | valueIgnored (value : String)
  | notInteger (value : String)
  | notAmong (value : String) (choices : List String)
  | notBeside (other : String)
  deriving DecidableEq, Repr

/-- What is wrong with the arguments. -/
inductive Complaint where
  | ambiguous (argument : String) (names : List String)
  | argument (name : String) (problem : Problem)
  | missing (names : List String)
  | missingOneOf (names : List String)
  | unknown (arguments : List String)
  deriving DecidableEq, Repr

def Problem.message : Problem → String
  | valueMissing => "expected one argument"
  | valueIgnored v => s!"ignored explicit argument {Quoted.encode v}"
  | notInteger v => s!"invalid int value: {Quoted.encode v}"
  | notAmong v choices =>
    s!"invalid choice: {Quoted.encode v} (choose from " ++
      String.intercalate ", " (choices.map Quoted.encode) ++ ")"
  | notBeside other => s!"not allowed with argument {other}"

def Complaint.message : Complaint → String
  | ambiguous a names =>
    s!"ambiguous option: {a} could match " ++ String.intercalate ", " names
  | argument name problem => s!"argument {name}: {problem.message}"
  | missing names => "the following arguments are required: " ++ String.intercalate ", " names
  | missingOneOf names => "one of the arguments " ++ String.intercalate " " names ++ " is required"
  | unknown arguments => "unrecognized arguments: " ++ String.intercalate " " arguments

end Attest.Arguments
