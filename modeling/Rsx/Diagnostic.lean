import Rsx.Position

set_option autoImplicit false

namespace Rsx

inductive Rule where
  | propsMutation
  | bannedPrimitive
  | reservedName
  | parsing
  | shorthandWrite
  | files
  | options
  | staleState
  | returnDiscarded
deriving DecidableEq

namespace Rule

def all : List Rule :=
  [propsMutation, bannedPrimitive, reservedName, parsing, shorthandWrite, files, options, staleState,
    returnDiscarded]

def code : Rule → String
  | propsMutation => "RSX-E001"
  | bannedPrimitive => "RSX-E002"
  | reservedName => "RSX-E003"
  | parsing => "RSX-E004"
  | shorthandWrite => "RSX-E005"
  | files => "RSX-E006"
  | options => "RSX-E007"
  | staleState => "RSX-W001"
  | returnDiscarded => "RSX-W002"

def guarantee : Rule → String
  | propsMutation => "Props are a read-only snapshot of the incoming call."
  | bannedPrimitive =>
    "Instance state lives in promoted locals. Host state primitives are never called by user code."
  | reservedName => "Compiler-internal names never collide with user bindings."
  | parsing => "Only syntactically valid modules are transformed."
  | shorthandWrite => "Every write to a promoted local lands in instance storage."
  | files => "Project compilation reads every discovered source file."
  | options => "Compiler options are validated before any file is compiled."
  | staleState => "Instance state is seeded once and does not follow props."
  | returnDiscarded => "The component returns the result of its registered view."

def category : Rule → String
  | parsing => "PARSE_ERROR"
  | files => "IO_ERROR"
  | options => "CONFIG_ERROR"
  | _ => "RSX_RULE_VIOLATION"

def ofCode? (code : String) : Option Rule := all.find? (·.code == code)

end Rule

def guaranteeOf (code : String) : String :=
  match Rule.ofCode? code with
  | some rule => rule.guarantee
  | none => "Unknown diagnostic."

def categoryOf (code : String) : String :=
  match Rule.ofCode? code with
  | some rule => rule.category
  | none => "RSX_RULE_VIOLATION"

structure Diagnostic where
  code : String
  category : String
  message : String
  guarantee : String
  file : String
  line : Nat
  column : Nat
  context : Option String
  hints : List String
deriving DecidableEq

namespace Diagnostic

def detailed (code message file : String) (line column : Nat) (context : Option String)
    (hints : List String) : Diagnostic :=
  ⟨code, categoryOf code, message, guaranteeOf code, file, line, column, context, hints⟩

def new (code message file : String) (line column : Nat) : Diagnostic :=
  detailed code message file line column none []

def unlocated (code message file : String) : Diagnostic := new code message file 0 0

def internal (file what : String) : Diagnostic :=
  detailed Rule.parsing.code ("[RSX] Internal error: " ++ what) file 0 0 none
    ["This is a compiler bug. Please report it with the failing file."]

def atOffset (file source : String) (offset : Nat) (code message : String) (hints : List String) :
    Diagnostic :=
  let p := Position.locate source offset
  detailed code message file p.line p.column (some p.lineText) hints

end Diagnostic

structure Warning where
  code : String
  message : String
  file : String
  line : Nat
  column : Nat
  context : Option String
deriving DecidableEq

def Warning.atOffset (file source : String) (offset : Nat) (code message : String) : Warning :=
  let p := Position.locate source offset
  ⟨code, message, file, p.line, p.column, some p.lineText⟩

def headline (file : String) (line column : Nat) (code message : String) : String :=
  file ++ ":" ++ toString line ++ ":" ++ toString column ++ ": [" ++ code ++ "] " ++ message

def Diagnostic.display (d : Diagnostic) : String :=
  headline d.file d.line d.column d.code d.message

def Warning.display (w : Warning) : String := headline w.file w.line w.column w.code w.message

def Diagnostic.render (d : Diagnostic) : String :=
  let context := match d.context with
    | some line => "\n  | " ++ line
    | none => ""
  d.display ++ "\n  guarantee: " ++ d.guarantee ++ context
    ++ String.join (d.hints.map ("\n  hint: " ++ ·))

end Rsx
