import Rsx.Diagnostic

set_option autoImplicit false

namespace Rsx

inductive Event where
  | compiling (file : String)
  | noComponent (file : String)
  | warned (warning : Warning)
  | promoted (file component : String) (slots early replaced : Nat)
  | projectCompiled (root : String) (files failed cached : Nat)
  | corruptEntry (file error : String)
  | entryNotWritten (file error : String)
deriving DecidableEq

structure Output where
  code : String
  map : Option String
  warnings : List Warning
  transformed : Bool
deriving DecidableEq

def Output.passthrough (source : String) : Output := ⟨source, none, [], false⟩

structure Report (α : Type) where
  events : List Event
  result : α

end Rsx
