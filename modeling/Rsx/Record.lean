import Rsx.Tree.Build

set_option autoImplicit false

namespace Rsx

def instanceName : String := "__rsx_instance"

def instanceRefName : String := "__rsx_instanceRef"

inductive RecordAccess where
  | direct
  | viaRef
deriving DecidableEq

namespace RecordAccess

def object : RecordAccess → Node
  | direct => .value instanceName
  | viaRef => .memberOf (.value instanceRefName) "current"

def slot (a : RecordAccess) (x : String) : Node := .memberOf a.object x

def assignment (a : RecordAccess) (span : Span) (x : String) (value : Node) : Node :=
  .mk .expression span [.mk (.assign "=") span [.generated .target [a.slot x], value]]

end RecordAccess

end Rsx
