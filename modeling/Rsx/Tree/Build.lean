import Rsx.Tree

set_option autoImplicit false

namespace Rsx.Node

def generated (k : Kind) (ps : List Node) : Node := mk k .nowhere ps

def value (x : String) : Node := generated (.name .value x) []

def boundName (x : String) : Node := generated (.name .binding x) []

def propertyName (x : String) : Node := generated (.name .property x) []

def memberOf (object : Node) (x : String) : Node := generated (.member false) [object, propertyName x]

def natural (n : Nat) : Node :=
  generated (.numberLit (Binary64.ofDecimal n 0) (toString n)) []

def callOf (callee : Node) (arguments : List Node) : Node :=
  generated (.call false false) [callee, absent, group arguments]

def assigned (target value : Node) : Node :=
  generated (.assign "=") [generated .target [target], value]

def statement (value : Node) : Node := generated .expression [value]

def blockOf (statements : List Node) : Node := generated .block statements

def ifThen (test body : Node) : Node := generated .ifElse [test, body, absent]

def bodyOf (statements : List Node) : Node := generated .body [group [], group statements]

def parameterOf (x : String) : Node :=
  generated (.parameter ⟨none, false, false, false⟩) [group [], boundName x, absent, absent]

def restParameterOf (x : String) : Node :=
  generated .restParameter [group [], generated .restPattern [boundName x], absent]

def parametersOf (ps : List Node) : Node := generated .parameters ps

def constant (pattern value : Node) : Node :=
  generated (.variableList .constKind false) [generated (.declarator false) [pattern, absent, value]]

def arrowOf (parameters : List Node) (isExpression : Bool) (statements : List Node) : Node :=
  generated (.arrow ⟨false, isExpression, false, false⟩)
    [absent, parametersOf parameters, absent, bodyOf statements]

def arrowTo (parameters : List Node) (value : Node) : Node := arrowOf parameters true [statement value]

def functionWith (form : FunctionForm) (async generator : Bool) (name parameters body : Node) : Node :=
  generated (.function ⟨form, async, generator, false, false, false⟩)
    [name, absent, absent, parameters, absent, body]

def functionNamed (x : String) (parameters : Node) (async generator : Bool) (body : Node) : Node :=
  functionWith .declaration async generator (boundName x) parameters body

def propertyOf (x : String) (value : Node) : Node :=
  generated (.property ⟨.init, false, false, false⟩) [propertyName x, value]

def methodOf (x : String) (parameters statements : List Node) : Node :=
  generated (.property ⟨.init, true, false, false⟩)
    [propertyName x, functionWith .expression false false absent (parametersOf parameters)
      (bodyOf statements)]

def getterOf (x : String) (statements : List Node) : Node :=
  generated (.property ⟨.get, false, false, false⟩)
    [propertyName x, functionWith .expression false false absent (parametersOf []) (bodyOf statements)]

def importAs (name bound : String) : Node :=
  generated (.importNamed false) [propertyName name, boundName bound]

def importOf (specifiers : List Node) (source : String) : Node :=
  generated (.importFrom false "")
    [group specifiers, generated (.stringLit (.ofString source) source) [], absent]

end Rsx.Node
