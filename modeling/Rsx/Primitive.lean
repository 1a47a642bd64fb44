set_option autoImplicit false

namespace Rsx

inductive Primitive where
  | state
  | callback
  | memo
  | other (name : String)
deriving DecidableEq

namespace Primitive

def ofExport? (extra : List String) (name : String) : Option Primitive :=
  if name == "useState" then some .state
  else if name == "useCallback" then some .callback
  else if name == "useMemo" then some .memo
  else if extra.contains name then some (.other name)
  else none

def exportName : Primitive → String
  | state => "useState"
  | callback => "useCallback"
  | memo => "useMemo"
  | other name => name

def message : Primitive → String
  | state =>
    "[RSX] useState() is not allowed in .rsx files. A plain local such as `let count = 0;` already "
      ++ "keeps its value for the lifetime of the instance. Assign to it and call render()."
  | callback =>
    "[RSX] useCallback() is not allowed in .rsx files. Functions declared in the component body are "
      ++ "created once per instance, so their identity is already stable."
  | memo =>
    "[RSX] useMemo() is not allowed in .rsx files. The component body runs once per instance, not on "
      ++ "every render, so there is nothing to memoize. Recompute derived values inside update()."
  | other name =>
    "[RSX] " ++ name ++ "() is not allowed in .rsx files. Use the lifecycle API (view, update, "
      ++ "destroy, render) instead."

end Primitive

end Rsx
