import Rsx.Options
import Rsx.Pattern

set_option autoImplicit false

namespace Rsx

structure FileFilter where
  extensions : List String
  includes : Option Pattern.Regex
  excludes : Option Pattern.Regex

namespace FileFilter

def pattern? (name : String) (pattern : Option String) : Except Diagnostic (Option Pattern.Regex) :=
  match pattern with
  | none => .ok none
  | some p =>
    match Pattern.compile p with
    | .ok r => .ok (some r)
    | .error e => .error (Options.refusal ("Invalid " ++ name ++ " pattern `" ++ p ++ "`: " ++ e))

def ofOptions (o : Options) : Except Diagnostic FileFilter := do
  let includes ← pattern? "include" o.includePattern
  let excludes ← pattern? "exclude" o.excludePattern
  return ⟨o.extensions, includes, excludes⟩

def barePath (path : String) : List Char := path.toList.takeWhile (· ≠ '?')

def matchesSome (r : Option Pattern.Regex) (path : String) (otherwise : Bool) : Bool :=
  match r with
  | some r => r.isMatch path
  | none => otherwise

def accepts (f : FileFilter) (path : String) : Bool :=
  (f.extensions.any fun e => e.toList.isSuffixOf (barePath path))
    && matchesSome f.includes path true && !matchesSome f.excludes path false

end FileFilter

end Rsx
