import Rsx.FileFilter
import Rsx.Transform

set_option autoImplicit false

namespace Rsx

def Options.target (o : Options) : Target := ⟨o.hostModule, o.extraBanned, o.sourceMap⟩

def refused (d : Diagnostic) : Report (Except Diagnostic Output) := ⟨[], .error d⟩

def compile (o : Options) (path source : String) : Report (Except Diagnostic Output) :=
  match o.validate with
  | .error d => refused d
  | .ok () =>
    match FileFilter.ofOptions o with
    | .error d => refused d
    | .ok filter =>
      if filter.accepts path then
        let report := transform o.target path source
        ⟨.compiling path :: report.events, report.result⟩
      else ⟨[], .ok (.passthrough source)⟩

end Rsx
