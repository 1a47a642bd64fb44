import Rsx.Printer.Elements
import Rsx.Grammar

set_option autoImplicit false

namespace Rsx

namespace Printer

def rule (go : Node → Nat → PrintContext → Printer Unit) (n : Node) (level : Nat)
    (ctx : PrintContext) : Printer Unit := do
  if level == Level.statement then printInList go n ctx
  else
    printExpression go n level ctx
    printPattern go n ctx
    printType go n
    printStatement go n ctx
    printElement go n

-- The fuel is the depth of the tree.
def print : Nat → Node → Nat → PrintContext → Printer Unit
  | 0, _, _, _ => pure ()
  | fuel + 1, n, level, ctx => rule (print fuel) n level ctx

def printProgram (n : Node) : Printer Unit := do
  match n.kind with
  | .program (some hashbang) => put ("#!" ++ hashbang ++ "\n")
  | _ => pure ()
  printBody (print (n.depth + 1)) (n.part 0).parts (n.part 1).parts .free
  commentsAt n.span.stop

end Printer

def Module.pieces (m : Module) : List Piece :=
  let (_, st) := (Printer.printProgram m.tree).run (PrintState.start m.comments)
  st.pieces.reverse

def Module.print (m : Module) : String := Piece.code m.pieces

end Rsx
