import Rsx.Printer.Statements

set_option autoImplicit false

namespace Rsx.Printer

variable (go : Node → Nat → PrintContext → Printer Unit)

def printElement (n : Node) : Printer Unit := do
  match n.kind with
  | .element =>
    plain go (n.part 0)
    for c in (n.part 1).parts do plain go c
    plain go (n.part 2)
  | .fragment =>
    plain go (n.part 0)
    for c in (n.part 1).parts do plain go c
    plain go (n.part 2)
  | .openingTag selfClosing =>
    mark n.span
    put "<"
    plain go (n.part 0)
    for a in (n.part 2).parts do
      space
      plain go a
    put (if selfClosing then " />" else ">")
  | .closingTag =>
    mark n.span
    put "</"
    plain go (n.part 0)
    put ">"
  | .openingFragment =>
    mark n.span
    put "<>"
  | .closingFragment =>
    mark n.span
    put "</>"
  | .tagMember =>
    plain go (n.part 0)
    put "."
    plain go (n.part 1)
  | .namespacedTag =>
    plain go (n.part 0)
    put ":"
    plain go (n.part 1)
  | .tagAttribute =>
    plain go (n.part 0)
    after go "=" (n.part 1)
  | .spreadAttribute =>
    put "\x7b..."
    free go (n.part 0) Level.comma
    put "\x7d"
  | .container =>
    put "\x7b"
    plain go (n.part 0)
    put "\x7d"
  | .emptyContainer => commentsAt n.span.stop
  | .spreadChild =>
    put "\x7b..."
    plain go (n.part 0)
    put "\x7d"
  | .text raw =>
    mark n.span
    put raw
  | .attributeString raw => put (attributeQuoted raw)
  | _ => pure ()

def isRestAlone (elements : List Node) : Bool :=
  match elements with
  | [.mk .restPattern _ _] => true
  | _ => false

def printPattern (n : Node) (ctx : PrintContext) : Printer Unit := do
  match n.kind with
  | .objectPattern =>
    mark n.span
    if n.parts.isEmpty then put "\x7b\x7d"
    else
      put "\x7b "
      separated n.parts fun p => go p Level.lowest ctx
      put " \x7d"
  | .arrayPattern =>
    mark n.span
    put (if isRestAlone n.parts then "[ " else "[")
    printItems go n.parts ctx
    put "]"
  | .bindingProperty computed _ =>
    let value := n.part 1
    let bound := match value with
      | .mk .defaultPattern _ (p :: _) => p
      | v => v
    unless isShorthand (n.part 0) bound computed true do
      printKey go (n.part 0) computed
      put ": "
    go value Level.lowest ctx
  | .defaultPattern =>
    go (n.part 0) Level.lowest ctx
    put " = "
    free go (n.part 1) Level.comma
  | .parameters => separated n.parts (plain go)
  | .parameter info =>
    mark n.span
    printDecorators go (n.part 0).parts
    match info.access with
    | some a => put (a.text ++ " ")
    | none => pure ()
    if info.override then put "override "
    if info.readonly then put "readonly "
    plain go (n.part 1)
    if info.optional then put "?"
    after go ": " (n.part 2)
    unless (n.part 3).isAbsent do
      put " = "
      free go (n.part 3) Level.comma
  | .restParameter =>
    mark n.span
    printDecorators go (n.part 0).parts
    plain go (n.part 1)
    after go ": " (n.part 2)
  | .body => printFunctionBody go n ctx
  | .namespaceBlock =>
    space
    printBraces n.span ((n.part 0).parts.isEmpty && (n.part 1).parts.isEmpty) do
      printBody go (n.part 0).parts (n.part 1).parts ctx
  | _ => pure ()

end Rsx.Printer
