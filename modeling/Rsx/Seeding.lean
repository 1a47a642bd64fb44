import Rsx.Instance

set_option autoImplicit false

namespace Rsx

namespace Instance

def slotName? (property : Node) : Option String :=
  match property.kind, (property.part 0).kind with
  | .property _, .name .property x => some x
  | _, _ => none

def fillSlot? (x : String) (value : Node) : List Node → Option (List Node)
  | [] => none
  | slot :: rest =>
    if slotName? slot == some x then some (.mk slot.kind slot.span [slot.part 0, value] :: rest)
    else (fillSlot? x value rest).map (slot :: ·)

-- The slots that are left, and the assignments of the seeds that are not for the record.
def placeSeeds? : List Seed → List Node → Option (List Node × List Node)
  | [], slots => some (slots, [])
  | seed :: rest, slots =>
    if seed.seeding == .record then (fillSlot? seed.name seed.value slots).bind (placeSeeds? rest)
    else (placeSeeds? rest slots).map fun (slots, assignments) =>
      (slots, RecordAccess.viaRef.assignment .nowhere seed.name seed.value :: assignments)

def seedBlock? (seeds : List Seed) : List Node → Option (List Node)
  | .mk .expression s [.mk (.assign op) s' [target, .mk .object s'' slots]] :: rest =>
    (placeSeeds? seeds slots).map fun (slots, assignments) =>
      .mk .expression s [.mk (.assign op) s' [target, .mk .object s'' slots]] :: (assignments ++ rest)
  | _ => none

def seedStatements? (seeds : List Seed) : List Node → Option (List Node)
  | [] => none
  | .mk .ifElse s [test, .mk .block s' statements, otherwise] :: rest =>
    (seedBlock? seeds statements).map fun statements =>
      .mk .ifElse s [test, .mk .block s' statements, otherwise] :: rest
  | n :: rest => (seedStatements? seeds rest).map (n :: ·)

def seedBody? (seeds : List Seed) : Node → Option Node
  | .mk .body s [directives, .mk .group s' statements] =>
    (seedStatements? seeds statements).map fun statements =>
      .mk .body s [directives, .mk .group s' statements]
  | _ => none

-- The body is the last part of a function. It is not looked at if there is nothing to place.
def seedFunction? (seeds : List Seed) (f : Node) : Option Node :=
  if seeds.isEmpty then some f
  else
    (f.parts.getLast?.bind (seedBody? seeds)).map fun body =>
      .mk f.kind f.span (f.parts.dropLast ++ [body])

end Instance

end Rsx
