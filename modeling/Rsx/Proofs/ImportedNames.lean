import Rsx.Proofs.BannedCalls
import Rsx.Proofs.Homes

set_option autoImplicit false

namespace Rsx

open HostImports (hostSpecifiers writtenName NamesWhole)

variable {target : Target} {program n callee : Node} {p : Primitive} {hostModule written x : String}
  {place way : Place}

namespace Node

def calleeName? : Node → Option (Place × String)
  | mk .paren _ [inner] => inner.calleeName?.map fun (way, x) => (0 :: way, x)
  | mk (.name .value x) _ _ => some ([], x)
  | mk (.member _) _ [mk (.name .value x) _ _, _] => some ([0], x)
  | _ => none

theorem calleeName?_stands (n : Node) (found : n.calleeName? = some (way, x)) :
    ∃ s ps, n.atPlace? way = some (mk (.name .value x) s ps) := by
  fun_induction calleeName? n generalizing way with
  | case1 s inner ih =>
    obtain ⟨⟨inside, y⟩, below, same⟩ := Option.map_eq_some_iff.mp found
    cases same
    obtain ⟨s', ps, stands⟩ := ih below
    exact ⟨s', ps, atPlace?_cons_some.mpr ⟨inner, rfl, stands⟩⟩
  | case2 y s ps =>
    cases found
    exact ⟨s, ps, rfl⟩
  | case3 optional s y s' ps key =>
    cases found
    exact ⟨s', ps, rfl⟩
  | case4 => cases found

theorem Parenthesizes.exists_calleeName? {outer n : Node} (around : outer.Parenthesizes n)
    (found : n.calleeName? = some (way, x)) : ∃ outerWay, outer.calleeName? = some (outerWay, x) := by
  induction around with
  | bare n => exact ⟨way, found⟩
  | paren span _ ih =>
    obtain ⟨outerWay, below⟩ := ih found
    exact ⟨0 :: outerWay, by rw [calleeName?, below]; rfl⟩

theorem calleeName_stands_in {n : Node} (stands : program.atPlace? place = some n)
    (found : (n.part 0).calleeName? = some (way, x)) :
    ∃ s ps, program.atPlace? (place ++ 0 :: way) = some (mk (.name .value x) s ps) := by
  have part : n.parts[0]? = some (n.part 0) := by
    cases first : n.parts[0]? with
    | some callee => rw [part_of_getElem? first]
    | none =>
      -- A missing part has no name.
      rw [part_eq, first] at found
      cases found
  obtain ⟨s, ps, below⟩ := calleeName?_stands _ found
  refine ⟨s, ps, ?_⟩
  rw [atPlace?_append, stands]
  exact atPlace?_cons_some.mpr ⟨_, part, below⟩

-- A node below the program, on the way to a place, binds the name.
def BoundInside (program : Node) (x : String) : Place → Prop
  | [] => False
  | i :: rest => x ∈ (program.part i).boundOnWay rest

instance : Decidable (program.BoundInside x place) :=
  match place with
  | [] => isFalse id
  | i :: rest => inferInstanceAs (Decidable (x ∈ (program.part i).boundOnWay rest))

theorem boundInside_iff_home :
    program.BoundInside x place ↔ ∃ home, program.home? x place = some home ∧ home ≠ [] := by
  cases place with
  | nil => simp [BoundInside, home?]
  | cons i rest =>
    have below : (program.part i).home? x rest = none ↔ x ∉ (program.part i).boundOnWay rest :=
      home?_eq_none
    rw [BoundInside]
    cases found : (program.part i).home? x rest with
    | some front =>
      have bound : x ∈ (program.part i).boundOnWay rest := by
        by_contra unbound
        simp [below.mpr unbound] at found
      exact iff_of_true bound ⟨i :: front, home?_of_part found, List.cons_ne_nil _ _⟩
    | none =>
      refine iff_of_false (below.mp found) ?_
      rintro ⟨home, here, inside⟩
      simp only [home?, found] at here
      split_ifs at here
      · cases here
        exact inside rfl

end Node

inductive GivesName (x : String) (specifier : Node) : Prop where
  | one (named : specifier.kind = .importNamed false)
      (bound : writtenName (specifier.part 1) = x) : GivesName x specifier
  | whole (whole : NamesWhole x specifier) : GivesName x specifier

def IsHostName (hostModule : String) (program : Node) (x : String) : Prop :=
  ∃ specifier ∈ hostSpecifiers program hostModule, GivesName x specifier

structure MeansHostImport (hostModule : String) (program : Node) (x : String) (place : Place) : Prop where
  imported : IsHostName hostModule program x
  outermost : ∀ home, program.home? x place = some home → home = []

theorem IsHostName.means_iff (imported : IsHostName hostModule program x) :
    MeansHostImport hostModule program x place ↔ ¬program.BoundInside x place := by
  rw [Node.boundInside_iff_home]
  constructor
  · rintro ⟨-, outermost⟩ ⟨home, found, inside⟩
    exact inside (outermost home found)
  · intro free
    refine ⟨imported, fun home found => ?_⟩
    by_contra inside
    exact free ⟨home, found, inside⟩

theorem BannedCallee.imported (banned : BannedCallee target program callee p written) :
    ∃ way x, callee.calleeName? = some (way, x) ∧ IsHostName target.hostModule program x := by
  rcases banned with ⟨s, ps, x, _, name, -, given⟩ |
    ⟨o, role, s, s', s'', ps, ps', x, e, _, member, ⟨specifier, listed, whole⟩, -⟩
  · obtain ⟨specifier, listed, q, gives⟩ := HostImports.exists_lastGives.mp ⟨p, given⟩
    obtain ⟨way, found⟩ := name.exists_calleeName? rfl
    exact ⟨way, _, found, specifier, listed, .one gives.named gives.bound⟩
  · obtain ⟨way, found⟩ := member.exists_calleeName? rfl
    exact ⟨way, x, found, specifier, listed, .whole whole⟩

/-- The call that a program is refused for is of the name of an import from the host, or of a member
of such a name. For this one and every other banned call, the name is that import exactly if nothing
inside the program binds it, but the program is refused in any case. -/
theorem refused_name_imported (target : Target) (program : Node) :
    let found := (target.hostImports program).firstBannedCall? program
    (∀ problem, found = some problem → checkNames target program = .error problem ∧
      ∃ place n p written, program.atPlace? place = some n ∧ BannedCall target program n p written ∧
        problem = ⟨.bannedCall p written, n.span.start⟩) ∧
      ∀ place n p written, program.atPlace? place = some n → BannedCall target program n p written →
        (∃ problem, found = some problem) ∧
          ∃ way x, (n.part 0).calleeName? = some (way, x) ∧ IsHostName target.hostModule program x ∧
            (∃ s ps, program.atPlace? (place ++ 0 :: way) = some (.mk (.name .value x) s ps)) ∧
            (MeansHostImport target.hostModule program x (place ++ 0 :: way) ↔
              ¬program.BoundInside x (place ++ 0 :: way)) := by
  intro found
  constructor
  · intro problem first
    obtain ⟨before, n, after, p, written, split, banned, -, rfl⟩ := firstBannedCall?_eq_some.mp first
    obtain ⟨place, stands⟩ := Node.exists_place_of_mem_preorder (n := program) (m := n) (by simp [split])
    exact ⟨checkNames_of_bannedCall first, place, n, p, written, stands, banned, rfl⟩
  · intro place n p written stands banned
    have below := Node.mem_preorder_of_atPlace? stands
    obtain ⟨way, x, name, imported⟩ := banned.callee.imported
    exact ⟨exists_firstBannedCall?.mpr ⟨n, below, p, written, banned⟩, way, x, name, imported,
      Node.calleeName_stands_in stands name, imported.means_iff⟩

def callsNameAt (target : Target) (x : String) (place : Place) (inside : Bool) (program : Node) : Bool :=
  match program.atPlace? place with
  | some n =>
    match n.kind with
    | .call _ _ => ((target.hostImports program).classify? (n.part 0)).isSome &&
        decide ((n.part 0).calleeName? = some ([], x)) &&
          decide (program.BoundInside x (place ++ [0])) == inside
    | _ => false
  | none => false

theorem exists_callsNameAt {inside : Bool} (passes : callsNameAt target x place inside program = true) :
    ∃ n p written, program.atPlace? place = some n ∧ BannedCall target program n p written ∧
      (n.part 0).calleeName? = some ([], x) ∧ decide (program.BoundInside x (place ++ [0])) = inside := by
  unfold callsNameAt at passes
  split at passes
  next n stands =>
    split at passes
    next optional pure kind =>
      simp only [Bool.and_eq_true, decide_eq_true_eq, beq_iff_eq, Option.isSome_iff_exists] at passes
      obtain ⟨⟨⟨⟨p, written⟩, classified⟩, name⟩, bound⟩ := passes
      exact ⟨n, p, written, stands, ⟨⟨optional, pure, kind⟩, classify?_eq_some.mp classified⟩, name,
        bound⟩
    next => cases passes
  next => cases passes

def importedCallText : String := "import \x7b useState \x7d from \"react\"; useState(1);"

-- What is called is the local function.
def localCallText : String :=
  "import \x7b useState \x7d from \"react\"; " ++
    "export function f() \x7b function useState(x) \x7b return x; \x7d return useState(1); \x7d"

set_option maxRecDepth 100000 in
theorem refused_name_imported_local :
    (∃ m n p written, Module.parse importedCallText = .ok m ∧
      m.tree.atPlace? [1, 1, 0] = some n ∧ BannedCall Options.default.target m.tree n p written ∧
      MeansHostImport "react" m.tree "useState" [1, 1, 0, 0] ∧
      ∃ problem, checkNames Options.default.target m.tree = .error problem) ∧
    ∃ m n p written, Module.parse localCallText = .ok m ∧
      m.tree.atPlace? [1, 1, 0, 5, 1, 1, 0] = some n ∧
      BannedCall Options.default.target m.tree n p written ∧
      ¬MeansHostImport "react" m.tree "useState" [1, 1, 0, 5, 1, 1, 0, 0] ∧
      ∃ problem, checkNames Options.default.target m.tree = .error problem := by
  have outside : parsedPasses (callsNameAt Options.default.target "useState" [1, 1, 0] false)
      importedCallText = true := by decide +kernel
  have inside : parsedPasses (callsNameAt Options.default.target "useState" [1, 1, 0, 5, 1, 1, 0] true)
      localCallText = true := by decide +kernel
  constructor
  · obtain ⟨m, parsed, passes⟩ := exists_parsed outside
    obtain ⟨n, p, written, stands, banned, name, free⟩ := exists_callsNameAt passes
    obtain ⟨reported, named⟩ := refused_name_imported Options.default.target m.tree
    obtain ⟨⟨problem, found⟩, way, x, name', -, -, means⟩ := named _ n p written stands banned
    cases name.symm.trans name'
    exact ⟨m, n, p, written, parsed, stands, banned, means.mpr (of_decide_eq_false free), problem,
      (reported problem found).1⟩
  · obtain ⟨m, parsed, passes⟩ := exists_parsed inside
    obtain ⟨n, p, written, stands, banned, name, bound⟩ := exists_callsNameAt passes
    obtain ⟨reported, named⟩ := refused_name_imported Options.default.target m.tree
    obtain ⟨⟨problem, found⟩, way, x, name', -, -, means⟩ := named _ n p written stands banned
    cases name.symm.trans name'
    exact ⟨m, n, p, written, parsed, stands, banned, fun outer => means.mp outer (of_decide_eq_true bound),
      problem, (reported problem found).1⟩

end Rsx
