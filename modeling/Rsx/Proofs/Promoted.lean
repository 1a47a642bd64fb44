import Rsx.Proofs.Generated

set_option autoImplicit false

namespace Rsx

namespace Substitution

variable (s : Substitution)

theorem apply_single (kind : VariableKind) (d : Node) :
    s.apply [] (.single kind d) = .single kind (s.apply [] d) := by
  simp [Node.single, apply, applyList, replaced?, replacement?, adjusted, Node.introduced]

theorem split_apply (n : Node) : (s.apply [] n).split = n.split.map (s.apply []) := by
  cases s.outcome [] n with
  | replaced x name _ result =>
    obtain ⟨_, kind | kind | kind⟩ := Node.leafName?_eq_some.mp name <;>
      simp [Node.split, result, insertedFor, kind, RecordAccess.slot, Node.memberOf, tagMember,
        Node.generated]
  | kept k adjusted _ result =>
    rcases adjusted with rfl | ⟨i, kind, rfl⟩
    · cases declared : n.kind with
      | variableList kind declare =>
        have nothing : n.introduced ++ [] = [] := by simp [Node.introduced, declared]
        rw [nothing, declared] at result
        simp [Node.split, result, declared, apply_single]
      | _ => simp [Node.split, result, declared]
    · simp [Node.split, result, kind]

theorem apply_assignment (a : RecordAccess) (span : Span) (x : String) (value : Node) :
    s.apply [] (a.assignment span x value) = a.assignment span x (s.apply [] value) := by
  have root : ∀ a : RecordAccess, s.replaces [] a.root = false := by
    intro a
    simp [replaces, a.isReserved_root]
  have direct : s.replaces [] instanceName = false := root .direct
  have viaRef : s.replaces [] instanceRefName = false := root .viaRef
  cases a <;>
    simp [RecordAccess.assignment, RecordAccess.slot, RecordAccess.object, Node.memberOf,
      Node.value, Node.propertyName, Node.generated, apply, applyList, replaced?, replacement?,
      adjusted, Node.introduced, direct, viaRef]

end Substitution

namespace Node

theorem Clean.statements {n : Node} (clean : n.Clean) : ∀ m ∈ n.statements, m.Clean := by
  intro m member
  unfold Node.statements at member
  split at member
  · exact (clean.part 1).of_mem member
  · exact (clean.part 1).of_mem member
  · exact (clean.part 1).of_mem member
  · exact clean.of_mem member
  · cases member

theorem Clean.functionStatements {f : Node} {parts : ComponentParts} (clean : f.Clean)
    (component : f.componentParts? = some parts) : ∀ n ∈ parts.body.statements, n.Clean := by
  unfold componentParts? at component
  split at component
  · cases component
    exact (clean.part 5).statements
  · cases component
    exact (clean.part 3).statements
  · cases component

theorem Clean.single {d : Node} (clean : d.Clean) (kind : VariableKind) :
    (Node.single kind d).Clean := by
  intro m below
  simp only [Node.single, preorder_mk, List.flatMap_cons, List.flatMap_nil, List.append_nil,
    List.mem_cons] at below
  rcases below with rfl | inside
  · rfl
  · exact clean m inside

end Node

namespace Step

def Clean : Step → Prop
  | set _ _ value => value.Clean
  | keep n => n.Clean

theorem clean_of_steps {p : Promotion} {n : Node} (clean : n.Clean) :
    ∀ step ∈ p.steps n, step.Clean := by
  intro step member
  unfold Promotion.steps at member
  split at member
  next kind _ =>
    obtain ⟨d, part, member⟩ := List.mem_flatMap.mp member
    have cleanD := clean.of_mem part
    unfold Promotion.declaratorSteps at member
    split at member
    · cases List.mem_singleton.mp member
      exact cleanD.single kind
    · split at member
      · cases member
      · cases List.mem_singleton.mp member
        exact cleanD.part 2
  next =>
    obtain ⟨m, piece, rfl⟩ := List.mem_map.mp member
    unfold Node.split at piece
    split at piece
    · obtain ⟨d, part, rfl⟩ := List.mem_map.mp piece
      exact (clean.of_mem part).single _
    · cases List.mem_singleton.mp piece
      exact clean

end Step

namespace PromotedBody

variable {parameters : Node} {statements : List Node} {b : PromotedBody}

theorem unreserved_of_scan {p : Promotion} (scanned : Promotion.scan (parameterNames parameters)
    statements = .ok p) (clean : ∀ n ∈ statements, n.Clean) : ∀ x ∈ p.names, isReserved x = false := by
  intro x promoted
  obtain ⟨n, member, d, part, named⟩ := Promotion.names_of_scan scanned x promoted
  rcases d.part_mem_or 0 with inside | missing
  · exact (((clean n member).of_mem part).of_mem inside).binding named
  · rw [missing] at named
    cases named

theorem unreserved_names (of : OfBody parameters statements b)
    (clean : ∀ n ∈ statements, n.Clean) : ∀ x ∈ b.promotion.names, isReserved x = false :=
  unreserved_of_scan of.scanned clean

theorem clean_steps (clean : ∀ n ∈ statements, n.Clean) (p : Promotion) :
    ∀ step ∈ (discardReturns statements).1.flatMap p.steps, step.Clean := by
  intro step member
  obtain ⟨n, inBody, member⟩ := List.mem_flatMap.mp member
  exact Step.clean_of_steps (clean n (List.mem_of_mem_filter inBody)) step member

theorem earlySlots_of_scan {p : Promotion}
    (scanned : Promotion.scan (parameterNames parameters) statements = .ok p) (s : Substitution) :
    p.earlySlots = (replaceSeeds s (taken p statements).2).map Seed.slot := by
  rw [replaceSeeds, List.map_map]
  exact (Promotion.apply_of_scan scanned).2

theorem early_slots (of : OfBody parameters statements b) :
    b.promotion.earlySlots = b.seeds.map Seed.slot := by
  rw [of.seeds]
  exact earlySlots_of_scan of.scanned _

theorem placeable (of : OfBody parameters statements b) : Placeable b.promotion b.seeds :=
  .of_early (Promotion.sound_of_scan of.scanned) (early_slots of)

-- The values for the record come before those that are set after it.
theorem seeds_ordered (of : OfBody parameters statements b) :
    b.seeds.filter (·.seeding == .record) ++ b.seeds.filter (·.seeding == .creation) = b.seeds := by
  obtain ⟨inRecord, after, slots, isRecord, isCreation⟩ := (Promotion.sound_of_scan of.scanned).ordered
  rw [early_slots of] at slots
  obtain ⟨first, second, seeds, rfl, rfl⟩ := List.map_eq_append_iff.mp slots
  have ofFirst : ∀ seed ∈ first, seed.seeding = .record := fun seed member =>
    isRecord _ (List.mem_map_of_mem member)
  have ofSecond : ∀ seed ∈ second, seed.seeding = .creation := fun seed member =>
    isCreation _ (List.mem_map_of_mem member)
  rw [seeds, List.filter_append, List.filter_append,
    List.filter_eq_self.mpr fun seed member => by simp [ofFirst seed member],
    List.filter_eq_nil_iff.mpr fun seed member => by simp [ofSecond seed member],
    List.filter_eq_nil_iff.mpr fun seed member => by simp [ofFirst seed member],
    List.filter_eq_self.mpr fun seed member => by simp [ofSecond seed member]]
  simp

end PromotedBody

end Rsx
