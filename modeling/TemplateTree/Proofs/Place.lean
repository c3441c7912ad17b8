import TemplateTree.Proofs.Bracket
import TemplateTree.Proofs.Tour

/-!
# Places in a tree

A node stands at the path that leads to it from the root. `Tree.tour` is the tour around a tree with
these paths. The main statement is `Tree.tour_between`: the tour goes on from a scope through exactly
the nodes below it until it leaves the scope.
-/

namespace TemplateTree

def Visit.bracket : Visit → Bracket
  | enter node => if node.createsScope then .opening else .plain
  | leave _ => .closing

namespace Tree

def at? : Tree → List Nat → Option Tree
  | tree, [] => some tree
  | tree, index :: path => (tree.children[index]?).bind (at? · path)

def outward (index : Nat) (stop : List Nat × Visit) : List Nat × Visit :=
  (index :: stop.1, stop.2)

mutual

def tour : Tree → List (List Nat × Visit)
  | mk node children =>
      ([], .enter node.opened) :: (tourAll 0 children ++ node.departure.map (([], ·)))

def tourAll (index : Nat) : List Tree → List (List Nat × Visit)
  | [] => []
  | tree :: trees => (tour tree).map (outward index) ++ tourAll (index + 1) trees

end

mutual

theorem map_snd_tour (tree : Tree) : tree.tour.map Prod.snd = tree.visits := by
  cases tree with
  | mk node children =>
      simp [tour, visits, map_snd_tourAll 0 children, Function.comp_def]

theorem map_snd_tourAll (index : Nat) (trees : List Tree) :
    (tourAll index trees).map Prod.snd = visitsAll trees := by
  cases trees with
  | nil => rfl
  | cons tree trees =>
      have inner := map_snd_tour tree
      simp only [tourAll, visitsAll, List.map_append, List.map_map, map_snd_tourAll (index + 1) trees]
      rw [← inner]
      rfl

end

theorem mem_tourAll {index : Nat} {trees : List Tree} {stop : List Nat × Visit} :
    stop ∈ tourAll index trees ↔ ∃ n tree inner, trees[n]? = some tree ∧ inner ∈ tree.tour ∧
      stop = outward (index + n) inner := by
  induction trees generalizing index with
  | nil => simp [tourAll]
  | cons tree trees ih =>
      rw [tourAll, List.mem_append, ih, List.mem_map]
      constructor
      · rintro (⟨inner, member, rfl⟩ | ⟨n, other, inner, found, member, rfl⟩)
        · exact ⟨0, tree, inner, rfl, member, rfl⟩
        · exact ⟨n + 1, other, inner, found, member, by rw [Nat.add_assoc, Nat.add_comm 1]⟩
      · rintro ⟨n, other, inner, found, member, rfl⟩
        cases n with
        | zero =>
            obtain rfl : tree = other := by simpa using found
            exact .inl ⟨inner, member, rfl⟩
        | succ n =>
            exact .inr ⟨n, other, inner, found, member, by rw [Nat.add_assoc, Nat.add_comm 1]⟩

/-- The tour enters a node exactly where the node stands. -/
theorem enter_mem_tour {path : List Nat} {tree : Tree} {node : Node} :
    (path, .enter node) ∈ tree.tour ↔
      ∃ inner, tree.at? path = some inner ∧ inner.node.opened = node := by
  induction path generalizing tree with
  | nil =>
      cases tree with
      | mk own children =>
          have departs : ([], .enter node) ∉ own.departure.map (([], ·) : Visit → List Nat × Visit) := by
            unfold Node.departure
            split <;> simp
          have deeper : ([], .enter node) ∉ tourAll 0 children := by
            rw [mem_tourAll]
            rintro ⟨n, tree, inner, -, -, same⟩
            cases congrArg Prod.fst same
          simp only [tour, List.mem_cons, List.mem_append, departs, deeper, or_false, Prod.mk.injEq,
            Visit.enter.injEq, true_and, at?, Option.some.injEq, exists_eq_left', Tree.node]
          exact eq_comm
  | cons index path ih =>
      cases tree with
      | mk own children =>
          have departs : (index :: path, .enter node) ∉
              own.departure.map (([], ·) : Visit → List Nat × Visit) := by
            rw [List.mem_map]
            rintro ⟨visit, -, same⟩
            cases congrArg Prod.fst same
          simp only [tour, List.mem_cons, List.mem_append, departs, or_false, Prod.mk.injEq,
            reduceCtorEq, false_and, false_or, at?, Tree.children, Option.bind_eq_some_iff]
          rw [mem_tourAll]
          constructor
          · rintro ⟨n, tree, ⟨path', visit⟩, found, member, same⟩
            simp only [outward, Nat.zero_add, Prod.mk.injEq, List.cons.injEq] at same
            obtain ⟨⟨rfl, rfl⟩, rfl⟩ := same
            obtain ⟨inner, here, opened⟩ := ih.mp member
            exact ⟨inner, ⟨tree, found, here⟩, opened⟩
          · rintro ⟨inner, ⟨tree, found, here⟩, opened⟩
            exact ⟨index, tree, _, found, ih.mpr ⟨inner, here, opened⟩, by simp [outward]⟩

/-! ## The order of the tour -/

/-- The second stop does not enter a node ahead of one that the first stop enters. -/
def Ascends (first second : List Nat × Visit) : Prop :=
  first.2.entered?.isSome → second.2.entered?.isSome → first.1 < second.1

mutual

theorem ascends_tour (tree : Tree) : tree.tour.Pairwise Ascends := by
  cases tree with
  | mk node children =>
      rw [tour, List.pairwise_cons, List.pairwise_append]
      refine ⟨?_, ascends_tourAll 0 children, ?_, ?_⟩
      · intro stop member _ entered
        rcases List.mem_append.mp member with member | member
        · obtain ⟨n, tree, inner, -, -, rfl⟩ := mem_tourAll.mp member
          exact List.nil_lt_cons _ _
        · obtain ⟨visit, departs, rfl⟩ := List.mem_map.mp member
          unfold Node.departure at departs
          split at departs
          · obtain rfl := List.mem_singleton.mp departs
            cases entered
          · cases departs
      · unfold Node.departure
        split <;> simp
      · intro first _ second member _ entered
        obtain ⟨visit, departs, rfl⟩ := List.mem_map.mp member
        unfold Node.departure at departs
        split at departs
        · obtain rfl := List.mem_singleton.mp departs
          cases entered
        · cases departs

theorem ascends_tourAll (index : Nat) (trees : List Tree) :
    (tourAll index trees).Pairwise Ascends := by
  cases trees with
  | nil => exact .nil
  | cons tree trees =>
      rw [tourAll, List.pairwise_append, List.pairwise_map]
      refine ⟨?_, ascends_tourAll (index + 1) trees, ?_⟩
      · refine (ascends_tour tree).imp ?_
        intro first second ascends firstEntered secondEntered
        exact List.cons_lt_cons_self.mpr (ascends firstEntered secondEntered)
      · rintro first member second later - -
        obtain ⟨inner, -, rfl⟩ := List.mem_map.mp member
        obtain ⟨n, other, deeper, -, -, rfl⟩ := mem_tourAll.mp later
        exact List.Lex.rel (by omega)

end

/-! ## Scopes on the tour -/

mutual

theorem balanced_visits (tree : Tree) : Bracket.Balanced (tree.visits.map Visit.bracket) := by
  cases tree with
  | mk node children =>
      have inner := balanced_visitsAll children
      cases opens : node.createsScope with
      | true =>
          have shape : (mk node children).visits.map Visit.bracket =
              .opening :: ((visitsAll children).map Visit.bracket ++ [.closing]) := by
            simp [visits, Visit.bracket, opens, Node.departure]
          rw [shape]
          exact inner.wrap
      | false =>
          have shape : (mk node children).visits.map Visit.bracket =
              .plain :: (visitsAll children).map Visit.bracket := by
            simp [visits, Visit.bracket, opens, Node.departure]
          rw [shape]
          exact inner.plain

theorem balanced_visitsAll (trees : List Tree) :
    Bracket.Balanced ((visitsAll trees).map Visit.bracket) := by
  cases trees with
  | nil => exact Bracket.balanced_nil
  | cons tree trees =>
      rw [visitsAll, List.map_append]
      exact (balanced_visits tree).append (balanced_visitsAll trees)

end

def Below (path deeper : List Nat) : Prop := path <+: deeper ∧ path ≠ deeper

@[simp] theorem below_cons {index other : Nat} {path deeper : List Nat} :
    Below (index :: path) (other :: deeper) ↔ index = other ∧ Below path deeper := by
  unfold Below
  rw [List.cons_prefix_cons]
  constructor
  · rintro ⟨⟨rfl, further⟩, different⟩
    exact ⟨rfl, further, fun same => different (by rw [same])⟩
  · rintro ⟨rfl, further, different⟩
    exact ⟨⟨rfl, further⟩, fun same => different (List.cons.inj same).2⟩

theorem not_below_nil (path : List Nat) : ¬ Below path [] := by
  rintro ⟨further, different⟩
  exact different (List.prefix_nil.mp further)

/-- A tour that is cut where it enters the scope at `path`: the nodes below the scope are exactly
those between there and where the scope is left, and this part is balanced. -/
def Between (path : List Nat) (before behind : List (List Nat × Visit)) : Prop :=
  ∃ inside closing outside, behind = inside ++ (path, .leave closing) :: outside ∧
    Bracket.Balanced (inside.map fun stop => stop.2.bracket) ∧
    (∀ stop ∈ inside, Below path stop.1) ∧ ∀ stop ∈ before ++ outside, ¬ Below path stop.1

theorem Between.outward {path : List Nat} {before behind : List (List Nat × Visit)}
    (between : Between path before behind) (index : Nat) :
    Between (index :: path) (before.map (outward index)) (behind.map (outward index)) := by
  obtain ⟨inside, closing, outside, rfl, balanced, below, notBelow⟩ := between
  refine ⟨inside.map (Tree.outward index), closing, outside.map (Tree.outward index), ?_, ?_, ?_, ?_⟩
  · simp [Tree.outward]
  · simpa [List.map_map, Function.comp_def, Tree.outward] using balanced
  · intro stop member
    obtain ⟨inner, inside, rfl⟩ := List.mem_map.mp member
    simpa [Tree.outward] using below inner inside
  · intro stop member
    rw [← List.map_append] at member
    obtain ⟨inner, inside, rfl⟩ := List.mem_map.mp member
    simpa [Tree.outward] using notBelow inner inside

theorem Between.widen {path : List Nat} {before behind : List (List Nat × Visit)}
    (between : Between path before behind) (first last : List (List Nat × Visit))
    (notFirst : ∀ stop ∈ first, ¬ Below path stop.1) (notLast : ∀ stop ∈ last, ¬ Below path stop.1) :
    Between path (first ++ before) (behind ++ last) := by
  obtain ⟨inside, closing, outside, rfl, balanced, below, others⟩ := between
  refine ⟨inside, closing, outside ++ last, by simp, balanced, below, ?_⟩
  intro stop member
  simp only [List.mem_append] at member others
  rcases member with (member | member) | member | member
  · exact notFirst stop member
  · exact others stop (.inl member)
  · exact others stop (.inr member)
  · exact notLast stop member

theorem eq_append_of_append {α : Type} {first second before behind : List α} {stop : α}
    (split : first ++ second = before ++ stop :: behind) :
    (∃ rest, first = before ++ stop :: rest ∧ behind = rest ++ second) ∨
      ∃ rest, before = first ++ rest ∧ second = rest ++ stop :: behind := by
  rcases List.append_eq_append_iff.mp split with ⟨rest, rfl, tail⟩ | ⟨rest, rfl, tail⟩
  · exact .inr ⟨rest, rfl, tail⟩
  · cases rest with
    | nil => exact .inr ⟨[], by simp, by simpa using tail.symm⟩
    | cons head rest =>
        obtain ⟨rfl, rfl⟩ := List.cons.inj tail
        exact .inl ⟨rest, rfl, rfl⟩

mutual

theorem tour_between {tree : Tree} {path : List Nat} {node : Node}
    {before behind : List (List Nat × Visit)} (opens : node.createsScope = true)
    (split : tree.tour = before ++ (path, .enter node) :: behind) : Between path before behind := by
  cases tree with
  | mk own children =>
      rw [tour] at split
      cases before with
      | nil =>
          obtain ⟨same, rfl⟩ := List.cons.inj split
          obtain ⟨rfl, entered⟩ := Prod.mk.inj same
          obtain rfl := Visit.enter.inj entered
          rw [Node.createsScope_opened] at opens
          have departs : own.departure = [.leave own.closing] := if_pos opens
          refine ⟨tourAll 0 children, own.closing, [], by simp [departs], ?_, ?_, by simp⟩
          · have balanced := balanced_visitsAll children
            rw [← map_snd_tourAll 0, List.map_map] at balanced
            exact balanced
          · intro stop member
            obtain ⟨n, tree, inner, -, -, rfl⟩ := mem_tourAll.mp member
            exact ⟨List.nil_prefix, (List.cons_ne_nil _ _).symm⟩
      | cons stop before =>
          obtain ⟨rfl, later⟩ := List.cons.inj split
          rcases eq_append_of_append later with ⟨rest, inChildren, rfl⟩ | ⟨rest, -, inDeparture⟩
          · refine (tourAll_between opens inChildren).widen [_] _ ?_ ?_
            · intro stop member
              obtain rfl := List.mem_singleton.mp member
              exact not_below_nil path
            · intro stop member
              obtain ⟨visit, -, rfl⟩ := List.mem_map.mp member
              exact not_below_nil path
          · -- a node is not entered where the tour departs
            have member : (path, .enter node) ∈ own.departure.map (([], ·)) := by
              rw [inDeparture]
              exact List.mem_append_right _ List.mem_cons_self
            unfold Node.departure at member
            split at member <;> simp at member

theorem tourAll_between {index : Nat} {trees : List Tree} {path : List Nat} {node : Node}
    {before behind : List (List Nat × Visit)} (opens : node.createsScope = true)
    (split : tourAll index trees = before ++ (path, .enter node) :: behind) :
    Between path before behind := by
  cases trees with
  | nil => exact absurd split.symm (by simp [tourAll])
  | cons tree trees =>
      rw [tourAll] at split
      rcases eq_append_of_append split with ⟨rest, inTree, rfl⟩ | ⟨rest, rfl, inTrees⟩
      · obtain ⟨first, second, inTour, rfl, inSecond⟩ := List.map_eq_append_iff.mp inTree
        obtain ⟨stop, third, rfl, here, rfl⟩ := List.map_eq_cons_iff.mp inSecond
        obtain ⟨path, visit⟩ := stop
        obtain ⟨rfl, rfl⟩ := Prod.mk.inj here
        refine ((tour_between opens inTour).outward index).widen [] _ (by simp) ?_
        intro stop member
        obtain ⟨n, other, inner, -, -, rfl⟩ := mem_tourAll.mp member
        rw [Tree.outward, below_cons]
        omega
      · have here : (path, .enter node) ∈ tourAll (index + 1) trees := by
          rw [inTrees]
          exact List.mem_append_right _ List.mem_cons_self
        obtain ⟨n, other, inner, -, -, same⟩ := mem_tourAll.mp here
        obtain rfl : path = (index + 1 + n) :: inner.1 := (Prod.mk.inj same).1
        have between := tourAll_between opens inTrees
        rw [← List.append_nil behind]
        refine between.widen _ [] ?_ (by simp)
        intro stop member
        obtain ⟨outer, -, rfl⟩ := List.mem_map.mp member
        rw [Tree.outward, below_cons]
        omega

end

end Tree

end TemplateTree
