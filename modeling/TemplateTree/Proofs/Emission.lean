import Mathlib.Data.List.Forall2
import TemplateTree.Proofs.Step

/-!
# What a builder puts into its tree

A tree emits the tags of its nodes in the order of its tour. The main statement is `build_emission`:
the tree of a document emits the fragments of the document, each once and in order.
-/

namespace TemplateTree

inductive Emission where
  | opener (tag : Option Text)
  | closer (tag : Option Text)
deriving DecidableEq

def Visit.emission : Visit → Emission
  | enter node => .opener node.tag
  | leave closing => .closer closing

def Fragment.emission (fragment : Fragment) : Emission :=
  if fragment.kind = .closeTag then .closer (some fragment.clean) else .opener (some fragment.clean)

namespace Tree

mutual

def emit : Tree → List Emission
  | mk node children => .opener node.tag ::
      (emitAll children ++ if node.createsScope then [.closer node.closing] else [])

def emitAll : List Tree → List Emission
  | [] => []
  | tree :: trees => emit tree ++ emitAll trees

end

mutual

theorem emit_eq (tree : Tree) : tree.emit = tree.visits.map Visit.emission := by
  cases tree with
  | mk node children =>
      have departure : node.departure.map Visit.emission =
          if node.createsScope then [.closer node.closing] else [] := by
        unfold Node.departure
        split <;> rfl
      simp [emit, visits, emitAll_eq children, departure, Visit.emission]

theorem emitAll_eq (trees : List Tree) : emitAll trees = (visitsAll trees).map Visit.emission := by
  cases trees with
  | nil => rfl
  | cons tree trees => simp [emitAll, visitsAll, emit_eq tree, emitAll_eq trees]

end

end Tree

namespace Builder

variable {builder : Builder} {fragment : Fragment} {visit : Visit}

theorem map_eq_of_forall₂ {α β γ : Type} {f : α → γ} {g : β → γ} {first : List α} {second : List β}
    (each : List.Forall₂ (fun a b => f a = g b) first second) : first.map f = second.map g := by
  have same : List.Forall₂ (· = ·) (first.map f) (second.map g) := by
    rwa [List.forall₂_map_left_iff, List.forall₂_map_right_iff]
  rwa [List.forall₂_eq_eq_eq] at same

theorem Visits.emission (visits : builder.Visits fragment visit) :
    visit.emission = fragment.emission := by
  cases visit with
  | enter node =>
      obtain ⟨other, tag, -⟩ := makeNode_ok visits
      simp [Visit.emission, Fragment.emission, other, tag]
  | leave closing =>
      obtain ⟨kind, rfl⟩ := visits
      simp [Visit.emission, Fragment.emission, kind]

theorem run_cons {scopes scopes' : List Scope} {fragments : List Fragment} :
    builder.run scopes (fragment :: fragments) = .ok scopes' ↔
      ∃ between, builder.step scopes fragment = .ok between ∧
        builder.run between fragments = .ok scopes' := by
  rw [run, bind_eq_ok]

theorem run_keeps (holds : List Scope → Prop) {scopes scopes' : List Scope} {fragments : List Fragment}
    (keeps : ∀ {scopes fragment scopes'}, holds scopes → builder.step scopes fragment = .ok scopes' →
      holds scopes')
    (start : holds scopes) (ran : builder.run scopes fragments = .ok scopes') : holds scopes' := by
  induction fragments generalizing scopes with
  | nil =>
      obtain rfl := Except.ok.inj ran
      exact start
  | cons fragment fragments ih =>
      obtain ⟨between, stepped, ran⟩ := run_cons.mp ran
      exact ih (keeps start stepped) ran

theorem sound_run {scopes scopes' : List Scope} {fragments : List Fragment}
    (sound : ∀ scope ∈ scopes, scope.Sound) (ran : builder.run scopes fragments = .ok scopes') :
    ∀ scope ∈ scopes', scope.Sound :=
  run_keeps (∀ scope ∈ ·, scope.Sound) sound_step sound ran

theorem run_ne_nil {scopes scopes' : List Scope} {fragments : List Fragment} (start : scopes ≠ [])
    (ran : builder.run scopes fragments = .ok scopes') : scopes' ≠ [] :=
  run_keeps (· ≠ []) (fun _ => step_ne_nil) start ran

theorem run_error {scopes : List Scope} {fragments : List Fragment} {error : TreeError}
    (failed : builder.run scopes fragments = .error error) :
    ∃ front fragment back scopes', fragments = front ++ fragment :: back ∧
      builder.run scopes front = .ok scopes' ∧ builder.step scopes' fragment = .error error := by
  induction fragments generalizing scopes with
  | nil => cases failed
  | cons fragment fragments ih =>
      rw [run] at failed
      rcases bind_eq_error.mp failed with stops | ⟨between, stepped, failed⟩
      · exact ⟨[], fragment, fragments, scopes, rfl, rfl, stops⟩
      · obtain ⟨front, later, back, scopes', rfl, ran, stops⟩ := ih failed
        exact ⟨fragment :: front, later, back, scopes', rfl,
          run_cons.mpr ⟨between, stepped, ran⟩, stops⟩

theorem visits_run {scopes scopes' : List Scope} {fragments : List Fragment}
    (sound : ∀ scope ∈ scopes, scope.Sound) (ran : builder.run scopes fragments = .ok scopes') :
    ∃ visits, List.Forall₂ builder.Visits fragments visits ∧
      stackVisits scopes' = stackVisits scopes ++ visits := by
  induction fragments generalizing scopes with
  | nil =>
      obtain rfl := Except.ok.inj ran
      exact ⟨[], .nil, by simp⟩
  | cons fragment fragments ih =>
      obtain ⟨between, stepped, ran⟩ := run_cons.mp ran
      obtain ⟨visit, first, grown⟩ := visits_step sound stepped
      obtain ⟨visits, rest, same⟩ := ih (sound_step sound stepped) ran
      refine ⟨visit :: visits, .cons first rest, ?_⟩
      rw [same, grown, List.append_assoc]
      rfl

theorem sound_root (sourceId : Text) : ∀ scope ∈ [{ node := .root sourceId : Scope }], scope.Sound := by
  intro scope member
  obtain rfl := List.mem_singleton.mp member
  exact Scope.sound_of_node rfl rfl

theorem build_ok {fragments : List Fragment} {sourceId : Text} {tree : Tree}
    (built : builder.build fragments sourceId = .ok tree) :
    ∃ root, builder.run [{ node := .root sourceId }] fragments = .ok [root] ∧ tree = root.tree := by
  obtain ⟨scopes, ran, finished⟩ := bind_eq_ok.mp built
  unfold finish at finished
  split at finished
  · cases finished
  next root => exact ⟨root, ran, (Except.ok.inj finished).symm⟩
  · cases finished

theorem build_visits {fragments : List Fragment} {sourceId : Text} {tree : Tree}
    (built : builder.build fragments sourceId = .ok tree) :
    tree.node = .root sourceId ∧
      List.Forall₂ builder.Visits fragments (Tree.visitsAll tree.children) := by
  obtain ⟨root, ran, rfl⟩ := build_ok built
  obtain ⟨visits, each, same⟩ := visits_run (sound_root sourceId) ran
  have both : root.node = .root sourceId ∧ Tree.visitsAll root.contents = visits := by
    simpa [stackVisits, Scope.contents_none, Tree.visitsAll] using same
  rw [Scope.tree_eq]
  exact ⟨both.1, both.2 ▸ each⟩

theorem forall₂_entered {fragments : List Fragment} {visits : List Visit}
    (each : List.Forall₂ builder.Visits fragments visits) :
    List.Forall₂ (fun fragment node => builder.makeNode fragment = .ok node)
      (fragments.filter (·.kind ≠ .closeTag)) (visits.filterMap Visit.entered?) := by
  induction each with
  | nil => exact .nil
  | @cons fragment visit fragments visits first rest ih =>
      cases visit with
      | enter node =>
          rw [List.filter_cons_of_pos (by simpa using (makeNode_ok first).1)]
          exact .cons first ih
      | leave closing =>
          rw [List.filter_cons_of_neg (by simp [first.1])]
          exact ih

theorem exists_of_mem_visits {fragments : List Fragment} {visits : List Visit}
    (each : List.Forall₂ builder.Visits fragments visits) (member : visit ∈ visits) :
    ∃ fragment ∈ fragments, builder.Visits fragment visit := by
  induction each with
  | nil => cases member
  | cons first rest ih =>
      rcases List.mem_cons.mp member with rfl | member
      · exact ⟨_, List.mem_cons_self, first⟩
      · obtain ⟨fragment, found, visits⟩ := ih member
        exact ⟨fragment, List.mem_cons_of_mem _ found, visits⟩

theorem closing_isSome {fragments : List Fragment} {trees : List Tree} {inner : Tree}
    (each : List.Forall₂ builder.Visits fragments (Tree.visitsAll trees))
    (member : inner ∈ Tree.walkAll trees) :
    inner.node.closing.isSome = inner.node.createsScope := by
  cases opens : inner.node.createsScope with
  | true =>
      obtain ⟨fragment, -, -, closing⟩ :=
        exists_of_mem_visits each (Tree.leave_mem_visitsAll member opens)
      simp [closing]
  | false =>
      have entered : inner.node.opened ∈ (Tree.visitsAll trees).filterMap Visit.entered? := by
        rw [Tree.entered_visitsAll]
        exact List.mem_map_of_mem member
      obtain ⟨visit, visited, isEnter⟩ := List.mem_filterMap.mp entered
      cases visit with
      | leave closing => cases isEnter
      | enter node =>
          obtain rfl := Option.some.inj isEnter
          obtain ⟨fragment, -, made⟩ := exists_of_mem_visits each visited
          have same : inner.node.opened = inner.node := by simp [Node.opened, opens]
          simpa [same] using (makeNode_ok made).2.2

/-- The tree of a document emits the fragments of the document; below the root, its walk meets the
nodes that the fragments make, one each and in order, and exactly the scopes have closing tags. -/
theorem build_emission {fragments : List Fragment} {sourceId : Text} {tree : Tree}
    (built : builder.build fragments sourceId = .ok tree) :
    Tree.emitAll tree.children = fragments.map Fragment.emission ∧
      tree.walk.length = 1 + (fragments.filter (·.kind ≠ .closeTag)).length ∧
      List.Forall₂ (fun fragment inner => builder.makeNode fragment = .ok inner.node.opened)
        (fragments.filter (·.kind ≠ .closeTag)) tree.walk.tail ∧
      ∀ inner ∈ tree.walk.tail, inner.node.closing.isSome = inner.node.createsScope := by
  obtain ⟨-, each⟩ := build_visits built
  have nodes : List.Forall₂ (fun fragment (inner : Tree) =>
      builder.makeNode fragment = .ok inner.node.opened)
      (fragments.filter (·.kind ≠ .closeTag)) (Tree.walkAll tree.children) := by
    have entered := forall₂_entered each
    rwa [Tree.entered_visitsAll, List.forall₂_map_right_iff] at entered
  have walk : tree.walk = tree :: Tree.walkAll tree.children := by cases tree; rfl
  refine ⟨?_, ?_, ?_, ?_⟩
  · rw [Tree.emitAll_eq]
    exact (map_eq_of_forall₂ (each.imp fun _ _ visits => visits.emission.symm)).symm
  · rw [walk, List.length_cons, nodes.length_eq, Nat.add_comm]
  · rw [walk, List.tail_cons]
    exact nodes
  · intro inner member
    rw [walk, List.tail_cons] at member
    exact closing_isSome each member

theorem build_emission_alternative :
    ∃ tree, ({ registry := .standard } : Builder).build
        [.ofBlock [] "if x".toList, .ofBlock [] Kind.alternative.name, .ofText ['a'],
          .ofBlock [] Fragment.endWord] [] = .ok tree ∧
      Tree.emitAll tree.children = [.opener (some "if x".toList),
        .opener (some Kind.alternative.name), .opener (some ['a']), .closer (some Fragment.endWord)] ∧
      tree.walk.length = 4 ∧
      ∀ inner ∈ tree.walk.tail, inner.node.closing.isSome = inner.node.createsScope := by
  obtain ⟨tree, built⟩ : ∃ tree, ({ registry := .standard } : Builder).build
      [.ofBlock [] "if x".toList, .ofBlock [] Kind.alternative.name, .ofText ['a'],
        .ofBlock [] Fragment.endWord] [] = .ok tree := ⟨_, rfl⟩
  obtain ⟨emits, walks, -, closed⟩ := build_emission built
  exact ⟨tree, built, emits, walks, closed⟩

end Builder

end TemplateTree
