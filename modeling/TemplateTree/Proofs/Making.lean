import TemplateTree.Graph.Linking
import TemplateTree.Proofs.ScopeStack
import TemplateTree.Proofs.TagReading

/-!
# Graphs that are made by hand

Nodes are made, read their tags and are linked in any order, also several times, and some calls fail.
`Graph.Routed` holds in all graphs that are `Made` so.
-/

namespace TemplateTree

theorem Node.kind_absorb (node : Node) (fragment : Fragment) : (node.absorb fragment).1.kind = node.kind := by
  unfold absorb read
  cases read : node.content.read fragment with
  | error error => rfl
  | ok content => exact Content.kind_read read

namespace Graph

def kind? (graph : Graph) (id : NodeId) : Option Kind := (graph.node? id).map Node.kind

inductive Action where
  | create (node : Node)
  | absorb (id : NodeId) (fragment : Fragment)
  | add (id child : NodeId)
  | enter (id : NodeId)
  | close (id : NodeId) (closing : Text)

def perform (graph : Graph) : Action → Graph × Option TreeError
  | .create node => ((graph.create node).1, none)
  | .absorb id fragment => graph.absorb id fragment
  | .add id child => graph.attempt id child
  | .enter _ => (graph, none)
  | .close id closing => (graph.close id closing, none)

/-- The graphs that actions make, also by actions that fail. -/
inductive Made : Graph → Prop where
  | empty : Made {}
  | perform {graph : Graph} (made : Made graph) (action : Action) : Made (graph.perform action).1

def performAll (graph : Graph) (actions : List Action) : Graph :=
  actions.foldl (fun graph action => (graph.perform action).1) graph

variable {graph graph' : Graph} {id child other : NodeId} {node parent added : Node}

theorem Made.performAll (made : graph.Made) (actions : List Action) : (graph.performAll actions).Made := by
  induction actions generalizing graph with
  | nil => exact made
  | cons action actions ih => exact ih (made.perform action)

/-! ## What links are kept -/

structure Linked (graph graph' : Graph) : Prop where
  size : graph'.size = graph.size
  kinds : ∀ id, graph'.kind? id = graph.kind? id
  children : ∀ id, graph'.children id = graph.children id
  alternatives : ∀ id, graph'.alternative? id = graph.alternative? id

theorem Linked.refl (graph : Graph) : graph.Linked graph := ⟨rfl, fun _ => rfl, fun _ => rfl, fun _ => rfl⟩

theorem linked_replace {cell : Cell} (found : graph.cell? id = some cell)
    (kind : node.kind = cell.node.kind) : graph.Linked (graph.replace id { cell with node }) where
  size := List.length_set
  kinds other := by
    rw [kind?, kind?, (views_replace found _ other).1]
    by_cases same : other = id
    · rw [if_pos same, same, node?_of_cell? found, Option.map_some, Option.map_some, kind]
    · rw [if_neg same]
  children other := by
    rw [(views_replace found _ other).2.1]
    by_cases same : other = id
    · rw [if_pos same, same, children_of_cell? found]
    · rw [if_neg same]
  alternatives other := by
    rw [(views_replace found _ other).2.2]
    by_cases same : other = id
    · rw [if_pos same, same, alternative?_of_cell? found]
    · rw [if_neg same]

theorem linked_close (graph : Graph) (id : NodeId) (closing : Text) :
    graph.Linked (graph.close id closing) := by
  unfold close
  split
  · exact .refl graph
  next cell found => exact linked_replace found rfl

theorem linked_absorb (graph : Graph) (id : NodeId) (fragment : Fragment) :
    graph.Linked (graph.absorb id fragment).1 := by
  unfold absorb
  split
  · exact .refl graph
  next cell found =>
    exact linked_replace found (cell.node.kind_absorb fragment)

/-! ## The place of an alternative -/

def Parted (graph : Graph) (id : NodeId) : Prop :=
  match graph.alternative? id with
  | none => ∀ child ∈ graph.children id, graph.kind? child ≠ some .alternative
  | some branch => graph.kind? branch = some .alternative ∧ ∃ front,
      graph.children id = front ++ [branch] ∧ ∀ child ∈ front, graph.kind? child ≠ some .alternative

structure Routed (graph : Graph) : Prop where
  inside : ∀ id, ∀ child ∈ graph.children id, child < graph.size
  conditional : ∀ id branch, graph.alternative? id = some branch → graph.kind? id = some .conditional
  parted : ∀ id, graph.kind? id = some .conditional → graph.Parted id

theorem Parted.branch_mem {branch : NodeId} (parted : graph.Parted id)
    (found : graph.alternative? id = some branch) : branch ∈ graph.children id := by
  rw [Parted, found] at parted
  obtain ⟨-, front, children, -⟩ := parted
  rw [children]
  exact List.mem_append_right _ (List.mem_singleton_self branch)

theorem Parted.congr (parted : graph.Parted id)
    (alternatives : graph'.alternative? id = graph.alternative? id)
    (children : graph'.children id = graph.children id)
    (kinds : ∀ child ∈ graph.children id, graph'.kind? child = graph.kind? child) : graph'.Parted id := by
  unfold Parted
  rw [alternatives, children]
  cases found : graph.alternative? id with
  | none =>
      rw [Parted, found] at parted
      intro child member
      rw [kinds child member]
      exact parted child member
  | some branch =>
      have last := parted.branch_mem found
      rw [Parted, found] at parted
      obtain ⟨kind, front, split, others⟩ := parted
      refine ⟨by rw [kinds branch last, kind], front, split, fun child member => ?_⟩
      rw [kinds child (by rw [split]; exact List.mem_append_left _ member)]
      exact others child member

theorem Linked.routed (linked : graph.Linked graph') (routed : graph.Routed) : graph'.Routed where
  inside id := by
    rw [linked.children, linked.size]
    exact routed.inside id
  conditional id branch := by
    rw [linked.alternatives, linked.kinds]
    exact routed.conditional id branch
  parted id conditional := by
    rw [linked.kinds] at conditional
    exact (routed.parted id conditional).congr (linked.alternatives id) (linked.children id)
      fun child _ => linked.kinds child

/-! ## New nodes -/

theorem lt_size_of_kind? {kind : Kind} (found : graph.kind? id = some kind) : id < graph.size := by
  obtain ⟨node, here, -⟩ := Option.map_eq_some_iff.mp found
  exact lt_size_of_node? here

theorem kind?_create (graph : Graph) (node : Node) (id : NodeId) :
    (graph.create node).1.kind? id = if id = graph.size then some node.kind else graph.kind? id := by
  rw [kind?, (views_create graph node id).1]
  split <;> rfl

theorem size_create (graph : Graph) (node : Node) : (graph.create node).1.size = graph.size + 1 := by
  simp [create, size]

theorem kind?_create_of_lt (inside : id < graph.size) : (graph.create node).1.kind? id = graph.kind? id := by
  rw [kind?_create, if_neg (Nat.ne_of_lt inside)]

theorem Routed.create (routed : graph.Routed) (node : Node) : (graph.create node).1.Routed where
  inside id child member := by
    rw [(views_create graph node id).2.1] at member
    rw [size_create]
    exact Nat.lt_succ_of_lt (routed.inside id child member)
  conditional id branch found := by
    rw [(views_create graph node id).2.2] at found
    have kind := routed.conditional id branch found
    rw [kind?_create_of_lt (lt_size_of_kind? kind), kind]
  parted id conditional := by
    obtain ⟨-, children, alternatives⟩ := views_create graph node id
    by_cases new : id = graph.size
    · have missing : graph.cell? id = none := new ▸ cell?_size graph
      rw [Parted, alternatives, children, alternative?, Graph.children, missing]
      exact List.forall_mem_nil _
    · rw [kind?_create, if_neg new] at conditional
      exact (routed.parted id conditional).congr alternatives children
        fun child member => kind?_create_of_lt (routed.inside id child member)

/-! ## Adding a child -/

/-- A child is put behind the children of the node that receives it, and nothing else is linked. Only an
alternative changes who receives: it becomes the alternative of a conditional that has none. -/
structure Links (graph : Graph) (id child : NodeId) (graph' : Graph) : Prop where
  size : graph'.size = graph.size
  nodes : ∀ other, graph'.node? other = graph.node? other
  children : ∀ other, graph'.children other =
    if other = graph.receiver id then graph.children other ++ [child] else graph.children other
  alternatives : ∀ other, graph'.alternative? other =
    if other = id ∧ graph.kind? id = some .conditional ∧ graph.kind? child = some .alternative
      then some child else graph.alternative? other
  single : graph.kind? id = some .conditional → graph.kind? child = some .alternative →
    graph.alternative? id = none

theorem links_append {host : Node} (hosts : graph.node? (graph.receiver id) = some host)
    (plain : ¬ (graph.kind? id = some .conditional ∧ graph.kind? child = some .alternative)) :
    graph.Links id child (graph.append (graph.receiver id) child) where
  size := by
    obtain ⟨cell, found, -⟩ := exists_cell? hosts
    rw [append, found]
    exact List.length_set
  nodes other := (views_append hosts child other).1
  children other := by
    rw [(views_append hosts child other).2.1]
    by_cases same : other = graph.receiver id
    · rw [if_pos same, if_pos same, same]
    · rw [if_neg same, if_neg same]
  alternatives other := by
    rw [(views_append hosts child other).2.2, if_neg fun both => plain both.2]
  single conditional alternative := absurd ⟨conditional, alternative⟩ plain

theorem links_replace {cell : Cell} (found : graph.cell? id = some cell)
    (conditional : graph.kind? id = some .conditional) (alternative : graph.kind? child = some .alternative)
    (missing : cell.alternative = none) : graph.Links id child (graph.replace id
      { cell with children := cell.children ++ [child], alternative := some child }) where
  size := List.length_set
  nodes other := by
    rw [(views_replace found _ other).1]
    by_cases same : other = id
    · rw [if_pos same, same, node?_of_cell? found]
    · rw [if_neg same]
  children other := by
    have own : graph.receiver id = id := receiver_of_none (by rw [alternative?_of_cell? found, missing])
    rw [(views_replace found _ other).2.1, own]
    by_cases same : other = id
    · rw [if_pos same, if_pos same, same, children_of_cell? found]
    · rw [if_neg same, if_neg same]
  alternatives other := by
    rw [(views_replace found _ other).2.2]
    simp only [conditional, alternative, and_true]
  single _ _ := by rw [alternative?_of_cell? found, missing]

theorem Routed.kind_branch {branch : NodeId} (routed : graph.Routed)
    (found : graph.alternative? id = some branch) : graph.kind? branch = some .alternative := by
  have parted := routed.parted id (routed.conditional id branch found)
  rw [Parted, found] at parted
  exact parted.1

theorem Routed.exists_receiver (routed : graph.Routed) (found : graph.node? id = some node) :
    ∃ host, graph.node? (graph.receiver id) = some host := by
  cases received : graph.alternative? id with
  | none => exact ⟨node, by rw [receiver_of_none received, found]⟩
  | some branch =>
      obtain ⟨host, hosts, -⟩ := Option.map_eq_some_iff.mp (routed.kind_branch received)
      exact ⟨host, by rw [receiver_of_some received, hosts]⟩

theorem Routed.addChild_cases (routed : graph.Routed) (found : graph.node? id = some parent)
    (found' : graph.node? child = some added) :
    (graph.addChild id child = .error (.childOfLeaf parent) ∧ parent.isLeaf = true) ∨
    (graph.addChild id child = .error (.duplicateAlternative added.tagOrName parent) ∧
      parent.kind = .conditional ∧ added.kind = .alternative ∧ graph.alternative? id ≠ none) ∨
    ∃ graph', graph.addChild id child = .ok graph' ∧ graph.Links id child graph' ∧ parent.isLeaf = false := by
  obtain ⟨cell, here, rfl⟩ := exists_cell? found
  obtain ⟨cell', here', rfl⟩ := exists_cell? found'
  have kind : graph.kind? id = some cell.node.kind := by rw [kind?, found, Option.map_some]
  have kind' : graph.kind? child = some cell'.node.kind := by rw [kind?, found', Option.map_some]
  have received := alternative?_of_cell? here
  rw [addChild, here, here']
  dsimp only
  by_cases leaf : cell.node.isLeaf = true
  · exact .inl ⟨if_pos leaf, leaf⟩
  rw [if_neg leaf]
  rw [Bool.not_eq_true] at leaf
  by_cases conditional : cell.node.kind = .conditional
  · rw [if_neg (not_not.mpr conditional)]
    rw [conditional] at kind
    by_cases alternative : cell'.node.kind = .alternative
    · rw [if_pos alternative]
      rw [alternative] at kind'
      by_cases taken : cell.alternative.isSome = true
      · refine .inr (.inl ⟨if_pos taken, conditional, alternative, ?_⟩)
        rw [received]
        exact Option.isSome_iff_ne_none.mp taken
      · rw [if_neg taken]
        rw [Option.not_isSome_iff_eq_none] at taken
        exact .inr (.inr ⟨_, rfl, links_replace here kind kind' taken, leaf⟩)
    · rw [if_neg alternative, ← received]
      obtain ⟨host, hosts⟩ := routed.exists_receiver found
      refine .inr (.inr ⟨_, rfl, links_append hosts fun both => alternative ?_, leaf⟩)
      rw [kind'] at both
      exact Option.some.inj both.2
  · rw [if_pos conditional]
    -- only conditionals have an alternative, so the node receives its own children
    have missing : graph.alternative? id = none := by
      refine Option.eq_none_iff_forall_ne_some.mpr fun branch found => conditional ?_
      exact Option.some.inj (kind.symm.trans (routed.conditional id branch found))
    have own : graph.receiver id = id := receiver_of_none missing
    have links : graph.Links id child (graph.append (graph.receiver id) child) :=
      links_append (by rw [own, found]) fun both => conditional (Option.some.inj (kind.symm.trans both.1))
    rw [own] at links
    exact .inr (.inr ⟨_, rfl, links, leaf⟩)

theorem Links.kinds (links : graph.Links id child graph') (other : NodeId) :
    graph'.kind? other = graph.kind? other := by
  rw [kind?, links.nodes, kind?]

theorem Routed.add (routed : graph.Routed) (links : graph.Links id child graph')
    (present : child < graph.size) : graph'.Routed where
  inside other := by
    intro below member
    rw [links.children] at member
    rw [links.size]
    split at member
    · rcases List.mem_append.mp member with member | member
      · exact routed.inside other below member
      · rwa [List.mem_singleton.mp member]
    · exact routed.inside other below member
  conditional other branch found := by
    rw [links.alternatives] at found
    rw [links.kinds]
    split at found
    next taken => rw [taken.1, taken.2.1]
    · exact routed.conditional other branch found
  parted other conditional := by
    rw [links.kinds] at conditional
    have parted := routed.parted other conditional
    by_cases taken : other = id ∧ graph.kind? id = some .conditional ∧ graph.kind? child = some .alternative
    · obtain ⟨rfl, -, alternative⟩ := taken
      have missing := links.single conditional alternative
      rw [Parted, missing] at parted
      rw [Parted, links.alternatives, if_pos ⟨rfl, conditional, alternative⟩, links.children,
        receiver_of_none missing, if_pos rfl]
      refine ⟨by rw [links.kinds, alternative], graph.children other, rfl, fun below member => ?_⟩
      rw [links.kinds]
      exact parted below member
    · have same : graph'.alternative? other = graph.alternative? other := by
        rw [links.alternatives, if_neg taken]
      by_cases receives : other = graph.receiver id
      · -- a conditional receives only children of its own, and no alternative unless it is taken
        have missing : graph.alternative? id = none := by
          refine Option.eq_none_iff_forall_ne_some.mpr fun branch found => ?_
          have kind := routed.kind_branch found
          rw [← receiver_of_some found, ← receives, conditional] at kind
          cases kind
        obtain rfl : other = id := receives.trans (receiver_of_none missing)
        rw [Parted, missing] at parted
        rw [Parted, same, missing, links.children, if_pos receives]
        intro below member
        rw [links.kinds]
        rcases List.mem_append.mp member with member | member
        · exact parted below member
        · rw [List.mem_singleton.mp member]
          exact fun alternative => taken ⟨rfl, conditional, alternative⟩
      · refine parted.congr same ?_ fun below _ => links.kinds below
        rw [links.children, if_neg receives]

theorem addChild_of_missing (missing : graph.node? id = none ∨ graph.node? child = none) :
    graph.addChild id child = .ok graph := by
  unfold addChild
  split
  next cell added found found' =>
    rw [node?_of_cell? found, node?_of_cell? found'] at missing
    rcases missing with missing | missing <;> cases missing
  · rfl

theorem append_replace {cell : Cell} (found : graph.cell? id = some cell) :
    (graph.replace id { cell with alternative := some child }).append id child =
      graph.replace id { cell with children := cell.children ++ [child], alternative := some child } := by
  rw [append, cell?_replace found, if_pos rfl]
  simp [replace]

theorem attempt_eq (graph : Graph) (id child : NodeId) :
    graph.attempt id child = match graph.addChild id child with
      | .ok linked => (linked, none)
      | .error error => (graph, some error) := by
  simp only [attempt, Linking.add, addChild, EStateM.run_bind, EStateM.run_get]
  cases found : graph.cell? id with
  | none => rfl
  | some cell =>
      cases graph.cell? child with
      | none => rfl
      | some added =>
          dsimp only
          by_cases leaf : cell.node.isLeaf = true
          · rw [if_pos leaf, if_pos leaf]
            rfl
          rw [if_neg leaf, if_neg leaf]
          by_cases conditional : cell.node.kind = .conditional
          · rw [if_pos conditional, if_neg (not_not.mpr conditional), Linking.addToConditional]
            by_cases alternative : added.node.kind = .alternative
            · rw [if_pos alternative, if_pos alternative]
              by_cases taken : cell.alternative.isSome = true
              · rw [if_pos taken, if_pos taken]
                rfl
              · rw [if_neg taken, if_neg taken, ← append_replace found]
                simp only [EStateM.run_bind, EStateM.run_modify, Linking.setAlternative, Linking.push, found]
            · rw [if_neg alternative, if_neg alternative]
              rfl
          · rw [if_neg conditional, if_pos conditional]
            rfl

theorem perform_add_ok (succeeded : graph.addChild id child = .ok graph') :
    graph.perform (.add id child) = (graph', none) := by
  rw [perform, attempt_eq, succeeded]

theorem perform_add_error {error : TreeError} (failed : graph.addChild id child = .error error) :
    graph.perform (.add id child) = (graph, some error) := by
  rw [perform, attempt_eq, failed]

theorem Routed.perform (routed : graph.Routed) (action : Action) : (graph.perform action).1.Routed := by
  cases action with
  | create node => exact routed.create node
  | absorb id fragment => exact (linked_absorb graph id fragment).routed routed
  | enter id => exact routed
  | close id closing => exact (linked_close graph id closing).routed routed
  | add id child =>
      cases found : graph.node? id with
      | none => rwa [perform_add_ok (addChild_of_missing (.inl found))]
      | some parent =>
          cases found' : graph.node? child with
          | none => rwa [perform_add_ok (addChild_of_missing (.inr found'))]
          | some added =>
              rcases routed.addChild_cases found found' with ⟨failed, -⟩ | ⟨failed, -⟩ |
                ⟨graph', succeeded, links, -⟩
              · rwa [perform_add_error failed]
              · rwa [perform_add_error failed]
              · rw [perform_add_ok succeeded]
                exact routed.add links (lt_size_of_node? found')

theorem Made.routed (made : graph.Made) : graph.Routed := by
  induction made with
  | empty =>
      refine ⟨fun id => List.forall_mem_nil _, fun id branch found => ?_, fun id found => ?_⟩
      · cases found
      · cases found
  | perform made action routed => exact routed.perform action

end Graph
end TemplateTree
