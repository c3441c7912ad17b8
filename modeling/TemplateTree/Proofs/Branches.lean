import TemplateTree.Proofs.Making

/-!
# Alternatives of conditionals

Nodes may be linked in any order, also several times, and some calls fail: a conditional still has one
alternative at most, which is its last child. In documents each alternative stays below its conditional.
-/

namespace TemplateTree
namespace Graph

variable {graph graph' : Graph} {id child other : NodeId} {node parent added : Node}

/-! ## What an alternative is to its conditional -/

theorem countP_of_others {children : List NodeId}
    (others : ∀ child ∈ children, graph.kind? child ≠ some .alternative) :
    children.countP (graph.kind? · = some .alternative) = 0 :=
  List.countP_eq_zero.mpr fun child member => by simp [others child member]

theorem Parted.countP_le (parted : graph.Parted id) :
    (graph.children id).countP (graph.kind? · = some .alternative) ≤ 1 := by
  unfold Parted at parted
  split at parted
  · rw [countP_of_others parted]
    exact Nat.zero_le 1
  next branch =>
    obtain ⟨-, front, children, others⟩ := parted
    rw [children, List.countP_append, countP_of_others others, Nat.zero_add]
    exact List.countP_le_length

theorem Parted.alternative?_iff (parted : graph.Parted id) (branch : NodeId) :
    graph.alternative? id = some branch ↔
      branch ∈ graph.children id ∧ graph.kind? branch = some .alternative := by
  constructor
  · intro found
    have last := parted.branch_mem found
    rw [Parted, found] at parted
    exact ⟨last, parted.1⟩
  · rintro ⟨member, kind⟩
    unfold Parted at parted
    split at parted
    · exact absurd kind (parted branch member)
    next last found =>
      obtain ⟨-, front, children, others⟩ := parted
      rw [children, List.mem_append, List.mem_singleton] at member
      rcases member with member | rfl
      · exact absurd kind (others branch member)
      · exact found

theorem Parted.children_eq (parted : graph.Parted id) :
    graph.children id = graph.body id ++ (graph.alternative? id).toList := by
  have body : graph.body id = (graph.children id).filter (graph.alternative? id ≠ some ·) := rfl
  unfold Parted at parted
  split at parted
  next missing => simp [body, missing]
  next branch found =>
    obtain ⟨kind, front, children, others⟩ := parted
    have others : front.filter (some branch ≠ some ·) = front := by
      refine List.filter_eq_self.mpr fun child member => decide_eq_true ?_
      rintro same
      exact others child member (Option.some.inj same ▸ kind)
    rw [body, found, children, List.filter_append, others]
    simp

/-! ## What adding a child leaves behind -/

theorem Routed.alternative?_eq_none (routed : graph.Routed) (links : graph.Links id child graph')
    (alternative : graph.kind? child = some .alternative) : graph.alternative? id = none := by
  refine Option.eq_none_iff_forall_ne_some.mpr fun branch found => ?_
  rw [links.single (routed.conditional id branch found) alternative] at found
  cases found

theorem Routed.perform_add (routed : graph.Routed) (found : graph.node? id = some parent)
    (found' : graph.node? child = some added) :
    let host := if added.kind = .alternative then id else graph.receiver id
    let result := graph.perform (.add id child)
    (result.2 ≠ none ↔ parent.isLeaf = true ∨ parent.kind = .conditional ∧
      added.kind = .alternative ∧ graph.alternative? id ≠ none) ∧
    (result.2 ≠ none → result.1 = graph) ∧
    (result.2 = none → ∀ other, result.1.node? other = graph.node? other ∧ result.1.children other =
      if other = host then graph.children other ++ [child] else graph.children other) := by
  intro host result
  rcases routed.addChild_cases found found' with ⟨failed, leaf⟩ |
    ⟨failed, conditional, alternative, taken⟩ | ⟨graph', succeeded, links, leaf⟩
  · have refused : result = (graph, some (.childOfLeaf parent)) := perform_add_error failed
    rw [refused]
    exact ⟨iff_of_true (Option.some_ne_none _) (.inl leaf), fun _ => rfl, nofun⟩
  · have refused : result = (graph, some (.duplicateAlternative added.tagOrName parent)) :=
      perform_add_error failed
    rw [refused]
    exact ⟨iff_of_true (Option.some_ne_none _) (.inr ⟨conditional, alternative, taken⟩), fun _ => rfl, nofun⟩
  · have kind : graph.kind? child = some added.kind := by rw [kind?, found', Option.map_some]
    have free (alternative : added.kind = .alternative) : graph.alternative? id = none :=
      routed.alternative?_eq_none links (by rw [kind, alternative])
    have hosts : host = graph.receiver id := by
      by_cases alternative : added.kind = .alternative
      · rw [receiver_of_none (free alternative)]
        exact if_pos alternative
      · exact if_neg alternative
    have done : result = (graph', none) := perform_add_ok succeeded
    rw [done, hosts]
    refine ⟨iff_of_false (fun failed => failed rfl) ?_, fun failed => absurd rfl failed,
      fun _ other => ⟨links.nodes other, links.children other⟩⟩
    rintro (isLeaf | ⟨-, alternative, taken⟩)
    · rw [leaf] at isLeaf
      cases isLeaf
    · exact taken (free alternative)

/-! ## Documents -/

/-- The graph is that of a tree: no node has two parents, numbers ascend from parents to children, and
alternatives have children only below conditionals. -/
structure Grown (graph : Graph) : Prop where
  once : ∀ id parent other, id ∈ graph.children parent → id ∈ graph.children other → parent = other
  ascends : ∀ id, ∀ child ∈ graph.children id, id < child
  owned : ∀ id, graph.kind? id = some .alternative → graph.children id ≠ [] →
    ∃ parent, graph.alternative? parent = some id

theorem Linked.grown (linked : graph.Linked graph') (grown : graph.Grown) : graph'.Grown where
  once id parent other := by
    rw [linked.children, linked.children]
    exact grown.once id parent other
  ascends id := by
    rw [linked.children]
    exact grown.ascends id
  owned id := by
    rw [linked.kinds, linked.children]
    intro kind filled
    obtain ⟨parent, found⟩ := grown.owned id kind filled
    exact ⟨parent, by rw [linked.alternatives, found]⟩

theorem Links.alternative?_of_some {branch : NodeId} (links : graph.Links id child graph')
    (found : graph.alternative? other = some branch) : graph'.alternative? other = some branch := by
  rw [links.alternatives, if_neg, found]
  rintro ⟨rfl, conditional, alternative⟩
  rw [links.single conditional alternative] at found
  cases found

theorem children_size (graph : Graph) : graph.children graph.size = [] := by
  rw [children, cell?_size, Option.elim_none]

theorem Routed.links_create (routed : graph.Routed) (found : graph.node? id = some parent)
    (added : (graph.create node).1.addChild id graph.size = .ok graph') :
    (graph.create node).1.Links id graph.size graph' := by
  have created := views_create graph node
  have here : (graph.create node).1.node? id = some parent := by
    rw [(created id).1, if_neg (Nat.ne_of_lt (lt_size_of_node? found)), found]
  have new : (graph.create node).1.node? graph.size = some node := by rw [(created _).1, if_pos rfl]
  rcases (routed.create node).addChild_cases here new with ⟨failed, -⟩ | ⟨failed, -⟩ |
    ⟨_, succeeded, links, -⟩
  · cases failed.symm.trans added
  · cases failed.symm.trans added
  · obtain rfl := Except.ok.inj (succeeded.symm.trans added)
    exact links

theorem Grown.add (grown : graph.Grown) (routed : graph.Routed) (found : graph.node? id = some parent)
    (opens : parent.createsScope = true)
    (added : (graph.create node).1.addChild id graph.size = .ok graph') : graph'.Grown := by
  have created := views_create graph node
  have links := routed.links_create found added
  have same : (graph.create node).1.receiver id = graph.receiver id := by
    rw [receiver, (created id).2.2, receiver]
  have children (other : NodeId) : graph'.children other =
      if other = graph.receiver id then graph.children other ++ [graph.size] else graph.children other := by
    rw [links.children, (created other).2.1, same]
  have member {below other : NodeId} (member : below ∈ graph'.children other) :
      below ∈ graph.children other ∧ below < graph.size ∨
        other = graph.receiver id ∧ below = graph.size := by
    rw [children] at member
    split at member
    next receives =>
      rcases List.mem_append.mp member with member | member
      · exact .inl ⟨member, routed.inside other below member⟩
      · exact .inr ⟨receives, List.mem_singleton.mp member⟩
    · exact .inl ⟨member, routed.inside other below member⟩
  refine ⟨fun below first second inFirst inSecond => ?_, fun other below inside => ?_,
    fun other kind filled => ?_⟩
  · rcases member inFirst with ⟨inFirst, less⟩ | ⟨rfl, rfl⟩
    · rcases member inSecond with ⟨inSecond, -⟩ | ⟨-, rfl⟩
      · exact grown.once below first second inFirst inSecond
      · exact absurd less (Nat.lt_irrefl _)
    · rcases member inSecond with ⟨-, less⟩ | ⟨rfl, -⟩
      · exact absurd less (Nat.lt_irrefl _)
      · rfl
  · rcases member inside with ⟨inside, -⟩ | ⟨rfl, rfl⟩
    · exact grown.ascends other below inside
    · obtain ⟨host, hosts⟩ := routed.exists_receiver found
      exact lt_size_of_node? hosts
  · rw [links.kinds, kind?_create] at kind
    rw [children] at filled
    by_cases receives : other = graph.receiver id
    · cases received : graph.alternative? id with
      | none =>
          -- the node opens a scope, and alternatives open none
          have own : other = id := receives.trans (receiver_of_none received)
          rw [own, if_neg (Nat.ne_of_lt (lt_size_of_node? found)), kind?, found] at kind
          exact absurd (Option.some.inj kind) (Node.kind_of_opens opens)
      | some branch =>
          refine ⟨id, links.alternative?_of_some ?_⟩
          rw [(created id).2.2, received, receives, receiver_of_some received]
    · rw [if_neg receives] at filled
      have old : other ≠ graph.size := fun new => filled (by rw [new, children_size])
      rw [if_neg old] at kind
      obtain ⟨parent, owns⟩ := grown.owned other kind filled
      exact ⟨parent, links.alternative?_of_some (by rw [(created parent).2.2, owns])⟩

theorem grown_start (sourceId : Text) : (Draft.start sourceId).graph.Grown := by
  have none (id : NodeId) : (Draft.start sourceId).graph.children id = [] := by
    cases id <;> rfl
  refine ⟨fun id parent other member => ?_, fun id child member => ?_, fun id kind filled => ?_⟩
  · rw [none] at member
    cases member
  · rw [none] at member
    cases member
  · exact absurd (none id) filled

end Graph

namespace Draft

variable {builder : Builder} {sourceId : Text} {fragment : Fragment} {front back : List Fragment}
  {draft draft' : Draft}

theorem Sound.grown_link (sound : draft.Sound) (made : draft.graph.Made) (grown : draft.graph.Grown)
    (linked : builder.link draft fragment = .ok draft') : draft'.graph.Made ∧ draft'.graph.Grown := by
  rcases Builder.link_cases linked with ⟨id, outer, -, -, -, rfl⟩ |
    ⟨id, outer, node, graph, opened, -, added, rfl⟩
  · exact ⟨made.perform (.close id fragment.clean),
      (Graph.linked_close draft.graph id fragment.clean).grown grown⟩
  · obtain ⟨parent, found, opens, -⟩ := sound.opens id (by rw [opened]; exact List.mem_cons_self)
    refine ⟨?_, grown.add made.routed found opens added⟩
    have created : (draft.graph.create node).1.Made := made.perform (.create node)
    have both := created.perform (.add id draft.graph.size)
    rwa [Graph.perform_add_ok added] at both

theorem Reached.grown_linkAll (reached : Reached builder sourceId front draft) (made : draft.graph.Made)
    (grown : draft.graph.Grown) (linked : builder.linkAll draft back = .ok draft') :
    draft'.graph.Made ∧ draft'.graph.Grown := by
  induction back generalizing front draft with
  | nil =>
      obtain rfl := Except.ok.inj linked
      exact ⟨made, grown⟩
  | cons fragment back ih =>
      rw [Builder.linkAll, List.foldlM_cons] at linked
      obtain ⟨between, first, linked⟩ := bind_eq_ok.mp linked
      obtain ⟨made, grown⟩ := reached.sound.grown_link made grown first
      exact ih (reached.link first) made grown linked

end Draft

theorem Builder.grown_of_build {builder : Builder} {fragments : List Fragment} {sourceId : Text} {tree : Tree}
    (built : builder.build fragments sourceId = .ok tree) :
    (Graph.ofTree tree).Made ∧ (Graph.ofTree tree).Grown := by
  have documented := document_eq builder fragments sourceId
  rw [built] at documented
  obtain ⟨draft, linked, finished⟩ := bind_eq_ok.mp documented
  have grown := Draft.reached_start.grown_linkAll (.perform .empty (.create (.root sourceId)))
    (Graph.grown_start sourceId) linked
  have same : draft.graph = Graph.ofTree tree := by
    split at finished
    next id _ _ _ =>
      cases found : draft.graph.node? id with
      | none =>
          rw [found] at finished
          exact Except.ok.inj finished
      | some node =>
          rw [found] at finished
          cases finished
    · exact Except.ok.inj finished
  rwa [same] at grown

/-- In every graph that is made, a conditional has one alternative at most, which is its last child. A
child goes behind the children of one node, the alternative of a conditional if there is one, and a call
that fails changes nothing. The nodes of a document are linked so, and an alternative among them that has
children is the alternative of its one parent. -/
theorem Graph.alternative_routing {graph : Graph} (made : graph.Made) :
    (∀ id branch, graph.alternative? id = some branch → graph.kind? id = some .conditional) ∧
    (∀ id, graph.kind? id = some .conditional →
      (graph.children id).countP (graph.kind? · = some .alternative) ≤ 1 ∧
      (∀ branch, graph.alternative? id = some branch ↔
        branch ∈ graph.children id ∧ graph.kind? branch = some .alternative) ∧
      graph.children id = graph.body id ++ (graph.alternative? id).toList) ∧
    (∀ id child parent added, graph.node? id = some parent → graph.node? child = some added →
      let host := if added.kind = .alternative then id else graph.receiver id
      let result := graph.perform (.add id child)
      (result.2 ≠ none ↔ parent.isLeaf = true ∨ parent.kind = .conditional ∧
        added.kind = .alternative ∧ graph.alternative? id ≠ none) ∧
      (result.2 ≠ none → result.1 = graph) ∧
      (result.2 = none → ∀ other, result.1.node? other = graph.node? other ∧ result.1.children other =
        if other = host then graph.children other ++ [child] else graph.children other)) ∧
    ∀ (compiler : Compiler) (text sourceId : Text) (tree : Tree),
      compiler.compile text sourceId = .ok tree →
      compiler.builder.document (compiler.tokenize text) sourceId = .ok (ofTree tree) ∧
      (ofTree tree).Made ∧ ∀ id, (ofTree tree).kind? id = some .alternative →
        (ofTree tree).children id ≠ [] → ∃ parent, (ofTree tree).kind? parent = some .conditional ∧
          (ofTree tree).alternative? parent = some id ∧
          ∀ other, id ∈ (ofTree tree).children other ↔ other = parent := by
  have routed := made.routed
  refine ⟨routed.conditional, fun id conditional => ?_, fun id child parent added found found' => ?_,
    fun compiler text sourceId tree compiled => ?_⟩
  · have parted := routed.parted id conditional
    exact ⟨parted.countP_le, parted.alternative?_iff, parted.children_eq⟩
  · exact routed.perform_add found found'
  · have documented := compiler.builder.document_eq (compiler.tokenize text) sourceId
    have built : compiler.builder.build (compiler.tokenize text) sourceId = .ok tree := compiled
    rw [built] at documented
    obtain ⟨made, grown⟩ := Builder.grown_of_build built
    refine ⟨documented, made, fun id kind filled => ?_⟩
    obtain ⟨parent, owns⟩ := grown.owned id kind filled
    have conditional := made.routed.conditional parent id owns
    have member := (made.routed.parted parent conditional).branch_mem owns
    exact ⟨parent, conditional, owns, fun other =>
      ⟨fun inside => grown.once id other parent inside member, fun same => same ▸ member⟩⟩

theorem Graph.alternative_routing_shared :
    let kinds : List Kind := [.conditional, .conditional, .alternative, .text]
    let nodes := kinds.map fun kind => Action.create (.fresh kind)
    let graph := performAll {} (nodes ++ [.add 0 2, .add 1 2, .add 0 3])
    graph.Made ∧ graph.alternative? 1 = some 2 ∧ graph.children 2 = [3] ∧
      graph.children 1 = graph.body 1 ++ (graph.alternative? 1).toList ∧
      (graph.perform (.add 1 3)).1.children 2 = graph.children 2 ++ [3] ∧
      (graph.perform (.add 1 2)).1 = graph := by
  intro kinds nodes graph
  have made : graph.Made := Made.empty.performAll _
  obtain ⟨-, conditionals, added, -⟩ := alternative_routing made
  obtain ⟨-, succeeded, appended⟩ := added 1 3 (.fresh .conditional) (.fresh .text) rfl rfl
  obtain ⟨failed, kept, -⟩ := added 1 2 (.fresh .conditional) (.fresh .alternative) rfl rfl
  refine ⟨made, rfl, rfl, (conditionals 1 rfl).2.2, (appended rfl 2).2, kept (failed.mpr ?_)⟩
  exact .inr ⟨rfl, rfl, Option.some_ne_none 2⟩

end TemplateTree
