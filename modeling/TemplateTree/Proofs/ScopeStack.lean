import Mathlib.Data.List.Chain
import TemplateTree.Proofs.Nesting
import TemplateTree.Proofs.Numbering
import TemplateTree.Proofs.Refusal

/-!
# The stack of open scopes

Each fragment closes the innermost scope or adds a node to it. `Draft.Sound` is kept by both, and
`Builder.scope_stack` reads off from it how the open scopes stand in the tree at each point of a run.
-/

namespace TemplateTree

def Draft.push (node : Node) (id : NodeId) (opened : List NodeId) : List NodeId :=
  if node.createsScope then id :: opened else opened

theorem Draft.mem_push {node : Node} {id other : NodeId} {opened : List NodeId} :
    other ∈ push node id opened ↔ (node.createsScope = true ∧ other = id) ∨ other ∈ opened := by
  unfold push
  cases node.createsScope <;> simp

namespace Builder

variable {builder : Builder} {draft draft' : Draft} {fragment : Fragment}

theorem link_cases (linked : builder.link draft fragment = .ok draft') :
    (∃ id outer, draft.opened = id :: outer ∧ fragment.kind = .closeTag ∧ id ≠ Draft.root ∧
      draft' = ⟨draft.graph.close id fragment.clean, outer, id :: draft.closed⟩) ∨
    ∃ id outer node graph, draft.opened = id :: outer ∧ builder.makeNode fragment = .ok node ∧
      (draft.graph.create node).1.addChild id draft.graph.size = .ok graph ∧
      draft' = ⟨graph, Draft.push node draft.graph.size draft.opened, draft.closed⟩ := by
  unfold link at linked
  split at linked
  · cases linked
  next id outer opened =>
    split at linked
    next closes =>
      split at linked
      · cases linked
      next other =>
        obtain ⟨_, -, linked⟩ := bind_eq_ok.mp linked
        exact .inl ⟨id, outer, opened, closes, other, (Except.ok.inj linked).symm⟩
    next =>
      obtain ⟨node, made, linked⟩ := bind_eq_ok.mp linked
      obtain ⟨graph, added, linked⟩ := bind_eq_ok.mp linked
      rw [← opened] at linked
      exact .inr ⟨id, outer, node, graph, opened, made, added, (Except.ok.inj linked).symm⟩

end Builder

def Graph.LastBelow (graph : Graph) (inner outer : NodeId) : Prop :=
  graph.receiver outer < inner ∧ (graph.children (graph.receiver outer)).getLast? = some inner

@[simp] theorem Graph.lastBelow_close (graph : Graph) (id : NodeId) (closing : Text) :
    (graph.close id closing).LastBelow = graph.LastBelow := by
  funext inner outer
  rw [LastBelow, receiver_close, children_close, LastBelow]

namespace Draft

/-- What holds of a document in the making. The open scopes descend in number, so that the one that a
fragment closes is no other open scope, and receives no child of another. -/
structure Sound (draft : Draft) : Prop where
  bottom : draft.opened.getLast? = some root
  descends : draft.opened.Pairwise (· > ·)
  opens : ∀ id ∈ draft.opened, ∃ node, draft.graph.node? id = some node ∧
    node.createsScope = true ∧ node.closing = none
  closes : ∀ id, id ∈ draft.closed ↔ ∃ node, draft.graph.node? id = some node ∧
    node.createsScope = true ∧ node.closing.isSome
  once : draft.closed.Nodup
  covers : ∀ id node, draft.graph.node? id = some node → node.createsScope = true →
    node.closing.isSome ∨ id ∈ draft.opened
  receives : ∀ id other, draft.graph.alternative? id = some other → id < other ∧
    ∃ node inner, draft.graph.node? id = some node ∧ node.kind = .conditional ∧
      draft.graph.node? other = some inner ∧ inner.kind = .alternative
  chained : draft.opened.IsChain draft.graph.LastBelow

variable {draft : Draft} {graph : Graph} {id : NodeId} {outer : List NodeId} {node : Node}

theorem node?_start (sourceId : Text) (id : NodeId) :
    (start sourceId).graph.node? id = if id = root then some (.root sourceId) else none := by
  cases id with
  | zero => rfl
  | succ id => rfl

theorem alternative?_start (sourceId : Text) (id : NodeId) :
    (start sourceId).graph.alternative? id = none := by
  cases id with
  | zero => rfl
  | succ id => rfl

theorem sound_start (sourceId : Text) : (start sourceId).Sound where
  bottom := rfl
  descends := List.pairwise_singleton _ _
  opens := by
    intro id member
    obtain rfl := List.mem_singleton.mp member
    exact ⟨.root sourceId, rfl, rfl, rfl⟩
  closes := by
    intro id
    refine iff_of_false List.not_mem_nil ?_
    rintro ⟨node, found, -, closed⟩
    rw [node?_start] at found
    split at found
    · obtain rfl := Option.some.inj found
      cases closed
    · cases found
  once := .nil
  covers := by
    intro id node found _
    rw [node?_start] at found
    split at found
    next same => exact .inr (List.mem_singleton.mpr same)
    · cases found
  receives := by
    intro id other found
    rw [alternative?_start] at found
    cases found
  chained := .singleton _

theorem Sound.lt_size (sound : draft.Sound) (member : id ∈ draft.opened) : id < draft.graph.size := by
  obtain ⟨node, found, -⟩ := sound.opens id member
  exact Graph.lt_size_of_node? found

theorem Sound.notMem_closed (sound : draft.Sound) (member : id ∈ draft.opened) : id ∉ draft.closed := by
  intro closed
  obtain ⟨node, found, -, unclosed⟩ := sound.opens id member
  obtain ⟨node', found', -, closing⟩ := (sound.closes id).mp closed
  obtain rfl := Option.some.inj (found.symm.trans found')
  rw [unclosed] at closing
  cases closing

/-! ## What closing a scope keeps -/

theorem node?_close_of_ne {other : NodeId} (different : other ≠ id) (closing : Text) :
    (graph.close id closing).node? other = graph.node? other := by
  rw [Graph.node?_close]
  simp [different]

theorem Sound.close (sound : draft.Sound) (opened : draft.opened = id :: outer) (inner : id ≠ root)
    (closing : Text) : Sound ⟨draft.graph.close id closing, outer, id :: draft.closed⟩ where
  bottom := by
    have bottom := sound.bottom
    rw [opened] at bottom
    cases outer with
    | nil => exact absurd (Option.some.inj bottom) inner
    | cons parent outer => exact bottom
  descends := by
    have descends := sound.descends
    rw [opened] at descends
    exact descends.of_cons
  opens := by
    intro other member
    have descends := sound.descends
    rw [opened] at descends
    -- numbers descend, so the closed scope is none of the others
    have less := List.rel_of_pairwise_cons descends member
    rw [node?_close_of_ne (Nat.ne_of_lt less)]
    apply sound.opens
    rw [opened]
    exact List.mem_cons_of_mem id member
  closes := by
    intro other
    rw [List.mem_cons]
    by_cases same : other = id
    · obtain ⟨node, found, opens, -⟩ := sound.opens id (by rw [opened]; exact List.mem_cons_self)
      refine iff_of_true (.inl same) ⟨node.close closing, ?_, opens, rfl⟩
      rw [same, Graph.node?_close, found]
      simp
    · rw [node?_close_of_ne same, ← sound.closes other]
      simp [same]
  once := by
    refine List.nodup_cons.mpr ⟨sound.notMem_closed ?_, sound.once⟩
    rw [opened]
    exact List.mem_cons_self
  covers := by
    intro other node found opens
    by_cases same : other = id
    · rw [same, Graph.node?_close, Option.map_eq_some_iff] at found
      obtain ⟨before, -, rfl⟩ := found
      simp [Node.close]
    · rw [node?_close_of_ne same] at found
      have covers := sound.covers other node found opens
      rw [opened, List.mem_cons] at covers
      exact covers.imp_right fun member => member.resolve_left same
  receives := by
    intro other alternative received
    rw [Graph.alternative?_close] at received
    obtain ⟨less, node, inner, found, kind, found', kind'⟩ := sound.receives other alternative received
    refine ⟨less, _, _, by rw [Graph.node?_close, found, Option.map_some], ?_,
      by rw [Graph.node?_close, found', Option.map_some], ?_⟩
    · split <;> exact kind
    · split <;> exact kind'
  chained := by
    have chained := sound.chained
    rw [opened] at chained
    rw [Graph.lastBelow_close]
    exact chained.tail

/-! ## What a new node keeps -/

theorem Sound.settled (sound : draft.Sound) (found : draft.graph.node? id = some node) :
    draft.graph.alternative? id = none ∨ node.kind = .conditional ∧
      ∃ host, draft.graph.node? (draft.graph.receiver id) = some host := by
  cases received : draft.graph.alternative? id with
  | none => exact .inl rfl
  | some other =>
      obtain ⟨-, parent, inner, found', kind, hosts, -⟩ := sound.receives id other received
      obtain rfl := Option.some.inj (found.symm.trans found')
      rw [Graph.receiver_of_some received]
      exact .inr ⟨kind, inner, hosts⟩

theorem Sound.le_receiver (sound : draft.Sound) (id : NodeId) : id ≤ draft.graph.receiver id := by
  cases received : draft.graph.alternative? id with
  | none => exact Nat.le_of_eq (Graph.receiver_of_none received).symm
  | some other =>
      rw [Graph.receiver_of_some received]
      exact Nat.le_of_lt (sound.receives id other received).1

theorem Sound.receiver_lt_size (sound : draft.Sound) (member : id ∈ draft.opened) :
    draft.graph.receiver id < draft.graph.size := by
  obtain ⟨node, found, -⟩ := sound.opens id member
  rcases sound.settled found with missing | ⟨-, host, hosts⟩
  · rw [Graph.receiver_of_none missing]
    exact sound.lt_size member
  · exact Graph.lt_size_of_node? hosts

theorem receiver_lt (descends : (id :: outer).Pairwise (· > ·))
    (chained : (id :: outer).IsChain graph.LastBelow) : ∀ other ∈ outer, graph.receiver other < id := by
  induction outer generalizing id with
  | nil => exact List.forall_mem_nil _
  | cons parent outer ih =>
      obtain ⟨⟨before, -⟩, chained⟩ := List.isChain_cons_cons.mp chained
      obtain ⟨less, descends⟩ := List.pairwise_cons.mp descends
      refine List.forall_mem_cons.mpr ⟨before, fun other member => ?_⟩
      exact Nat.lt_trans (ih descends chained other member) (less parent List.mem_cons_self)

theorem Sound.adds (sound : draft.Sound) (member : id ∈ draft.opened)
    (added : (draft.graph.create node).1.addChild id draft.graph.size = .ok graph) :
    draft.graph.Adds id node graph := by
  obtain ⟨parent, found, -⟩ := sound.opens id member
  exact Graph.adds_of_addChild found (sound.settled found) added

theorem Sound.receives_add (sound : draft.Sound) (member : id ∈ draft.opened)
    (adds : draft.graph.Adds id node graph) {other alternative : NodeId}
    (received : graph.alternative? other = some alternative) : other < alternative ∧
      ∃ first second, graph.node? other = some first ∧ first.kind = .conditional ∧
        graph.node? alternative = some second ∧ second.kind = .alternative := by
  have kept (received : draft.graph.alternative? other = some alternative) : other < alternative ∧
      ∃ first second, graph.node? other = some first ∧ first.kind = .conditional ∧
        graph.node? alternative = some second ∧ second.kind = .alternative := by
    obtain ⟨less, first, second, here, kind, here', kind'⟩ := sound.receives other alternative received
    exact ⟨less, first, second, adds.old here, kind, adds.old here', kind'⟩
  rcases adds.alternatives with ⟨kind, ⟨parent, found, conditional⟩, moved⟩ | same
  · rw [moved] at received
    by_cases same : other = id
    · rw [if_pos same] at received
      obtain rfl := Option.some.inj received
      rw [same]
      exact ⟨sound.lt_size member, parent, node, adds.old found, conditional, adds.new, kind⟩
    · rw [if_neg same] at received
      exact kept received
  · rw [same] at received
    exact kept received

theorem Sound.apart (sound : draft.Sound) (opened : draft.opened = id :: outer)
    (adds : draft.graph.Adds id node graph) : ∀ other ∈ outer,
      graph.receiver other = draft.graph.receiver other ∧
      graph.children (draft.graph.receiver other) =
        draft.graph.children (draft.graph.receiver other) := by
  intro other member
  have descends := sound.descends
  have chained := sound.chained
  rw [opened] at descends chained
  have less := List.rel_of_pairwise_cons descends member
  -- the receivers of the outer scopes come before the innermost scope, its own one does not
  have before := receiver_lt descends chained other member
  have behind := sound.le_receiver id
  rw [adds.children, if_neg (Nat.ne_of_lt (Nat.lt_of_lt_of_le before behind))]
  rcases adds.alternatives with ⟨-, -, moved⟩ | same
  · exact ⟨Graph.Adds.receiver_eq (by rw [moved, if_neg (Nat.ne_of_lt less)]), rfl⟩
  · exact ⟨Graph.Adds.receiver_eq (same other), rfl⟩

theorem Sound.chained_add (sound : draft.Sound) (opened : draft.opened = id :: outer)
    (adds : draft.graph.Adds id node graph) :
    (push node draft.graph.size draft.opened).IsChain graph.LastBelow := by
  have chained := sound.chained
  rw [opened] at chained
  have still : (id :: outer).IsChain graph.LastBelow := by
    apply chained.imp_of_mem_tail_imp
    intro inner outer _ member last
    obtain ⟨same, children⟩ := sound.apart opened adds outer member
    rwa [Graph.LastBelow, same, children]
  rw [push, opened]
  split
  next opens =>
    refine List.isChain_cons_cons.mpr ⟨?_, still⟩
    rcases adds.alternatives with ⟨alternative, -⟩ | same
    · exact absurd alternative (Node.kind_of_opens opens)
    · have innermost : id ∈ draft.opened := by rw [opened]; exact List.mem_cons_self
      rw [Graph.LastBelow, Graph.Adds.receiver_eq (same id), adds.children, if_pos rfl,
        List.getLast?_concat]
      exact ⟨sound.receiver_lt_size innermost, rfl⟩
  · exact still

theorem Sound.add (sound : draft.Sound) (opened : draft.opened = id :: outer)
    (unclosed : node.closing = none) (adds : draft.graph.Adds id node graph) :
    Sound ⟨graph, push node draft.graph.size draft.opened, draft.closed⟩ where
  bottom := by
    have bottom := sound.bottom
    rw [opened] at bottom
    dsimp only [push]
    rw [opened]
    split <;> exact bottom
  descends := by
    dsimp only [push]
    split
    · exact List.pairwise_cons.mpr ⟨fun other member => sound.lt_size member, sound.descends⟩
    · exact sound.descends
  opens := by
    intro other member
    rcases mem_push.mp member with ⟨opens, rfl⟩ | member
    · exact ⟨node, adds.new, opens, unclosed⟩
    · obtain ⟨before, here, opens, still⟩ := sound.opens other member
      exact ⟨before, adds.old here, opens, still⟩
  closes := by
    intro other
    rw [sound.closes other]
    constructor
    · rintro ⟨before, here, closed⟩
      exact ⟨before, adds.old here, closed⟩
    · rintro ⟨after, here, opens, closed⟩
      rcases adds.cases here with ⟨rfl, rfl⟩ | here
      · rw [unclosed] at closed
        cases closed
      · exact ⟨after, here, opens, closed⟩
  once := sound.once
  covers := by
    intro other after here opens
    rcases adds.cases here with ⟨rfl, rfl⟩ | here
    · exact .inr (mem_push.mpr (.inl ⟨opens, rfl⟩))
    · exact (sound.covers other after here opens).imp_right fun member => mem_push.mpr (.inr member)
  receives := by
    intro other alternative received
    refine sound.receives_add ?_ adds received
    rw [opened]
    exact List.mem_cons_self
  chained := sound.chained_add opened adds

/-! ## Runs -/

structure Reached (builder : Builder) (sourceId : Text) (fragments : List Fragment) (draft : Draft) :
    Prop where
  sound : draft.Sound
  bottom : draft.graph.node? root = some (.root sourceId)
  height : (draft.opened.length : Int) = 1 + Bracket.depth (builder.word fragments)

variable {builder : Builder} {sourceId : Text} {fragment : Fragment} {front back : List Fragment}
  {draft' : Draft}

theorem reached_start : Reached builder sourceId [] (start sourceId) :=
  ⟨sound_start sourceId, rfl, rfl⟩

theorem Reached.link (reached : Reached builder sourceId front draft)
    (linked : builder.link draft fragment = .ok draft') :
    Reached builder sourceId (front ++ [fragment]) draft' := by
  obtain ⟨sound, bottom, height⟩ := reached
  rcases Builder.link_cases linked with ⟨id, outer, opened, closes, inner, rfl⟩ |
    ⟨id, outer, node, graph, opened, made, added, rfl⟩
  · refine ⟨sound.close opened inner fragment.clean, ?_, ?_⟩
    · rw [node?_close_of_ne (Ne.symm inner)]
      exact bottom
    · rw [Builder.word_append, Builder.word_singleton, Builder.bracket_of_close closes]
      rw [opened] at height
      simp [Bracket.weight] at height ⊢
      omega
  · have innermost : id ∈ draft.opened := by
      rw [opened]
      exact List.mem_cons_self
    have adds := sound.adds innermost added
    refine ⟨sound.add opened (Builder.makeNode_ok made).2.2 adds, adds.old bottom, ?_⟩
    rw [Builder.word_append, Builder.word_singleton, Builder.bracket_of_make made]
    cases opens : node.createsScope with
    | true =>
        simp [push, opens, Bracket.weight]
        omega
    | false =>
        simp [push, opens, Bracket.weight]
        omega

theorem Reached.linkAll (reached : Reached builder sourceId front draft)
    (linked : builder.linkAll draft back = .ok draft') :
    Reached builder sourceId (front ++ back) draft' := by
  induction back generalizing front draft with
  | nil =>
      obtain rfl := Except.ok.inj linked
      rwa [List.append_nil]
  | cons fragment back ih =>
      rw [Builder.linkAll, List.foldlM_cons] at linked
      obtain ⟨between, first, linked⟩ := bind_eq_ok.mp linked
      rw [List.append_cons]
      exact ih (reached.link first) linked

/-- The open scopes, the nodes that have been made, and the scopes that have been closed, after a
document has been read up to some point. `word` are the brackets that have been read. -/
structure Consistent (sourceId : Text) (word : List Bracket) (draft : Draft) : Prop where
  bottom : ∃ inner, draft.opened = inner ++ [root] ∧ root ∉ inner ∧
    draft.graph.node? root = some (.root sourceId)
  opens : ∀ id ∈ draft.opened, ∃ node, draft.graph.node? id = some node ∧
    node.createsScope = true ∧ node.closing = none
  chained : draft.opened.IsChain fun inner outer => match draft.graph.alternative? outer with
    | none => (draft.graph.children outer).getLast? = some inner
    | some alternative => (draft.graph.node? outer).map Node.kind = some .conditional ∧
        (draft.graph.children alternative).getLast? = some inner
  closed : ∀ id node, draft.graph.node? id = some node → node.createsScope = true →
    id ∉ draft.opened → node.closing.isSome
  height : draft.opened.length + word.count .closing = 1 + word.count .opening
  once : draft.closed.Nodup ∧ root ∉ draft.closed ∧ ∀ id, id ∈ draft.closed ↔
    ∃ node, draft.graph.node? id = some node ∧ node.createsScope = true ∧ node.closing.isSome
  receives : ∀ id ∈ draft.opened, ∃ host,
    draft.graph.node? (draft.graph.receiver id) = some host ∧ host.isLeaf = false

theorem Reached.consistent (reached : Reached builder sourceId front draft) :
    draft.Consistent sourceId (builder.word front) where
  bottom := by
    have descends := reached.sound.descends
    obtain ⟨inner, opened⟩ := List.getLast?_eq_some_iff.mp reached.sound.bottom
    refine ⟨inner, opened, ?_, reached.bottom⟩
    intro member
    rw [opened, List.pairwise_append] at descends
    exact Nat.lt_irrefl _ (descends.2.2 root member root (List.mem_singleton_self root))
  opens := reached.sound.opens
  chained := by
    refine reached.sound.chained.imp ?_
    rintro inner outer ⟨-, last⟩
    cases received : draft.graph.alternative? outer with
    | none => rwa [Graph.receiver_of_none received] at last
    | some alternative =>
        obtain ⟨-, node, -, found, kind, -⟩ := reached.sound.receives outer alternative received
        rw [Graph.receiver_of_some received] at last
        exact ⟨by rw [found, Option.map_some, kind], last⟩
  closed := fun id node found opens other => (reached.sound.covers id node found opens).resolve_right other
  height := by
    have height := reached.height
    have depth := Bracket.depth_eq_count (builder.word front)
    omega
  once := by
    have bottom := List.mem_of_getLast? reached.sound.bottom
    exact ⟨reached.sound.once, reached.sound.notMem_closed bottom, reached.sound.closes⟩
  receives := by
    intro id member
    obtain ⟨node, found, opens, -⟩ := reached.sound.opens id member
    cases received : draft.graph.alternative? id with
    | none =>
        rw [Graph.receiver_of_none received]
        exact ⟨node, found, Node.isLeaf_of_opens opens⟩
    | some alternative =>
        obtain ⟨-, -, host, -, -, hosts, kind⟩ := reached.sound.receives id alternative received
        rw [Graph.receiver_of_some received]
        exact ⟨host, hosts, by rw [Node.isLeaf, kind]; rfl⟩

end Draft

/-- Linking the nodes of a document one by one gives its tree, or its error, which is never that a leaf
refuses a child. At each point that is reached on the way, the open scopes form a stack with the root
at its bottom, and each is the last child of the next. -/
theorem Builder.scope_stack (builder : Builder) (fragments : List Fragment) (sourceId : Text) :
    builder.document fragments sourceId = (builder.build fragments sourceId).map Graph.ofTree ∧
    (∀ node, builder.build fragments sourceId ≠ .error (.childOfLeaf node)) ∧
    ∀ front back draft, fragments = front ++ back → builder.linkAll (.start sourceId) front = .ok draft →
      draft.Consistent sourceId (builder.word front) ∧
      ∃ scopes, builder.run [{ node := .root sourceId }] front = .ok scopes ∧ draft.Represents scopes := by
  refine ⟨document_eq builder fragments sourceId, ?_, ?_⟩
  · intro node failed
    rcases build_error failed with syntactic | ⟨-, other⟩ | ⟨blank, -⟩ |
      ⟨_, _, _, _, _, _, _, _, long⟩
    · exact syntactic
    · exact other node rfl
    · cases blank
    · cases long
  · rintro front back draft rfl linked
    refine ⟨(Draft.reached_start.linkAll linked).consistent, ?_⟩
    have agree : Draft.Agree (builder.linkAll (.start sourceId) front)
        (builder.run [{ node := .root sourceId }] front) :=
      linkAll_agrees (represents_start sourceId) front
    rw [linked] at agree
    generalize builder.run [{ node := .root sourceId }] front = ran at agree
    cases agree with
    | ok represents => exact ⟨_, rfl, represents⟩

end TemplateTree
