import TemplateTree.Proofs.Children
import TemplateTree.Proofs.Numbering

/-!
# Documents inside documents

What fragments do above an open scope does not depend on that scope, which receives trees in order
(`Builder.Yields`). For a document these trees are the children of its root. `Builder.build_context` says
what becomes of them behind another document and between an opening and a closing tag.
-/

namespace TemplateTree

namespace Scope

variable {scope scope' : Scope}

theorem extend_nil (scope : Scope) : scope.extend [] = scope := by
  unfold extend
  cases scope with
  | mk node children alternative => cases alternative <;> rfl

theorem foldlM_add_singleton (tree : Tree) : [tree].foldlM add scope = scope.add tree := by
  rw [List.foldlM_cons]
  exact bind_pure _

theorem eq_extend_of_add {tree : Tree} (free : scope.alternative = none)
    (plain : scope.node.kind ≠ .conditional) (added : scope.add tree = .ok scope') :
    scope' = scope.extend [tree] := by
  rcases add_cases added with ⟨node, children, found, -, -⟩ | ⟨-, conditional, -, -⟩ | ⟨-, -, rfl⟩
  · rw [free] at found
    cases found
  · exact absurd conditional plain
  · exact (extend_of_none free [tree]).symm

end Scope

namespace Builder

variable {builder : Builder} {fragment opener closer : Fragment} {fragments first second : List Fragment}
  {scope scope' root : Scope} {inner inner' scopes : List Scope} {node : Node} {branch : Tree}
  {trees trees' front behind : List Tree}

/-- Above any open scope the fragments turn the scopes `inner` into `inner'`, and that scope receives the
trees. The fragments are refused only if it refuses the trees. -/
def Yields (builder : Builder) (inner : List Scope) (fragments : List Fragment) (inner' : List Scope)
    (trees : List Tree) : Prop :=
  ∀ scope outer, builder.run (inner ++ scope :: outer) fragments =
    (trees.foldlM Scope.add scope).map (inner' ++ · :: outer)

theorem yields_nil (builder : Builder) (inner : List Scope) : builder.Yields inner [] inner [] :=
  fun _ _ => rfl

theorem Yields.append {between : List Scope} (yields : builder.Yields inner first between trees)
    (yields' : builder.Yields between second inner' trees') :
    builder.Yields inner (first ++ second) inner' (trees ++ trees') := by
  intro scope outer
  rw [run_append, yields scope outer, List.foldlM_append]
  cases trees.foldlM Scope.add scope with
  | error error => rfl
  | ok scope' => exact yields' scope' outer

theorem Yields.nested (yields : builder.Yields [] fragments [] trees)
    (received : trees.foldlM Scope.add scope = .ok scope') :
    builder.Yields [scope] fragments [scope'] [] := by
  intro parent outer
  rw [List.singleton_append, ← List.nil_append (scope :: _), yields, received]
  rfl

theorem yields_of_step (stepped : ∀ scope outer, builder.step (inner ++ scope :: outer) fragment =
      (trees.foldlM Scope.add scope).map (inner' ++ · :: outer)) :
    builder.Yields inner [fragment] inner' trees := by
  intro scope outer
  rw [run, stepped]
  exact bind_pure _

theorem yields_opening (made : builder.makeNode fragment = .ok node) (opens : node.createsScope = true)
    (inner : List Scope) : builder.Yields inner [fragment] ({ node := node } :: inner) [] := by
  apply yields_of_step
  intro scope outer
  cases inner <;> exact step_of_opening made opens

theorem step_plain_eq (made : builder.makeNode fragment = .ok node) (plain : node.createsScope = false)
    (scope : Scope) (outer : List Scope) :
    builder.step (scope :: outer) fragment = (scope.add (.mk node [])).map (· :: outer) := by
  cases added : scope.add (.mk node []) with
  | ok scope' => exact step_of_plain made plain added
  | error error => simp [step, (makeNode_ok made).1, made, plain, added, bind, Except.bind, Except.map]

theorem step_close_eq (closes : fragment.kind = .closeTag)
    (checked : builder.checkClose scope.node fragment.clean = .ok ()) (parent : Scope)
    (outer : List Scope) :
    builder.step (scope :: parent :: outer) fragment =
      (parent.add (scope.close fragment.clean)).map (· :: outer) := by
  cases added : parent.add (scope.close fragment.clean) with
  | ok parent' => exact step_of_close closes checked added
  | error error => simp [step, closes, checked, added, bind, Except.bind, Except.map]

theorem yields_plain (made : builder.makeNode fragment = .ok node) (plain : node.createsScope = false) :
    builder.Yields [] [fragment] [] [.mk node []] := by
  apply yields_of_step
  intro scope outer
  rw [Scope.foldlM_add_singleton]
  exact step_plain_eq made plain scope outer

theorem yields_close (closes : fragment.kind = .closeTag)
    (checked : builder.checkClose scope.node fragment.clean = .ok ()) :
    builder.Yields [scope] [fragment] [] [scope.close fragment.clean] := by
  apply yields_of_step
  intro parent outer
  rw [Scope.foldlM_add_singleton]
  exact step_close_eq closes checked parent outer

theorem yields_step (free : root.alternative = none) (plain : root.node.kind ≠ .conditional)
    (sound : ∀ scope ∈ inner, scope.Sound)
    (stepped : builder.step (inner ++ [root]) fragment = .ok scopes) :
    ∃ inner' trees, scopes = inner' ++ [root.extend trees] ∧
      builder.Yields inner [fragment] inner' trees ∧
      ∀ tree ∈ trees, tree.node.kind = .alternative → tree.children = [] := by
  rcases step_cases stepped with ⟨scope, parent, outer, parent', same, closes, checked, added, rfl⟩ |
    ⟨scope, outer, node, same, made, opens, rfl⟩ |
    ⟨scope, outer, node, scope', same, made, leaf, added, rfl⟩
  · match inner with
    | [] => cases same
    | [innermost] =>
        obtain ⟨rfl, rfl, rfl⟩ : innermost = scope ∧ root = parent ∧ [] = outer := by simpa using same
        refine ⟨[], [innermost.close fragment.clean], ?_, yields_close closes checked, ?_⟩
        · rw [Scope.eq_extend_of_add free plain added, List.nil_append]
        · rw [List.forall_mem_singleton]
          exact fun alternative =>
            absurd alternative ((sound innermost List.mem_cons_self).kind_close _)
    | innermost :: next :: rest =>
        obtain ⟨rfl, rfl, rfl⟩ : innermost = scope ∧ next = parent ∧ rest ++ [root] = outer := by
          simpa using same
        refine ⟨parent' :: rest, [], by rw [Scope.extend_nil]; rfl, ?_, List.forall_mem_nil _⟩
        apply yields_of_step
        exact fun scope outer => step_of_close closes checked added
  · refine ⟨{ node := node } :: inner, [], ?_, yields_opening made opens inner, List.forall_mem_nil _⟩
    rw [Scope.extend_nil, ← same]
    rfl
  · match inner with
    | [] =>
        obtain ⟨rfl, rfl⟩ : root = scope ∧ [] = outer := by simpa using same
        refine ⟨[], [.mk node []], ?_, yields_plain made leaf, ?_⟩
        · rw [Scope.eq_extend_of_add free plain added, List.nil_append]
        · rw [List.forall_mem_singleton]
          exact fun _ => rfl
    | innermost :: rest =>
        obtain ⟨rfl, rfl⟩ : innermost = scope ∧ rest ++ [root] = outer := by simpa using same
        refine ⟨scope' :: rest, [], by rw [Scope.extend_nil]; rfl, ?_, List.forall_mem_nil _⟩
        apply yields_of_step
        exact fun scope outer => step_of_plain made leaf added

theorem yields_run (free : root.alternative = none) (plain : root.node.kind ≠ .conditional)
    (sound : ∀ scope ∈ inner ++ [root], scope.Sound)
    (ran : builder.run (inner ++ [root]) fragments = .ok scopes) :
    ∃ inner' trees, scopes = inner' ++ [root.extend trees] ∧
      builder.Yields inner fragments inner' trees ∧
      ∀ tree ∈ trees, tree.node.kind = .alternative → tree.children = [] := by
  induction fragments generalizing inner root with
  | nil =>
      obtain rfl := Except.ok.inj ran
      exact ⟨inner, [], by rw [Scope.extend_nil], yields_nil builder inner, List.forall_mem_nil _⟩
  | cons fragment fragments ih =>
      obtain ⟨between, stepped, rest⟩ := run_cons.mp ran
      have soundInner := (List.forall_mem_append.mp sound).1
      obtain ⟨inner₁, trees₁, rfl, yields₁, bare₁⟩ := yields_step free plain soundInner stepped
      have free₁ : (root.extend trees₁).alternative = none := by rwa [Scope.extend_of_none free]
      have plain₁ : (root.extend trees₁).node.kind ≠ .conditional := by rwa [Scope.node_extend]
      obtain ⟨inner₂, trees₂, rfl, yields₂, bare₂⟩ := ih free₁ plain₁ (sound_step sound stepped) rest
      refine ⟨inner₂, trees₁ ++ trees₂, by rw [Scope.extend_append], yields₁.append yields₂, ?_⟩
      exact List.forall_mem_append.mpr ⟨bare₁, bare₂⟩

theorem yields_of_build {sourceId : Text} {tree : Tree}
    (built : builder.build fragments sourceId = .ok tree) :
    builder.Yields [] fragments [] tree.children ∧
      ∀ child ∈ tree.children, child.node.kind = .alternative → child.children = [] := by
  obtain ⟨root, ran, rfl⟩ := build_ok built
  have plain : (Node.root sourceId).kind ≠ .conditional := nofun
  have start : builder.run ([] ++ [{ node := .root sourceId }]) fragments = .ok [root] := ran
  obtain ⟨inner, trees, same, yields, bare⟩ := yields_run rfl plain (sound_root sourceId) start
  cases inner with
  | cons scope inner => simp at same
  | nil =>
      obtain ⟨rfl, -⟩ := List.cons.inj same
      have contents : (Scope.extend { node := .root sourceId } trees).tree.children = trees :=
        Scope.contents_extend rfl trees
      rw [contents]
      exact ⟨yields, bare⟩

theorem build_of_yields (yields : builder.Yields [] fragments [] trees) (name : Text) :
    builder.build fragments name = .ok (.mk (.root name) trees) := by
  have takes : ∀ tree ∈ trees, Scope.Takes { node := .root name } tree :=
    fun _ _ => .inr ⟨nofun, rfl⟩
  have received : trees.foldlM Scope.add { node := .root name } =
      .ok (Scope.extend { node := .root name } trees) := Scope.foldlM_add_eq_extend rfl takes
  have ran : builder.run [{ node := .root name }] fragments =
      .ok [Scope.extend { node := .root name } trees] := by
    rw [← List.nil_append [_], yields, received]
    rfl
  rw [build, ran]
  change Except.ok (Scope.extend { node := .root name } trees).tree = _
  rw [Scope.tree_eq, Scope.node_extend, Scope.contents_extend rfl]
  rfl

/-! ## Between an opening and a closing tag -/

theorem Yields.enclosed (yields : builder.Yields [] fragments [] trees)
    (made : builder.makeNode opener = .ok node) (opens : node.createsScope = true)
    (closes : closer.kind = .closeTag) (checked : builder.checkClose node closer.clean = .ok ())
    (received : trees.foldlM Scope.add { node := node } = .ok scope) (same : scope.node = node) :
    builder.Yields [] (opener :: (fragments ++ [closer])) []
      [.mk (node.close closer.clean) scope.contents] := by
  have opened : builder.Yields [] [opener] [{ node := node }] [] := yields_opening made opens []
  have inside := yields.nested received
  have closed : builder.Yields [scope] [closer] [] [scope.close closer.clean] :=
    yields_close closes (by rwa [same])
  rw [Scope.close_eq, same] at closed
  exact opened.append (inside.append closed)

theorem Yields.enclosed_of_plain (yields : builder.Yields [] fragments [] trees)
    (made : builder.makeNode opener = .ok node) (opens : node.createsScope = true)
    (closes : closer.kind = .closeTag) (checked : builder.checkClose node closer.clean = .ok ())
    (plain : node.kind = .conditional → ∀ tree ∈ trees, tree.node.kind ≠ .alternative) :
    builder.Yields [] (opener :: (fragments ++ [closer])) [] [.mk (node.close closer.clean) trees] := by
  have takes : ∀ tree ∈ trees, Scope.Takes { node := node } tree := by
    intro tree member
    by_cases conditional : node.kind = .conditional
    · exact .inl (plain conditional tree member)
    · exact .inr ⟨conditional, rfl⟩
  have received := Scope.foldlM_add_eq_extend (Node.isLeaf_of_opens opens) takes
  have enclosed := yields.enclosed made opens closes checked received (Scope.node_extend _ _)
  rwa [Scope.contents_extend rfl] at enclosed

theorem Yields.enclosed_of_alternative (yields : builder.Yields [] fragments [] (front ++ branch :: behind))
    (made : builder.makeNode opener = .ok node) (opens : node.createsScope = true)
    (closes : closer.kind = .closeTag) (checked : builder.checkClose node closer.clean = .ok ())
    (conditional : node.kind = .conditional) (alternative : branch.node.kind = .alternative)
    (childless : branch.children = []) (others : ∀ tree ∈ front ++ behind, tree.node.kind ≠ .alternative) :
    builder.Yields [] (opener :: (fragments ++ [closer])) []
      [.mk (node.close closer.clean) (front ++ [.mk branch.node behind])] := by
  obtain ⟨inner, received, same, contents⟩ : ∃ inner : Scope,
      (front ++ branch :: behind).foldlM Scope.add { node := node } = .ok inner ∧ inner.node = node ∧
        inner.contents = front ++ [.mk branch.node (branch.children ++ behind)] :=
    Scope.foldlM_add_alternative (Node.isLeaf_of_opens opens) conditional rfl alternative others
  have enclosed := yields.enclosed made opens closes checked received same
  rwa [contents, childless, List.nil_append] at enclosed

theorem checkClose_of_accepted {closing : Text}
    (accepted : builder.strict = true → node.acceptsClose closing = .ok true) :
    builder.checkClose node closing = .ok () := by
  rw [checkClose]
  cases strict : builder.strict with
  | false => rfl
  | true =>
      rw [accepted strict]
      rfl

theorem exists_build_of_several (yields : builder.Yields [] fragments [] trees)
    (made : builder.makeNode opener = .ok node) (opens : node.createsScope = true)
    (conditional : node.kind = .conditional)
    (several : 2 ≤ trees.countP (·.node.kind = .alternative)) (rest : List Fragment) (name : Text) :
    ∃ tree ∈ trees, tree.node.kind = .alternative ∧
      builder.build (opener :: (fragments ++ rest)) name =
        .error (.duplicateAlternative tree.node.tagOrName node) := by
  cases received : trees.foldlM Scope.add { node := node } with
  | ok scope =>
      have bound := Scope.countP_alternative_le (by exact conditional) received
      exact absurd (Nat.le_trans several (Nat.le_of_add_right_le bound)) (by decide)
  | error error =>
      have sound := Scope.sound_of_node opens (makeNode_ok made).2.2
      obtain ⟨tree, member, alternative, rfl⟩ := sound.foldlM_add_error received
      have failed : builder.run ({ node := node } :: [{ node := .root name }]) fragments =
          .error (.duplicateAlternative tree.node.tagOrName node) := by
        rw [← List.nil_append (_ :: _), yields, received]
        rfl
      refine ⟨tree, member, alternative, ?_⟩
      rw [build, run, step_of_opening made opens]
      change builder.run _ (fragments ++ rest) >>= finish = _
      rw [run_append, failed]
      rfl

end Builder

/-! ## The alternative of a conditional -/

theorem Tree.cells_conditional {node branch : Node} {front behind : List Tree}
    (conditional : node.kind = .conditional) (alternative : branch.kind = .alternative)
    (others : ∀ tree ∈ front, tree.node.kind ≠ .alternative) (first : Nat) :
    (Tree.mk node (front ++ [.mk branch behind])).cells first =
      { node
        children := numbers (first + 1) front ++ [first + 1 + sizeAll front]
        alternative := some (first + 1 + sizeAll front) } ::
      (cellsAll (first + 1) front ++ (Tree.mk branch behind).cells (first + 1 + sizeAll front)) := by
  have found : alternativeFrom (first + 1) (front ++ [.mk branch behind]) =
      some (first + 1 + sizeAll front) := by
    rw [alternativeFrom_append _ _ others]
    exact if_pos alternative
  rw [cells, if_pos conditional, found, numbers_append, cellsAll_append]
  simp only [numbers, cellsAll, List.append_nil]

theorem Graph.alternative_of_eq {graph : Graph} {root node branch : Node} {front behind : List Tree}
    (linked : graph = ofTree (.mk root [.mk node (front ++ [.mk branch behind])]))
    (conditional : node.kind = .conditional) (alternative : branch.kind = .alternative)
    (others : ∀ tree ∈ front, tree.node.kind ≠ .alternative) :
    ∃ id, graph.children Draft.root = [1] ∧ graph.alternative? 1 = some id ∧
      (graph.children 1).getLast? = some id ∧ graph.node? id = some branch := by
  have cells : (Tree.mk node (front ++ [.mk branch behind])).cells 1 = _ :=
    Tree.cells_conditional conditional alternative others 1
  have second : graph.cell? 1 = some
      { node
        children := Tree.numbers 2 front ++ [2 + Tree.sizeAll front]
        alternative := some (2 + Tree.sizeAll front) } := by
    rw [linked, cell?, ofTree, Tree.cells, Tree.cellsAll, cells]
    rfl
  have third : graph.node? (2 + Tree.sizeAll front) = some branch := by
    rw [linked, node?, cell?, ofTree, Tree.cells, Tree.cellsAll, cells, ← Tree.length_cellsAll 2 front]
    simp [Nat.add_comm 2, Tree.cells]
  refine ⟨2 + Tree.sizeAll front, ?_, alternative?_of_cell? second, ?_, third⟩
  · rw [linked]
    rfl
  · rw [children_of_cell? second]
    exact List.getLast?_concat

namespace Builder

variable {builder : Builder} {first second : List Fragment} {firstId secondId : Text}
  {tree tree' : Tree}

/-- The trees of two documents, one behind the other, and of a document between an opening and a closing
tag. There a conditional gives what stands behind its alternative to the alternative, and refuses a second
one; any other scope has the children of the root. -/
theorem build_context (built : builder.build first firstId = .ok tree)
    (built' : builder.build second secondId = .ok tree') (name : Text) :
    builder.build (first ++ second) name = .ok (.mk (.root name) (tree.children ++ tree'.children)) ∧
    ∀ opener closer node, builder.makeNode opener = .ok node → node.createsScope = true →
      closer.kind = .closeTag → (builder.strict = true → node.acceptsClose closer.clean = .ok true) →
      ((node.kind = .conditional → ∀ child ∈ tree.children, child.node.kind ≠ .alternative) →
        builder.build (opener :: (first ++ [closer])) name =
          .ok (.mk (.root name) [.mk (node.close closer.clean) tree.children])) ∧
      (∀ front branch behind, node.kind = .conditional → tree.children = front ++ branch :: behind →
        branch.node.kind = .alternative →
        (∀ child ∈ front ++ behind, child.node.kind ≠ .alternative) →
        builder.build (opener :: (first ++ [closer])) name =
          .ok (.mk (.root name) [.mk (node.close closer.clean) (front ++ [.mk branch.node behind])]) ∧
        ∃ graph id, builder.document (opener :: (first ++ [closer])) name = .ok graph ∧
          graph.children Draft.root = [1] ∧ graph.alternative? 1 = some id ∧
          (graph.children 1).getLast? = some id ∧ graph.node? id = some branch.node) ∧
      (node.kind = .conditional → 2 ≤ tree.children.countP (·.node.kind = .alternative) →
        ∃ repeated ∈ tree.children, repeated.node.kind = .alternative ∧
          builder.build (opener :: (first ++ [closer])) name =
            .error (.duplicateAlternative repeated.node.tagOrName node)) := by
  obtain ⟨yields, bare⟩ := yields_of_build built
  obtain ⟨yields', -⟩ := yields_of_build built'
  refine ⟨build_of_yields (yields.append yields') name, ?_⟩
  intro opener closer node made opens closes accepted
  have checked := checkClose_of_accepted accepted
  refine ⟨?_, ?_, ?_⟩
  · intro plain
    exact build_of_yields (yields.enclosed_of_plain made opens closes checked plain) name
  · intro front branch behind conditional split alternative others
    have childless : branch.children = [] := bare branch (by simp [split]) alternative
    rw [split] at yields
    have whole := build_of_yields (yields.enclosed_of_alternative made opens closes checked conditional
      alternative childless others) name
    have linked : builder.document (opener :: (first ++ [closer])) name = .ok (.ofTree (.mk (.root name)
        [.mk (node.close closer.clean) (front ++ [.mk branch.node behind])])) := by
      rw [document_eq, whole]
      rfl
    have closed : (node.close closer.clean).kind = .conditional := conditional
    obtain ⟨id, root, found, last, branches⟩ :=
      Graph.alternative_of_eq rfl closed alternative (List.forall_mem_append.mp others).1
    exact ⟨whole, _, id, linked, root, found, last, branches⟩
  · intro conditional several
    exact exists_build_of_several yields made opens conditional several [closer] name

theorem build_context_alternative :
    ({ registry := .standard, strict := true } : Builder).build
        ([.ofText ['a'], .ofBlock [] Kind.alternative.name, .ofText ['b']] ++ [.ofText ['c']]) [] =
      .ok (.mk (.root []) [.mk { content := .text ['a'], tag := some ['a'] } [],
        .mk { content := .alternative, tag := some Kind.alternative.name } [],
        .mk { content := .text ['b'], tag := some ['b'] } [],
        .mk { content := .text ['c'], tag := some ['c'] } []]) ∧
    ({ registry := .standard, strict := true } : Builder).build
        (.ofBlock [] "if x".toList :: ([.ofText ['a'], .ofBlock [] Kind.alternative.name, .ofText ['b']] ++
          [.ofBlock [] "endif".toList])) [] =
      .ok (.mk (.root []) [.mk
        { content := .conditional ['x'], tag := some "if x".toList, closing := some "endif".toList }
        [.mk { content := .text ['a'], tag := some ['a'] } [],
          .mk { content := .alternative, tag := some Kind.alternative.name }
            [.mk { content := .text ['b'], tag := some ['b'] } []]]]) := by
  have built : ({ registry := .standard, strict := true } : Builder).build
      [.ofText ['a'], .ofBlock [] Kind.alternative.name, .ofText ['b']] [] =
    .ok (.mk (.root []) [.mk { content := .text ['a'], tag := some ['a'] } [],
      .mk { content := .alternative, tag := some Kind.alternative.name } [],
      .mk { content := .text ['b'], tag := some ['b'] } []]) := rfl
  have built' : ({ registry := .standard, strict := true } : Builder).build [.ofText ['c']] [] =
    .ok (.mk (.root []) [.mk { content := .text ['c'], tag := some ['c'] } []]) := rfl
  obtain ⟨appended, enclosed⟩ := build_context built built' []
  refine ⟨appended, ?_⟩
  obtain ⟨-, parted, -⟩ := enclosed (.ofBlock [] "if x".toList) (.ofBlock [] "endif".toList)
    { content := .conditional ['x'], tag := some "if x".toList } rfl rfl rfl fun _ => rfl
  exact (parted [_] (.mk { content := .alternative, tag := some Kind.alternative.name } []) [_]
    rfl rfl rfl (by decide)).1

end Builder

end TemplateTree
