import TemplateTree.Proofs.Nesting

/-!
# Strict building

A strict builder does what a permissive one does and asks each closing tag to name the scope that it
closes. `build_strict` says which trees it makes, with which error it refuses the others, and that
the closing tag `end` fits every scope.
-/

namespace TemplateTree

def Node.Accepted (node : Node) : Prop :=
  node.createsScope = true →
    ∃ closing, node.closing = some closing ∧ node.acceptsClose closing = .ok true

def Registry.permissive (registry : Registry) : Builder := { registry }

def Registry.strict (registry : Registry) : Builder := { registry, strict := true }

theorem Node.acceptsClose_ok (node : Node) {closing : Text}
    (worded : closing ≠ [] → closing.words ≠ []) :
    ∃ accepted, node.acceptsClose closing = .ok accepted := by
  unfold acceptsClose closingKeyword
  split
  · exact ⟨_, rfl⟩
  next filled =>
    cases words : closing.words with
    | nil => exact absurd words (worded filled)
    | cons word words => exact ⟨_, rfl⟩

theorem Node.acceptsClose_endWord (node : Node) : node.acceptsClose Fragment.endWord = .ok true := by
  have words : Fragment.endWord.words = [Fragment.endWord] := rfl
  have keyword : closingKeyword Fragment.endWord = .ok Fragment.endWord := rfl
  have alone : node.acceptsWords [] = true := by
    unfold acceptsWords
    split <;> rfl
  simp [acceptsClose, keyword, words, alone, closingKeywords, Except.map]

/-! ## Nodes of closed scopes -/

namespace Scope

def nodes (scope : Scope) : List Node := (Tree.walkAll scope.contents).map Tree.node

theorem nodes_add {scope scope' : Scope} {child : Tree} (added : scope.add child = .ok scope') :
    scope'.nodes = scope.nodes ++ child.walk.map Tree.node := by
  unfold nodes
  rcases add_cases added with ⟨node, children, before, -, rfl⟩ | ⟨before, -, -, rfl⟩ |
    ⟨before, -, rfl⟩
  · rw [contents_some before, contents_some rfl]
    simp [Tree.walk, Tree.node]
  · rw [contents_none before, contents_some rfl]
    cases child
    simp [Tree.node, Tree.children]
  · have still : Scope.alternative { scope with children := child :: scope.children } = none :=
      before
    rw [contents_none before, contents_none still]
    simp

theorem nodes_close (scope : Scope) (closing : Text) :
    (scope.close closing).walk.map Tree.node = scope.node.close closing :: scope.nodes := by
  rw [close_eq, Tree.walk]
  rfl

end Scope

namespace Builder

variable {registry : Registry} {builder : Builder} {fragment : Fragment}
  {fragments front back : List Fragment} {scope : Scope} {scopes scopes' : List Scope}
  {sourceId : Text}

def finished (scopes : List Scope) : List Node := scopes.flatMap Scope.nodes

@[simp] theorem finished_cons (scope : Scope) (outer : List Scope) :
    finished (scope :: outer) = scope.nodes ++ finished outer :=
  List.flatMap_cons

theorem finished_singleton (node : Node) : finished [{ node := node }] = [] := by
  simp [finished, Scope.nodes, Scope.contents_none, Tree.walkAll]

theorem finished_step (stepped : builder.step scopes fragment = .ok scopes') :
    ∃ new : List Node,
      (∀ node, node ∈ finished scopes' ↔ node ∈ new ∨ node ∈ finished scopes) ∧
      (fragment.kind = .closeTag → ∃ scope ∈ scopes.head?, new = [scope.node.close fragment.clean]) ∧
      (fragment.kind ≠ .closeTag → ∀ node ∈ new, node.createsScope = false) := by
  rcases step_cases stepped with ⟨scope, parent, outer, parent', rfl, closes, -, added, rfl⟩ |
    ⟨scope, outer, node, rfl, made, -, rfl⟩ | ⟨scope, outer, node, scope', rfl, made, plain, added, rfl⟩
  · refine ⟨[scope.node.close fragment.clean], fun node => ?_, fun _ => ⟨scope, rfl, rfl⟩,
      fun other => absurd closes other⟩
    simp only [finished_cons, Scope.nodes_add added, Scope.nodes_close, List.mem_append,
      List.mem_cons, List.not_mem_nil]
    tauto
  · have nothing := finished_singleton node
    refine ⟨[], fun other => ?_, fun closes => absurd closes (makeNode_ok made).1, by simp⟩
    rw [finished_cons, List.append_eq_nil_iff] at nothing
    simp [nothing.1]
  · refine ⟨[node], fun other => ?_, fun closes => absurd closes (makeNode_ok made).1, ?_⟩
    · simp only [finished_cons, Scope.nodes_add added, Tree.walk, Tree.walkAll, List.map_cons,
        List.map_nil, Tree.node, List.mem_append, List.mem_singleton]
      tauto
    · intro _ other member
      rwa [List.mem_singleton.mp member]

theorem finished_run (ran : builder.run scopes fragments = .ok scopes') :
    ∀ node ∈ finished scopes, node ∈ finished scopes' := by
  induction fragments generalizing scopes with
  | nil =>
      obtain rfl := Except.ok.inj ran
      exact fun node member => member
  | cons fragment fragments ih =>
      obtain ⟨between, stepped, ran⟩ := run_cons.mp ran
      obtain ⟨new, finishes, -⟩ := finished_step stepped
      exact fun node member => ih ran node ((finishes node).mpr (.inr member))

/-! ## Checks -/

def Names (scopes : List Scope) (fragment : Fragment) : Prop :=
  fragment.kind = .closeTag →
    ∀ scope ∈ scopes.head?, scope.node.acceptsClose fragment.clean = .ok true

theorem checkClose_strict {node : Node} {closing : Text} :
    registry.strict.checkClose node closing = .ok () ↔ node.acceptsClose closing = .ok true := by
  rw [checkClose, Registry.strict, if_pos rfl, bind_eq_ok]
  constructor
  · rintro ⟨accepted, found, checked⟩
    cases accepted with
    | true => exact found
    | false => cases checked
  · exact fun accepts => ⟨true, accepts, rfl⟩

theorem step_strict : registry.strict.step scopes fragment = .ok scopes' ↔
    registry.permissive.step scopes fragment = .ok scopes' ∧ Names scopes fragment := by
  constructor
  · intro stepped
    rcases step_cases stepped with ⟨scope, parent, outer, parent', rfl, closes, checked, added, rfl⟩ |
      ⟨scope, outer, node, rfl, made, opens, rfl⟩ |
      ⟨scope, outer, node, scope', rfl, made, plain, added, rfl⟩
    · refine ⟨step_of_close closes (checkClose_of_permissive rfl _ _) added, fun _ => ?_⟩
      rintro _ ⟨⟩
      exact checkClose_strict.mp checked
    · exact ⟨step_of_opening made opens, fun closes => absurd closes (makeNode_ok made).1⟩
    · exact ⟨step_of_plain made plain added, fun closes => absurd closes (makeNode_ok made).1⟩
  · rintro ⟨stepped, names⟩
    rcases step_cases stepped with ⟨scope, parent, outer, parent', rfl, closes, -, added, rfl⟩ |
      ⟨scope, outer, node, rfl, made, opens, rfl⟩ |
      ⟨scope, outer, node, scope', rfl, made, plain, added, rfl⟩
    · exact step_of_close closes (checkClose_strict.mpr (names closes scope rfl)) added
    · exact step_of_opening made opens
    · exact step_of_plain made plain added

theorem accepted_step (sound : ∀ scope ∈ scopes, scope.Sound)
    (stepped : builder.step scopes fragment = .ok scopes') :
    (∀ node ∈ finished scopes', node.Accepted) ↔
      (∀ node ∈ finished scopes, node.Accepted) ∧ Names scopes fragment := by
  obtain ⟨new, finishes, closing, other⟩ := finished_step stepped
  have both : (∀ node ∈ finished scopes', node.Accepted) ↔
      (∀ node ∈ new, node.Accepted) ∧ ∀ node ∈ finished scopes, node.Accepted := by
    simp only [finishes, or_imp, forall_and]
  rw [both, and_comm]
  apply and_congr_right
  -- the open scope that is checked and the finished one differ only in the closing tag
  intro _
  by_cases closes : fragment.kind = .closeTag
  · obtain ⟨scope, first, rfl⟩ := closing closes
    have opens := (sound scope (List.mem_of_mem_head? first)).opens
    rw [List.forall_mem_singleton]
    constructor
    · intro accepted _ other second
      obtain rfl := Option.mem_unique first second
      obtain ⟨tag, same, accepts⟩ := accepted opens
      obtain rfl := Option.some.inj same
      exact accepts
    · exact fun names _ => ⟨fragment.clean, rfl, names closes scope first⟩
  · refine iff_of_true (fun node member opens => ?_) fun closes' => absurd closes' closes
    rw [other closes node member] at opens
    cases opens

theorem run_strict (sound : ∀ scope ∈ scopes, scope.Sound)
    (accepted : ∀ node ∈ finished scopes, node.Accepted) :
    registry.strict.run scopes fragments = .ok scopes' ↔
      registry.permissive.run scopes fragments = .ok scopes' ∧
        ∀ node ∈ finished scopes', node.Accepted := by
  induction fragments generalizing scopes with
  | nil =>
      constructor
      · intro ran
        obtain rfl := Except.ok.inj ran
        exact ⟨rfl, accepted⟩
      · exact And.left
  | cons fragment fragments ih =>
      rw [run_cons, run_cons]
      constructor
      · rintro ⟨between, stepped, ran⟩
        obtain ⟨permitted, names⟩ := step_strict.mp stepped
        have still := (accepted_step sound permitted).mpr ⟨accepted, names⟩
        obtain ⟨ran, all⟩ := (ih (sound_step sound permitted) still).mp ran
        exact ⟨⟨between, permitted, ran⟩, all⟩
      · rintro ⟨⟨between, permitted, ran⟩, all⟩
        -- what is finished stays finished, so all that is accepted in the end is accepted here
        have still : ∀ node ∈ finished between, node.Accepted :=
          fun node member => all node (finished_run ran node member)
        have names := ((accepted_step sound permitted).mp still).2
        exact ⟨between, step_strict.mpr ⟨permitted, names⟩,
          (ih (sound_step sound permitted) still).mpr ⟨ran, all⟩⟩

def Closes (builder : Builder) (fragments : List Fragment) (last : Nat) (closer : Fragment)
    (node : Node) : Prop :=
  fragments[last]? = some closer ∧ ∃ first opener,
    Bracket.Matched (builder.word fragments) first last ∧
      fragments[first]? = some opener ∧ builder.makeNode opener = .ok node

theorem closes_iff {outer : List Scope}
    (ran : builder.run [{ node := .root sourceId }] front = .ok (scope :: outer))
    (inner : outer ≠ []) (closing : fragment.kind = .closeTag) (back : List Fragment) (node : Node) :
    builder.Closes (front ++ fragment :: back) front.length fragment node ↔ scope.node = node := by
  have root : builder.Stacked [] 0 [{ node := .root sourceId }] := .root rfl rfl
  have stacked := stacked_run (sound_root sourceId) root ran
  rw [List.nil_append] at stacked
  obtain ⟨first, opener, isOpen, found, made, -⟩ : builder.Opened front 0 scope := by
    cases stacked with
    | root => exact absurd rfl inner
    | scope opened _ => exact opened
  have length : (builder.word front).length = front.length := length_word
  have inside : first < front.length := (List.getElem?_eq_some_iff.mp found).1
  have here : (front ++ fragment :: back)[first]? = some opener := by
    rw [List.getElem?_append_left inside, found]
  constructor
  · rintro ⟨-, other, opener', matched, found', made'⟩
    have encloses := matched.1
    rw [word_append, ← length] at encloses
    obtain rfl := isOpen.unique encloses.openAt
    obtain rfl := Option.some.inj (here.symm.trans found')
    exact Except.ok.inj (made.symm.trans made')
  · rintro rfl
    have encloses := isOpen.encloses (builder.word (fragment :: back))
    rw [length, ← word_append] at encloses
    refine ⟨by simp, first, opener, ⟨encloses, ?_⟩, here, made⟩
    rw [word, List.getElem?_map]
    simp [bracket_of_close closing]

theorem names_of_run (ran : registry.strict.run [{ node := .root sourceId }] front = .ok scopes)
    {last : Nat} (before : last < front.length) {closer : Fragment} {node : Node}
    (closes : registry.permissive.Closes (front ++ back) last closer node) :
    node.acceptsClose closer.clean = .ok true := by
  have here : front[last]? = some closer := by rw [← closes.1, List.getElem?_append_left before]
  obtain ⟨inside, rfl⟩ := List.getElem?_eq_some_iff.mp here
  -- the run has read the closing tag in a step of its own
  have split : front.take last ++ front[last] :: front.drop (last + 1) = front := by
    rw [← List.drop_eq_getElem_cons inside, List.take_append_drop]
  rw [← split, run_append] at ran
  obtain ⟨between, reached, rest⟩ := bind_eq_ok.mp ran
  obtain ⟨next, stepped, -⟩ := run_cons.mp rest
  have closing : front[last].kind = .closeTag := by
    obtain ⟨-, first, opener, matched, -⟩ := closes
    have bracket := matched.2
    rw [word, List.getElem?_map, List.getElem?_append_left before, here] at bracket
    exact closeTag_of_bracket (Option.some.inj bracket)
  have names := (step_strict.mp stepped).2 closing
  rcases step_cases stepped with ⟨scope, parent, outer, parent', rfl, -, -, -, -⟩ |
    ⟨scope, outer, other, rfl, made, -, -⟩ | ⟨scope, outer, other, scope', rfl, made, -, -, -⟩
  · have length : (front.take last).length = last := List.length_take_of_le (Nat.le_of_lt before)
    have innermost := closes_iff reached (List.cons_ne_nil parent outer) closing
      (front.drop (last + 1) ++ back) node
    rw [length, ← List.cons_append, ← List.append_assoc, split] at innermost
    obtain rfl := innermost.mp closes
    exact names scope rfl
  · exact absurd closing (makeNode_ok made).1
  · exact absurd closing (makeNode_ok made).1

/-- Where a strict builder first refuses what a permissive one does. -/
theorem run_mismatch (worded : ∀ fragment ∈ fragments, fragment.kind = .closeTag →
      fragment.clean ≠ [] → fragment.clean.words ≠ [])
    (permitted : registry.permissive.run scopes fragments = .ok scopes')
    (refused : registry.strict.run scopes fragments ≠ .ok scopes') :
    ∃ front fragment back scope parent outer, fragments = front ++ fragment :: back ∧
      registry.strict.run scopes front = .ok (scope :: parent :: outer) ∧
      fragment.kind = .closeTag ∧ scope.node.acceptsClose fragment.clean = .ok false ∧
      registry.strict.run scopes fragments = .error (.mismatchedClose scope.node fragment.clean) := by
  induction fragments generalizing scopes with
  | nil => exact absurd permitted refused
  | cons fragment fragments ih =>
      obtain ⟨here, behind⟩ := List.forall_mem_cons.mp worded
      obtain ⟨between, stepped, ran⟩ := run_cons.mp permitted
      by_cases names : Names scopes fragment
      · have strict : registry.strict.step scopes fragment = .ok between :=
          step_strict.mpr ⟨stepped, names⟩
        have whole : registry.strict.run scopes (fragment :: fragments) =
            registry.strict.run between fragments := by
          rw [run, strict]
          rfl
        rw [whole] at refused ⊢
        obtain ⟨front, closer, back, scope, parent, outer, rfl, reached, others⟩ := ih behind ran refused
        exact ⟨fragment :: front, closer, back, scope, parent, outer, rfl,
          run_cons.mpr ⟨between, strict, reached⟩, others⟩
      · obtain ⟨closes, refuses⟩ := Classical.not_imp.mp names
        rcases step_cases stepped with ⟨scope, parent, outer, parent', rfl, -, -, added, rfl⟩ |
          ⟨scope, outer, node, rfl, made, -, rfl⟩ | ⟨scope, outer, node, scope', rfl, made, -, -, rfl⟩
        · obtain ⟨accepted, answer⟩ := Node.acceptsClose_ok scope.node (here closes)
          have rejects : accepted = false := by
            cases accepted with
            | false => rfl
            | true => exact absurd (by rintro _ ⟨⟩; exact answer) refuses
          rw [rejects] at answer
          refine ⟨[], fragment, fragments, scope, parent, outer, rfl, rfl, closes, answer, ?_⟩
          simp [run, step, checkClose, Registry.strict, closes, answer, bind, Except.bind]
        · exact absurd closes (makeNode_ok made).1
        · exact absurd closes (makeNode_ok made).1

end Builder

/-! ## Other closing tags -/

def Node.reclose (closing : Text) (node : Node) : Node :=
  { node with closing := node.closing.map fun _ => closing }

theorem Node.reclose_of_unclosed {node : Node} (unclosed : node.closing = none) (closing : Text) :
    node.reclose closing = node := by
  unfold reclose
  rw [unclosed, Option.map_none, ← unclosed]

namespace Tree

mutual

def reclose (closing : Text) : Tree → Tree
  | mk node children => mk (node.reclose closing) (recloseAll closing children)

def recloseAll (closing : Text) : List Tree → List Tree
  | [] => []
  | tree :: trees => reclose closing tree :: recloseAll closing trees

end

theorem recloseAll_eq (closing : Text) (trees : List Tree) :
    recloseAll closing trees = trees.map (reclose closing) := by
  induction trees with
  | nil => rfl
  | cons tree trees ih => rw [recloseAll, ih, List.map_cons]

@[simp] theorem node_reclose (closing : Text) (tree : Tree) :
    (tree.reclose closing).node = tree.node.reclose closing := by
  cases tree
  rfl

@[simp] theorem children_reclose (closing : Text) (tree : Tree) :
    (tree.reclose closing).children = tree.children.map (reclose closing) := by
  cases tree
  exact recloseAll_eq closing _

end Tree

namespace Scope

def reclose (closing : Text) (scope : Scope) : Scope where
  node := scope.node.reclose closing
  children := scope.children.map (Tree.reclose closing)
  alternative := scope.alternative.map fun (node, children) =>
    (node.reclose closing, children.map (Tree.reclose closing))

theorem reclose_opened (closing : Text) (node : Node) :
    reclose closing { node := node } = { node := node.reclose closing } := rfl

theorem tree_reclose (closing : Text) (scope : Scope) :
    (scope.reclose closing).tree = scope.tree.reclose closing := by
  unfold tree reclose
  cases scope.alternative with
  | none => simp [Tree.reclose, Tree.recloseAll_eq]
  | some alternative => simp [Tree.reclose, Tree.recloseAll_eq]

theorem close_reclose (closing other : Text) (scope : Scope) :
    (scope.reclose closing).close closing = (scope.close other).reclose closing := by
  unfold close
  rw [← tree_reclose]
  rfl

theorem add_reclose {scope scope' : Scope} {child : Tree} (closing : Text)
    (added : scope.add child = .ok scope') :
    (scope.reclose closing).add (child.reclose closing) = .ok (scope'.reclose closing) := by
  have receives : scope.node.isLeaf = false := by
    cases leaf : scope.node.isLeaf with
    | false => rfl
    | true => rw [add, leaf, if_pos rfl] at added; cases added
  have same : (scope.node.reclose closing).isLeaf = scope.node.isLeaf := rfl
  rcases add_cases added with ⟨node, children, before, other, rfl⟩ |
    ⟨before, conditional, kind, rfl⟩ | ⟨before, other, rfl⟩
  all_goals
    simp only [add, reclose, same, receives, before, Option.map_some, Option.map_none,
      Tree.node_reclose, Tree.children_reclose]
  · exact if_neg other
  · rw [List.map_reverse]
    exact if_pos (And.intro conditional kind)
  · exact if_neg other

end Scope

def Fragment.reclose (closing : Text) (fragment : Fragment) : Fragment :=
  if fragment.kind = .closeTag then { fragment with clean := closing } else fragment

namespace Builder

variable {registry : Registry} {fragment : Fragment} {fragments : List Fragment}
  {scopes scopes' : List Scope} {sourceId : Text}

theorem step_reclose (stepped : registry.permissive.step scopes fragment = .ok scopes') :
    registry.strict.step (scopes.map (Scope.reclose Fragment.endWord))
        (fragment.reclose Fragment.endWord) =
      .ok (scopes'.map (Scope.reclose Fragment.endWord)) := by
  rcases step_cases stepped with ⟨scope, parent, outer, parent', rfl, closes, -, added, rfl⟩ |
    ⟨scope, outer, node, rfl, made, opens, rfl⟩ |
    ⟨scope, outer, node, scope', rfl, made, plain, added, rfl⟩
  · rw [Fragment.reclose, if_pos closes]
    have added := Scope.add_reclose Fragment.endWord added
    rw [← Scope.close_reclose] at added
    exact step_of_close closes (checkClose_strict.mpr (Node.acceptsClose_endWord _)) added
  · obtain ⟨other, -, unclosed⟩ := makeNode_ok made
    have same := Node.reclose_of_unclosed unclosed Fragment.endWord
    simp only [Fragment.reclose, if_neg other, List.map_cons, Scope.reclose_opened, same]
    exact step_of_opening made opens
  · obtain ⟨other, -, unclosed⟩ := makeNode_ok made
    have same := Node.reclose_of_unclosed unclosed Fragment.endWord
    have added := Scope.add_reclose Fragment.endWord added
    rw [Tree.reclose, same, Tree.recloseAll] at added
    rw [Fragment.reclose, if_neg other]
    exact step_of_plain made plain added

theorem run_reclose (ran : registry.permissive.run scopes fragments = .ok scopes') :
    registry.strict.run (scopes.map (Scope.reclose Fragment.endWord))
        (fragments.map (Fragment.reclose Fragment.endWord)) =
      .ok (scopes'.map (Scope.reclose Fragment.endWord)) := by
  induction fragments generalizing scopes with
  | nil =>
      obtain rfl := Except.ok.inj ran
      rfl
  | cons fragment fragments ih =>
      obtain ⟨between, stepped, ran⟩ := run_cons.mp ran
      exact run_cons.mpr ⟨_, step_reclose stepped, ih ran⟩

/-! ## Building -/

theorem build_iff {builder : Builder} {tree : Tree} :
    builder.build fragments sourceId = .ok tree ↔ ∃ root,
      builder.run [{ node := .root sourceId }] fragments = .ok [root] ∧ tree = root.tree := by
  constructor
  · exact build_ok
  · rintro ⟨root, ran, rfl⟩
    rw [build, ran]
    rfl

theorem accepted_walk {root : Scope} :
    (∀ inner ∈ root.tree.walk.tail, inner.node.Accepted) ↔ ∀ node ∈ finished [root], node.Accepted := by
  rw [Scope.tree_eq, Tree.walk, List.tail_cons, finished_cons, finished, List.flatMap_nil,
    List.append_nil, Scope.nodes, List.forall_mem_map]

/-- A strict builder makes a tree exactly when a permissive one makes it and all its scopes below the
root have closing tags that name them. Otherwise it refuses the first closing tag that does not name
the scope which it closes. It takes the same document with the closing tag `end` everywhere. -/
theorem build_strict (registry : Registry) (sourceId : Text) (worded : ∀ fragment ∈ fragments,
      fragment.kind = .closeTag → fragment.clean ≠ [] → fragment.clean.words ≠ []) :
    (∀ tree, registry.strict.build fragments sourceId = .ok tree ↔
      registry.permissive.build fragments sourceId = .ok tree ∧
        ∀ inner ∈ tree.walk.tail, inner.node.Accepted) ∧
    (∀ tree, registry.permissive.build fragments sourceId = .ok tree →
      (∀ other, registry.strict.build fragments sourceId ≠ .ok other) →
      ∃ last closer node, registry.permissive.Closes fragments last closer node ∧
        node.acceptsClose closer.clean = .ok false ∧
        registry.strict.build fragments sourceId = .error (.mismatchedClose node closer.clean) ∧
        ∀ earlier < last, ∀ closer node, registry.permissive.Closes fragments earlier closer node →
          node.acceptsClose closer.clean = .ok true) ∧
    ∀ tree, registry.permissive.build fragments sourceId = .ok tree →
      registry.strict.build (fragments.map (Fragment.reclose Fragment.endWord)) sourceId =
        .ok (tree.reclose Fragment.endWord) := by
  refine ⟨fun tree => ?_, fun tree built refused => ?_, fun tree built => ?_⟩
  · have nothing : ∀ node ∈ finished [{ node := .root sourceId }], node.Accepted := by
      rw [finished_singleton]
      exact List.forall_mem_nil _
    rw [build_iff, build_iff]
    constructor
    · rintro ⟨root, ran, rfl⟩
      obtain ⟨ran, accepted⟩ := (run_strict (sound_root sourceId) nothing).mp ran
      exact ⟨⟨root, ran, rfl⟩, accepted_walk.mpr accepted⟩
    · rintro ⟨⟨root, ran, rfl⟩, accepted⟩
      exact ⟨root, (run_strict (sound_root sourceId) nothing).mpr ⟨ran, accepted_walk.mp accepted⟩, rfl⟩
  · obtain ⟨root, permitted, rfl⟩ := build_ok built
    have differs : registry.strict.run [{ node := .root sourceId }] fragments ≠ .ok [root] :=
      fun ran => refused root.tree (build_iff.mpr ⟨root, ran, rfl⟩)
    obtain ⟨front, closer, back, scope, parent, outer, rfl, reached, closes, rejects, stops⟩ :=
      run_mismatch worded permitted differs
    refine ⟨front.length, closer, scope.node, ?_, rejects, ?_, ?_⟩
    · exact (closes_iff reached (List.cons_ne_nil parent outer) closes back scope.node).mpr rfl
    · rw [build, stops]
      rfl
    · exact fun earlier before closer node => names_of_run reached before
  · obtain ⟨root, ran, rfl⟩ := build_ok built
    exact build_iff.mpr ⟨_, run_reclose ran, (Scope.tree_reclose _ root).symm⟩

theorem build_strict_other_name :
    ∃ last closer node, Registry.standard.permissive.Closes
        [.ofBlock [] "block a".toList, .ofBlock [] "if x".toList, .ofBlock [] "endif".toList,
          .ofBlock [] "endblock b".toList] last closer node ∧
      node.acceptsClose closer.clean = .ok false ∧
      Registry.standard.strict.build
        [.ofBlock [] "block a".toList, .ofBlock [] "if x".toList, .ofBlock [] "endif".toList,
          .ofBlock [] "endblock b".toList] [] = .error (.mismatchedClose node closer.clean) ∧
      ∀ earlier < last, ∀ closer node, Registry.standard.permissive.Closes
          [.ofBlock [] "block a".toList, .ofBlock [] "if x".toList, .ofBlock [] "endif".toList,
            .ofBlock [] "endblock b".toList] earlier closer node →
        node.acceptsClose closer.clean = .ok true := by
  have worded : ∀ fragment ∈ ([.ofBlock [] "block a".toList, .ofBlock [] "if x".toList,
      .ofBlock [] "endif".toList, .ofBlock [] "endblock b".toList] : List Fragment),
      fragment.kind = .closeTag → fragment.clean ≠ [] → fragment.clean.words ≠ [] := by
    decide +kernel
  refine (build_strict Registry.standard [] worded).2.1 _ rfl ?_
  intro other built
  cases built

end Builder

end TemplateTree
