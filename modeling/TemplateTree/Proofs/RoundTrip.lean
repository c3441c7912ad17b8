import TemplateTree.Compile
import TemplateTree.Proofs.Children
import TemplateTree.Proofs.Emission
import TemplateTree.Proofs.Rendering

/-!
# Compiling what was rendered

The main statement is `Compiler.compile_render`: compiling undoes rendering.
-/

namespace TemplateTree

def Content.opened (content : Content) : Node :=
  { content := content, tag := some content.written }

def Node.tagged (node : Node) : Node :=
  { node.content.opened with closing := if node.createsScope then node.closing else none }

theorem Node.tagged_of_plain {node : Node} (plain : node.createsScope = false) :
    node.tagged = node.content.opened := by
  rw [tagged, plain, if_neg Bool.false_ne_true]
  rfl

namespace Tree

mutual

def tagged : Tree → Tree
  | mk node children => mk node.tagged (taggedAll children)

def taggedAll : List Tree → List Tree
  | [] => []
  | tree :: trees => tagged tree :: taggedAll trees

end

theorem taggedAll_eq (trees : List Tree) : taggedAll trees = trees.map tagged := by
  induction trees with
  | nil => rfl
  | cons tree trees ih => rw [taggedAll, ih, List.map_cons]

@[simp] theorem kind_tagged (tree : Tree) : tree.tagged.node.kind = tree.node.kind := by
  cases tree
  rfl

variable {kind : Kind} {trees : List Tree}

theorem Siblings.conditional (siblings : Siblings kind trees) {tree : Tree} (member : tree ∈ trees)
    (alternative : tree.node.kind = .alternative) : kind = .conditional := by
  rcases List.eq_nil_or_concat trees with rfl | ⟨front, last, rfl⟩
  · cases member
  · rw [List.concat_eq_append] at siblings member
    have inner := siblings.inner
    rw [List.dropLast_concat] at inner
    rcases List.mem_append.mp member with before | atEnd
    · exact absurd alternative (inner tree before)
    · obtain rfl := List.mem_singleton.mp atEnd
      exact siblings.last tree List.getLast?_concat alternative

theorem Siblings.tagged (siblings : Siblings kind trees) : Siblings kind (trees.map Tree.tagged) := by
  refine ⟨?_, ?_, ?_⟩
  · rw [List.isChain_map]
    simpa only [kind_tagged] using siblings.texts
  · rw [← List.map_dropLast, List.forall_mem_map]
    simpa only [kind_tagged] using siblings.inner
  · intro tree last alternative
    rw [List.getLast?_map, Option.mem_def, Option.map_eq_some_iff] at last
    obtain ⟨original, last, rfl⟩ := last
    rw [kind_tagged] at alternative
    exact siblings.last original last alternative

end Tree

/-! ## Nodes -/

theorem Node.ofFragment_of_read {kind : Kind} {fragment : Fragment} {content : Content}
    (reads : kind.fresh.read fragment = .ok content) :
    Node.ofFragment kind fragment = .ok { content := content, tag := some fragment.clean } := by
  rw [ofFragment, Node.read, Node.fresh, reads]
  rfl

theorem Builder.makeNode_markup {builder : Builder} {content : Content}
    (rules : builder.registry = .standard) (writable : content.Writable) :
    builder.makeNode (content.markup.fragment .standard) = .ok content.opened := by
  cases ruled : content.isRuled with
  | true =>
      have opens : (content.markup.fragment .standard).kind = .openTag := by
        rw [Content.markup_of_ruled ruled, Markup.fragment, Fragment.ofBlock,
          Content.isClosingTag_written writable ruled]
        rfl
      have clean : (content.markup.fragment .standard).clean = content.written := by
        rw [Content.markup_of_ruled ruled]
        rfl
      obtain ⟨rule, resolved, kind⟩ := Content.resolve_written writable ruled
      have notText : content.kind = .text →
          (content.markup.fragment .standard).raw = content.written := by
        intro isText
        cases content with
        | text value => cases ruled
        | _ => cases isText
      have reads := Content.read_written writable clean notText
      rw [makeNode, opens, rules]
      simp only [clean, resolved, bind, Except.bind, kind]
      rw [Node.ofFragment_of_read reads, clean, Content.opened]
  | false =>
      cases content with
      | text value => exact Node.ofFragment_of_read rfl
      | expression value => exact Node.ofFragment_of_read rfl
      | _ => cases ruled

/-! ## Children -/

namespace Scope

variable {trees : List Tree}

theorem exists_foldlM_add {node : Node} (opens : node.createsScope = true)
    (siblings : Tree.Siblings node.kind trees) :
    ∃ scope, trees.foldlM add { node := node } = .ok scope ∧ scope.node = node ∧
      scope.contents = trees := by
  have receives := Node.isLeaf_of_opens opens
  rcases List.eq_nil_or_concat trees with rfl | ⟨front, tree, rfl⟩
  · exact ⟨{ node := node }, rfl, rfl, rfl⟩
  · rw [List.concat_eq_append] at siblings ⊢
    have others := siblings.inner
    rw [List.dropLast_concat] at others
    by_cases alternative : tree.node.kind = .alternative
    · have conditional := siblings.last tree List.getLast?_concat alternative
      obtain ⟨scope, received, same, contents⟩ : ∃ scope,
          (front ++ [tree]).foldlM add { node := node } = .ok scope ∧ scope.node = node ∧
            scope.contents = front ++ [.mk tree.node (tree.children ++ [])] :=
        foldlM_add_alternative receives conditional rfl alternative (by rwa [List.append_nil])
      refine ⟨scope, received, same, ?_⟩
      cases tree
      rw [contents, List.append_nil]
      rfl
    · have takes : ∀ other ∈ front ++ [tree], Takes { node := node } other := by
        rw [List.forall_mem_append, List.forall_mem_singleton]
        exact ⟨fun other member => .inl (others other member), .inl alternative⟩
      exact ⟨_, foldlM_add_eq_extend receives takes, node_extend _ _, contents_extend rfl _⟩

end Scope

/-! ## Runs -/

namespace Builder

variable {builder : Builder} {scope scope' : Scope} {outer : List Scope}

/-- A builder that reads the rendering of a tree adds the tree to the innermost scope. -/
def Rebuilds (builder : Builder) (tree : Tree) : Prop :=
  ∀ scope scope' outer, scope.add tree.tagged = .ok scope' →
    (tree.node.kind = .alternative → scope.node.kind = .conditional) →
    builder.run (scope :: outer) (tree.markups.map (Markup.fragment .standard)) = .ok (scope' :: outer)

theorem run_siblings {trees : List Tree} (rebuilds : ∀ tree ∈ trees, builder.Rebuilds tree)
    (added : (trees.map Tree.tagged).foldlM Scope.add scope = .ok scope')
    (last : ∀ tree ∈ trees, tree.node.kind = .alternative → scope.node.kind = .conditional) :
    builder.run (scope :: outer) ((Tree.markupsAll trees).map (Markup.fragment .standard)) =
      .ok (scope' :: outer) := by
  induction trees generalizing scope with
  | nil =>
      obtain rfl := Except.ok.inj added
      rfl
  | cons tree trees ih =>
      rw [List.map_cons, List.foldlM_cons] at added
      obtain ⟨between, first, rest⟩ := bind_eq_ok.mp added
      rw [List.forall_mem_cons] at rebuilds last
      rw [Tree.markupsAll, List.map_append, run_append,
        rebuilds.1 scope between outer first last.1]
      apply ih rebuilds.2 rest
      rw [Scope.node_add first]
      exact last.2

theorem run_singleton {scopes scopes' : List Scope} {fragment : Fragment}
    (stepped : builder.step scopes fragment = .ok scopes') :
    builder.run scopes [fragment] = .ok scopes' :=
  run_cons.mpr ⟨scopes', stepped, rfl⟩

theorem rebuilds_leaf (rules : builder.registry = .standard) {node : Node}
    (writable : node.content.Writable) (isLeaf : node.isLeaf = true) :
    builder.Rebuilds (.mk node []) := by
  intro scope scope' outer added _
  have made := makeNode_markup rules writable
  have plain : node.createsScope = false := by
    unfold Node.isLeaf at isLeaf
    unfold Node.createsScope
    cases kind : node.kind <;> rw [kind] at isLeaf <;> first | rfl | cases isLeaf
  have closer : node.closer = [] := by rw [Node.closer, plain, if_neg Bool.false_ne_true]
  rw [Tree.tagged, Node.tagged_of_plain plain] at added
  rw [Tree.markups, closer]
  exact run_singleton (step_of_plain made plain added)

theorem rebuilds_scope (rules : builder.registry = .standard) (permissive : builder.strict = false)
    {node : Node} {children : List Tree} {closing : Text} (writable : node.content.Writable)
    (opens : node.createsScope = true) (closes : node.closing = some closing)
    (isClosing : closing.IsClosing) (siblings : Tree.Siblings node.kind children)
    (rebuilds : ∀ child ∈ children, builder.Rebuilds child) :
    builder.Rebuilds (.mk node children) := by
  intro scope scope' outer added _
  have made := makeNode_markup rules writable
  have closer : node.closer = [.block [' '] closing [' ']] := by
    rw [Node.closer, opens, if_pos rfl, closes]
    rfl
  have opened : node.content.opened.createsScope = true := opens
  obtain ⟨inner, received, same, contents⟩ := Scope.exists_foldlM_add opened siblings.tagged
  have inside : builder.run ({ node := node.content.opened } :: scope :: outer)
      ((Tree.markupsAll children).map (Markup.fragment .standard)) = .ok (inner :: scope :: outer) :=
    run_siblings rebuilds received fun child member => siblings.conditional member
  have isClose : ((Markup.block [' '] closing [' ']).fragment .standard).kind = .closeTag := by
    obtain ⟨behind, first, words⟩ := isClosing.keyword
    have closingTag := Fragment.isClosingTag_of_words (Text.trim_eq_self_iff.mp isClosing.trimmed)
      first words
    rw [Markup.fragment, Fragment.ofBlock, closingTag, if_pos rfl]
  have closed : inner.close closing = (Tree.mk node children).tagged := by
    rw [Scope.close_eq, same, contents, Tree.tagged, Tree.taggedAll_eq, Node.tagged, opens, if_pos rfl,
      closes]
    rfl
  rw [Tree.markups, closer, List.map_cons, List.map_append]
  apply run_cons.mpr
  refine ⟨_, step_of_opening made opens, ?_⟩
  rw [run_append, inside]
  apply run_singleton
  apply step_of_close isClose (checkClose_of_permissive permissive _ _)
  exact closed ▸ added

theorem rebuilds_alternative (rules : builder.registry = .standard) {node : Node}
    {children : List Tree} (writable : node.content.Writable) (alternative : node.kind = .alternative)
    (siblings : Tree.Siblings node.kind children)
    (rebuilds : ∀ child ∈ children, builder.Rebuilds child) :
    builder.Rebuilds (.mk node children) := by
  intro scope scope' outer added fits
  have made := makeNode_markup rules writable
  have conditional := fits alternative
  have plain : node.createsScope = false := by rw [Node.createsScope, alternative]; rfl
  have closer : node.closer = [] := by rw [Node.closer, plain, if_neg Bool.false_ne_true]
  have others : ∀ child ∈ children.map Tree.tagged, child.node.kind ≠ .alternative := by
    intro child member
    obtain ⟨original, among, rfl⟩ := List.mem_map.mp member
    rw [Tree.kind_tagged]
    intro another
    rw [siblings.conditional among another] at alternative
    cases alternative
  rcases Scope.add_cases added with ⟨_, _, _, other, _⟩ | ⟨before, -, -, rfl⟩ | ⟨_, notBoth, _⟩
  · exact absurd alternative other
  · have receives : scope.node.isLeaf = false := by rw [Node.isLeaf, conditional]; rfl
    have first : scope.add (.mk node.content.opened []) =
        .ok { scope with alternative := some (node.content.opened, []) } := by
      rw [Scope.add, receives, if_neg Bool.false_ne_true, before]
      exact if_pos ⟨conditional, alternative⟩
    rw [Tree.markups, closer, List.append_nil, List.map_cons]
    apply run_cons.mpr
    refine ⟨_, step_of_plain made plain first, ?_⟩
    apply run_siblings rebuilds
    · rw [Scope.foldlM_add_eq_extend (by exact receives) fun child member => .inl (others child member)]
      simp [Scope.extend, Tree.tagged, Tree.taggedAll_eq, Tree.node, Tree.children,
        Node.tagged_of_plain plain]
    · intro child member another
      rw [siblings.conditional member another] at alternative
      cases alternative
  · exact absurd ⟨conditional, alternative⟩ notBoth

theorem rebuilds_of_writable (rules : builder.registry = .standard) (permissive : builder.strict = false)
    {tree : Tree} (writable : tree.Writable) : builder.Rebuilds tree := by
  induction writable with
  | @mk node children content closing leaf siblings below ih =>
      rcases content.kind_cases with opens | isLeaf | alternative
      · obtain ⟨text, closes, isClosing⟩ := closing opens
        exact rebuilds_scope rules permissive content opens closes isClosing siblings ih
      · obtain rfl := leaf isLeaf
        exact rebuilds_leaf rules content isLeaf
      · exact rebuilds_alternative rules content alternative siblings ih

end Builder

/-- Compiling undoes rendering: the tree of a rendering has the nodes that were rendered, with the
tags that they were written as. -/
theorem Compiler.compile_render {compiler : Compiler} (delimiters : compiler.config.delimiters = .standard)
    (rules : compiler.registry = .standard) (permissive : compiler.config.strictClosing = false)
    {trees : List Tree} (siblings : Tree.Siblings .root trees)
    (writable : ∀ tree ∈ trees, tree.Writable) (sourceId : Text) :
    compiler.compile (Tree.render trees) sourceId = .ok (.mk (.root sourceId) (trees.map Tree.tagged)) := by
  have opens : (Node.root sourceId).createsScope = true := rfl
  obtain ⟨root, received, node, contents⟩ := Scope.exists_foldlM_add opens siblings.tagged
  have ran : compiler.builder.run [{ node := .root sourceId }]
      ((Tree.markupsAll trees).map (Markup.fragment .standard)) = .ok [root] := by
    apply Builder.run_siblings _ received
    · exact fun tree member => siblings.conditional member
    · exact fun tree member => Builder.rebuilds_of_writable rules permissive (writable tree member)
  have fragments : compiler.tokenize (Tree.render trees) =
      (Tree.markupsAll trees).map (Markup.fragment .standard) := by
    rw [tokenize, delimiters, Tree.tokenize_render siblings writable]
  rw [compile, fragments, Builder.build, ran]
  change Except.ok root.tree = _
  rw [Scope.tree_eq, node, contents]

theorem Compiler.compile_render_conditional :
    ({} : Compiler).compile "\x7b% if x %\x7da\x7b% else %\x7d\x7b% end %\x7d".toList [] =
      .ok (.mk (.root []) [.mk
        { content := .conditional ['x'], tag := some "if x".toList, closing := some Fragment.endWord }
        [.mk { content := .text ['a'], tag := some ['a'] } [],
          .mk { content := .alternative, tag := some Kind.alternative.name } []]]) := by
  have text : Tree.Writable (.mk { content := .text ['a'] } []) := by
    refine .mk ⟨by decide, by decide⟩ (fun opens => ?_) (fun _ => rfl) ⟨.nil, ?_, ?_⟩ ?_
    · cases opens
    all_goals simp
  have alternative : Tree.Writable (.mk { content := .alternative } []) := by
    refine .mk trivial (fun opens => ?_) (fun _ => rfl) ⟨.nil, ?_, ?_⟩ ?_
    · cases opens
    all_goals simp
  have inline : Text.Inline ['x'] := ⟨by decide, by decide, by decide, by decide, by decide⟩
  have closing : Text.IsClosing Fragment.endWord :=
    ⟨by decide, by decide, by decide, by decide, [], by decide, List.forall_mem_nil _⟩
  have children : Tree.Siblings .conditional
      [.mk { content := .text ['a'] } [], .mk { content := .alternative } []] := by
    refine ⟨.cons_cons (.inr (by decide)) (.singleton _), ?_, fun _ _ _ => rfl⟩
    exact List.forall_mem_singleton.mpr (by decide)
  have conditional : Tree.Writable (.mk
      { content := .conditional ['x'], closing := some Fragment.endWord }
      [.mk { content := .text ['a'] } [], .mk { content := .alternative } []]) := by
    refine .mk ⟨inline, by decide⟩ (fun _ => ⟨_, rfl, closing⟩) (fun isLeaf => ?_) children ?_
    · cases isLeaf
    · simpa using ⟨text, alternative⟩
  have siblings : Tree.Siblings .root [.mk
      { content := .conditional ['x'], closing := some Fragment.endWord }
      [.mk { content := .text ['a'] } [], .mk { content := .alternative } []]] := by
    refine ⟨.singleton _, List.forall_mem_nil _, ?_⟩
    rintro tree ⟨⟩ isAlternative
    cases isAlternative
  exact compile_render rfl rfl rfl siblings (List.forall_mem_singleton.mpr conditional) []

end TemplateTree
