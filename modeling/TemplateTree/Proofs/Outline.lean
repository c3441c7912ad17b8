import TemplateTree.Proofs.Strictness
import TemplateTree.Proofs.TagReading

/-!
# Outlines

An outline keeps what makes structure: it has no texts, no expressions, and closing tags without
content. `Builder.build_outline` says that the outline of a document makes the outline of its tree,
or fails as the document does.
-/

namespace TemplateTree

/-! ## Outlines of documents and trees -/

def Kind.isInline : Kind → Bool
  | text | expression => true
  | _ => false

theorem Node.isInline_of_opens {node : Node} (opens : node.createsScope = true) :
    node.kind.isInline = false := by
  unfold createsScope at opens
  cases kind : node.kind <;> simp_all [Kind.isInline, Kind.createsScope]

namespace Fragment

def isInline (fragment : Fragment) : Bool :=
  fragment.kind = .text || fragment.kind = .variableTag

def bare (fragment : Fragment) : Fragment where
  raw := []
  kind := fragment.kind
  clean := if fragment.kind = .closeTag then [] else fragment.clean

def outline (fragments : List Fragment) : List Fragment :=
  (fragments.filter (!·.isInline)).map bare

end Fragment

namespace Tree

mutual

/-- The tree without texts and expressions below its root, and with empty closing tags. -/
def outline : Tree → Tree
  | mk node children => mk (node.reclose []) (outlineAll children)

def outlineAll : List Tree → List Tree
  | [] => []
  | tree :: trees =>
      if tree.node.kind.isInline then outlineAll trees else outline tree :: outlineAll trees

end

theorem outlineAll_eq (trees : List Tree) :
    outlineAll trees = (trees.filter (!·.node.kind.isInline)).map outline := by
  induction trees with
  | nil => rfl
  | cons tree trees ih => cases inline : tree.node.kind.isInline <;> simp [outlineAll, inline, ih]

@[simp] theorem outlineAll_append (first second : List Tree) :
    outlineAll (first ++ second) = outlineAll first ++ outlineAll second := by
  simp [outlineAll_eq]

@[simp] theorem outlineAll_reverse (trees : List Tree) :
    outlineAll trees.reverse = (outlineAll trees).reverse := by
  simp [outlineAll_eq]

@[simp] theorem node_outline (tree : Tree) : tree.outline.node = tree.node.reclose [] := by
  cases tree
  rfl

@[simp] theorem children_outline (tree : Tree) : tree.outline.children = outlineAll tree.children := by
  cases tree
  rfl

end Tree

/-! ## Open scopes -/

namespace Scope

def outline (scope : Scope) : Scope where
  node := scope.node.reclose []
  children := Tree.outlineAll scope.children
  alternative := scope.alternative.map fun (node, children) =>
    (node.reclose [], Tree.outlineAll children)

variable {scope : Scope}

theorem Sound.node_outline (sound : scope.Sound) : scope.outline.node = scope.node :=
  Node.reclose_of_unclosed sound.unclosed []

theorem tree_outline (scope : Scope)
    (alternative : ∀ node children, scope.alternative = some (node, children) → node.kind = .alternative) :
    scope.outline.tree = scope.tree.outline := by
  unfold tree outline
  cases found : scope.alternative with
  | none => simp [Tree.outline]
  | some inner =>
      have kept : inner.1.kind.isInline = false := by
        rw [alternative _ _ found]
        rfl
      simp [Tree.outline, Tree.outlineAll, Tree.node, kept]

theorem Sound.close_outline (sound : scope.Sound) (closing : Text) :
    scope.outline.close [] = (scope.close closing).outline := by
  have alternative := fun node children found => (sound.alternative node children found).2
  exact tree_outline { scope with node := scope.node.close closing } alternative

theorem Sound.add_outline (sound : scope.Sound) (child : Tree) (kept : child.node.kind.isInline = false) :
    scope.outline.add child.outline = (scope.add child).map outline := by
  have receives := Node.isLeaf_of_opens sound.opens
  have same : scope.node.reclose [] = scope.node := sound.node_outline
  have receives' : scope.outline.node.isLeaf = false := by rw [sound.node_outline, receives]
  have child' : child.outline.node = child.node.reclose [] := Tree.node_outline child
  have kind : (child.node.reclose []).kind = child.node.kind := rfl
  unfold Scope.add
  rw [receives', receives, child', kind, sound.node_outline]
  simp only [Bool.false_eq_true, if_false]
  cases found : scope.alternative with
  | some inner =>
      have found' : scope.outline.alternative = some (inner.1.reclose [], Tree.outlineAll inner.2) := by
        simp [outline, found]
      rw [found']
      by_cases second : child.node.kind = .alternative
      · simp only [second, if_true]
        rfl
      · simp [second, Except.map, outline, Tree.outlineAll, kept, same]
  | none =>
      have found' : scope.outline.alternative = none := by simp [outline, found]
      rw [found']
      by_cases both : scope.node.kind = .conditional ∧ child.node.kind = .alternative
      · simp [both, Except.map, outline, same]
      · simp [both, Except.map, outline, Tree.outlineAll, kept, same, found]

theorem Sound.add_inline (sound : scope.Sound) (child : Tree) (inline : child.node.kind.isInline = true) :
    ∃ scope', scope.add child = .ok scope' ∧ scope'.outline = scope.outline := by
  have other : child.node.kind ≠ .alternative := by
    intro kind
    rw [kind] at inline
    cases inline
  obtain ⟨scope', added⟩ := sound.exists_add fun _ => other
  refine ⟨scope', added, ?_⟩
  rcases add_cases added with ⟨node, children, before, -, rfl⟩ | ⟨-, -, kind, -⟩ | ⟨-, -, rfl⟩
  · simp [outline, before, Tree.outlineAll, inline]
  · exact absurd kind other
  · simp [outline, Tree.outlineAll, inline]

end Scope

/-! ## Fragments -/

def Registry.Structural (registry : Registry) : Prop :=
  ∀ rule ∈ registry.rules, rule.kind.isInline = false

theorem Registry.structural_standard : Registry.standard.Structural := by
  unfold Structural standard TagRule.builtIn
  decide

namespace Builder

variable {registry : Registry} {builder : Builder} {fragment : Fragment}
  {scope : Scope} {scopes : List Scope} {sourceId : Text} {node : Node}

theorem exists_rule_of_makeNode (opens : fragment.kind = .openTag)
    (made : builder.makeNode fragment = .ok node) :
    ∃ rule ∈ builder.registry.rules, rule.kind = node.kind := by
  rw [makeNode, opens] at made
  obtain ⟨rule, resolved, made⟩ := bind_eq_ok.mp made
  exact ⟨rule, (Registry.accepts_of_resolve resolved).1, (Node.kind_ofFragment made).symm⟩

theorem isInline_of_makeNode (structural : builder.registry.Structural)
    (made : builder.makeNode fragment = .ok node) : node.kind.isInline = fragment.isInline := by
  cases kind : fragment.kind with
  | text =>
      rw [makeNode, kind] at made
      rw [Node.kind_ofFragment made, Fragment.isInline, kind]
      rfl
  | variableTag =>
      rw [makeNode, kind] at made
      rw [Node.kind_ofFragment made, Fragment.isInline, kind]
      rfl
  | openTag =>
      obtain ⟨rule, member, same⟩ := exists_rule_of_makeNode kind made
      rw [← same, structural rule member, Fragment.isInline, kind]
      rfl
  | closeTag => exact absurd kind (makeNode_ok made).1
  | unknown name =>
      rw [makeNode, kind] at made
      cases made

theorem exists_makeNode_of_inline (builder : Builder) (inline : fragment.isInline = true) :
    ∃ node, builder.makeNode fragment = .ok node := by
  rw [Fragment.isInline, Bool.or_eq_true, decide_eq_true_eq, decide_eq_true_eq] at inline
  rcases inline with kind | kind
  · exact ⟨_, by rw [makeNode, kind]; rfl⟩
  · exact ⟨_, by rw [makeNode, kind]; rfl⟩

theorem makeNode_bare (structural : builder.registry.Structural)
    (kept : fragment.isInline = false) (makes : fragment.kind ≠ .closeTag) :
    builder.makeNode fragment.bare = builder.makeNode fragment := by
  have clean : fragment.bare.clean = fragment.clean := if_neg makes
  have kind : fragment.bare.kind = fragment.kind := rfl
  unfold makeNode
  rw [kind, clean]
  cases here : fragment.kind with
  | text => simp [Fragment.isInline, here] at kept
  | variableTag => simp [Fragment.isInline, here] at kept
  | closeTag => rfl
  | unknown name => rfl
  | openTag =>
      unfold Registry.resolve
      cases found : builder.registry.rules.find? (·.pattern fragment.clean) with
      | none => rfl
      | some rule =>
          have inside := structural rule (List.mem_of_find?_eq_some found)
          have notText : rule.kind ≠ .text := by
            intro isText
            rw [isText] at inside
            cases inside
          exact Node.ofFragment_congr notText clean

/-! ## Runs -/

theorem outline_opened (made : builder.makeNode fragment = .ok node) :
    ({ node := node } : Scope).outline = { node := node } := by
  have same := Node.reclose_of_unclosed (makeNode_ok made).2.2 []
  simp [Scope.outline, Tree.outlineAll, same]

theorem step_inline (sound : ∀ scope ∈ scopes, scope.Sound) (some : scopes ≠ [])
    (structural : builder.registry.Structural) (inline : fragment.isInline = true) :
    ∃ scopes', builder.step scopes fragment = .ok scopes' ∧
      scopes'.map Scope.outline = scopes.map Scope.outline := by
  obtain ⟨node, made⟩ := exists_makeNode_of_inline builder inline
  have inlineNode : node.kind.isInline = true := by rw [isInline_of_makeNode structural made, inline]
  have plain : node.createsScope = false := by
    by_contra opens
    rw [Node.isInline_of_opens (by simpa using opens)] at inlineNode
    cases inlineNode
  cases scopes with
  | nil => exact absurd rfl some
  | cons scope outer =>
      obtain ⟨scope', added, same⟩ :=
        (sound scope List.mem_cons_self).add_inline (.mk node []) inlineNode
      exact ⟨scope' :: outer, step_of_plain made plain added, by simp [same]⟩

theorem step_outline (sound : ∀ scope ∈ scopes, scope.Sound) (permissive : builder.strict = false)
    (structural : builder.registry.Structural) (kept : fragment.isInline = false) :
    builder.step (scopes.map Scope.outline) fragment.bare =
      (builder.step scopes fragment).map (List.map Scope.outline) := by
  have checked (node : Node) (closing : Text) : builder.checkClose node closing = .ok () :=
    checkClose_of_permissive permissive node closing
  cases scopes with
  | nil => rfl
  | cons scope outer =>
      obtain ⟨here, around⟩ := List.forall_mem_cons.mp sound
      by_cases closes : fragment.kind = .closeTag
      · have closes' : fragment.bare.kind = .closeTag := closes
        have clean : fragment.bare.clean = [] := if_pos closes
        cases outer with
        | nil => simp [step, closes, closes', Except.map]
        | cons parent outer =>
            have keptTree : (scope.close fragment.clean).node.kind.isInline = false := by
              rw [Scope.close_eq]
              exact Node.isInline_of_opens here.opens
            have added := (around parent List.mem_cons_self).add_outline _ keptTree
            rw [← here.close_outline] at added
            simp only [step, List.map_cons, closes, closes', clean, if_true, checked, added]
            cases parent.add (scope.close fragment.clean) <;> rfl
      · have makes' : fragment.bare.kind ≠ .closeTag := closes
        simp only [step, List.map_cons, closes, makes', if_false, makeNode_bare structural kept closes]
        cases made : builder.makeNode fragment with
        | error error => rfl
        | ok node =>
            have outlined := outline_opened made
            have keptNode : node.kind.isInline = false := by
              rw [isInline_of_makeNode structural made, kept]
            cases opens : node.createsScope with
            | true => simp [bind, Except.bind, pure, Except.pure, Except.map, opens, outlined]
            | false =>
                have same := Node.reclose_of_unclosed (makeNode_ok made).2.2 []
                have added := here.add_outline (.mk node []) keptNode
                rw [Tree.outline, same, Tree.outlineAll] at added
                simp only [bind, Except.bind, opens, added]
                cases scope.add (.mk node []) <;> rfl

theorem run_outline (fragments : List Fragment) (sound : ∀ scope ∈ scopes, scope.Sound)
    (some : scopes ≠ []) (permissive : builder.strict = false) (structural : builder.registry.Structural) :
    builder.run (scopes.map Scope.outline) (Fragment.outline fragments) =
      (builder.run scopes fragments).map (List.map Scope.outline) := by
  induction fragments generalizing scopes with
  | nil => rfl
  | cons fragment fragments ih =>
      cases inline : fragment.isInline with
      | true =>
          obtain ⟨between, stepped, same⟩ := step_inline sound some structural inline
          have skipped : Fragment.outline (fragment :: fragments) = Fragment.outline fragments := by
            simp [Fragment.outline, inline]
          rw [skipped, run, stepped, ← same]
          exact ih (sound_step sound stepped) (step_ne_nil stepped)
      | false =>
          have kept : Fragment.outline (fragment :: fragments) =
              fragment.bare :: Fragment.outline fragments := by
            simp [Fragment.outline, inline]
          rw [kept, run, run, step_outline sound permissive structural inline]
          cases stepped : builder.step scopes fragment with
          | error error => rfl
          | ok between => exact ih (sound_step sound stepped) (step_ne_nil stepped)

theorem finish_outline (sound : ∀ scope ∈ scopes, scope.Sound) :
    finish (scopes.map Scope.outline) = (finish scopes).map Tree.outline := by
  match scopes with
  | [] => rfl
  | [root] =>
      have alternative := fun node children found =>
        ((sound root List.mem_cons_self).alternative node children found).2
      simp [finish, Except.map, Scope.tree_outline root alternative]
  | scope :: parent :: outer =>
      simp [finish, Except.map, (sound scope List.mem_cons_self).node_outline]

/-- The outline of a document makes the outline of its tree, or fails as the document does. -/
theorem build_outline (permissive : builder.strict = false)
    (structural : builder.registry.Structural) (fragments : List Fragment) (sourceId : Text) :
    builder.build (Fragment.outline fragments) sourceId =
      (builder.build fragments sourceId).map Tree.outline := by
  have start : [({ node := .root sourceId } : Scope)].map Scope.outline =
      [{ node := .root sourceId }] := rfl
  have ran := run_outline fragments (sound_root sourceId) (List.cons_ne_nil _ _) permissive structural
  rw [start] at ran
  unfold build
  rw [ran]
  cases reached : builder.run [{ node := .root sourceId }] fragments with
  | error error => rfl
  | ok scopes => exact finish_outline (sound_run (sound_root sourceId) reached)

/-- Documents with one outline have trees with one outline, or they fail with one error. -/
theorem build_of_outline_eq {first second : List Fragment}
    (same : Fragment.outline first = Fragment.outline second) (sourceId : Text) :
    (∃ tree tree', Registry.standard.permissive.build first sourceId = .ok tree ∧
      Registry.standard.permissive.build second sourceId = .ok tree' ∧ tree.outline = tree'.outline) ∨
    ∃ error, Registry.standard.permissive.build first sourceId = .error error ∧
      Registry.standard.permissive.build second sourceId = .error error := by
  have outlined (fragments : List Fragment) :
      Registry.standard.permissive.build (Fragment.outline fragments) sourceId =
        (Registry.standard.permissive.build fragments sourceId).map Tree.outline :=
    build_outline rfl Registry.structural_standard fragments sourceId
  have both := outlined first
  rw [same, outlined second] at both
  cases built : Registry.standard.permissive.build first sourceId with
  | ok tree =>
      cases built' : Registry.standard.permissive.build second sourceId with
      | ok tree' =>
          rw [built, built'] at both
          exact .inl ⟨tree, tree', rfl, rfl, (Except.ok.inj both).symm⟩
      | error error =>
          rw [built, built'] at both
          cases both
  | error error =>
      cases built' : Registry.standard.permissive.build second sourceId with
      | ok tree' =>
          rw [built, built'] at both
          cases both
      | error error' =>
          rw [built, built'] at both
          obtain rfl := Except.error.inj both
          exact .inr ⟨_, rfl, rfl⟩

theorem build_of_outline_eq_alternative :
    Fragment.outline [.ofText ['a'], .ofBlock [] "if x".toList, .ofBlock [] Kind.alternative.name,
        ⟨[], .variableTag, ['y']⟩, .ofBlock [] "endif".toList] =
      Fragment.outline [.ofBlock [] "if x".toList, .ofText ['b'], .ofBlock [] Kind.alternative.name,
        .ofBlock [] "endfor".toList] ∧
    ∃ tree tree', Registry.standard.permissive.build
        [.ofText ['a'], .ofBlock [] "if x".toList, .ofBlock [] Kind.alternative.name,
          ⟨[], .variableTag, ['y']⟩, .ofBlock [] "endif".toList] [] = .ok tree ∧
      Registry.standard.permissive.build [.ofBlock [] "if x".toList, .ofText ['b'],
        .ofBlock [] Kind.alternative.name, .ofBlock [] "endfor".toList] [] = .ok tree' ∧
      tree.outline = tree'.outline := by
  have same : Fragment.outline [.ofText ['a'], .ofBlock [] "if x".toList,
        .ofBlock [] Kind.alternative.name, ⟨[], .variableTag, ['y']⟩, .ofBlock [] "endif".toList] =
      Fragment.outline [.ofBlock [] "if x".toList, .ofText ['b'], .ofBlock [] Kind.alternative.name,
        .ofBlock [] "endfor".toList] := by
    decide
  refine ⟨same, ?_⟩
  rcases build_of_outline_eq same [] with built | ⟨error, failed, -⟩
  · exact built
  · cases failed

end Builder

end TemplateTree
