import TemplateTree.Proofs.Links
import TemplateTree.Proofs.Emission

/-!
# Trees with numbered nodes

The nodes of a tree are numbered in the order of a walk. `Builder.document_eq` says that linking the
nodes of a document one by one gives the nodes of its tree with these numbers.
-/

namespace TemplateTree
namespace Tree

def numbers (first : Nat) : List Tree → List NodeId
  | [] => []
  | tree :: trees => first :: numbers (first + tree.size) trees

def alternativeFrom (first : Nat) : List Tree → Option NodeId
  | [] => none
  | tree :: trees =>
      if tree.node.kind = .alternative then some first else alternativeFrom (first + tree.size) trees

mutual

def cells (first : Nat) : Tree → List Cell
  | mk node children =>
      { node
        children := numbers (first + 1) children
        alternative :=
          if node.kind = .conditional then alternativeFrom (first + 1) children else none } ::
        cellsAll (first + 1) children

def cellsAll (first : Nat) : List Tree → List Cell
  | [] => []
  | tree :: trees => cells first tree ++ cellsAll (first + tree.size) trees

end

def sizeAll (trees : List Tree) : Nat := (walkAll trees).length

@[simp] theorem sizeAll_nil : sizeAll [] = 0 := rfl

@[simp] theorem sizeAll_append (front back : List Tree) :
    sizeAll (front ++ back) = sizeAll front + sizeAll back := by
  simp [sizeAll]

@[simp] theorem sizeAll_singleton (tree : Tree) : sizeAll [tree] = tree.size := by
  simp [sizeAll, size]

theorem sizeAll_cons (tree : Tree) (trees : List Tree) :
    sizeAll (tree :: trees) = tree.size + sizeAll trees := by
  simp [sizeAll, size, walkAll]

theorem size_mk (node : Node) (children : List Tree) :
    (mk node children).size = 1 + sizeAll children := by
  rw [size, walk, List.length_cons, sizeAll, Nat.add_comm]

mutual

theorem length_cells (first : Nat) (tree : Tree) : (tree.cells first).length = tree.size := by
  cases tree with
  | mk node children =>
      rw [cells, List.length_cons, length_cellsAll (first + 1) children, size_mk, Nat.add_comm]

theorem length_cellsAll (first : Nat) (trees : List Tree) :
    (cellsAll first trees).length = sizeAll trees := by
  cases trees with
  | nil => rfl
  | cons tree trees =>
      rw [cellsAll, List.length_append, length_cells first tree,
        length_cellsAll (first + tree.size) trees, sizeAll_cons]

end

theorem numbers_append (first : Nat) (front back : List Tree) :
    numbers first (front ++ back) = numbers first front ++ numbers (first + sizeAll front) back := by
  induction front generalizing first with
  | nil => rfl
  | cons tree trees ih =>
      simp only [List.cons_append, numbers, ih, sizeAll_cons, Nat.add_assoc]

theorem cellsAll_append (first : Nat) (front back : List Tree) :
    cellsAll first (front ++ back) =
      cellsAll first front ++ cellsAll (first + sizeAll front) back := by
  induction front generalizing first with
  | nil => rfl
  | cons tree trees ih =>
      simp only [List.cons_append, cellsAll, ih, sizeAll_cons, Nat.add_assoc, List.append_assoc]

theorem alternativeFrom_append {front : List Tree} (first : Nat) (back : List Tree)
    (others : ∀ tree ∈ front, tree.node.kind ≠ .alternative) :
    alternativeFrom first (front ++ back) = alternativeFrom (first + sizeAll front) back := by
  induction front generalizing first with
  | nil => rfl
  | cons tree trees ih =>
      obtain ⟨here, behind⟩ := List.forall_mem_cons.mp others
      rw [List.cons_append, alternativeFrom, if_neg here, ih _ behind, sizeAll_cons, Nat.add_assoc]

theorem alternativeFrom_of_others {trees : List Tree} (first : Nat)
    (others : ∀ tree ∈ trees, tree.node.kind ≠ .alternative) : alternativeFrom first trees = none := by
  have whole := alternativeFrom_append first [] others
  rwa [List.append_nil] at whole

end Tree

def Graph.ofTree (tree : Tree) : Graph := ⟨tree.cells 0⟩

/-! ## Open scopes with numbered nodes -/

namespace Scope

def last (first : Nat) (scope : Scope) : Nat := first + 1 + Tree.sizeAll scope.children.reverse

/-- The node of an open scope that has the given number. Where `inner` are children to come, they
follow the last ones. -/
def head (first : Nat) (inner : List NodeId) (scope : Scope) : Cell where
  node := scope.node
  children := Tree.numbers (first + 1) scope.children.reverse ++
    if scope.alternative.isSome then [scope.last first] else inner
  alternative := if scope.alternative.isSome then some (scope.last first) else none

def below (first : Nat) (inner : List NodeId) (scope : Scope) : List Cell :=
  Tree.cellsAll (first + 1) scope.children.reverse ++
    match scope.alternative with
    | none => []
    | some (node, children) =>
        { node, children := Tree.numbers (scope.last first + 1) children.reverse ++ inner } ::
          Tree.cellsAll (scope.last first + 1) children.reverse

def cells (first : Nat) (inner : List NodeId) (scope : Scope) : List Cell :=
  scope.head first inner :: scope.below first inner

def size (scope : Scope) : Nat := scope.tree.size

def Parted (scope : Scope) : Prop :=
  scope.node.kind = .conditional → ∀ child ∈ scope.children, child.node.kind ≠ .alternative

variable {scope scope' : Scope} {child : Tree}

theorem Parted.add (parted : scope.Parted) (added : scope.add child = .ok scope') : scope'.Parted := by
  rcases add_cases added with ⟨_, _, _, _, rfl⟩ | ⟨_, _, _, rfl⟩ | ⟨_, other, rfl⟩
  · exact parted
  · exact parted
  · intro conditional
    refine List.forall_mem_cons.mpr ⟨fun kind => other ⟨conditional, kind⟩, parted conditional⟩

theorem cells_eq (scope : Scope) (parted : scope.Parted) (alternatives : ∀ node children,
      scope.alternative = some (node, children) → scope.node.kind = .conditional ∧
        node.kind = .alternative) (first : Nat) :
    scope.cells first [] = scope.tree.cells first := by
  have others (conditional : scope.node.kind = .conditional) :
      ∀ child ∈ scope.children.reverse, child.node.kind ≠ .alternative := by
    intro child member
    exact parted conditional child (List.mem_reverse.mp member)
  unfold cells head below tree
  cases alternative : scope.alternative with
  | none =>
      by_cases conditional : scope.node.kind = .conditional
      · simp [Tree.cells, Tree.alternativeFrom_of_others _ (others conditional)]
      · simp [Tree.cells, conditional]
  | some inner =>
      obtain ⟨node, children⟩ := inner
      obtain ⟨conditional, kind⟩ := alternatives node children alternative
      simp [Tree.cells, conditional, Tree.alternativeFrom_append _ _ (others conditional),
        Tree.numbers_append, Tree.cellsAll_append, Tree.alternativeFrom, Tree.node, kind, Tree.numbers,
        Tree.cellsAll, last]

theorem cells_close (sound : scope.Sound) (parted : scope.Parted) (first : Nat) (closing : Text) :
    ({ scope with node := scope.node.close closing } : Scope).cells first [] =
      (scope.close closing).cells first :=
  cells_eq { scope with node := scope.node.close closing } parted sound.alternative first

theorem size_none (missing : scope.alternative = none) :
    scope.size = 1 + Tree.sizeAll scope.children.reverse := by
  simp [size, tree, missing, Tree.size_mk]

theorem size_some {node : Node} {children : List Tree}
    (found : scope.alternative = some (node, children)) :
    scope.size = 2 + Tree.sizeAll scope.children.reverse + Tree.sizeAll children.reverse := by
  simp [size, tree, found, Tree.size_mk]
  omega

theorem length_cells (first : Nat) (inner : List NodeId) :
    (scope.cells first inner).length = scope.size := by
  unfold cells below
  cases found : scope.alternative with
  | none => simp [Tree.length_cellsAll, size_none found, Nat.add_comm]
  | some alternative =>
      simp [Tree.length_cellsAll, size_some found]
      omega

theorem cells_add (first : Nat) (added : scope.add child = .ok scope')
    (plain : child.node.kind = .alternative → scope.node.kind ≠ .conditional) :
    scope'.cells first [] =
      scope.cells first [first + scope.size] ++ child.cells (first + scope.size) := by
  rcases add_cases added with ⟨node, children, before, -, rfl⟩ | ⟨-, conditional, kind, -⟩ |
    ⟨before, -, rfl⟩
  · have behind : first + scope.size =
        first + 1 + Tree.sizeAll scope.children.reverse + 1 + Tree.sizeAll children.reverse := by
      rw [size_some before]
      omega
    simp [cells, head, below, last, before, Tree.numbers_append, Tree.cellsAll_append, Tree.numbers,
      Tree.cellsAll, behind]
  · exact absurd conditional (plain kind)
  · have behind : first + scope.size = first + 1 + Tree.sizeAll scope.children.reverse := by
      rw [size_none before]
      omega
    simp [cells, head, below, before, Tree.numbers_append, Tree.cellsAll_append, Tree.numbers,
      Tree.cellsAll, behind]

end Scope

namespace Graph

variable {front back : List Cell} {cell : Cell}

theorem cell?_middle (front : List Cell) (cell : Cell) (back : List Cell) :
    (⟨front ++ cell :: back⟩ : Graph).cell? front.length = some cell := by
  rw [cell?, List.getElem?_append_right (Nat.le_refl _), Nat.sub_self]
  rfl

theorem replace_middle (front : List Cell) (old cell : Cell) (back : List Cell) :
    (⟨front ++ old :: back⟩ : Graph).replace front.length cell = ⟨front ++ cell :: back⟩ := by
  rw [replace, List.set_append_right _ _ (Nat.le_refl _), Nat.sub_self]
  rfl

theorem append_middle (front : List Cell) (cell : Cell) (back : List Cell) (child : NodeId) :
    (⟨front ++ cell :: back⟩ : Graph).append front.length child =
      ⟨front ++ { cell with children := cell.children ++ [child] } :: back⟩ := by
  rw [append, cell?_middle]
  exact replace_middle _ _ _ _

theorem cells_leaf (first : Nat) (node : Node) : (Tree.mk node []).cells first = [{ node := node }] := by
  simp [Tree.cells, Tree.numbers, Tree.cellsAll, Tree.alternativeFrom]

theorem cell?_cells (front : List Cell) (inner : List NodeId) (scope : Scope) (back : List Cell) :
    (⟨front ++ (scope.cells front.length inner ++ back)⟩ : Graph).cell? front.length =
      some (scope.head front.length inner) :=
  cell?_middle front _ _

theorem append_cells (front : List Cell) (scope : Scope) (back : List Cell) (child : NodeId) :
    (⟨front ++ (scope.cells front.length [] ++ back)⟩ : Graph).append
        ((scope.head front.length []).alternative.getD front.length) child =
      ⟨front ++ (scope.cells front.length [child] ++ back)⟩ := by
  cases found : scope.alternative with
  | none => simp [Scope.cells, Scope.head, Scope.below, found, append_middle]
  | some alternative =>
      obtain ⟨node, children⟩ := alternative
      have length : (front ++ scope.head front.length [] ::
          Tree.cellsAll (front.length + 1) scope.children.reverse).length = scope.last front.length := by
        simp [Tree.length_cellsAll, Scope.last]
        omega
      have middle := append_middle
        (front ++ scope.head front.length [] :: Tree.cellsAll (front.length + 1) scope.children.reverse)
        { node, children := Tree.numbers (scope.last front.length + 1) children.reverse }
        (Tree.cellsAll (scope.last front.length + 1) children.reverse ++ back) child
      rw [length] at middle
      simpa [Scope.cells, Scope.head, Scope.below, found] using middle

theorem append_created {scope scope' : Scope} {node : Node} (front : List Cell)
    (added : scope.add (.mk node []) = .ok scope')
    (plain : node.kind = .alternative → scope.node.kind ≠ .conditional) :
    (⟨front ++ (scope.cells front.length [] ++ [{ node := node }])⟩ : Graph).append
        ((scope.head front.length []).alternative.getD front.length) (front.length + scope.size) =
      ⟨front ++ scope'.cells front.length []⟩ := by
  rw [append_cells, Scope.cells_add front.length added plain, cells_leaf]

theorem replace_created {scope : Scope} (node : Node) (front : List Cell)
    (missing : scope.alternative = none) :
    (⟨front ++ (scope.cells front.length [] ++ [{ node := node }])⟩ : Graph).replace front.length
        { node := scope.node
          children := (scope.head front.length []).children ++ [front.length + scope.size]
          alternative := some (front.length + scope.size) } =
      ⟨front ++ ({ scope with alternative := some (node, []) } : Scope).cells front.length []⟩ := by
  have place : scope.last front.length = front.length + scope.size := by
    rw [Scope.last, Scope.size_none missing]
    omega
  rw [Scope.cells, List.cons_append, replace_middle, ← place]
  simp [Scope.cells, Scope.head, Scope.below, Scope.last, missing, Tree.numbers, Tree.cellsAll]

/-- Linking a new node to the last scope of a graph is adding it to that scope. -/
theorem addChild_cells {scope : Scope} (sound : scope.Sound) (front : List Cell) (node : Node) :
    ((⟨front ++ scope.cells front.length []⟩ : Graph).create node).1.addChild front.length
        (front.length + scope.size) =
      (scope.add (.mk node [])).map fun scope' => ⟨front ++ scope'.cells front.length []⟩ := by
  have created : (⟨front ++ (scope.cells front.length [] ++ [{ node := node }])⟩ : Graph).cell?
      (front.length + scope.size) = some { node := node } := by
    have middle := cell?_middle (front ++ scope.cells front.length []) { node := node } []
    rwa [List.length_append, Scope.length_cells, List.append_assoc] at middle
  have head : (scope.head front.length []).node = scope.node := rfl
  have leaf : ¬ scope.node.isLeaf = true := by
    rw [Node.isLeaf_of_opens sound.opens]
    exact Bool.false_ne_true
  rw [create, List.append_assoc, addChild, created, cell?_cells]
  dsimp only
  rw [head, if_neg leaf]
  by_cases conditional : scope.node.kind = .conditional
  · rw [if_neg (not_not.mpr conditional)]
    by_cases alternative : node.kind = .alternative
    · rw [if_pos alternative]
      cases found : scope.alternative with
      | some inner => simp [Scope.head, Scope.add, leaf, found, Tree.node, alternative, Except.map]
      | none =>
          have free : ¬ (scope.head front.length []).alternative.isSome = true := by
            simp [Scope.head, found]
          rw [if_neg free, replace_created node front found]
          simp [Scope.add, leaf, found, Tree.node, Tree.children, conditional, alternative, Except.map]
    · obtain ⟨scope', added⟩ : ∃ scope', scope.add (.mk node []) = .ok scope' :=
        sound.exists_add fun _ => alternative
      rw [if_neg alternative, append_created front added fun kind => absurd kind alternative, added]
      rfl
  · have missing : scope.alternative = none := by
      cases found : scope.alternative with
      | none => rfl
      | some inner => exact absurd (sound.alternative inner.1 inner.2 found).1 conditional
    have own : (scope.head front.length []).alternative.getD front.length = front.length := by
      simp [Scope.head, missing]
    obtain ⟨scope', added⟩ : ∃ scope', scope.add (.mk node []) = .ok scope' :=
      sound.exists_add fun isSome => by rw [missing] at isSome; cases isSome
    have appended := append_created front added fun _ => conditional
    rw [own] at appended
    rw [if_pos conditional, appended, added]
    rfl

theorem close_cells (front : List Cell) (scope : Scope) (closing : Text) :
    (⟨front ++ scope.cells front.length []⟩ : Graph).close front.length closing =
      ⟨front ++ ({ scope with node := scope.node.close closing } : Scope).cells front.length []⟩ := by
  unfold Scope.cells
  rw [close, cell?_middle]
  exact replace_middle _ _ _ _

end Graph

/-! ## Stacks of open scopes -/

namespace Draft

def count : List Scope → Nat
  | [] => 0
  | scope :: outer => count outer + scope.size

def numbers : List Scope → List NodeId
  | [] => []
  | _ :: outer => count outer :: numbers outer

def cells (inner : List NodeId) : List Scope → List Cell
  | [] => []
  | scope :: outer => cells [count outer] outer ++ scope.cells (count outer) inner

structure Represents (draft : Draft) (scopes : List Scope) : Prop where
  graph : draft.graph = ⟨cells [] scopes⟩
  opened : draft.opened = numbers scopes
  sound : ∀ scope ∈ scopes, scope.Sound
  parted : ∀ scope ∈ scopes, scope.Parted

variable {scope parent : Scope} {outer scopes : List Scope}

theorem length_cells (inner : List NodeId) (scopes : List Scope) :
    (cells inner scopes).length = count scopes := by
  induction scopes generalizing inner with
  | nil => rfl
  | cons scope outer ih => rw [cells, List.length_append, ih, Scope.length_cells, count]

theorem count_pos (scope : Scope) (outer : List Scope) : 0 < count (scope :: outer) := by
  have size := Tree.size_mk scope.node scope.contents
  rw [← Scope.tree_eq, ← Scope.size] at size
  rw [count, size]
  omega

theorem node?_cells (scope : Scope) (outer : List Scope) :
    (⟨cells [] (scope :: outer)⟩ : Graph).node? (count outer) = some scope.node := by
  have found := Graph.cell?_cells (cells [count outer] outer) [] scope []
  rw [length_cells, List.append_nil] at found
  exact Graph.node?_of_cell? found

theorem cells_add {child : Tree} (added : scope.add child = .ok parent)
    (plain : child.node.kind = .alternative → scope.node.kind ≠ .conditional) :
    cells [] (parent :: outer) =
      cells [count (scope :: outer)] (scope :: outer) ++ child.cells (count (scope :: outer)) := by
  rw [cells, cells, Scope.cells_add (count outer) added plain, List.append_assoc]
  rfl

theorem close_cells (sound : scope.Sound) (parted : scope.Parted) {parent' : Scope} {closing : Text}
    (added : parent.add (scope.close closing) = .ok parent') :
    (⟨cells [] (scope :: parent :: outer)⟩ : Graph).close (count (parent :: outer)) closing =
      ⟨cells [] (parent' :: outer)⟩ := by
  have closed := Graph.close_cells (cells [count (parent :: outer)] (parent :: outer)) scope closing
  rw [length_cells, Scope.cells_close sound parted] at closed
  rw [cells, closed, cells_add added fun kind => absurd kind (sound.kind_close closing)]

theorem addChild_cells (sound : scope.Sound) (outer : List Scope) (node : Node) :
    ((⟨cells [] (scope :: outer)⟩ : Graph).create node).1.addChild (count outer)
        (count (scope :: outer)) =
      (scope.add (.mk node [])).map fun scope' => ⟨cells [] (scope' :: outer)⟩ := by
  have added := Graph.addChild_cells sound (cells [count outer] outer) node
  rwa [length_cells] at added

theorem cells_open {node : Node} (opens : node.createsScope = true)
    (added : scope.add (.mk node []) = .ok parent) :
    cells [] (parent :: outer) = cells [] ({ node := node } :: scope :: outer) := by
  have alone (first : Nat) : ({ node := node } : Scope).cells first [] = [{ node := node }] := by
    simp [Scope.cells, Scope.head, Scope.below, Tree.numbers, Tree.cellsAll]
  rw [cells_add added fun kind => absurd kind (Node.kind_of_opens opens), Graph.cells_leaf, ← alone]
  rfl

inductive Agree : Except TreeError Draft → Except TreeError (List Scope) → Prop
  | ok {draft : Draft} {scopes : List Scope} (represents : draft.Represents scopes) :
      Agree (.ok draft) (.ok scopes)
  | error (error : TreeError) : Agree (.error error) (.error error)

theorem Agree.bind {linked : Except TreeError Draft} {stepped : Except TreeError (List Scope)}
    {next : Draft → Except TreeError Draft} {next' : List Scope → Except TreeError (List Scope)}
    (agree : Agree linked stepped)
    (step : ∀ draft scopes, draft.Represents scopes → Agree (next draft) (next' scopes)) :
    Agree (linked >>= next) (stepped >>= next') := by
  cases agree with
  | ok represents => exact step _ _ represents
  | error error => exact .error error

end Draft

namespace Builder

open Draft

variable {builder : Builder} {draft : Draft} {scopes : List Scope} {fragment : Fragment}

theorem link_agrees_of_close (represents : draft.Represents scopes)
    (closes : fragment.kind = .closeTag) :
    Agree (builder.link draft fragment) (builder.step scopes fragment) := by
  obtain ⟨graph, opened, closed⟩ := draft
  obtain ⟨rfl, rfl, sound, parted⟩ := represents
  match scopes with
  | [] => exact .error .strayClose
  | [scope] =>
      simp only [link, step, numbers, closes, count, Draft.root, if_true]
      exact .error .strayClose
  | scope :: parent :: outer =>
      obtain ⟨here, around⟩ := List.forall_mem_cons.mp sound
      obtain ⟨parentSound, outerSound⟩ := List.forall_mem_cons.mp around
      obtain ⟨hereParted, aroundParted⟩ := List.forall_mem_cons.mp parted
      obtain ⟨parentParted, outerParted⟩ := List.forall_mem_cons.mp aroundParted
      obtain ⟨parent', added⟩ := parentSound.exists_add fun _ => here.kind_close fragment.clean
      have inner : count (parent :: outer) ≠ Draft.root := Nat.ne_of_gt (count_pos parent outer)
      simp only [link, step, numbers, closes, if_true]
      rw [if_neg inner, node?_cells, Option.elim_some]
      cases builder.checkClose scope.node fragment.clean with
      | error error => exact .error error
      | ok _ =>
          rw [added]
          refine .ok ⟨close_cells here hereParted added, rfl, ?_, ?_⟩
          · exact List.forall_mem_cons.mpr ⟨parentSound.add added, outerSound⟩
          · exact List.forall_mem_cons.mpr ⟨parentParted.add added, outerParted⟩

theorem link_agrees_of_make (represents : draft.Represents scopes)
    (makes : fragment.kind ≠ .closeTag) :
    Agree (builder.link draft fragment) (builder.step scopes fragment) := by
  obtain ⟨graph, opened, closed⟩ := draft
  obtain ⟨rfl, rfl, sound, parted⟩ := represents
  cases scopes with
  | nil => exact .error .strayClose
  | cons scope outer =>
      obtain ⟨here, around⟩ := List.forall_mem_cons.mp sound
      obtain ⟨hereParted, aroundParted⟩ := List.forall_mem_cons.mp parted
      simp only [link, step, numbers, makes, if_false]
      cases made : builder.makeNode fragment with
      | error error => exact .error error
      | ok node =>
          have new : ((⟨cells [] (scope :: outer)⟩ : Graph).create node).2 = count (scope :: outer) :=
            length_cells [] _
          simp only [bind, Except.bind]
          rw [new, addChild_cells here outer node]
          cases opens : node.createsScope with
          | true =>
              obtain ⟨scope', added⟩ : ∃ scope', scope.add (.mk node []) = .ok scope' :=
                here.exists_add fun _ => Node.kind_of_opens opens
              rw [added]
              refine .ok ⟨?_, rfl, ?_, ?_⟩
              · exact congrArg Graph.mk (cells_open opens added)
              · exact List.forall_mem_cons.mpr
                  ⟨Scope.sound_of_node opens (makeNode_ok made).2.2, sound⟩
              · exact List.forall_mem_cons.mpr ⟨fun _ => List.forall_mem_nil _, parted⟩
          | false =>
              cases added : scope.add (.mk node []) with
              | error error => exact .error error
              | ok scope' =>
                  refine .ok ⟨rfl, rfl, ?_, ?_⟩
                  · exact List.forall_mem_cons.mpr ⟨here.add added, around⟩
                  · exact List.forall_mem_cons.mpr ⟨hereParted.add added, aroundParted⟩

theorem link_agrees (represents : draft.Represents scopes) :
    Agree (builder.link draft fragment) (builder.step scopes fragment) := by
  by_cases closes : fragment.kind = .closeTag
  · exact link_agrees_of_close represents closes
  · exact link_agrees_of_make represents closes

theorem linkAll_agrees (represents : draft.Represents scopes) (fragments : List Fragment) :
    Agree (builder.linkAll draft fragments) (builder.run scopes fragments) := by
  induction fragments generalizing draft scopes with
  | nil => exact .ok represents
  | cons fragment fragments ih =>
      rw [linkAll, List.foldlM_cons, run]
      exact (link_agrees represents).bind fun _ _ represents => ih represents

theorem represents_start (sourceId : Text) :
    (Draft.start sourceId).Represents [{ node := .root sourceId }] where
  graph := rfl
  opened := rfl
  sound := sound_root sourceId
  parted := by
    intro scope member
    obtain rfl := List.mem_singleton.mp member
    exact fun _ => List.forall_mem_nil _

/-- Linking the nodes of a document one by one gives its tree, or the error of the document. -/
theorem document_eq (builder : Builder) (fragments : List Fragment) (sourceId : Text) :
    builder.document fragments sourceId = (builder.build fragments sourceId).map Graph.ofTree := by
  have agree : Agree (builder.linkAll (.start sourceId) fragments)
      (builder.run [{ node := .root sourceId }] fragments) :=
    linkAll_agrees (represents_start sourceId) fragments
  have reached (scopes : List Scope) : builder.run [{ node := .root sourceId }] fragments = .ok scopes →
      scopes ≠ [] :=
    run_ne_nil (List.cons_ne_nil _ _)
  unfold document build
  generalize builder.linkAll (.start sourceId) fragments = linked at agree ⊢
  generalize builder.run [{ node := .root sourceId }] fragments = ran at agree reached ⊢
  cases agree with
  | error error => rfl
  | @ok draft scopes represents =>
      obtain ⟨graph, opened, closed⟩ := draft
      obtain ⟨rfl, rfl, sound, parted⟩ := represents
      match scopes with
      | [] => exact absurd rfl (reached [] rfl)
      | [scope] =>
          have same := Scope.cells_eq scope (parted scope List.mem_cons_self)
            (sound scope List.mem_cons_self).alternative 0
          have whole : (⟨cells [] [scope]⟩ : Graph) = .ofTree scope.tree := by
            rw [Graph.ofTree, ← same]
            rfl
          exact congrArg Except.ok whole
      | scope :: parent :: outer =>
          have here := node?_cells scope (parent :: outer)
          simp only [bind, Except.bind, numbers, finish]
          rw [here]
          rfl

end Builder

end TemplateTree
