import Mathlib.Data.List.Forall2
import TemplateTree.Listing
import TemplateTree.Proofs.QuotedText
import TemplateTree.Proofs.TreeGraph

/-!
# What a listing tells

The lines of a listing are those of the nodes in the order of a walk. No data of a node can break its
line, and the line of a node tells its depth, its kind and, where no text is cut, its data. Depths in
the order of a walk determine the shape of a tree.
-/

namespace TemplateTree

/-! ## Descriptions of nodes -/

theorem Text.append_inj_of_members (isMember : Char → Bool) {front front' back back' : Text}
    (members : ∀ c ∈ front, isMember c = true) (members' : ∀ c ∈ front', isMember c = true)
    (outside : ∀ c ∈ back.head?, isMember c = false) (outside' : ∀ c ∈ back'.head?, isMember c = false)
    (same : front ++ back = front' ++ back') : front = front' ∧ back = back' := by
  obtain ⟨taken, dropped⟩ := span_append members outside
  obtain ⟨taken', dropped'⟩ := span_append members' outside'
  rw [same] at taken dropped
  exact ⟨taken.symm.trans taken', dropped.symm.trans dropped'⟩

theorem Text.notMem_ofNat {c : Char} (other : c.isDigit = false) (n : Nat) : c ∉ ofNat n := by
  intro member
  rw [isDigit_of_mem_ofNat member] at other
  cases other

theorem Text.ofNat_append_inj {m n : Nat} {mark : Char} {rest rest' : Text} (other : mark.isDigit = false)
    (same : ofNat m ++ mark :: rest = ofNat n ++ mark :: rest') : m = n ∧ rest = rest' := by
  have behind (rest : Text) : ∀ c ∈ (mark :: rest).head?, c.isDigit = false := by
    simpa using other
  obtain ⟨digits, behind⟩ := append_inj_of_members Char.isDigit (fun c => isDigit_of_mem_ofNat)
    (fun c => isDigit_of_mem_ofNat) (behind rest) (behind rest') same
  exact ⟨by rw [← digitsValue_ofNat m, digits, digitsValue_ofNat], (List.cons.inj behind).2⟩

theorem Kind.notMem_label (kind : Kind) : '\n' ∉ kind.label ∧ '(' ∉ kind.label ∧ ' ' ∉ kind.label := by
  cases kind <;> decide

theorem Kind.label_ne_nil (kind : Kind) : kind.label ≠ [] := by
  cases kind <;> decide

theorem Kind.label_injective {kind kind' : Kind} (same : kind.label = kind'.label) : kind = kind' := by
  revert same
  cases kind <;> cases kind' <;> decide

theorem Kind.label_append_inj {kind kind' : Kind} {rest rest' : Text}
    (same : kind.label ++ '(' :: rest = kind'.label ++ '(' :: rest') : kind = kind' ∧ rest = rest' := by
  have members (kind : Kind) : ∀ c ∈ kind.label, decide (c ≠ '(') = true :=
    fun c member => decide_eq_true fun same => kind.notMem_label.2.1 (same ▸ member)
  have behind (rest : Text) : ∀ c ∈ ('(' :: rest).head?, decide (c ≠ '(') = false := by simp
  obtain ⟨labels, behind⟩ := Text.append_inj_of_members (· ≠ '(') (members kind) (members kind')
    (behind rest) (behind rest') same
  exact ⟨label_injective labels, (List.cons.inj behind).2⟩

theorem AttributeValue.notMem_describe (value : AttributeValue) : '\n' ∉ value.describe := by
  cases value with
  | text value => exact Text.notMem_quoted value
  | texts values =>
      have inner : '\n' ∉ Text.joined [',', ' '] (values.map Text.quoted) := by
        refine Text.notMem_joined (by decide) ?_
        simpa using fun text _ => Text.notMem_quoted text
      simp [describe, Text.quotedList, inner]
  | number value => exact Text.notMem_ofNat (by decide) value

namespace Content

variable {content content' : Content}

theorem describe_eq (content : Content) : content.describe = content.kind.label ++
    '(' :: (Text.joined [',', ' '] (content.attributes.map fun (name, value) =>
      name ++ '=' :: value.describe) ++ [')']) := rfl

theorem notMem_describe (content : Content) : '\n' ∉ content.describe := by
  have names : ∀ entry ∈ content.attributes, '\n' ∉ entry.1 := by
    cases content <;> simp [attributes]
  have inner : '\n' ∉ Text.joined [',', ' '] (content.attributes.map fun (name, value) =>
      name ++ '=' :: value.describe) := by
    refine Text.notMem_joined (by decide) (List.forall_mem_map.mpr fun entry member => ?_)
    simp [names entry member, entry.2.notMem_describe]
  rw [describe_eq]
  simp [content.kind.notMem_label.1, inner]

theorem describe_injective (same : content.describe = content'.describe) : content = content' := by
  rw [describe_eq, describe_eq] at same
  obtain ⟨kinds, same⟩ := Kind.label_append_inj same
  have attributes := List.append_cancel_right same
  clear same
  cases content <;> cases content' <;> cases kinds
  case plain | leaf | alternative => rfl
  case loop targets iterable targets' iterable' =>
    have parts : Text.quotedList targets ++ (", iterable=".toList ++ iterable.quoted) =
        Text.quotedList targets' ++ (", iterable=".toList ++ iterable'.quoted) := by
      simpa [Content.attributes, Text.joined, AttributeValue.describe] using attributes
    obtain ⟨rfl, behind⟩ := Text.quotedList_append_inj parts
    obtain rfl := Text.quoted_injective (List.append_cancel_left behind)
    rfl
  case cache seconds key seconds' key' =>
    have parts : Text.ofNat seconds ++ ',' :: (" key=".toList ++ key.quoted) =
        Text.ofNat seconds' ++ ',' :: (" key=".toList ++ key'.quoted) := by
      simpa [Content.attributes, Text.joined, AttributeValue.describe] using attributes
    obtain ⟨rfl, behind⟩ := Text.ofNat_append_inj (by decide) parts
    obtain rfl := Text.quoted_injective (List.append_cancel_left behind)
    rfl
  -- all other kinds have one text
  all_goals
    simp only [Content.attributes, Text.joined, AttributeValue.describe, List.map_cons, List.map_nil,
      List.append_cancel_left_eq, List.cons.injEq, true_and] at attributes
    rw [Text.quoted_injective attributes]

end Content

/-! ## Lines of nodes -/

namespace Node

variable {node other : Node}

theorem exists_line (node : Node) : ∃ behind, node.line = node.kind.label ++ '(' :: behind := by
  unfold line kind
  split
  next text same => exact ⟨_, by rw [same]; rfl⟩
  · exact ⟨_, node.content.describe_eq⟩

theorem notMem_line (node : Node) : '\n' ∉ node.line := by
  unfold line
  split
  next text _ => simp [Kind.text.notMem_label.1, Text.notMem_quoted]
  · exact node.content.notMem_describe

theorem exists_text (textual : node.kind = .text) : ∃ text, node.content = .text text := by
  unfold kind at textual
  cases content : node.content with
  | text text => exact ⟨text, rfl⟩
  | _ =>
      rw [content] at textual
      cases textual

def IsWhole (node : Node) : Prop := ∀ text, node.content = .text text → text.length ≤ previewLength

theorem IsWhole.line_of_text {text : Text} (whole : node.IsWhole) (found : node.content = .text text) :
    node.line = Kind.text.label ++ '(' :: (text.quoted ++ [')']) := by
  have short : ¬ previewLength < text.length := Nat.not_lt.mpr (whole text found)
  simp only [line, found, Text.preview, if_neg short]

theorem line_of_other (different : node.kind ≠ .text) : node.line = node.content.describe := by
  unfold line
  split
  next text found => exact absurd (congrArg Content.kind found) different
  · rfl

theorem kind_of_line (same : node.line = other.line) : node.kind = other.kind := by
  obtain ⟨behind, written⟩ := node.exists_line
  obtain ⟨behind', written'⟩ := other.exists_line
  rw [written, written'] at same
  exact (Kind.label_append_inj same).1

theorem IsWhole.content_of_line (whole : node.IsWhole) (whole' : other.IsWhole)
    (same : node.line = other.line) : node.content = other.content := by
  have kinds := kind_of_line same
  by_cases textual : node.kind = .text
  · obtain ⟨text, found⟩ := exists_text textual
    obtain ⟨text', found'⟩ := exists_text (kinds.symm.trans textual)
    rw [whole.line_of_text found, whole'.line_of_text found'] at same
    obtain ⟨rfl, -⟩ := Text.quoted_append_inj (Kind.label_append_inj same).2
    rw [found, found']
  · rw [line_of_other textual, line_of_other (kinds ▸ textual)] at same
    exact Content.describe_injective same

theorem lineAt_inj {depth depth' : Nat} (same : node.lineAt depth = other.lineAt depth') :
    depth = depth' ∧ node.line = other.line := by
  have members (depth : Nat) : ∀ c ∈ List.replicate (2 * depth) ' ', decide (c = ' ') = true :=
    fun c member => decide_eq_true (List.eq_of_mem_replicate member)
  have behind (node : Node) : ∀ c ∈ node.line.head?, decide (c = ' ') = false := by
    intro c first
    obtain ⟨behind, written⟩ := node.exists_line
    rw [written, List.head?_append_of_ne_nil _ node.kind.label_ne_nil] at first
    exact decide_eq_false fun same => node.kind.notMem_label.2.2 (same ▸ List.mem_of_mem_head? first)
  obtain ⟨indents, lines⟩ := Text.append_inj_of_members (· = ' ') (members depth) (members depth')
    (behind node) (behind other) same
  have lengths := congrArg List.length indents
  rw [List.length_replicate, List.length_replicate] at lengths
  exact ⟨by omega, lines⟩

end Node

/-! ## Lines of trees -/

theorem Text.pieces_joined_lines {first : Text} {rest : List Text} (whole : '\n' ∉ first)
    (all : ∀ line ∈ rest, '\n' ∉ line) :
    pieces (· = '\n') (joined ['\n'] (first :: rest)) = first :: rest := by
  have solid {line : Text} (unbroken : '\n' ∉ line) : ∀ c ∈ line, decide (c = '\n') = false :=
    fun c member => decide_eq_false fun same => unbroken (same ▸ member)
  rw [joined_cons]
  induction rest generalizing first with
  | nil => rw [List.flatMap_nil, List.append_nil, pieces_of_whole (solid whole)]
  | cons second rest ih =>
      obtain ⟨here, behind⟩ := List.forall_mem_cons.mp all
      have shape : first ++ (second :: rest).flatMap (['\n'] ++ ·) =
          first ++ '\n' :: (second ++ rest.flatMap (['\n'] ++ ·)) := by
        simp
      rw [shape, pieces_append_cons (by decide), pieces_of_whole (solid whole), ih here behind]
      rfl

namespace Tree

mutual

def levels (depth : Nat) : Tree → List (Nat × Node)
  | mk node children => (depth, node) :: levelsAll (depth + 1) children

def levelsAll (depth : Nat) : List Tree → List (Nat × Node)
  | [] => []
  | tree :: trees => levels depth tree ++ levelsAll depth trees

end

mutual

theorem map_snd_levels (depth : Nat) (tree : Tree) :
    (tree.levels depth).map Prod.snd = tree.walk.map Tree.node := by
  cases tree with
  | mk node children =>
      rw [levels, walk, List.map_cons, List.map_cons, map_snd_levelsAll (depth + 1) children, Tree.node]

theorem map_snd_levelsAll (depth : Nat) (trees : List Tree) :
    (levelsAll depth trees).map Prod.snd = (walkAll trees).map Tree.node := by
  cases trees with
  | nil => rfl
  | cons tree trees =>
      rw [levelsAll, walkAll, List.map_append, List.map_append, map_snd_levels depth tree,
        map_snd_levelsAll depth trees]

end

mutual

theorem lines_eq (depth : Nat) (tree : Tree) :
    tree.lines depth = (tree.levels depth).map fun place => place.2.lineAt place.1 := by
  cases tree with
  | mk node children =>
      rw [lines, levels, List.map_cons, ← linesAll_eq (depth + 1) children]
      rfl

theorem linesAll_eq (depth : Nat) (trees : List Tree) :
    linesAll depth trees = (levelsAll depth trees).map fun place => place.2.lineAt place.1 := by
  cases trees with
  | nil => rfl
  | cons tree trees =>
      rw [linesAll, levelsAll, List.map_append, lines_eq depth tree, linesAll_eq depth trees]

end

theorem pieces_listing (tree : Tree) :
    (tree.listing 0).pieces (· = '\n') = (tree.levels 0).map fun place => place.2.lineAt place.1 := by
  have unbroken : ∀ line ∈ (tree.levels 0).map fun place => place.2.lineAt place.1, '\n' ∉ line := by
    refine List.forall_mem_map.mpr fun place _ => ?_
    simp [Node.lineAt, place.2.notMem_line]
  have lines := tree.lines_eq 0
  rw [← lines] at unbroken ⊢
  rw [listing]
  cases tree with
  | mk node children =>
      obtain ⟨here, behind⟩ := List.forall_mem_cons.mp unbroken
      exact Text.pieces_joined_lines here behind

/-! ## Shapes -/

/-- Two trees have one shape, and the nodes in their places are the same in some respect. -/
inductive Alike (same : Node → Node → Prop) : Tree → Tree → Prop
  | mk {node node' : Node} {children children' : List Tree} (here : same node node')
      (below : List.Forall₂ (Alike same) children children') :
      Alike same (mk node children) (mk node' children')

def SamePlace (same : Node → Node → Prop) (place place' : Nat × Node) : Prop :=
  place.1 = place'.1 ∧ same place.2 place'.2

variable {same : Node → Node → Prop}

theorem head_levelsAll {depth : Nat} {rest : List (Nat × Node)} (trees : List Tree)
    (shallow : ∀ place ∈ rest.head?, place.1 < depth) :
    ∀ place ∈ (levelsAll depth trees ++ rest).head?, place.1 ≤ depth := by
  cases trees with
  | nil => exact fun place first => Nat.le_of_lt (shallow place first)
  | cons tree trees =>
      cases tree with
      | mk node children =>
          intro place first
          obtain rfl := Option.some.inj first
          exact Nat.le_refl depth

mutual

theorem alike_of_levels {depth : Nat} {rest rest' : List (Nat × Node)} (tree other : Tree)
    (aligned : List.Forall₂ (SamePlace same) (tree.levels depth ++ rest) (other.levels depth ++ rest'))
    (shallow : ∀ place ∈ rest.head?, place.1 ≤ depth)
    (shallow' : ∀ place ∈ rest'.head?, place.1 ≤ depth) :
    Alike same tree other ∧
      List.Forall₂ (SamePlace same) rest rest' := by
  cases tree with
  | mk node children =>
      cases other with
      | mk node' children' =>
          obtain ⟨⟨-, here⟩, below⟩ := List.forall₂_cons.mp aligned
          obtain ⟨below, behind⟩ := alikeAll_of_levels children children' below
            (fun place first => Nat.lt_succ_of_le (shallow place first))
            (fun place first => Nat.lt_succ_of_le (shallow' place first))
          exact ⟨.mk here below, behind⟩

theorem alikeAll_of_levels {depth : Nat} {rest rest' : List (Nat × Node)} (trees others : List Tree)
    (aligned : List.Forall₂ (SamePlace same) (levelsAll depth trees ++ rest)
      (levelsAll depth others ++ rest'))
    (shallow : ∀ place ∈ rest.head?, place.1 < depth)
    (shallow' : ∀ place ∈ rest'.head?, place.1 < depth) :
    List.Forall₂ (Alike same) trees others ∧
      List.Forall₂ (SamePlace same) rest rest' := by
  cases trees with
  | nil =>
      cases others with
      | nil => exact ⟨.nil, aligned⟩
      | cons other others =>
          cases other with
          | mk node children =>
              cases aligned with
              -- the other tree goes on at this depth, where nothing so deep follows
              | cons here behind => exact absurd (shallow _ rfl) (by simp [here.1])
  | cons tree trees =>
      cases others with
      | nil =>
          cases tree with
          | mk node children =>
              cases aligned with
              | cons here behind => exact absurd (shallow' _ rfl) (by simp [← here.1])
      | cons other others =>
          rw [levelsAll, levelsAll, List.append_assoc, List.append_assoc] at aligned
          obtain ⟨here, aligned⟩ := alike_of_levels tree other aligned
            (head_levelsAll trees shallow) (head_levelsAll others shallow')
          obtain ⟨below, behind⟩ := alikeAll_of_levels trees others aligned shallow shallow'
          exact ⟨.cons here below, behind⟩

end

theorem Alike.of_levels {tree other : Tree}
    (aligned : List.Forall₂ (SamePlace same) (tree.levels 0) (other.levels 0)) : Alike same tree other := by
  rw [← List.append_nil (tree.levels 0), ← List.append_nil (other.levels 0)] at aligned
  exact (alike_of_levels tree other aligned (fun _ none => nomatch none) (fun _ none => nomatch none)).1

/-! ## Listings -/

variable {tree other : Tree}

theorem levels_of_listing (listed : tree.listing 0 = other.listing 0) :
    List.Forall₂ (SamePlace fun node node' => node.line = node'.line) (tree.levels 0) (other.levels 0) := by
  have pieces := congrArg (Text.pieces (· = '\n')) listed
  rw [pieces_listing, pieces_listing, ← List.forall₂_eq_eq_eq, List.forall₂_map_left_iff,
    List.forall₂_map_right_iff] at pieces
  exact pieces.imp fun place place' => Node.lineAt_inj

def IsWhole (tree : Tree) : Prop := ∀ inner ∈ tree.walk, inner.node.IsWhole

theorem IsWhole.levels (whole : tree.IsWhole) : ∀ place ∈ tree.levels 0, place.2.IsWhole := by
  intro place member
  have below : place.2 ∈ tree.walk.map Tree.node := by
    rw [← map_snd_levels 0]
    exact List.mem_map_of_mem member
  obtain ⟨inner, member, same⟩ := List.mem_map.mp below
  exact same ▸ whole inner member

theorem contents_of_listing (listed : tree.listing 0 = other.listing 0) (whole : tree.IsWhole)
    (whole' : other.IsWhole) : Alike (fun node node' => node.content = node'.content) tree other := by
  have aligned := (List.forall₂_and_left _ _).mpr ⟨whole.levels, levels_of_listing listed⟩
  have aligned := (List.forall₂_and_left _ _).mpr ⟨whole'.levels, aligned.flip⟩
  apply Alike.of_levels
  refine aligned.flip.imp ?_
  rintro place place' ⟨whole', whole, same⟩
  exact ⟨same.1, whole.content_of_line whole' same.2⟩

end Tree

/-- A listing, cut at its line breaks, has one line for each node in the order of a walk, which shows the
depth and the kind of the node. Trees with one listing have one shape and nodes of the same kinds; where no
text is cut, also the data of their nodes are the same. Linked nodes have the listing of their tree. -/
theorem Tree.listing_lines (tree : Tree) :
    (Graph.ofTree tree).listing Draft.root 0 = tree.listing 0 ∧
    (tree.levels 0).map Prod.snd = tree.walk.map Tree.node ∧
    List.Forall₂ (fun line place => ∃ behind,
        line = List.replicate (2 * place.1) ' ' ++ (place.2.kind.label ++ '(' :: behind))
      ((tree.listing 0).pieces (· = '\n')) (tree.levels 0) ∧
    ∀ other : Tree, tree.listing 0 = other.listing 0 →
      Alike (fun node node' => node.kind = node'.kind) tree other ∧
      (tree.IsWhole → other.IsWhole →
        Alike (fun node node' => node.content = node'.content) tree other) := by
  refine ⟨Graph.listing_ofTree tree 0, map_snd_levels 0 tree, ?_,
    fun other listed => ⟨?_, contents_of_listing listed⟩⟩
  · rw [pieces_listing, List.forall₂_map_left_iff, List.forall₂_same]
    rintro place -
    obtain ⟨behind, written⟩ := place.2.exists_line
    exact ⟨behind, congrArg _ written⟩
  · apply Alike.of_levels
    exact (levels_of_listing listed).imp fun place place' same => ⟨same.1, Node.kind_of_line same.2⟩

theorem Tree.listing_lines_closed :
    let tree (closing : Text) : Tree := .mk (.root []) [.mk ⟨.block ['a'], "block a".toList, closing⟩ []]
    (tree "end".toList).listing 0 = (tree "endblock".toList).listing 0 ∧
      Alike (fun node node' => node.content = node'.content) (tree "end".toList)
        (tree "endblock".toList) := by
  intro tree
  have whole (closing : Text) : (tree closing).IsWhole := by
    intro inner member
    simp [tree, walk, walkAll] at member
    rcases member with rfl | rfl <;> exact fun text found => nomatch found
  have same : (tree "end".toList).listing 0 = (tree "endblock".toList).listing 0 := rfl
  obtain ⟨-, -, -, alike⟩ := listing_lines (tree "end".toList)
  exact ⟨same, (alike _ same).2 (whole _) (whole _)⟩

end TemplateTree
