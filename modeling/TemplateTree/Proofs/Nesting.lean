import TemplateTree.Proofs.Bracket
import TemplateTree.Proofs.Emission
import TemplateTree.Proofs.Place

/-!
# Nesting

A document is a bracket word: fragments that make scopes open, closing tags close. `build_nesting`
says that a permissive builder accepts a document exactly when its word is balanced, with which error
it refuses the others, and that the tree of a document is the bracket structure of its word.
-/

namespace TemplateTree
namespace Builder

/-! ## Documents as bracket words -/

def bracket (builder : Builder) (fragment : Fragment) : Bracket :=
  if fragment.kind = .closeTag then .closing
  else match builder.makeNode fragment with
    | .ok node => if node.createsScope then .opening else .plain
    | .error _ => .plain

def word (builder : Builder) (fragments : List Fragment) : List Bracket :=
  fragments.map builder.bracket

def MakesAt (builder : Builder) (fragments : List Fragment) (k : Nat) (kind : Kind) : Prop :=
  ∃ fragment node, fragments[k]? = some fragment ∧ builder.makeNode fragment = .ok node ∧
    node.kind = kind

def SingleAlternatives (builder : Builder) (fragments : List Fragment) : Prop :=
  ∀ first k k', builder.MakesAt fragments first .conditional →
    Bracket.Encloses (builder.word fragments) first k →
    Bracket.Encloses (builder.word fragments) first k' →
    builder.MakesAt fragments k .alternative → builder.MakesAt fragments k' .alternative → k = k'

variable {builder : Builder} {fragment : Fragment} {fragments front back : List Fragment}
  {scope : Scope} {scopes : List Scope} {sourceId : Text} {level : Nat}

@[simp] theorem word_append :
    builder.word (front ++ back) = builder.word front ++ builder.word back :=
  List.map_append

@[simp] theorem length_word : (builder.word fragments).length = fragments.length :=
  List.length_map builder.bracket

@[simp] theorem word_singleton : builder.word [fragment] = [builder.bracket fragment] := rfl

theorem bracket_of_close (closes : fragment.kind = .closeTag) :
    builder.bracket fragment = .closing :=
  if_pos closes

theorem bracket_of_make {node : Node} (made : builder.makeNode fragment = .ok node) :
    builder.bracket fragment = if node.createsScope then .opening else .plain := by
  rw [bracket, if_neg (makeNode_ok made).1, made]

theorem closeTag_of_bracket (closing : builder.bracket fragment = .closing) :
    fragment.kind = .closeTag := by
  by_contra other
  rw [bracket, if_neg other] at closing
  split at closing
  · split at closing <;> cases closing
  · cases closing

theorem Visits.bracket {visit : Visit} (visits : builder.Visits fragment visit) :
    builder.bracket fragment = visit.bracket := by
  cases visit with
  | enter node => exact bracket_of_make visits
  | leave closing => exact bracket_of_close visits.1

theorem MakesAt.append {k : Nat} {kind : Kind} (makes : builder.MakesAt front k kind)
    (back : List Fragment) : builder.MakesAt (front ++ back) k kind := by
  obtain ⟨fragment, node, found, made, same⟩ := makes
  have inside : k < front.length := (List.getElem?_eq_some_iff.mp found).1
  exact ⟨fragment, node, by rw [List.getElem?_append_left inside]; exact found, made, same⟩

/-! ## Open scopes -/

/-- A scope is open after the fragments, with `level` others opened inside it; if it has an
alternative, then that is a node which it received directly. -/
def Opened (builder : Builder) (fragments : List Fragment) (level : Nat) (scope : Scope) : Prop :=
  ∃ first fragment, Bracket.OpenAt (builder.word fragments) level first ∧
    fragments[first]? = some fragment ∧ builder.makeNode fragment = .ok scope.node ∧
    (scope.alternative.isSome → ∃ k, k < fragments.length ∧
      Bracket.Encloses (builder.word fragments) first k ∧ builder.MakesAt fragments k .alternative)

/-- The open scopes of a bracket word, seen from `level` scopes further in. -/
inductive Stacked (builder : Builder) (fragments : List Fragment) : Nat → List Scope → Prop
  | root {level : Nat} {scope : Scope} (root : scope.node.kind = .root)
      (deep : Bracket.depth (builder.word fragments) = level) : Stacked builder fragments level [scope]
  | scope {level : Nat} {scope : Scope} {outer : List Scope}
      (opened : builder.Opened fragments level scope)
      (stacked : Stacked builder fragments (level + 1) outer) :
      Stacked builder fragments level (scope :: outer)

theorem Opened.concat {scope' : Scope} {after : Nat} (opened : builder.Opened fragments level scope)
    (same : (after : Int) = level + (builder.bracket fragment).weight)
    (node : scope'.node = scope.node)
    (received : scope'.alternative.isSome → scope.alternative.isSome ∨
      (level = 0 ∧ builder.MakesAt (fragments ++ [fragment]) fragments.length .alternative)) :
    builder.Opened (fragments ++ [fragment]) after scope' := by
  obtain ⟨first, opener, isOpen, found, made, alternative⟩ := opened
  have inside : first < fragments.length := (List.getElem?_eq_some_iff.mp found).1
  refine ⟨first, opener, ?_, ?_, node ▸ made, ?_⟩
  · rw [word_append]
    exact isOpen.concat same
  · rw [List.getElem?_append_left inside]
    exact found
  · intro isSome
    rw [List.length_append, word_append]
    rcases received isSome with before | ⟨rfl, makes⟩
    · obtain ⟨k, before, encloses, makes⟩ := alternative before
      have short : k ≤ (builder.word fragments).length := by rw [length_word]; omega
      exact ⟨k, by omega, (Bracket.encloses_append short).mpr encloses, makes.append _⟩
    · have encloses := isOpen.encloses (builder.word [fragment])
      rw [length_word] at encloses
      exact ⟨fragments.length, by simp, encloses, makes⟩

theorem Stacked.concat (stacked : builder.Stacked fragments level scopes) {after : Nat}
    (same : (after : Int) = level + (builder.bracket fragment).weight) :
    builder.Stacked (fragments ++ [fragment]) after scopes := by
  induction stacked generalizing after with
  | root root deep =>
      apply Stacked.root root
      rw [word_append, Bracket.depth_append, deep, same]
      simp
  | scope opened stacked ih =>
      exact .scope (opened.concat same rfl .inl) (ih (by push_cast; omega))

theorem Stacked.length_eq (stacked : builder.Stacked fragments level scopes) :
    (level + scopes.length : Int) = Bracket.depth (builder.word fragments) + 1 := by
  induction stacked with
  | root root deep => rw [deep, List.length_singleton]; rfl
  | scope opened stacked ih =>
      rw [← ih, List.length_cons]
      push_cast
      omega

theorem Stacked.add {scope' : Scope} {outer : List Scope} {child : Tree} {after : Nat}
    (stacked : builder.Stacked fragments level (scope :: outer))
    (same : (after : Int) = level + (builder.bracket fragment).weight)
    (added : scope.add child = .ok scope')
    (received : child.node.kind = .alternative →
      level = 0 ∧ builder.MakesAt (fragments ++ [fragment]) fragments.length .alternative) :
    builder.Stacked (fragments ++ [fragment]) after (scope' :: outer) := by
  have node := Scope.node_add added
  cases stacked with
  | root root deep =>
      apply Stacked.root (by rw [node, root])
      rw [word_append, Bracket.depth_append, deep, same]
      simp
  | scope opened stacked =>
      apply Stacked.scope
      · apply opened.concat same node
        intro isSome
        exact (Scope.isSome_add added isSome).imp_right fun both => received both.2
      · exact stacked.concat (by push_cast; omega)

/-! ## Runs -/

theorem Stacked.opened {outer : List Scope} (stacked : builder.Stacked fragments level (scope :: outer))
    (sound : scope.Sound) (isSome : scope.alternative.isSome) :
    builder.Opened fragments level scope := by
  cases stacked with
  | scope opened _ => exact opened
  | root root _ =>
      obtain ⟨⟨node, children⟩, found⟩ := Option.isSome_iff_exists.mp isSome
      have conditional := (sound.alternative node children found).1
      rw [root] at conditional
      cases conditional

theorem stacked_step {scopes' : List Scope} (sound : ∀ scope ∈ scopes, scope.Sound)
    (stacked : builder.Stacked fragments 0 scopes)
    (stepped : builder.step scopes fragment = .ok scopes') :
    builder.Stacked (fragments ++ [fragment]) 0 scopes' := by
  rcases step_cases stepped with ⟨scope, parent, outer, parent', rfl, closes, -, added, rfl⟩ |
    ⟨scope, outer, node, rfl, made, opens, rfl⟩ |
    ⟨scope, outer, node, scope', rfl, made, plain, added, rfl⟩
  · have other := (sound scope List.mem_cons_self).kind_close fragment.clean
    cases stacked with
    | scope _ stacked =>
        exact stacked.add (by rw [bracket_of_close closes]; rfl) added fun kind => absurd kind other
  · have bracket : builder.bracket fragment = .opening := by rw [bracket_of_make made, if_pos opens]
    have isOpen : Bracket.OpenAt (builder.word (fragments ++ [fragment])) 0 fragments.length := by
      have length : (builder.word fragments).length = fragments.length := length_word
      rw [word_append, word_singleton, bracket, ← length]
      exact Bracket.openAt_concat_opening
    apply Stacked.scope
    · exact ⟨fragments.length, fragment, isOpen, by simp, made, fun isSome => by cases isSome⟩
    · exact stacked.concat (by rw [bracket]; rfl)
  · have bracket : builder.bracket fragment = .plain := by
      rw [bracket_of_make made, plain, if_neg Bool.false_ne_true]
    apply stacked.add (by rw [bracket]; rfl) added
    intro kind
    exact ⟨rfl, fragment, node, by simp, made, kind⟩

theorem stacked_run {scopes' : List Scope} (sound : ∀ scope ∈ scopes, scope.Sound)
    (stacked : builder.Stacked front 0 scopes) (ran : builder.run scopes back = .ok scopes') :
    builder.Stacked (front ++ back) 0 scopes' := by
  induction back generalizing front scopes with
  | nil =>
      obtain rfl := Except.ok.inj ran
      rwa [List.append_nil]
  | cons fragment back ih =>
      obtain ⟨between, stepped, ran⟩ := run_cons.mp ran
      rw [List.append_cons]
      exact ih (sound_step sound stepped) (stacked_step sound stacked stepped) ran

theorem step_close {parent : Scope} {outer : List Scope} (permissive : builder.strict = false)
    (sound : ∀ scope' ∈ scope :: parent :: outer, scope'.Sound) (closes : fragment.kind = .closeTag) :
    ∃ scopes', builder.step (scope :: parent :: outer) fragment = .ok scopes' := by
  have other := (sound scope List.mem_cons_self).kind_close fragment.clean
  obtain ⟨parent', added⟩ := (sound parent (by simp)).exists_add fun _ => other
  exact ⟨_, step_of_close closes (checkClose_of_permissive permissive _ _) added⟩

theorem step_plain {outer : List Scope} {node : Node} {rest : List Fragment}
    (single : builder.SingleAlternatives (fragments ++ fragment :: rest)) (sound : scope.Sound)
    (stacked : builder.Stacked fragments 0 (scope :: outer))
    (made : builder.makeNode fragment = .ok node) (plain : node.createsScope = false) :
    ∃ scopes', builder.step (scope :: outer) fragment = .ok scopes' := by
  have here (kind : node.kind = .alternative) :
      builder.MakesAt (fragments ++ [fragment]) fragments.length .alternative :=
    ⟨fragment, node, by simp, made, kind⟩
  -- two alternatives of the innermost scope would be two in the document
  have fits : scope.alternative.isSome → (Tree.mk node []).node.kind ≠ .alternative := by
    intro isSome kind
    obtain ⟨first, opener, isOpen, found, opens, alternative⟩ := stacked.opened sound isSome
    obtain ⟨k, before, encloses, makes⟩ := alternative isSome
    obtain ⟨⟨inner, children⟩, some⟩ := Option.isSome_iff_exists.mp isSome
    have conditional : builder.MakesAt fragments first .conditional :=
      ⟨opener, scope.node, found, opens, (sound.alternative inner children some).1⟩
    have short : k ≤ (builder.word fragments).length := by rw [length_word]; omega
    have same : k = fragments.length := by
      apply single first k fragments.length (conditional.append _)
      · rw [word_append]
        exact (Bracket.encloses_append short).mpr encloses
      · have encloses := isOpen.encloses (builder.word (fragment :: rest))
        rwa [length_word, ← word_append] at encloses
      · exact makes.append _
      · have makes := (here kind).append rest
        rwa [List.append_assoc] at makes
    omega
  obtain ⟨scope', added⟩ := sound.exists_add fits
  exact ⟨scope' :: outer, step_of_plain made plain added⟩

theorem run_stacked (permissive : builder.strict = false)
    (readable : ∀ fragment ∈ back, fragment.kind ≠ .closeTag →
      ∃ node, builder.makeNode fragment = .ok node)
    (single : builder.SingleAlternatives (front ++ back ++ fragments))
    (nested : Bracket.Nested (builder.word (front ++ back)))
    (sound : ∀ scope ∈ scopes, scope.Sound) (stacked : builder.Stacked front 0 scopes) :
    ∃ scopes', builder.run scopes back = .ok scopes' ∧ builder.Stacked (front ++ back) 0 scopes' := by
  induction back generalizing front scopes with
  | nil => exact ⟨scopes, rfl, by rwa [List.append_nil]⟩
  | cons fragment back ih =>
      rw [List.append_cons] at nested single ⊢
      obtain ⟨first, rest⟩ := List.forall_mem_cons.mp readable
      have stepped : ∃ between, builder.step scopes fragment = .ok between := by
        cases scopes with
        | nil => cases stacked
        | cons scope outer =>
            by_cases closes : fragment.kind = .closeTag
            · cases outer with
              | nil =>
                  -- the closing tag would be one too many
                  have height := stacked.length_eq
                  rw [word_append] at nested
                  have high := nested.left.depth_nonneg
                  rw [word_append, word_singleton, bracket_of_close closes, Bracket.depth_append,
                    ← Int.sub_eq_iff_eq_add.mpr height] at high
                  simp [Bracket.weight] at high
              | cons parent outer => exact step_close permissive sound closes
            · obtain ⟨node, made⟩ := first closes
              cases opens : node.createsScope with
              | true => exact ⟨_, step_of_opening made opens⟩
              | false =>
                  rw [List.append_assoc, List.append_assoc] at single
                  exact step_plain single (sound scope List.mem_cons_self) stacked made opens
      obtain ⟨between, stepped⟩ := stepped
      have stacked := stacked_step sound stacked stepped
      obtain ⟨scopes', ran, stacked⟩ := ih rest single nested (sound_step sound stepped) stacked
      exact ⟨scopes', run_cons.mpr ⟨between, stepped, ran⟩, stacked⟩

theorem run_root (permissive : builder.strict = false)
    (readable : ∀ fragment ∈ front, fragment.kind ≠ .closeTag →
      ∃ node, builder.makeNode fragment = .ok node)
    (single : builder.SingleAlternatives (front ++ back))
    (nested : Bracket.Nested (builder.word front)) (sourceId : Text) :
    ∃ scopes, builder.run [{ node := .root sourceId }] front = .ok scopes ∧
      builder.Stacked front 0 scopes := by
  have root : builder.Stacked [] 0 [{ node := .root sourceId }] := .root rfl rfl
  have whole : builder.SingleAlternatives ([] ++ front ++ back) := single
  exact run_stacked permissive readable whole nested (sound_root sourceId) root

theorem build_stray (permissive : builder.strict = false)
    (readable : ∀ fragment ∈ fragments, fragment.kind ≠ .closeTag →
      ∃ node, builder.makeNode fragment = .ok node)
    (single : builder.SingleAlternatives fragments)
    (excess : ¬ Bracket.Nested (builder.word fragments)) :
    builder.build fragments sourceId = .error .strayClose := by
  obtain ⟨_, _, split, balanced⟩ := Bracket.exists_balanced_of_not_nested excess
  obtain ⟨front, rest, rfl, rfl, here⟩ := List.map_eq_append_iff.mp split
  obtain ⟨fragment, back, rfl, closing, rfl⟩ := List.map_eq_cons_iff.mp here
  have closes := closeTag_of_bracket closing
  have before : ∀ fragment ∈ front, fragment.kind ≠ .closeTag →
      ∃ node, builder.makeNode fragment = .ok node :=
    fun fragment member => readable fragment (List.mem_append_left _ member)
  obtain ⟨scopes, ran, stacked⟩ := run_root permissive before single balanced.1 sourceId
  have height := stacked.length_eq
  rw [word, balanced.2] at height
  obtain ⟨scope, rfl⟩ : ∃ scope, scopes = [scope] := List.length_eq_one_iff.mp (by omega)
  have stops : builder.run [{ node := .root sourceId }] (front ++ fragment :: back) =
      .error .strayClose := by
    rw [run_append, ran]
    simp [Except.bind, run, step, closes, bind]
  rw [build, stops]
  rfl

/-! ## The tree of a document -/

/-- The tree is the bracket structure of the fragments: `place` sends the fragments that are no
closing tags, in order, to the nodes below the root, and the nodes below a scope are those whose
fragments lie between the opening tag of the scope and the closing tag that matches it. -/
structure Mirrors (builder : Builder) (fragments : List Fragment) (tree : Tree)
    (place : Nat → List Nat) : Prop where
  made : ∀ k fragment, fragments[k]? = some fragment → fragment.kind ≠ .closeTag →
    place k ≠ [] ∧ ∃ inner, tree.at? (place k) = some inner ∧
      builder.makeNode fragment = .ok inner.node.opened
  covered : ∀ path inner, path ≠ [] → tree.at? path = some inner →
    ∃ k fragment, fragments[k]? = some fragment ∧ fragment.kind ≠ .closeTag ∧ place k = path
  ascending : ∀ j k first second, j < k → fragments[j]? = some first →
    fragments[k]? = some second → first.kind ≠ .closeTag → second.kind ≠ .closeTag →
    place j < place k
  closed : ∀ first, (builder.word fragments)[first]? = some .opening →
    ∃ last, Bracket.Matched (builder.word fragments) first last
  below : ∀ first last k fragment, Bracket.Matched (builder.word fragments) first last →
    fragments[k]? = some fragment → fragment.kind ≠ .closeTag →
    (Tree.Below (place first) (place k) ↔ first < k ∧ k < last)

def placeOf (tree : Tree) (k : Nat) : List Nat :=
  ((Tree.tourAll 0 tree.children)[k]?.map Prod.fst).getD []

section
variable {tree : Tree}

theorem placeOf_eq {k : Nat} {path : List Nat} {visit : Visit}
    (found : (Tree.tourAll 0 tree.children)[k]? = some (path, visit)) : placeOf tree k = path := by
  rw [placeOf, found]
  rfl

theorem exists_stop (each : List.Forall₂ builder.Visits fragments (Tree.visitsAll tree.children))
    {k : Nat} (found : fragments[k]? = some fragment) :
    ∃ visit, (Tree.tourAll 0 tree.children)[k]? = some (placeOf tree k, visit) ∧
      builder.Visits fragment visit := by
  obtain ⟨inside, rfl⟩ := List.getElem?_eq_some_iff.mp found
  have inTour : k < (Tree.tourAll 0 tree.children).length := by
    rw [← List.length_map Prod.snd, Tree.map_snd_tourAll, ← each.length_eq]
    exact inside
  have stop := List.getElem?_eq_getElem inTour
  refine ⟨(Tree.tourAll 0 tree.children)[k].2, ?_, ?_⟩
  · rw [placeOf_eq stop, stop]
    rfl
  · have visits := each.get inside (by rwa [← each.length_eq])
    simpa [← Tree.map_snd_tourAll 0] using visits

theorem exists_fragment
    (each : List.Forall₂ builder.Visits fragments (Tree.visitsAll tree.children)) {k : Nat}
    {path : List Nat} {visit : Visit}
    (found : (Tree.tourAll 0 tree.children)[k]? = some (path, visit)) :
    ∃ fragment, fragments[k]? = some fragment ∧ builder.Visits fragment visit := by
  have inside : k < fragments.length := by
    rw [each.length_eq, ← Tree.map_snd_tourAll 0, List.length_map]
    exact (List.getElem?_eq_some_iff.mp found).1
  have here := List.getElem?_eq_getElem inside
  obtain ⟨visit', found', visits⟩ := exists_stop each here
  rw [found] at found'
  obtain rfl := (Prod.mk.inj (Option.some.inj found')).2
  exact ⟨fragments[k], here, visits⟩

theorem Visits.enter {visit : Visit} (visits : builder.Visits fragment visit)
    (other : fragment.kind ≠ .closeTag) : ∃ node, visit = .enter node := by
  cases visit with
  | enter node => exact ⟨node, rfl⟩
  | leave closing => exact absurd visits.1 other

theorem word_eq (each : List.Forall₂ builder.Visits fragments (Tree.visitsAll tree.children)) :
    builder.word fragments = (Tree.tourAll 0 tree.children).map fun stop => stop.2.bracket := by
  rw [word, map_eq_of_forall₂ (each.imp fun _ _ => Visits.bracket), ← Tree.map_snd_tourAll 0,
    List.map_map]
  rfl

theorem below_placeOf
    (each : List.Forall₂ builder.Visits fragments (Tree.visitsAll tree.children)) {first : Nat}
    (opens : (builder.word fragments)[first]? = some .opening) :
    ∃ last, Bracket.Matched (builder.word fragments) first last ∧
      ∀ k path visit, (Tree.tourAll 0 tree.children)[k]? = some (path, visit) →
        (∃ node, visit = .enter node) →
        (Tree.Below (placeOf tree first) path ↔ first < k ∧ k < last) := by
  have word := word_eq each
  rw [word, List.getElem?_map, Option.map_eq_some_iff] at opens
  obtain ⟨⟨path, visit⟩, here, isOpening⟩ := opens
  obtain ⟨node, rfl, creates⟩ : ∃ node, visit = .enter node ∧ node.createsScope = true := by
    cases visit with
    | leave closing => cases isOpening
    | enter node =>
        refine ⟨node, rfl, ?_⟩
        cases opens : node.createsScope with
        | true => rfl
        | false => simp [Visit.bracket, opens] at isOpening
  rw [placeOf_eq here]
  obtain ⟨inTour, entered⟩ := List.getElem?_eq_some_iff.mp here
  have split := List.take_append_drop first (Tree.tourAll 0 tree.children)
  rw [List.drop_eq_getElem_cons inTour, entered] at split
  obtain ⟨inside, closing, outside, behind, balanced, below, others⟩ :=
    Tree.tourAll_between creates split.symm
  refine ⟨first + 1 + inside.length, ?_, ?_⟩
  · have opens : (builder.word fragments)[first]? = some .opening := by
      rw [word, List.getElem?_map, here, Option.map_some, isOpening]
    have rest : (builder.word fragments).drop (first + 1) =
        (inside.map fun stop => stop.2.bracket) ++
          .closing :: (outside.map fun stop => stop.2.bracket) := by
      rw [word, ← List.map_drop, behind, List.map_append, List.map_cons]
      rfl
    have matched := Bracket.matched_of_drop opens rest balanced
    rwa [List.length_map] at matched
  · intro k path' visit found ⟨node', enters⟩
    rcases Nat.lt_trichotomy k first with before | rfl | after
    · rw [← List.getElem?_take_of_lt before] at found
      have outer := others _ (List.mem_append_left _ (List.mem_of_getElem? found))
      exact iff_of_false outer (by omega)
    · obtain rfl := (Prod.mk.inj (Option.some.inj (here.symm.trans found))).1
      exact iff_of_false (fun isBelow => isBelow.2 rfl) (by omega)
    · obtain ⟨j, rfl⟩ := Nat.exists_eq_add_of_lt after
      rw [Nat.add_right_comm, ← List.getElem?_drop, behind] at found
      rcases Nat.lt_trichotomy j inside.length with within | rfl | without
      · rw [List.getElem?_append_left within] at found
        exact iff_of_true (below _ (List.mem_of_getElem? found)) (by omega)
      · rw [List.getElem?_append_right (Nat.le_refl _), Nat.sub_self, enters] at found
        cases found
      · obtain ⟨i, rfl⟩ := Nat.exists_eq_add_of_lt without
        rw [List.getElem?_append_right (by omega), Nat.add_assoc, Nat.add_sub_cancel_left,
          List.getElem?_cons_succ] at found
        have outer := others _ (List.mem_append_right _ (List.mem_of_getElem? found))
        exact iff_of_false outer (by omega)

theorem mirrors_placeOf
    (each : List.Forall₂ builder.Visits fragments (Tree.visitsAll tree.children)) :
    builder.Mirrors fragments tree (placeOf tree) where
  made := by
    intro k fragment found other
    obtain ⟨visit, here, visits⟩ := exists_stop each found
    obtain ⟨node, rfl⟩ := visits.enter other
    have member := List.mem_of_getElem? here
    have inTour : (placeOf tree k, .enter node) ∈ tree.tour := by
      cases tree
      rw [Tree.tour]
      exact List.mem_cons_of_mem _ (List.mem_append_left _ member)
    obtain ⟨inner, at', same⟩ := Tree.enter_mem_tour.mp inTour
    refine ⟨?_, inner, at', by rw [same]; exact visits⟩
    obtain ⟨n, _, deeper, -, -, stop⟩ := Tree.mem_tourAll.mp member
    rw [(Prod.mk.inj stop).1]
    exact List.cons_ne_nil _ _
  covered := by
    intro path inner proper at'
    have inTour := Tree.enter_mem_tour.mpr ⟨inner, at', rfl⟩
    obtain ⟨own, children⟩ := tree
    have member : (path, .enter inner.node.opened) ∈ Tree.tourAll 0 children := by
      rw [Tree.tour] at inTour
      simpa [proper] using inTour
    obtain ⟨k, found⟩ := List.mem_iff_getElem?.mp member
    obtain ⟨fragment, here, visits⟩ := exists_fragment each found
    exact ⟨k, fragment, here, (makeNode_ok visits).1, placeOf_eq found⟩
  ascending := by
    intro j k first second less atFirst atSecond firstOpens secondOpens
    obtain ⟨visit, here, visits⟩ := exists_stop each atFirst
    obtain ⟨visit', there, visits'⟩ := exists_stop each atSecond
    obtain ⟨node, rfl⟩ := visits.enter firstOpens
    obtain ⟨node', rfl⟩ := visits'.enter secondOpens
    obtain ⟨inside, atStop⟩ := List.getElem?_eq_some_iff.mp here
    obtain ⟨inside', atStop'⟩ := List.getElem?_eq_some_iff.mp there
    have ascends := List.pairwise_iff_getElem.mp (Tree.ascends_tourAll 0 tree.children) j k inside
      inside' less
    rw [atStop, atStop'] at ascends
    exact ascends rfl rfl
  closed := by
    intro first opens
    obtain ⟨last, matched, -⟩ := below_placeOf each opens
    exact ⟨last, matched⟩
  below := by
    intro first last k fragment matched found other
    obtain ⟨last', matched', below⟩ := below_placeOf each matched.1.1
    obtain rfl := Bracket.matched_unique matched matched'
    obtain ⟨visit, here, visits⟩ := exists_stop each found
    exact below k _ visit here (visits.enter other)

end

/-- A permissive builder and a document whose tags can all be read, without doubled alternatives. If
a closing tag is one too many, then the document is refused for it; otherwise it is refused for the
last scope that nothing closes, if there is one, and else makes the tree of its brackets. -/
theorem build_nesting (permissive : builder.strict = false)
    (readable : ∀ fragment ∈ fragments, fragment.kind ≠ .closeTag →
      ∃ node, builder.makeNode fragment = .ok node)
    (single : builder.SingleAlternatives fragments) :
    (¬ Bracket.Nested (builder.word fragments) →
      builder.build fragments sourceId = .error .strayClose) ∧
    (Bracket.Nested (builder.word fragments) → 0 < Bracket.depth (builder.word fragments) →
      ∃ first fragment node, fragments[first]? = some fragment ∧
        Bracket.Unmatched (builder.word fragments) first ∧
        (∀ later, first < later → ¬ Bracket.Unmatched (builder.word fragments) later) ∧
        builder.makeNode fragment = .ok node ∧
        builder.build fragments sourceId = .error (.unclosed node)) ∧
    (Bracket.Nested (builder.word fragments) → ¬ 0 < Bracket.depth (builder.word fragments) →
      ∃ tree place, builder.build fragments sourceId = .ok tree ∧ tree.node = .root sourceId ∧
        builder.Mirrors fragments tree place) := by
  have whole : builder.SingleAlternatives (fragments ++ []) := by rwa [List.append_nil]
  refine ⟨build_stray permissive readable single, ?_, ?_⟩
  · intro nested deep
    obtain ⟨scopes, ran, stacked⟩ := run_root permissive readable whole nested sourceId
    have height := stacked.length_eq
    cases stacked with
    | root root low => omega
    | @scope _ scope outer opened stacked =>
        obtain ⟨first, fragment, isOpen, found, made, -⟩ := opened
        have alone := Bracket.unmatched_iff.mpr ⟨isOpen.1, isOpen.2.1⟩
        refine ⟨first, fragment, scope.node, found, alone, fun later => isOpen.isLast, made, ?_⟩
        cases outer with
        | nil => cases stacked
        | cons parent outer => simp [build, ran, finish, bind, Except.bind]
  · intro nested flat
    obtain ⟨scopes, ran, stacked⟩ := run_root permissive readable whole nested sourceId
    have height := stacked.length_eq
    have low := nested.depth_nonneg
    obtain ⟨root, rfl⟩ : ∃ root, scopes = [root] := List.length_eq_one_iff.mp (by omega)
    have built : builder.build fragments sourceId = .ok root.tree := by
      simp [build, ran, finish, bind, Except.bind]
    obtain ⟨node, each⟩ := build_visits built
    exact ⟨root.tree, placeOf root.tree, built, node, mirrors_placeOf each⟩

theorem build_nesting_alternative :
    ∃ tree place, ({ registry := .standard } : Builder).build
        [.ofBlock [] "if x".toList, .ofBlock [] Kind.alternative.name, .ofBlock [] Fragment.endWord]
        [] = .ok tree ∧ tree.node = .root [] ∧
      ({ registry := .standard } : Builder).Mirrors
        [.ofBlock [] "if x".toList, .ofBlock [] Kind.alternative.name, .ofBlock [] Fragment.endWord]
        tree place := by
  have word : ({ registry := .standard } : Builder).word
      [.ofBlock [] "if x".toList, .ofBlock [] Kind.alternative.name,
        .ofBlock [] Fragment.endWord] = [.opening, .plain, .closing] := rfl
  have second {k : Nat} (makes : ({ registry := .standard } : Builder).MakesAt
      [.ofBlock [] "if x".toList, .ofBlock [] Kind.alternative.name, .ofBlock [] Fragment.endWord]
      k .alternative) : k = 1 := by
    obtain ⟨fragment, node, found, made, kind⟩ := makes
    match k with
    | 0 =>
        obtain rfl := Option.some.inj found
        obtain rfl := Except.ok.inj made
        cases kind
    | 1 => rfl
    | 2 =>
        obtain rfl := Option.some.inj found
        cases made
    | k + 3 => cases found
  refine (build_nesting rfl ?_ ?_).2.2 ?_ ?_
  · simp only [List.forall_mem_cons]
    exact ⟨fun _ => ⟨_, rfl⟩, fun _ => ⟨_, rfl⟩, fun other => absurd rfl other, by simp⟩
  · intro first k k' _ _ _ makes makes'
    rw [second makes, second makes']
  · rw [word]
    decide
  · rw [word]
    decide

end Builder

end TemplateTree
