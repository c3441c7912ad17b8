import TemplateTree.Proofs.Refusal

/-!
# The fragment at fault

A document that is not merely unfinished is refused for one of its fragments. `Builder.build_fault` says
that there is exactly one such fragment: what stands before it can still be completed, what follows it
changes nothing, and a syntax error tells its content.
-/

namespace TemplateTree

def TreeError.syntaxTag? : TreeError → Option Text
  | unknownTag tag | invalidTargets tag | duplicateAlternative tag _ => some tag
  | _ => none

namespace Builder

variable {builder : Builder} {fragment : Fragment} {fragments : List Fragment} {scopes : List Scope}
  {sourceId : Text} {error : TreeError} {i j : Nat}

/-- The fragments make a tree, or all that is wrong with them is that a scope is open at their end. -/
def Viable (builder : Builder) (fragments : List Fragment) (sourceId : Text) : Prop :=
  (∃ tree, builder.build fragments sourceId = .ok tree) ∨
    ∃ node, builder.build fragments sourceId = .error (.unclosed node)

/-- The fragment at a position decides that a document is refused: the fragments before it are viable,
and with it they are refused for the error, whatever follows. -/
structure AtFault (builder : Builder) (fragments : List Fragment) (sourceId : Text) (error : TreeError)
    (i : Nat) : Prop where
  before : builder.Viable (fragments.take i) sourceId
  decides : ∀ rest, builder.build (fragments.take (i + 1) ++ rest) sourceId = .error error

/-- A syntax error at the fragment tells the tag: the content of the fragment, or the name of an
alternative that has no content. -/
def Tells (builder : Builder) (fragment : Fragment) (tag : Text) : Prop :=
  (tag = fragment.clean ∧ (fragment.clean ≠ [] ∨ ∀ node, builder.makeNode fragment ≠ .ok node)) ∨
    (tag = Kind.alternative.name ∧ fragment.clean = [] ∧
      ∃ node, builder.makeNode fragment = .ok node ∧ node.kind = .alternative)

theorem viable_of_run (ran : builder.run [{ node := .root sourceId }] fragments = .ok scopes) :
    builder.Viable fragments sourceId := by
  have finished : builder.build fragments sourceId = finish scopes := by
    rw [build, ran]
    rfl
  rw [Viable, finished]
  obtain ⟨scope, outer, rfl⟩ := List.exists_cons_of_ne_nil (run_ne_nil (List.cons_ne_nil _ _) ran)
  cases outer with
  | nil => exact .inl ⟨scope.tree, rfl⟩
  | cons parent outer => exact .inr ⟨scope.node, rfl⟩

theorem build_append_of_run_error {front : List Fragment}
    (failed : builder.run [{ node := .root sourceId }] front = .error error) (rest : List Fragment) :
    builder.build (front ++ rest) sourceId = .error error := by
  rw [build, run_append, failed]
  rfl

theorem AtFault.not_lt (earlier : builder.AtFault fragments sourceId error i)
    (later : builder.AtFault fragments sourceId error j) (lasting : ∀ node, error ≠ .unclosed node) :
    ¬ i < j := by
  intro less
  have shorter : fragments.take (i + 1) = (fragments.take j).take (i + 1) := by
    rw [List.take_take, Nat.min_eq_left less]
  have failed := earlier.decides ((fragments.take j).drop (i + 1))
  rw [shorter, List.take_append_drop] at failed
  rcases later.before with ⟨tree, built⟩ | ⟨node, unfinished⟩
  · rw [built] at failed
    cases failed
  · rw [unfinished] at failed
    exact lasting node (Except.error.inj failed).symm

theorem AtFault.unique (one : builder.AtFault fragments sourceId error i)
    (other : builder.AtFault fragments sourceId error j) (lasting : ∀ node, error ≠ .unclosed node) :
    i = j :=
  Nat.le_antisymm (Nat.le_of_not_lt (other.not_lt one lasting)) (Nat.le_of_not_lt (one.not_lt other lasting))

theorem tells_of_makeNode_error (failed : builder.makeNode fragment = .error error) {tag : Text}
    (told : error.syntaxTag? = some tag) : builder.Tells fragment tag := by
  have unmade : ∀ node, builder.makeNode fragment ≠ .ok node := by
    intro node made
    rw [made] at failed
    cases failed
  rcases makeNode_error failed with rfl | rfl | ⟨_, -, rfl⟩
  · exact .inl ⟨(Option.some.inj told).symm, .inr unmade⟩
  · exact .inl ⟨(Option.some.inj told).symm, .inr unmade⟩
  · cases told

theorem tells_tagOrName {node : Node} (made : builder.makeNode fragment = .ok node)
    (alternative : node.kind = .alternative) : builder.Tells fragment node.tagOrName := by
  have tag := (makeNode_ok made).2.1
  unfold Node.tagOrName
  rw [tag]
  cases content : fragment.clean with
  | nil => exact .inr ⟨by rw [← alternative]; rfl, content, node, made, alternative⟩
  | cons c rest => exact .inl ⟨content.symm, .inl (by simp [content])⟩

theorem step_tells (sound : ∀ scope ∈ scopes, scope.Sound)
    (failed : builder.step scopes fragment = .error error) {tag : Text}
    (told : error.syntaxTag? = some tag) : builder.Tells fragment tag := by
  rcases step_error sound failed with rfl | ⟨-, scope, -, refused⟩ | ⟨-, refused⟩ |
    ⟨node, scope, -, made, alternative, -, rfl⟩
  · cases told
  · rcases checkClose_error refused with rfl | ⟨rfl, -⟩ <;> cases told
  · exact tells_of_makeNode_error refused told
  · obtain rfl := Option.some.inj told
    exact tells_tagOrName made alternative

/-- A document that is refused, and not only for a scope that is open at its end, has exactly one
fragment at fault, which a syntax error tells. A document that makes a tree is refused with any
closing tag behind it. -/
theorem build_fault (builder : Builder) (fragments : List Fragment) (sourceId : Text) :
    (∀ error, builder.build fragments sourceId = .error error → (∀ node, error ≠ .unclosed node) →
      ∃ i fragment, fragments[i]? = some fragment ∧ builder.AtFault fragments sourceId error i ∧
        (∀ j, builder.AtFault fragments sourceId error j → j = i) ∧
        ∀ tag, error.syntaxTag? = some tag → builder.Tells fragment tag) ∧
    ∀ tree closer, builder.build fragments sourceId = .ok tree → closer.kind = .closeTag →
      builder.build (fragments ++ [closer]) sourceId = .error .strayClose := by
  constructor
  · intro error failed lasting
    rcases bind_eq_error.mp failed with stops | ⟨scopes, ran, unfinished⟩
    · obtain ⟨front, fragment, back, scopes, rfl, ran, stops⟩ := run_error stops
      have refused : builder.run [{ node := .root sourceId }] (front ++ [fragment]) = .error error := by
        rw [run_append, ran, Except.bind, run, stops]
        rfl
      have atFault : builder.AtFault (front ++ fragment :: back) sourceId error front.length := by
        refine ⟨?_, fun rest => ?_⟩
        · rw [List.take_left]
          exact viable_of_run ran
        · rw [List.append_cons, List.take_left' (by simp)]
          exact build_append_of_run_error refused rest
      refine ⟨front.length, fragment, by simp, atFault, ?_, ?_⟩
      · exact fun j other => other.unique atFault lasting
      · exact fun tag => step_tells (sound_run (sound_root sourceId) ran) stops
    · obtain ⟨node, rfl⟩ := finish_error unfinished (run_ne_nil (List.cons_ne_nil _ _) ran)
      exact absurd rfl (lasting node)
  · intro tree closer built closes
    obtain ⟨root, ran, -⟩ := build_ok built
    have stray : builder.step [root] closer = .error .strayClose := by
      rw [step, if_pos closes]
    rw [build, run_append, ran, Except.bind, run, stray]
    rfl

theorem build_fault_unknown :
    (∃ i fragment, [Fragment.ofBlock [] "if x".toList, .ofBlock [] "what".toList,
          .ofBlock [] Fragment.endWord, .ofBlock [] Fragment.endWord][i]? = some fragment ∧
        ({ registry := .standard } : Builder).AtFault [.ofBlock [] "if x".toList,
          .ofBlock [] "what".toList, .ofBlock [] Fragment.endWord, .ofBlock [] Fragment.endWord] []
          (.unknownTag "what".toList) i ∧
        ({ registry := .standard } : Builder).Tells fragment "what".toList) ∧
    ({ registry := .standard } : Builder).build ([.ofBlock [] "if x".toList,
      .ofBlock [] Fragment.endWord] ++ [.ofBlock [] Fragment.endWord]) [] = .error .strayClose := by
  obtain ⟨i, fragment, found, atFault, -, told⟩ := (build_fault { registry := .standard }
    [.ofBlock [] "if x".toList, .ofBlock [] "what".toList, .ofBlock [] Fragment.endWord,
      .ofBlock [] Fragment.endWord] []).1 (.unknownTag "what".toList) rfl nofun
  have closed := (build_fault { registry := .standard }
    [.ofBlock [] "if x".toList, .ofBlock [] Fragment.endWord] []).2
  exact ⟨⟨i, fragment, found, atFault, told _ rfl⟩, closed _ (.ofBlock [] Fragment.endWord) rfl rfl⟩

end Builder

end TemplateTree
