import TemplateTree.Graph.Assignment
import TemplateTree.Proofs.Making

/-!
# Nodes that take several tags

A node assigns the data of a tag item by item, and the tag may be refused on the way. The main statement is
`absorb_whole`: a tag that is refused leaves no data behind, and one that is taken leaves nothing of the data
before.
-/

namespace TemplateTree

namespace Content

theorem readCache_eq (tag : Text) : readCache tag = match cacheParts? tag with
    | none => .error (.unknownTag tag)
    | some (digits, key) =>
        if digits.length ≤ TreeError.digitLimit then .ok (.cache (Text.digitsValue digits) key)
        else .error (.numberTooLong digits.length) := by
  unfold readCache cacheParts?
  cases tag.dropPrefix? Kind.cache.name with
  | none => rfl
  | some rest =>
      dsimp only
      split
      · cases Text.argument? (rest.dropWhile Text.isBlank) _ <;> rfl
      · rfl

theorem read_eq_of_kind {content other : Content} (same : content.kind = other.kind)
    (noRoot : content.kind ≠ .root) (fragment : Fragment) : content.read fragment = other.read fragment := by
  cases content with
  | root sourceId => exact absurd rfl noRoot
  | _ => cases other <;> first | rfl | cases same

end Content

/-! ## Runs of assignments -/

namespace Assignment

variable {cell : Cell} {tag : Text}

@[simp] theorem run_change (assign : Content → Content) : (change assign).run cell =
    .ok () { cell with node := { cell.node with content := assign cell.node.content } } := rfl

@[simp] theorem run_found {α : Type} (parts : Option α) : (found tag parts).run cell =
    parts.elim (.error (.unknownTag tag) cell) (.ok · cell) := by
  cases parts <;> rfl

@[simp] theorem run_number (digits : Text) : (number digits).run cell =
    if digits.length ≤ TreeError.digitLimit then .ok (Text.digitsValue digits) cell
    else .error (.numberTooLong digits.length) cell := by
  unfold number
  split <;> rfl

def outcome (cell : Cell) : Except TreeError Content → EStateM.Result TreeError Cell Unit
  | .ok content => .ok () { cell with node := { cell.node with content } }
  | .error error => .error error cell

theorem run_takeLoop (isLoop : cell.node.kind = .loop) :
    (takeLoop tag).run cell = outcome cell (Content.readLoop tag) := by
  obtain ⟨⟨content, read, closing⟩, children, alternative⟩ := cell
  cases content with
  | loop targets iterable =>
      cases here : Content.loopParts? tag with
      | none => simp [takeLoop, Content.readLoop, here, outcome]
      | some pair =>
          obtain ⟨written, iterable⟩ := pair
          simp only [takeLoop, Content.readLoop, here, EStateM.run_bind, run_found, Option.elim_some]
          by_cases words : (written.listed ≠ [] && written.listed.all Text.isWord) = true
          · rw [if_pos words, if_pos words]
            rfl
          · rw [if_neg words, if_neg words]
            rfl
  | _ => cases isLoop

theorem run_takeCache (isCache : cell.node.kind = .cache) :
    (takeCache tag).run cell = outcome cell (Content.readCache tag) := by
  obtain ⟨⟨content, read, closing⟩, children, alternative⟩ := cell
  rw [Content.readCache_eq]
  cases content with
  | cache seconds key =>
      cases here : Content.cacheParts? tag with
      | none => simp [takeCache, here, outcome]
      | some pair =>
          obtain ⟨digits, key⟩ := pair
          simp only [takeCache, here, EStateM.run_bind, run_found, Option.elim_some, run_number]
          by_cases short : digits.length ≤ TreeError.digitLimit
          · rw [if_pos short, if_pos short]
            rfl
          · rw [if_neg short, if_neg short]
            rfl
  | _ => cases isCache

theorem run_takeItem (content : Content) (fragment : Fragment) :
    (takeItem content fragment).run cell = outcome cell (content.read fragment) := by
  rw [takeItem, EStateM.run_bind]
  cases content.read fragment <;> rfl

theorem run_takeTag (cell : Cell) (fragment : Fragment) : (takeTag fragment).run cell =
    outcome { cell with node := cell.node.mark fragment } (cell.node.content.read fragment) := by
  have marked : (setTag fragment.clean).run cell = .ok () { cell with node := cell.node.mark fragment } := rfl
  simp only [takeTag, EStateM.run_bind, EStateM.run_get, marked]
  dsimp only [Node.mark]
  cases content : cell.node.content with
  | loop targets iterable => exact run_takeLoop rfl
  | cache seconds key => exact run_takeCache rfl
  | _ => exact run_takeItem _ fragment

end Assignment

/-! ## Tags one after the other -/

theorem Cell.absorb_eq (cell : Cell) (fragment : Fragment) : cell.absorb fragment =
    ({ cell with node := (cell.node.absorb fragment).1 }, (cell.node.absorb fragment).2) := by
  rw [absorb, Assignment.run_takeTag, Node.absorb, Node.read]
  cases cell.node.content.read fragment <;> rfl

theorem Graph.absorb_eq {graph : Graph} {id : NodeId} {cell : Cell} (found : graph.cell? id = some cell)
    (fragment : Fragment) :
    graph.absorb id fragment = (graph.replace id (cell.absorb fragment).1, (cell.absorb fragment).2) := by
  rw [absorb, found, Cell.absorb_eq]

namespace Cell

variable {cell other : Cell}

def TakesAs (cell other : Cell) (fragment : Fragment) : Prop :=
  (cell.absorb fragment).1.node.tag = (other.absorb fragment).1.node.tag ∧
    (cell.absorb fragment).2 = (other.absorb fragment).2 ∧
    ((cell.absorb fragment).2 = none →
      (cell.absorb fragment).1.node.content.attributes = (other.absorb fragment).1.node.content.attributes)

theorem takesAs_of_kind (same : cell.node.kind = other.node.kind) (noRoot : cell.node.kind ≠ .root)
    (fragment : Fragment) : cell.TakesAs other fragment := by
  rw [TakesAs, absorb_eq, absorb_eq, Node.absorb, Node.absorb, Node.read, Node.read,
    Content.read_eq_of_kind same noRoot]
  cases other.node.content.read fragment with
  | ok content => exact ⟨rfl, rfl, fun _ => rfl⟩
  | error error =>
      refine ⟨rfl, rfl, fun taken => ?_⟩
      cases taken

theorem kind_absorb (cell : Cell) (fragment : Fragment) :
    (cell.absorb fragment).1.node.kind = cell.node.kind := by
  rw [absorb_eq]
  exact cell.node.kind_absorb fragment

theorem kind_absorbAll (cell : Cell) (fragments : List Fragment) :
    (cell.absorbAll fragments).node.kind = cell.node.kind := by
  induction fragments generalizing cell with
  | nil => rfl
  | cons fragment fragments ih => exact (ih _).trans (cell.kind_absorb fragment)

theorem absorb_error {fragment : Fragment} {error : TreeError}
    (refused : (cell.absorb fragment).2 = some error) :
    (cell.absorb fragment).1 = { cell with node := { cell.node with tag := some fragment.clean } } := by
  rw [absorb_eq, Node.absorb, Node.read] at refused ⊢
  cases read : cell.node.content.read fragment with
  | ok content =>
      rw [read] at refused
      cases refused
  | error error => rfl

/-- A node of a graph that refuses a tag keeps all that it has and knows the tag alone. A node that takes a
tag has the data that any node of its kind has from the tag, also after other tags. -/
theorem absorb_whole (cell : Cell) (fragment : Fragment) :
    (∀ error, (cell.absorb fragment).2 = some error → (cell.absorb fragment).1 =
      { cell with node := { cell.node with tag := some fragment.clean } }) ∧
    (cell.node.kind ≠ .root →
      (∀ other : Cell, other.node.kind = cell.node.kind → cell.TakesAs other fragment) ∧
      ∀ before : List Fragment,
        (cell.absorbAll before).TakesAs { node := .fresh cell.node.kind } fragment) ∧
    ∀ (graph : Graph) (id : NodeId), graph.cell? id = some cell →
      graph.absorb id fragment = (graph.replace id (cell.absorb fragment).1, (cell.absorb fragment).2) := by
  refine ⟨fun error => absorb_error, fun noRoot => ⟨fun other same => ?_, fun before => ?_⟩,
    fun graph id found => Graph.absorb_eq found fragment⟩
  · exact takesAs_of_kind same.symm noRoot fragment
  · have kind := cell.kind_absorbAll before
    refine takesAs_of_kind ?_ (by rwa [kind]) fragment
    rw [kind]
    exact (Kind.kind_fresh cell.node.kind).symm

-- the loop has been closed and keeps its variables although the new tag has a well-formed iterable
example :
    let loop : Cell :=
      { node := ⟨.loop [['i']] ['y'], some "for i in y".toList, some "end".toList⟩, children := [3] }
    let refused := "for a b in x".toList
    loop.absorb (.ofBlock [] refused) =
      ({ loop with node := { loop.node with tag := some refused } }, some (.invalidTargets refused)) := rfl

end Cell

end TemplateTree
